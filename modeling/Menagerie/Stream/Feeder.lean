import Menagerie.Telemetry
import Menagerie.Stream.Channel
import Menagerie.Stream.Cursor

/-!
# Feeding a stream

A feeder moves the documents of a cursor into a channel, one creature each, until the cursor ends or
fails, the caller goes away, the caller's deadline passes, or the service shuts down. It works in
small steps. In each step the events that are possible are tried in one fixed order: while it waits
for the cursor, shutdown, then departure, then the deadline, then the cursor; while it holds a
creature, shutdown, then the deadline, then sending.
-/

namespace Menagerie.Stream

/-- The number of creatures sent, or why the stream ended early. -/
abbrev Outcome := Except Failure Nat

inductive Position where
  | awaiting
  | holding (creature : Creature)
  /-- Waiting for room for the status of a failed cursor; nothing else can stop this. -/
  | forwarding (failure : Failure)
  | notifying
  | finished (outcome : Outcome)

structure Feeder where
  reading : Reading
  /-- The first tick at which the caller has given up. -/
  deadline : Option Nat
  channel : Channel
  position : Position := .awaiting
  sent : Nat := 0

structure Moment where
  now : Nat
  cancelled : Bool

inductive Stopped where
  | enough
  | blocked
  | ended
  | dropped
  deriving DecidableEq, Repr

def Stopped.name : Stopped → String
  | .enough => "max"
  | .blocked => "blocked"
  | .ended => "end"
  | .dropped => "dropped"

namespace Feeder

def outcome? (f : Feeder) : Option Outcome :=
  match f.position with
  | .finished outcome => some outcome
  | _ => none

def isFinished (f : Feeder) : Bool := f.outcome?.isSome

def expired (f : Feeder) (now : Nat) : Bool :=
  match f.deadline with
  | some deadline => deadline ≤ now
  | none => false

def finish (f : Feeder) (outcome : Outcome) : Feeder := { f with position := .finished outcome }

abbrev Step := Feeder × List Log.Line

def noCapacity : String := "no available capacity"

def channelClosed : String := "channel closed"

def lost (what reason : String) : Log.Line := ⟨.debug, what ++ ": " ++ reason⟩

/-- Ends the stream because of a shutdown. The caller is told if there is room. -/
def stop (f : Feeder) : Step :=
  let ended := f.finish (.error .serviceShutdown)
  match f.channel.offer (.error Failure.serviceShutdown.status) with
  | .accepted channel => ({ ended with channel }, [])
  | .full => (ended, [lost "Could not notify caller of shutdown" noCapacity])
  | .closed => (ended, [lost "Could not notify caller of shutdown" channelClosed])

def pull (f : Feeder) (now : Nat) : Option Step :=
  match f.reading.look now with
  | .document d reading => some ({ f with reading, position := .holding d.toCreature }, [])
  | .failure failure => some ({ f with position := .forwarding failure }, [])
  | .finish => some (f.finish (.ok f.sent), [])
  | .moved reading => some ({ f with reading }, [])
  | .nothing => none

def send (f : Feeder) (creature : Creature) : Option Step :=
  match f.channel.offer (.ok creature) with
  | .accepted channel => some ({ f with channel, position := .awaiting, sent := f.sent + 1 }, [])
  | .closed => some (f.finish (.error .requestCancelled), [])
  | .full => none

/-- Puts the status of a failure into the channel and ends; `what` is logged if nobody is there. -/
def report (f : Feeder) (failure : Failure) (what : String) : Option Step :=
  let ended := f.finish (.error failure)
  match f.channel.offer (.error failure.status) with
  | .accepted channel => some ({ ended with channel }, [])
  | .closed => some (ended, [lost what channelClosed])
  | .full => none

/-- One step, or `none` when the feeder has to wait or has finished. -/
def step (m : Moment) (f : Feeder) : Option Step :=
  match f.position with
  | .awaiting =>
    if m.cancelled then some f.stop
    else if ! f.channel.isOpen then some (f.finish (.error .requestCancelled), [])
    else if f.expired m.now then some ({ f with position := .notifying }, [])
    else f.pull m.now
  | .holding creature =>
    if m.cancelled then some f.stop
    else if f.expired m.now then some ({ f with position := .notifying }, [])
    else f.send creature
  | .forwarding failure => f.report failure "Failed to forward store error"
  | .notifying =>
    if m.cancelled then some (f.finish (.error .deadlineExceeded), [])
    else f.report .deadlineExceeded "Could not notify caller of deadline"
  | .finished _ => none

/-- A bound on the steps until the feeder has to wait. -/
def rank (f : Feeder) (now : Nat) : Nat :=
  match f.position with
  | .awaiting => 5 * f.channel.room + 3 + f.reading.rank now
  | .holding _ => 5 * f.channel.room + 2
  | .forwarding _ | .notifying => 1
  | .finished _ => 0

section

variable {f : Feeder} {s : Step} {m : Moment} {now : Nat}

theorem rank_of_awaiting (h : f.position = .awaiting) (now : Nat) :
    f.rank now = 5 * f.channel.room + 3 + f.reading.rank now := by
  rw [rank, h]

theorem rank_of_holding {creature : Creature} (h : f.position = .holding creature) (now : Nat) :
    f.rank now = 5 * f.channel.room + 2 := by
  rw [rank, h]

theorem rank_of_notifying (h : f.position = .notifying) (now : Nat) : f.rank now = 1 := by
  rw [rank, h]

theorem rank_of_forwarding {failure : Failure} (h : f.position = .forwarding failure) (now : Nat) :
    f.rank now = 1 := by
  rw [rank, h]

theorem rank_stop (f : Feeder) (now : Nat) : f.stop.1.rank now = 0 := by
  unfold stop
  split <;> rfl

theorem rank_report {failure : Failure} {what : String} (now : Nat)
    (h : f.report failure what = some s) : s.1.rank now = 0 := by
  unfold report at h
  split at h <;> cases h <;> rfl

theorem rank_pull (awaits : f.position = .awaiting) (h : f.pull now = some s) :
    s.1.rank now < 5 * f.channel.room + 3 + f.reading.rank now := by
  unfold pull at h
  split at h
  next d reading look =>
    cases h
    exact Nat.lt_of_lt_of_le (Nat.lt_succ_self _) (Nat.le_add_right ..)
  next failure look =>
    cases h
    rw [rank_of_forwarding rfl]
    omega
  next look =>
    cases h
    exact Nat.lt_of_lt_of_le (Nat.succ_pos _) (Nat.le_add_right ..)
  next reading look =>
    cases h
    have hmoved : Feeder.rank { f with reading } now = 5 * f.channel.room + 3 + reading.rank now :=
      rank_of_awaiting (f := { f with reading }) awaits now
    rw [hmoved]
    exact Nat.add_lt_add_left (Reading.rank_lt_of_moved look) _
  next => cases h

/-- A creature that goes into the channel takes up room, which pays for the next look. -/
theorem rank_send {creature : Creature} (h : f.send creature = some s) :
    s.1.rank now < 5 * f.channel.room + 2 := by
  unfold send at h
  split at h
  next channel offer =>
    cases h
    have hroom : channel.room + 1 = f.channel.room := Channel.room_of_accepted offer
    have hreading := f.reading.rank_le_two now
    simp only [rank]
    omega
  next =>
    cases h
    exact Nat.succ_pos _
  next => cases h

theorem rank_step (h : f.step m = some s) : s.1.rank m.now < f.rank m.now := by
  unfold step at h
  split at h
  next awaits =>
    rw [rank_of_awaiting awaits]
    have hpositive : 1 < 5 * f.channel.room + 3 + f.reading.rank m.now := by omega
    split at h
    next cancelled =>
      cases h
      rw [rank_stop]
      exact Nat.zero_lt_of_lt hpositive
    next =>
      split at h
      next gone =>
        cases h
        exact Nat.zero_lt_of_lt hpositive
      next =>
        split at h
        next expired =>
          cases h
          exact hpositive
        next => exact rank_pull awaits h
  next creature holds =>
    rw [rank_of_holding holds]
    split at h
    next cancelled =>
      cases h
      rw [rank_stop]
      exact Nat.succ_pos _
    next =>
      split at h
      next expired =>
        cases h
        rw [rank_of_notifying rfl]
        omega
      next => exact rank_send h
  next failure forwards =>
    rw [rank_of_forwarding forwards, rank_report m.now h]
    exact Nat.zero_lt_one
  next notifies =>
    rw [rank_of_notifying notifies]
    split at h
    next cancelled =>
      cases h
      exact Nat.zero_lt_one
    next =>
      rw [rank_report m.now h]
      exact Nat.zero_lt_one
  next => cases h

end

def settle (m : Moment) (f : Feeder) : Step :=
  match h : f.step m with
  | none => (f, [])
  | some (next, lines) =>
    have := rank_step h
    let (rested, more) := settle m next
    (rested, lines ++ more)
termination_by f.rank m.now

/-- The next tick after `now` at which time alone may move the feeder. -/
def wake? (f : Feeder) (now : Nat) : Option Nat :=
  if f.isFinished then none
  else ([f.deadline, f.reading.resume].filterMap id).filter (now < ·) |>.min?

inductive Taken where
  | item (item : Item) (rest : Feeder)
  | nothingYet
  | ended
  | dropped

def take (f : Feeder) : Taken :=
  if f.channel.receiver = .dropped then .dropped
  else match f.channel.take? with
    | some (item, channel) => .item item { f with channel }
    | none => if f.isFinished ∨ f.channel.receiver = .closed then .ended else .nothingYet

def close (f : Feeder) : Feeder := { f with channel := f.channel.close }

def drop (f : Feeder) : Feeder := { f with channel := f.channel.drop }

end Feeder

end Menagerie.Stream
