import Menagerie.Service.Step

/-!
# Running the service

One schedule among the many that `Service.step` allows. A task that is woken takes steps until it
has to wait; tasks wait in a queue for their turn. Timers wake their tasks in the order of their
ticks, and of one tick in the order in which they were set. A cancellation wakes the streams in the
order in which they began to wait, and so does the end of the last stream with the shutdowns.
-/

namespace Menagerie

namespace Service

def timers (s : Service) : Task → List Nat
  | .call n => ((s.calls[n]?).bind (Call.wake? s.now)).toList
  | .stream k =>
    match s.streams[k]? with
    | some f =>
      if f.isFinished then []
      else ([f.deadline, f.reading.resume].filterMap id).filter (s.now < ·)
    | none => []

/-- Tells two waits of a task apart. -/
inductive Stage where
  | stream (position sent : Nat)
  | call (rank : Nat)
  | absent
  deriving DecidableEq

def stage (s : Service) : Task → Stage
  | .call n =>
    match s.calls[n]? with
    | some call => .call (call.rank s.now)
    | none => .absent
  | .stream k =>
    match s.streams[k]? with
    | some f =>
      let position := match f.position with
        | .awaiting => 0
        | .holding _ => 1
        | .forwarding _ => 2
        | .notifying => 3
        | .finished _ => 4
      .stream position f.sent
    | none => .absent

end Service

structure Scheduler where
  service : Service
  queue : List Task := []
  /-- Ticks and the tasks that wake at them, in the order in which they were set. -/
  timers : List (Nat × Task) := []
  /-- Tasks in the order in which they began their present wait. -/
  waiting : List Task := []

namespace Scheduler

def wake (s : Scheduler) (tasks : List Task) : Scheduler :=
  { s with queue := s.queue ++ tasks.filter (· ∉ s.queue) }

def isStream : Task → Bool
  | .stream _ => true
  | .call _ => false

def newStreams (before after : Service) : List Task :=
  (List.range (after.streams.length - before.streams.length)).map fun i =>
    .stream (before.streams.length + i)

/-- Gives a task its turn and wakes whatever it has moved. -/
def turn (s : Scheduler) (t : Task) : Scheduler :=
  let before := s.service
  let after := before.poll t
  let known := s.timers.filterMap fun (tick, owner) => if owner = t then some tick else none
  let set := ((after.timers t).filter (· ∉ known)).map fun tick => (tick, t)
  let waiting :=
    if t ∈ s.waiting ∧ before.stage t = after.stage t then s.waiting
    else s.waiting.filter (· ≠ t) ++ [t]
  let others := waiting.filter (· ≠ t)
  let s := { s with service := after, timers := s.timers ++ set, waiting }
  let s := s.wake (newStreams before after)
  let s := if after.cancelled ∧ ¬ before.cancelled then s.wake (others.filter isStream) else s
  if after.closed ∧ after.active = 0 ∧ 0 < before.active then
    s.wake (others.filter (! isStream ·))
  else s

def run : Nat → Scheduler → Scheduler
  | 0, s => s
  | fuel + 1, s =>
    match s.queue with
    | [] => s
    | t :: rest => run fuel ({ s with queue := rest }.turn t)

/-- Every task is woken at most by itself, by a cancellation and by the last stream, and every call
starts at most one stream. -/
def turns (s : Scheduler) : Nat :=
  s.queue.length + 4 * (2 * s.service.calls.length + s.service.streams.length) + 4

def settle (s : Scheduler) : Scheduler := s.run s.turns

def takeUp (s : Scheduler) (take : Service → Service) : Scheduler :=
  let n := s.service.calls.length
  ({ s with service := take s.service }.wake [.call n]).settle

def touch (s : Scheduler) (k : Nat) (act : Service → Service) : Scheduler :=
  ({ s with service := act s.service }.wake [.stream k]).settle

/-- Takes up to `limit` items of a stream; all tasks go on after each. -/
def receive (k : Nat) : Nat → Scheduler → Scheduler × List Stream.Item × Stream.Stopped
  | 0, s => (s, [], .enough)
  | limit + 1, s =>
    match s.service.streams[k]?.map Stream.Feeder.take with
    | none | some .dropped => (s, [], .dropped)
    | some .ended => (s, [], .ended)
    | some .nothingYet => (s, [], .blocked)
    | some (.item item rest) =>
      let (s, items, stopped) := receive k limit (s.touch k (·.updateStream k fun _ => rest))
      (s, item :: items, stopped)

def nextTick? (s : Scheduler) : Option Nat :=
  ((s.timers.map (·.1)).filter (s.service.now < ·)).min?

def reach (s : Scheduler) (tick : Nat) : Scheduler :=
  let due := s.timers.filter (·.1 ≤ tick)
  let rest := s.timers.filter (tick < ·.1)
  ({ s with service := s.service.advance tick, timers := rest }.wake
    ((due.mergeSort fun a b => a.1 ≤ b.1).map Prod.snd)).settle

@[simp] theorem service_wake (s : Scheduler) (tasks : List Task) :
    (s.wake tasks).service = s.service := rfl

@[simp] theorem service_turn (s : Scheduler) (t : Task) :
    (s.turn t).service = s.service.poll t := by
  unfold turn
  simp only
  repeat' split
  all_goals rfl

@[simp] theorem now_run (fuel : Nat) (s : Scheduler) :
    (s.run fuel).service.now = s.service.now := by
  induction fuel generalizing s with
  | zero => rfl
  | succ fuel ih =>
    unfold run
    split
    · rfl
    · simp [ih]

@[simp] theorem now_settle (s : Scheduler) : s.settle.service.now = s.service.now :=
  now_run s.turns s

@[simp] theorem now_reach (s : Scheduler) (tick : Nat) :
    (s.reach tick).service.now = max s.service.now tick := by
  simp [reach, Service.advance]

@[simp] theorem now_touch (s : Scheduler) (k : Nat) (update : Stream.Feeder → Stream.Feeder) :
    (s.touch k (·.updateStream k update)).service.now = s.service.now := by
  simp [touch, Service.updateStream]

theorem now_receive (k limit : Nat) (s : Scheduler) :
    (s.receive k limit).1.service.now = s.service.now := by
  induction limit generalizing s with
  | zero => rfl
  | succ limit ih =>
    unfold receive
    split <;> simp [ih]

theorem remaining_reach {s : Scheduler} {tick target : Nat}
    (h : s.service.now < tick ∧ tick ≤ target) :
    target - (s.reach tick).service.now < target - s.service.now := by
  rw [now_reach]
  omega

/-- Lets time pass up to the tick `target`, stopping at every timer. -/
def advance (target : Nat) (s : Scheduler) : Scheduler :=
  match s.nextTick? with
  | some tick =>
    if _h : s.service.now < tick ∧ tick ≤ target then advance target (s.reach tick)
    else s.reach target
  | none => s.reach target
termination_by target - s.service.now
decreasing_by exact remaining_reach _h

end Scheduler

end Menagerie
