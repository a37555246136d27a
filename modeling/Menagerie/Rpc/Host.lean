import Menagerie.Client.Calls
import Menagerie.Service.Scheduler

/-!
# A server that is being called

A host runs the service for callers at the other end of a connection. The connection takes the items
of every open stream as soon as they are there and keeps them until the caller reads them. A call
ends by itself when the timeout it carries has passed. What the server does at some tick reaches the
caller only after the caller's own timers of that tick.
-/

namespace Menagerie.Rpc

structure Pipe where
  stream : Nat
  inbox : List Stream.Item := []
  /-- Nothing will be added to the inbox. -/
  closed : Bool := false

structure Host where
  scheduler : Scheduler
  pipes : List Pipe := []
  drain : Option Nat := none

namespace Host

def start (service : Service) : Host := { scheduler := { service } }

def service (h : Host) : Service := h.scheduler.service

def now (h : Host) : Nat := h.service.now

/-! ## The connection -/

def burst : Nat := 1 <<< 20

def fill (s : Scheduler) (p : Pipe) : Scheduler × Pipe :=
  if p.closed then (s, p)
  else
    let (s, items, stopped) := s.receive p.stream burst
    (s, { p with inbox := p.inbox ++ items, closed := stopped = .ended ∨ stopped = .dropped })

def fillAll (s : Scheduler) : List Pipe → Scheduler × List Pipe
  | [] => (s, [])
  | p :: rest =>
    let (s, p) := fill s p
    let (s, rest) := fillAll s rest
    (s, p :: rest)

theorem now_fill (s : Scheduler) (p : Pipe) : (fill s p).1.service.now = s.service.now := by
  unfold fill
  split
  · rfl
  · exact Scheduler.now_receive ..

theorem now_fillAll (s : Scheduler) (pipes : List Pipe) :
    (fillAll s pipes).1.service.now = s.service.now := by
  induction pipes generalizing s with
  | nil => rfl
  | cons p rest ih => simp [fillAll, ih, now_fill]

def pump (h : Host) : Host :=
  let (scheduler, pipes) := fillAll h.scheduler h.pipes
  { h with scheduler, pipes }

def modify (h : Host) (update : Scheduler → Scheduler) : Host :=
  { h with scheduler := update h.scheduler }.pump

def reach (h : Host) (tick : Nat) : Host := h.modify (·.reach tick)

@[simp] theorem now_reach (h : Host) (tick : Nat) : (h.reach tick).now = max h.now tick := by
  simp [reach, modify, pump, now, service, now_fillAll]

theorem remaining_reach {h : Host} {tick limit : Nat} (ht : h.now < tick ∧ tick < limit) :
    limit - (h.reach tick).now < limit - h.now := by
  rw [now_reach]
  omega

/-- Lets time pass until there is something to see, at most until just before the tick `limit`. -/
def await (look : Host → Option (Host × α)) (limit : Nat) (h : Host) : Host × Option α :=
  match look h with
  | some (h, a) => (h, some a)
  | none =>
    match h.scheduler.nextTick? with
    | some tick =>
      if _ht : h.now < tick ∧ tick < limit then await look limit (h.reach tick)
      else (h.reach limit, none)
    | none => (h.reach limit, none)
termination_by limit - h.now
decreasing_by exact remaining_reach _ht

def wait (h : Host) (ms : Nat) : Host :=
  let target := h.now + ms
  (h.await (fun _ => (none : Option (Host × Unit))) target).1

/-! ## Stopping -/

/-- Tells the server to stop: it drains its streams and closes the connection. -/
def stop (h : Host) : Host :=
  match h.drain with
  | some _ => h
  | none =>
    let drain := some h.service.calls.length
    { h with drain }.modify (·.takeUp Service.beginDrain)

def stopping (h : Host) : Bool := h.drain.isSome

def stopped (h : Host) : Bool :=
  match h.drain.bind fun n => h.service.calls[n]? with
  | some (.drain .stopped) => true
  | _ => false

def join (h : Host) (within : Nat) : Host × Bool :=
  let (h, seen) := h.await (fun h => if h.stopped then some (h, ()) else none) (h.now + within)
  (h, seen.isSome)

/-! ## Calls -/

/-- A call that has waited for as long as its timeout says. -/
def expired : Status := ⟨.cancelled, Client.CallError.timeoutExpired⟩

def unreachable : Status := ⟨.unavailable, "transport error"⟩

def broken : Status := ⟨.unknown, "transport error"⟩

/-- How long a call without a timeout is waited for, in milliseconds. -/
def patience : Nat := 3600000

def limit (h : Host) (timeout : Option Timeout.Duration) : Nat :=
  match timeout with
  | some timeout => h.service.deadline timeout
  | none => h.now + patience

def leave (n : Nat) (s : Scheduler) : Scheduler :=
  match s.service.calls[n]? with
  | some (.listing (.opened k)) => s.touch k (·.updateStream k Stream.Feeder.drop)
  | _ => { s with service := s.service.abort n }

/-- Makes a call and waits for what `look` makes of its state. A call that is not answered in time
is given up. -/
def call (h : Host) (timeout : Option Timeout.Duration) (take : Service → Service)
    (look : Service.Call → Option (Except Status α)) : Host × Except Status α :=
  if h.stopped then (h, .error unreachable)
  else
    let n := h.service.calls.length
    let limit := h.limit timeout
    let h' := h.modify (·.takeUp take)
    let (h', answer) :=
      if limit ≤ h.now then (h', none)
      else h'.await (fun h => (h.service.calls[n]?.bind look).map fun a => (h, a)) limit
    match answer with
    | some answer => (h', answer)
    | none => (h'.modify (leave n), .error expired)

def search (h : Host) (name : String) (timeout : Option Timeout.Duration) :
    Host × Except Status Creature :=
  h.call timeout (·.beginSearch name) fun
    | .search name state => state.answer? name
    | _ => none

def listed? : Service.Call → Option (Except Status Nat)
  | .listing (.opened k) => some (.ok k)
  | .listing .refused => some (.error Failure.serviceShutdown.status)
  | .listing (.failed failure) => some (.error failure.status)
  | .listing .panicked => some (.error broken)
  | _ => none

def list (h : Host) (timeout : Option Timeout.Duration) : Host × Except Status Nat :=
  let (h, answer) := h.call timeout (·.beginListing timeout) listed?
  match answer with
  | .error status => (h, .error status)
  | .ok k =>
    let opened : Host := { h with pipes := h.pipes ++ [{ stream := k }] }
    (opened.pump, .ok h.pipes.length)

/-! ## Reading -/

inductive Front where
  | item (item : Stream.Item)
  | ended

def front? (p : Nat) (h : Host) : Option (Host × Front) :=
  match h.pipes[p]? with
  | none => none
  | some pipe =>
    match pipe.inbox with
    | item :: inbox => some ({ h with pipes := h.pipes.set p { pipe with inbox } }, .item item)
    | [] => if pipe.closed then some (h, .ended) else none

inductive ReadEnd where
  | enough
  | blocked
  | ended
  | failed (status : Status)
  deriving DecidableEq, Repr

/-- Reads up to so many creatures and waits for each. -/
def read (p within : Nat) : Nat → Host → Host × List Creature × ReadEnd
  | 0, h => (h, [], .enough)
  | most + 1, h =>
    match h.await (front? p) (h.now + within) with
    | (h, none) => (h, [], .blocked)
    | (h, some .ended) => (h, [], .ended)
    | (h, some (.item (.error status))) => (h, [], .failed status)
    | (h, some (.item (.ok creature))) =>
      let (h, creatures, why) := read p within most h
      (h, creature :: creatures, why)

def drop (h : Host) (p : Nat) : Host :=
  match h.pipes[p]? with
  | none => h
  | some pipe =>
    { h with pipes := h.pipes.set p { pipe with inbox := [], closed := true } }.modify
      (·.touch pipe.stream (·.updateStream pipe.stream Stream.Feeder.drop))

/-! ## The host as a server for clients -/

/-- How much later than the server acts the caller sees it, in nanoseconds. -/
def lag : Timeout.Duration := 1

def elapsed (before after : Host) : Timeout.Duration := (after.now - before.now) * 1000000

def eventOf : Stream.Item → Client.Event
  | .ok creature => .creature creature
  | .error status => .failed status

/-- The first event comes after the gap and the others at once. -/
def arrivals (gap : Timeout.Duration) : List Client.Event → List Client.Arrival
  | [] => []
  | event :: rest => ⟨gap, event⟩ :: rest.map (⟨0, ·⟩)

def takeAll (h : Host) (p : Nat) : Host × List Client.Event × Bool :=
  match h.pipes[p]? with
  | none => (h, [], true)
  | some pipe =>
    let events := pipe.inbox.map eventOf ++ if pipe.closed then [.finish] else []
    ({ h with pipes := h.pipes.set p { pipe with inbox := [] } }, events, pipe.closed)

theorem now_takeAll (h : Host) (p : Nat) : (h.takeAll p).1.now = h.now := by
  unfold takeAll
  split <;> rfl

/-- Takes a whole stream as it comes, until just before the tick `limit`; `gap` is the time since
the last event. A stream that is not over by then is dropped. -/
def gather (p limit : Nat) (gap : Timeout.Duration) (h : Host) : Host × List Client.Arrival :=
  let taken := h.takeAll p
  let (events, complete) := taken.2
  let first := arrivals gap events
  let gap := if events.isEmpty then gap else 0
  if complete then (taken.1, first)
  else
    match taken.1.scheduler.nextTick? with
    | some tick =>
      if ht : taken.1.now < tick ∧ tick < limit then
        have : limit - max taken.1.now tick < limit - h.now := by
          have : taken.1.now = h.now := now_takeAll h p
          omega
        let (last, rest) := gather p limit (gap + elapsed taken.1 (taken.1.reach tick))
          (taken.1.reach tick)
        (last, first ++ rest)
      else ((taken.1.reach limit).drop p, first)
    | none => ((taken.1.reach limit).drop p, first)
termination_by limit - h.now

/-- The host as a client sees it. The streams that it takes as a whole are kept nowhere. -/
def server : Client.Server Host where
  search h request :=
    let (after, answer) := h.search request.message.name (Timeout.ofMetadata? request.metadata)
    (after, some ⟨elapsed h after + lag, answer⟩)
  list h request :=
    let timeout := Timeout.ofMetadata? request.metadata
    let limit := h.limit timeout
    match h.list timeout with
    | (after, .error status) => (after, [⟨elapsed h after + lag, .failed status⟩])
    | (after, .ok p) =>
      let (last, arrivals) := after.gather p limit (elapsed h after + lag)
      ({ last with pipes := last.pipes.take p }, arrivals)

def instant (h : Host) : Client.Instant := h.now * 1000000

end Host

end Menagerie.Rpc
