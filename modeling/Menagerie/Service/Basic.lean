import Menagerie.Config.Server
import Menagerie.Service.Call
import Menagerie.Telemetry
import Menagerie.Store.Backend
import Menagerie.Timeout

/-!
# The creature service

The service answers searches by name, streams the creatures of a configured lookup, and shuts down
by refusing new streams, waiting for those under way, and cancelling what is left. Its state holds
all calls and all streams; `Service.step` lets one task take one small step, and tasks may take
their steps in any order.
-/

namespace Menagerie

/-- What can take a step: a call, or the feeding of a stream. -/
inductive Task where
  | call (number : Nat)
  | stream (number : Nat)
  deriving DecidableEq, Inhabited, Repr

structure Service where
  config : ServerConfig
  backend : Store.Backend
  /-- Milliseconds since the start. -/
  now : Nat := 0
  closed : Bool := false
  cancelled : Bool := false
  calls : List Service.Call := []
  streams : List Stream.Feeder := []
  metrics : Service.Metrics := {}
  finds : Nat := 0
  log : List Log.Line := []

namespace Service

def moment (s : Service) : Stream.Moment := ⟨s.now, s.cancelled⟩

def active (s : Service) : Nat := s.streams.countP (! ·.isFinished)

def note (s : Service) (level : Log.Level) (message : String) : Service :=
  { s with log := s.log ++ [⟨level, message⟩] }

def count (s : Service) (update : Metrics → Metrics) : Service :=
  { s with metrics := update s.metrics }

def setCall (s : Service) (n : Nat) (call : Call) : Service :=
  { s with calls := s.calls.set n call }

def addCall (s : Service) (call : Call) : Service := { s with calls := s.calls ++ [call] }

def find (s : Service) (target : Namespace) (filter : Filter) : Service × Finding :=
  let answer := s.backend.find s.calls.length target filter
  ({ s with finds := s.finds + 1 }, ⟨s.now + answer.delay, answer.result⟩)

/-! ## Taking up calls -/

def nameFilter (name : String) : Filter := ⟨"name", name⟩

/-- Takes up a search; an empty name is refused without asking the store. -/
def beginSearch (s : Service) (name : String) : Service :=
  let s := (s.count fun m => { m with searches := m.searches + 1 }).note .info ("Received: " ++ name)
  if name = "" then
    (s.note .info "Refusing to search for an empty name").addCall (.search name .nameless)
  else
    let (s, finding) := s.find s.config.creatures (nameFilter name)
    s.addCall (.search name (.finding finding))

/-- The first tick at which a timeout that starts now has passed. -/
def deadline (s : Service) (timeout : Timeout.Duration) : Nat :=
  s.now + (timeout + 999999) / 1000000

/-- Takes up a request for a stream. The caller's deadline counts from here. -/
def beginListing (s : Service) (timeout : Option Timeout.Duration) : Service :=
  if s.closed then
    (s.count fun m => { m with errors := m.errors + 1 }).addCall (.listing .refused)
  else
    let deadline := timeout.map s.deadline
    let s := (s.count fun m => { m with listings := m.listings + 1 }).note .info
      "Getting all creatures"
    let (s, finding) := s.find s.config.lookup.target s.config.lookup.filter
    s.addCall (.listing (.finding finding deadline false))

def beginDrain (s : Service) : Service :=
  let s := { s.note .info "Refusing new streams" with closed := true }
  (s.note .info ("Draining in-flight streams (" ++ toString s.active ++ " active)")).addCall
    (.drain (.draining (s.now + s.config.drainTimeout) false))

/-! ## Steps -/

def searchFailed (s : Service) (n : Nat) (name : String) (failure : Failure) : Service :=
  (s.note .warn ("Search in " ++ s.config.creatures.text ++ " failed: " ++ failure.message)).setCall
    n (.search name (.failed failure))

def searchMissed (s : Service) (n : Nat) (name : String) : Service :=
  ((s.count fun m => { m with misses := m.misses + 1 }).note .info
    ("No creatures named '" ++ name ++ "' found")).setCall n (.search name .missed)

def searchFound (s : Service) (n : Nat) (name : String) (d : Document) : Service :=
  (s.note .debug ("Creature " ++ name ++ " found in " ++ s.config.creatures.text)).setCall
    n (.search name (.found d.toCreature))

def stepSearch (s : Service) (n : Nat) (name : String) : Search → Option Service
  | .finding f =>
    if f.due ≤ s.now then
      match f.result with
      | .error failure => some (s.searchFailed n name failure)
      | .ok cursor => some (s.setCall n (.search name (.reading { cursor })))
    else none
  | .reading r =>
    match r.look s.now with
    | .document d _ => some (s.searchFound n name d)
    | .failure failure => some (s.searchFailed n name failure)
    | .finish => some (s.searchMissed n name)
    | .moved r => some (s.setCall n (.search name (.reading r)))
    | .nothing => none
  | _ => none

/-- Starts to feed a stream. A forgotten one has lost its receiver already. -/
def openStream (s : Service) (n : Nat) (cursor : Stream.Cursor) (deadline : Option Nat)
    (forgotten : Bool) : Service :=
  let s := s.count fun m => { m with inflight := m.inflight + 1 }
  match Stream.Channel.make? s.config.bufferSize with
  | none => s.setCall n (.listing .panicked)
  | some channel =>
    let channel := if forgotten then channel.drop else channel
    let feeder : Stream.Feeder := { reading := { cursor }, deadline, channel }
    { s.setCall n (.listing (.opened s.streams.length)) with streams := s.streams ++ [feeder] }

def stepListing (s : Service) (n : Nat) : Listing → Option Service
  | .finding f deadline forgotten =>
    if f.due ≤ s.now then
      match f.result with
      | .error failure =>
        let s := s.note .warn
          ("Lookup in " ++ s.config.lookup.target.text ++ " failed: " ++ failure.message)
        some ((s.count fun m => { m with errors := m.errors + 1 }).setCall n
          (.listing (.failed failure)))
      | .ok cursor => some (s.openStream n cursor deadline forgotten)
    else none
  | _ => none

def stepDrain (s : Service) (n : Nat) : Drain → Option Service
  | .draining limit released =>
    if released ∨ s.active = 0 then
      some ((s.note .debug "All in-flight streams drained successfully").setCall n (.drain .stopped))
    else if limit ≤ s.now then
      let s := s.note .warn
        ("Graceful drain timed out (" ++ toString s.active ++ " streams still active)")
      some ({ s with cancelled := true }.setCall n (.drain (.clearing false)))
    else none
  | .clearing released =>
    if released ∨ s.active = 0 then
      some ((s.note .info "Stream shutdown complete").setCall n (.drain .stopped))
    else none
  | .stopped => none

def stepCall (s : Service) (n : Nat) : Option Service :=
  match s.calls[n]? with
  | some (.search name state) => s.stepSearch n name state
  | some (.listing state) => s.stepListing n state
  | some (.drain state) => s.stepDrain n state
  | none => none

def recordOutcome (s : Service) (outcome : Stream.Outcome) : Service :=
  let s := s.count fun m => { m with inflight := m.inflight - 1, durations := m.durations + 1 }
  match outcome with
  | .ok 0 =>
    (s.count fun m => { m with misses := m.misses + 1 }).note .info
      ("No document was found with the " ++ s.config.lookup.filter.field ++ " " ++
        s.config.lookup.filter.value)
  | .ok n => s.note .debug ("Streamed " ++ toString n ++ " creatures")
  | .error failure =>
    (s.count fun m => { m with errors := m.errors + 1 }).note .warn
      ("Stream ended early: " ++ failure.message)

def releaseDrains (s : Service) : Service :=
  if s.closed ∧ s.active = 0 then { s with calls := s.calls.map Call.release } else s

def stepStream (s : Service) (k : Nat) : Option Service :=
  match s.streams[k]? with
  | none => none
  | some feeder =>
    match feeder.step s.moment with
    | none => none
    | some (next, lines) =>
      let s := { s with streams := s.streams.set k next, log := s.log ++ lines }
      let s := s.count fun m => { m with streamed := m.streamed + (next.sent - feeder.sent) }
      match next.outcome? with
      | none => some s
      | some outcome => some (s.recordOutcome outcome).releaseDrains

/-- One step of a task, or `none` when it has to wait or has finished. -/
def step (s : Service) : Task → Option Service
  | .call n => s.stepCall n
  | .stream k => s.stepStream k

/-! ## What callers do -/

def updateStream (s : Service) (k : Nat) (update : Stream.Feeder → Stream.Feeder) : Service :=
  { s with streams := s.streams.modify k update }

def abort (s : Service) (n : Nat) : Service :=
  match s.calls[n]? with
  | some (.search name (.finding _)) | some (.search name (.reading _)) =>
    s.setCall n (.search name .aborted)
  | some (.listing (.finding ..)) => s.setCall n (.listing .aborted)
  | _ => s

/-- Lets a request for a stream go on without anybody who waits for the stream. -/
def forget (s : Service) (n : Nat) : Service :=
  match s.calls[n]? with
  | some (.listing (.finding f deadline _)) => s.setCall n (.listing (.finding f deadline true))
  | _ => s

def insert (s : Service) (n : Namespace) (d : Document) : Service :=
  { s with backend := s.backend.insert n d }

def advance (s : Service) (target : Nat) : Service := { s with now := max s.now target }

end Service

end Menagerie
