import Menagerie.Runs
import Menagerie.Service.Basic
import Menagerie.Stream.Scene

/-!
# All that can happen to the service

A scene is the service among its callers, with a record of what went through the channel of each
stream. A list of events is one interleaving of the steps of all tasks with what callers do and with
the passing of time. `Scheduler` is one way to choose among the steps. All that a session makes of a
service is such a list (`Session.leads_run`), and so is all that a host makes of it
(`Rpc.Host.goes_run`), so a statement about every list of events holds for both.
-/

namespace Menagerie.Service

inductive Event where
  | step (task : Task)
  | search (name : String)
  | list (timeout : Option Timeout.Duration)
  | drain
  | take (stream : Nat)
  | close (stream : Nat)
  | drop (stream : Nat)
  /-- A caller gives up a call that waits for the store. -/
  | abort (call : Nat)
  /-- A caller no longer waits for a stream that it has asked for. -/
  | forget (call : Nat)
  | insert (target : Namespace) (document : Document)
  | pass (ms : Nat)

structure Scene where
  service : Service
  /-- All items that were taken from a stream, first one first. -/
  received : Nat → List Stream.Item := fun _ => []
  /-- All items that were ever put into the channel of a stream, first one first. -/
  enqueued : Nat → List Stream.Item := fun _ => []

def added (before after : Service) (k : Nat) : List Stream.Item :=
  match before.streams[k]?, after.streams[k]? with
  | some f, some f' => f.added f'
  | _, _ => []

namespace Scene

def act (s : Scene) (update : Service → Service) : Scene := { s with service := update s.service }

def happen (s : Scene) : Event → Scene
  | .step task =>
    match s.service.step task with
    | some next =>
      { s with service := next, enqueued := fun k => s.enqueued k ++ s.service.added next k }
    | none => s
  | .search name => s.act (·.beginSearch name)
  | .list timeout => s.act (·.beginListing timeout)
  | .drain => s.act (·.beginDrain)
  | .take k =>
    match s.service.streams[k]?.map Stream.Feeder.take with
    | some (.item item rest) =>
      { s with
        service := s.service.updateStream k fun _ => rest
        received := fun j => if j = k then s.received j ++ [item] else s.received j }
    | _ => s
  | .close k => s.act (·.updateStream k Stream.Feeder.close)
  | .drop k => s.act (·.updateStream k Stream.Feeder.drop)
  | .abort n => s.act (·.abort n)
  | .forget n => s.act (·.forget n)
  | .insert target d => s.act (·.insert target d)
  | .pass ms => s.act fun service => service.advance (service.now + ms)

def run (s : Scene) (events : List Event) : Scene := events.foldl happen s

instance : Runs run happen := ⟨fun _ _ => rfl⟩

/-- No task can step until a caller acts or time passes. -/
def Quiet (s : Scene) : Prop := ∀ task, s.service.step task = none

end Scene

end Menagerie.Service
