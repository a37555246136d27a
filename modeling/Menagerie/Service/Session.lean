import Menagerie.Service.Scheduler

/-!
# Callers of the service

A session makes calls on one service, numbered in order, and keeps what they came to. A result is
handed out once; a stream is kept and read until it is dropped.
-/

namespace Menagerie.Service

inductive Held where
  | pending
  | stream (number : Nat)
  | nothing
  deriving DecidableEq, Repr

inductive Result where
  | pending
  | creature (creature : Creature)
  | status (status : Status)
  | stream
  | stopped
  | panicked
  /-- It was handed out before. -/
  | done

structure Session where
  scheduler : Scheduler
  held : List Held := []
  told : Nat := 0

namespace Session

def service (s : Session) : Service := s.scheduler.service

def start (service : Service) : Session := { scheduler := { service } }

def hold (s : Session) (n : Nat) (held : Held) : Session := { s with held := s.held.set n held }

/-- Asks for a call: the result, and what is held of it from now on. -/
def ask (call : Call) : Result × Held :=
  match call with
  | .search name state =>
    match state.answer? name with
    | some (.ok creature) => (.creature creature, .nothing)
    | some (.error status) => (.status status, .nothing)
    | none => (.pending, .pending)
  | .listing .refused => (.status Failure.serviceShutdown.status, .nothing)
  | .listing (.failed failure) => (.status failure.status, .nothing)
  | .listing (.opened k) => (.stream, .stream k)
  | .listing .panicked => (.panicked, .nothing)
  | .drain .stopped => (.stopped, .nothing)
  | _ => (.pending, .pending)

/-- `none` for a number that no call has. -/
def poll (s : Session) (n : Nat) : Session × Option Result :=
  match s.held[n]?, s.service.calls[n]? with
  | some .pending, some call =>
    let (result, held) := ask call
    (s.hold n held, some result)
  | some (.stream _), _ => (s, some .stream)
  | some .nothing, _ => (s, some .done)
  | _, _ => (s, none)

def call (s : Session) (take : Service → Service) : Session × Option Result :=
  let n := s.service.calls.length
  ({ s with scheduler := s.scheduler.takeUp take, held := s.held ++ [Held.pending] }).poll n

/-- `none` when no stream of that call is held. -/
def receive (s : Session) (n limit : Nat) :
    Session × Option (List Stream.Item × Stream.Stopped) :=
  match s.held[n]? with
  | some (.stream k) =>
    let (scheduler, taken) := s.scheduler.receive k limit
    ({ s with scheduler }, some taken)
  | _ => (s, none)

/-- Drops what is held of a call. A search that is under way is given up; a request for a stream
goes on, and its stream is dropped when it comes. -/
def drop (s : Session) (n : Nat) : Session :=
  let s' := s.hold n .nothing
  match s.held[n]? with
  | some (.stream k) =>
    { s' with scheduler := s.scheduler.touch k (·.updateStream k Stream.Feeder.drop) }
  | some .pending =>
    match s.service.calls[n]? with
    | some (.search ..) =>
      { s' with scheduler := { s.scheduler with service := s.service.abort n } }
    | some (.listing (.opened k)) =>
      { s' with scheduler := s.scheduler.touch k (·.updateStream k Stream.Feeder.drop) }
    | some (.listing _) =>
      { s' with scheduler := { s.scheduler with service := s.service.forget n } }
    | _ => s'
  | _ => s

def insert (s : Session) (n : Namespace) (d : Document) : Session :=
  { s with scheduler := { s.scheduler with service := s.service.insert n d } }

def wait (s : Session) (ms : Nat) : Session :=
  { s with scheduler := s.scheduler.advance (s.service.now + ms) }

def takeLog (s : Session) : Session × List Log.Line :=
  ({ s with told := s.service.log.length }, s.service.log.drop s.told)

end Session

end Menagerie.Service
