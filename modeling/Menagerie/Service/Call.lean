import Menagerie.Stream.Feeder

/-!
# Calls in progress

The states that a call of the service goes through, from the moment at which it was taken up.
-/

namespace Menagerie.Service

/-- What the store answers, and the tick from which on it does. -/
structure Finding where
  due : Nat
  result : Except Failure Stream.Cursor

inductive Search where
  | finding (finding : Finding)
  | reading (reading : Stream.Reading)
  | found (creature : Creature)
  | missed
  | failed (failure : Failure)
  | nameless
  | aborted

def Search.answer? (name : String) : Search → Option (Except Status Creature)
  | .finding _ | .reading _ | .aborted => none
  | .found creature => some (.ok creature)
  | .missed => some (.error (Failure.notFound ("creature named '" ++ name ++ "'")).status)
  | .failed failure => some (.error failure.status)
  | .nameless => some (.error (Failure.invalidRequest "a creature name must be supplied").status)

inductive Listing where
  /-- `forgotten` once the caller does not wait for the stream any more. -/
  | finding (finding : Finding) (deadline : Option Nat) (forgotten : Bool)
  | refused
  | failed (failure : Failure)
  | opened (stream : Nat)
  /-- The response channel could not be made. -/
  | panicked
  | aborted

inductive Drain where
  /-- Streams may go on until the tick `limit`; `released` once the last of them has ended. -/
  | draining (limit : Nat) (released : Bool)
  | clearing (released : Bool)
  | stopped

inductive Call where
  | search (name : String) (state : Search)
  | listing (state : Listing)
  | drain (state : Drain)

namespace Call

/-- A bound on the steps until the call has to wait. -/
def rank (now : Nat) : Call → Nat
  | .search _ (.finding _) => 4
  | .search _ (.reading r) => 1 + r.rank now
  | .search _ _ => 0
  | .listing (.finding ..) => 1
  | .listing _ => 0
  | .drain (.draining ..) => 2
  | .drain (.clearing _) => 1
  | .drain .stopped => 0

/-- The tick after `now` at which time alone may move the call. -/
def wake? (now : Nat) : Call → Option Nat
  | .search _ (.finding f) => if now < f.due then some f.due else none
  | .search _ (.reading r) => r.resume.filter (now < ·)
  | .listing (.finding f _ _) => if now < f.due then some f.due else none
  | .drain (.draining limit _) => if now < limit then some limit else none
  | _ => none

def release : Call → Call
  | .drain (.draining limit _) => .drain (.draining limit true)
  | .drain (.clearing _) => .drain (.clearing true)
  | call => call

end Call

end Menagerie.Service
