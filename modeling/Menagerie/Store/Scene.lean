import Menagerie.Runs
import Menagerie.Store.Backend

/-!
# All that can happen to an in-memory store

A scene is a store with the cursors that were opened over it. Callers insert documents, ask how many
there are, open cursors and read on with them. A list of requests is one interleaving of what any
number of callers do.
-/

namespace Menagerie.Store

inductive Request where
  | insert (target : Namespace) (document : Document)
  | size (target : Namespace)
  | isEmpty (target : Namespace)
  | find (target : Namespace) (filter : Filter)
  /-- Reads on with a cursor; they are numbered in the order in which they were opened. -/
  | next (cursor : Nat)

inductive Reply where
  | done
  | size (count : Nat)
  | isEmpty (answer : Bool)
  | opened (cursor : Nat)
  | document (document : Document)
  | failed (failure : Failure)
  | ended
  /-- There is no such cursor, or it has nothing yet. -/
  | nothing

structure Scene where
  memory : Memory := .empty
  cursors : List Stream.Reading := []

namespace Scene

def handle (s : Scene) : Request → Scene × Reply
  | .insert n d => ({ s with memory := s.memory.insert n d }, .done)
  | .size n => (s, .size (s.memory.size n))
  | .isEmpty n => (s, .isEmpty (s.memory.isEmpty n))
  | .find n f =>
    match ((Backend.memory s.memory).find s.cursors.length n f).result with
    | .ok cursor => ({ s with cursors := s.cursors ++ [{ cursor }] }, .opened s.cursors.length)
    | .error failure => (s, .failed failure)
  | .next k =>
    match s.cursors[k]?.map (Stream.Reading.look · 0) with
    | some (.document d rest) => ({ s with cursors := s.cursors.set k rest }, .document d)
    | some (.moved rest) => ({ s with cursors := s.cursors.set k rest }, .nothing)
    | some (.failure failure) => (s, .failed failure)
    | some .finish => (s, .ended)
    | some .nothing | none => (s, .nothing)

def reply (s : Scene) (request : Request) : Reply := (s.handle request).2

def run (s : Scene) (requests : List Request) : Scene :=
  requests.foldl (fun s request => (s.handle request).1) s

instance : Runs run fun s request => (s.handle request).1 := ⟨fun _ _ => rfl⟩

end Scene

end Menagerie.Store
