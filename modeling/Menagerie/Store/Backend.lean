import Menagerie.Document
import Menagerie.Stream.Cursor

/-!
# Stores behind the service

In the in-memory store every collection that was written to keeps its documents in the order of
insertion. A search takes the matches of that moment, so what is inserted later never shows in it.

A store answers a search with a cursor or a failure, at once or after some time. Besides the
in-memory store there are arbitrary ones, whose answer may depend on the call that asks.
-/

namespace Menagerie.Store

-- ---------------------------------------------------------------------------
-- The in-memory store
-- ---------------------------------------------------------------------------

structure Memory where
  collections : List (Namespace × List Document)
  deriving Inhabited

namespace Memory

def empty : Memory := ⟨[]⟩

/-- Puts a document last in its collection, which begins with its first one. -/
def put (n : Namespace) (d : Document) :
    List (Namespace × List Document) → List (Namespace × List Document)
  | [] => [(n, [d])]
  | (owner, documents) :: rest =>
    if owner = n then (owner, documents ++ [d]) :: rest else (owner, documents) :: put n d rest

def insert (m : Memory) (n : Namespace) (d : Document) : Memory := ⟨put n d m.collections⟩

def documents (m : Memory) (n : Namespace) : List Document := (m.collections.lookup n).getD []

def size (m : Memory) (n : Namespace) : Nat := (m.documents n).length

def isEmpty (m : Memory) (n : Namespace) : Bool := m.size n = 0

def find (m : Memory) (n : Namespace) (f : Filter) : List Document :=
  (m.documents n).filter f.accepts

@[simp] theorem documents_empty (n : Namespace) : empty.documents n = [] := rfl

theorem lookup_cons (owner n : Namespace) (documents : List Document)
    (rest : List (Namespace × List Document)) :
    List.lookup n ((owner, documents) :: rest) =
      if owner = n then some documents else rest.lookup n := by
  by_cases h : owner = n
  · simp [h]
  · have hkey : (n == owner) = false := by simp [Ne.symm h]
    simp [List.lookup_cons, hkey, h]

theorem lookup_put (n other : Namespace) (d : Document)
    (collections : List (Namespace × List Document)) :
    ((put n d collections).lookup other).getD [] =
      (collections.lookup other).getD [] ++ if n = other then [d] else [] := by
  induction collections with
  | nil =>
    rw [put, lookup_cons]
    split <;> rfl
  | cons collection rest ih =>
    obtain ⟨owner, documents⟩ := collection
    rw [put, lookup_cons]
    by_cases howner : owner = n
    · subst howner
      rw [if_pos rfl, lookup_cons]
      split <;> simp
    · rw [if_neg howner, lookup_cons]
      by_cases hother : owner = other
      · have hn : ¬ n = other := fun h => howner (hother.trans h.symm)
        simp [hother, hn]
      · simpa [hother] using ih

@[simp] theorem documents_insert (m : Memory) (n other : Namespace) (d : Document) :
    (m.insert n d).documents other = m.documents other ++ if n = other then [d] else [] :=
  lookup_put n other d m.collections

end Memory

-- ---------------------------------------------------------------------------
-- All stores
-- ---------------------------------------------------------------------------

structure Answer where
  /-- How long it takes, in milliseconds. -/
  delay : Nat
  result : Except Failure Stream.Cursor

inductive Backend where
  | memory (memory : Memory)
  | scripted (answer : Nat → Namespace → Filter → Answer)

namespace Backend

/-- The answer to the search that the call with this number makes. -/
def find (b : Backend) (call : Nat) (n : Namespace) (f : Filter) : Answer :=
  match b with
  | .memory m => ⟨0, .ok (.ofDocuments (m.find n f))⟩
  | .scripted answer => answer call n f

/-- Only the in-memory store takes documents. -/
def insert (b : Backend) (n : Namespace) (d : Document) : Backend :=
  match b with
  | .memory m => .memory (m.insert n d)
  | .scripted answer => .scripted answer

end Backend

end Menagerie.Store
