import Menagerie.Document
import Menagerie.Failure

/-!
# Cursors

A cursor is what a search yields over time: a sequence of beats, which may go on for ever.
-/

namespace Menagerie.Stream

inductive Beat where
  | document (document : Document)
  | failure (failure : Failure)
  /-- Nothing for some milliseconds, counted from when the reader gets here. -/
  | pause (ms : Nat) (positive : 0 < ms)
  /-- Nothing ever again, and no end either. -/
  | hang
  | finish

structure Cursor where
  beat : Nat → Beat

namespace Cursor

def ofList (beats : List Beat) : Cursor :=
  let array := beats.toArray
  ⟨fun n => array.getD n .finish⟩

def ofDocuments (documents : List Document) : Cursor := ofList (documents.map .document)

def documentsBefore (c : Cursor) (place : Nat) : List Document :=
  (List.range place).filterMap fun n =>
    match c.beat n with
    | .document d => some d
    | _ => none

instance : Inhabited Cursor := ⟨ofList []⟩

end Cursor

/-- A cursor that is being read: which beat comes next, and until when it pauses. -/
structure Reading where
  cursor : Cursor
  place : Nat := 0
  resume : Option Nat := none
  deriving Inhabited

inductive Found where
  | document (document : Document) (rest : Reading)
  | failure (failure : Failure)
  | finish
  | moved (rest : Reading)
  /-- Nothing until time passes. -/
  | nothing

namespace Reading

def next (r : Reading) : Reading := { r with place := r.place + 1, resume := none }

def look (r : Reading) (now : Nat) : Found :=
  match r.resume with
  | some resume => if resume ≤ now then .moved r.next else .nothing
  | none =>
    match r.cursor.beat r.place with
    | .document d => .document d r.next
    | .failure f => .failure f
    | .finish => .finish
    | .hang => .nothing
    | .pause ms _ => .moved { r with resume := some (now + ms) }

/-- How many looks it takes at most to find something other than a move. -/
def rank (r : Reading) (now : Nat) : Nat :=
  match r.resume with
  | none => 1
  | some resume => if resume ≤ now then 2 else 0

theorem rank_lt_of_moved {r r' : Reading} {now : Nat} (h : r.look now = .moved r') :
    r'.rank now < r.rank now := by
  unfold look at h
  split at h
  next resume hr =>
    split at h
    next hle =>
      cases h
      simp [rank, hr, hle, next]
    next => simp at h
  next hr =>
    split at h <;> simp at h
    next ms positive _ =>
      subst h
      simp [rank, hr]
      omega

theorem rank_le_two (r : Reading) (now : Nat) : r.rank now ≤ 2 := by
  unfold rank
  split
  · omega
  · split <;> omega

end Reading

end Menagerie.Stream
