import Menagerie.Proofs.Stream.Reading
import Menagerie.Store.Scene

/-!
# The in-memory store as a log

All that a store answers can be told from the requests before: from the documents that went into a
collection (`inserted`), and for a cursor from those that had gone in when it was opened and from how
often it was read since (`Stream.Reading.upTo`). `logged_run` puts the two together.
-/

namespace Menagerie

namespace Stream

def Reading.upTo (documents : List Document) (count : Nat) : Reading :=
  { cursor := .ofDocuments documents, place := min count documents.length }

theorem Reading.look_upTo (documents : List Document) (count now : Nat) :
    (upTo documents count).look now =
      match documents[count]? with
      | some d => .document d (upTo documents (count + 1))
      | none => .finish := by
  rcases Nat.lt_or_ge count documents.length with hlt | hge
  · have hplace : min count documents.length = count := Nat.min_eq_left (Nat.le_of_lt hlt)
    have hnext : min (count + 1) documents.length = count + 1 := Nat.min_eq_left hlt
    rw [upTo, upTo, hplace, hnext]
    simp [look, next, Cursor.beat_ofDocuments, hlt]
  · have hplace : min count documents.length = documents.length := Nat.min_eq_right hge
    rw [upTo, hplace]
    simp [look, Cursor.beat_ofDocuments, hge]

theorem Reading.upTo_of_le {documents : List Document} {count : Nat}
    (h : documents.length ≤ count) : upTo documents (count + 1) = upTo documents count := by
  have hmin : min (count + 1) documents.length = min count documents.length := by omega
  rw [upTo, hmin, upTo]

end Stream

theorem Filter.accepts_iff {f : Filter} {d : Document} :
    f.accepts d = true ↔ d.get? f.field = some (.string f.value) := by
  unfold accepts Document.text?
  cases d.get? f.field with
  | none => simp
  | some value => cases value <;> simp [Json.Value.string?]

namespace Store

def Request.insertion? : Request → Option (Namespace × Document)
  | .insert n d => some (n, d)
  | _ => none

def Request.isFind : Request → Bool
  | .find .. => true
  | _ => false

def Request.reads (k : Nat) : Request → Bool
  | .next j => j = k
  | _ => false

def inserted (n : Namespace) (insertions : List (Namespace × Document)) : List Document :=
  insertions.filterMap fun (owner, d) => if owner = n then some d else none

theorem inserted_append (n : Namespace) (before after : List (Namespace × Document)) :
    inserted n (before ++ after) = inserted n before ++ inserted n after :=
  List.filterMap_append

theorem inserted_singleton (n owner : Namespace) (d : Document) :
    inserted n [(owner, d)] = if owner = n then [d] else [] := by
  by_cases h : owner = n <;> simp [inserted, h]

namespace Scene

variable {s : Scene} {k : Nat} {n : Namespace} {f : Filter} {documents : List Document}

-- ---------------------------------------------------------------------------
-- One request
-- ---------------------------------------------------------------------------

theorem documents_handle (s : Scene) (r : Request) (n : Namespace) :
    (s.handle r).1.memory.documents n =
      s.memory.documents n ++ inserted n r.insertion?.toList := by
  cases r with
  | insert owner d =>
    simp [handle, Request.insertion?, inserted_singleton]
  | size | isEmpty | find => simp [handle, Request.insertion?, inserted, Backend.find]
  | next j =>
    simp only [handle, Request.insertion?]
    split <;> simp [inserted]

theorem length_handle (s : Scene) (r : Request) :
    (s.handle r).1.cursors.length = s.cursors.length + if r.isFind then 1 else 0 := by
  cases r with
  | find => simp [handle, Backend.find, Request.isFind]
  | insert | size | isEmpty => rfl
  | next j =>
    simp only [handle, Request.isFind]
    split <;> simp

theorem cursor_handle {count : Nat} (held : s.cursors[k]? = some (.upTo documents count))
    (r : Request) :
    (s.handle r).1.cursors[k]? =
      some (.upTo documents (count + if r.reads k then 1 else 0)) := by
  obtain ⟨hlength, -⟩ := List.getElem?_eq_some_iff.mp held
  cases r with
  | find =>
    simp only [handle, Backend.find, Request.reads]
    rw [List.getElem?_append_left hlength, held]
    rfl
  | insert | size | isEmpty => exact held
  | next j =>
    by_cases hj : j = k
    · subst hj
      simp only [handle, held, Option.map_some, Stream.Reading.look_upTo, Request.reads]
      cases hd : documents[count]? with
      | some d => simp [List.getElem?_set_self hlength]
      | none =>
        -- A read beyond the end moves nothing, and counts for nothing in `upTo`.
        have hread : documents.length ≤ count := List.getElem?_eq_none_iff.mp hd
        simp [held, Stream.Reading.upTo_of_le hread]
    · have hother : (s.handle (.next j)).1.cursors[k]? = s.cursors[k]? := by
        simp only [handle]
        split <;> simp [List.getElem?_set_ne hj]
      rw [hother, held]
      simp [Request.reads, hj]

-- ---------------------------------------------------------------------------
-- Runs
-- ---------------------------------------------------------------------------

theorem documents_run (s : Scene) (rs : List Request) (n : Namespace) :
    (s.run rs).memory.documents n =
      s.memory.documents n ++ inserted n (rs.filterMap Request.insertion?) := by
  induction rs generalizing s with
  | nil => simp [Runs.nil run, inserted]
  | cons r rs ih =>
    rw [Runs.cons run, ih, documents_handle, List.append_assoc, ← inserted_append]
    cases hr : r.insertion? <;> simp [hr]

theorem length_run (s : Scene) (rs : List Request) :
    (s.run rs).cursors.length = s.cursors.length + rs.countP Request.isFind := by
  induction rs generalizing s with
  | nil => rfl
  | cons r rs ih => rw [Runs.cons run, ih, length_handle, List.countP_cons]; omega

theorem cursor_run {count : Nat} (held : s.cursors[k]? = some (.upTo documents count))
    (rs : List Request) :
    (s.run rs).cursors[k]? =
      some (.upTo documents (count + rs.countP (Request.reads k))) := by
  induction rs generalizing s count with
  | nil => exact held
  | cons r rs ih =>
    rw [Runs.cons run, ih (cursor_handle held r), List.countP_cons]
    congr 2
    omega

theorem reply_next {count : Nat} (held : s.cursors[k]? = some (.upTo documents count)) :
    s.reply (.next k) = ((documents[count]?).map Reply.document).getD .ended := by
  simp only [reply, handle, held, Option.map_some, Stream.Reading.look_upTo]
  cases documents[count]? <;> rfl

theorem cursor_find (s : Scene) (n : Namespace) (f : Filter) :
    (s.handle (.find n f)).1.cursors[s.cursors.length]? =
      some (.upTo (s.memory.find n f) 0) := by
  simp [handle, Backend.find, Stream.Reading.upTo]

/-- What a store that has handled these requests replies to the next one. -/
structure Logged (history : List Request) (s : Scene) : Prop where
  size : ∀ n, s.reply (.size n) =
    .size (inserted n (history.filterMap Request.insertion?)).length
  isEmpty : ∀ n, s.reply (.isEmpty n) =
    .isEmpty (decide ((inserted n (history.filterMap Request.insertion?)).length = 0))
  find : ∀ n f, s.reply (.find n f) = .opened (history.countP Request.isFind)
  next : ∀ before n f after, history = before ++ .find n f :: after →
    let found := (inserted n (before.filterMap Request.insertion?)).filter f.accepts
    let k := before.countP Request.isFind
    s.reply (.next k) =
      ((found[after.countP (Request.reads k)]?).map Reply.document).getD .ended
  apart : ∀ n other d f, other ≠ n →
    (s.handle (.insert other d)).1.reply (.size n) = s.reply (.size n) ∧
      (s.handle (.insert other d)).1.memory.find n f = s.memory.find n f

theorem logged_run (history : List Request) : Logged history (run {} history) := by
  have hdocuments (rs : List Request) (n : Namespace) :
      (run {} rs).memory.documents n = inserted n (rs.filterMap Request.insertion?) :=
    documents_run {} rs n
  have hlength (rs : List Request) :
      (run {} rs).cursors.length = rs.countP Request.isFind :=
    (length_run {} rs).trans (Nat.zero_add _)
  constructor
  case size =>
    intro n
    show Reply.size ((run {} history).memory.documents n).length = _
    rw [hdocuments]
  case isEmpty =>
    intro n
    show Reply.isEmpty (decide (((run {} history).memory.documents n).length = 0)) = _
    rw [hdocuments]
  case find => exact fun n f => congrArg Reply.opened (hlength history)
  case next =>
    rintro before n f after rfl found k
    have hstart := cursor_find (run {} before) n f
    rw [hlength before, Memory.find, hdocuments before n] at hstart
    have hlast := cursor_run hstart after
    rw [Runs.append run, Runs.cons run, reply_next hlast, Nat.zero_add]
  case apart =>
    intro n other d f hother
    have hsame := documents_handle (run {} history) (.insert other d) n
    rw [Request.insertion?, Option.toList_some, inserted_singleton, if_neg hother,
      List.append_nil] at hsame
    simp only [reply, handle, Memory.size, Memory.find] at hsame ⊢
    rw [hsame]
    exact ⟨rfl, rfl⟩

end Scene

end Store

end Menagerie
