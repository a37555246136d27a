import Menagerie.Stream.Cursor

/-!
# How far a cursor is read

The documents of a cursor count up to a place that reading can get to: nothing but documents and
pauses lies before it. `Reading.Sound` holds of every reading that began at the first beat, and each
look at the cursor adds at most one document to those read so far.
-/

namespace Menagerie.Stream

def Beat.isPause : Beat → Bool
  | .pause .. => true
  | .document _ | .failure _ | .hang | .finish => false

def Beat.passes : Beat → Bool
  | .document _ | .pause .. => true
  | .failure _ | .hang | .finish => false

def Beat.document? : Beat → Option Document
  | .document d => some d
  | .failure _ | .pause .. | .hang | .finish => none

namespace Cursor

variable {c : Cursor} {place : Nat}

def Reaches (c : Cursor) (place : Nat) : Prop := ∀ n < place, (c.beat n).passes = true

def Begins (c : Cursor) (documents : List Document) : Prop :=
  ∃ place, c.Reaches place ∧ c.documentsBefore place = documents

/-- These are all documents of the cursor, which ends without an error. -/
def Yields (c : Cursor) (documents : List Document) : Prop :=
  ∃ place, c.Reaches place ∧ c.documentsBefore place = documents ∧ c.beat place = .finish

def Fails (c : Cursor) (documents : List Document) (failure : Failure) : Prop :=
  ∃ place, c.Reaches place ∧ c.documentsBefore place = documents ∧ c.beat place = .failure failure

/-- The first event of the cursor is its first beat that is no pause. -/
def First (c : Cursor) (b : Beat) : Prop :=
  ∃ place, (∀ n < place, (c.beat n).isPause = true) ∧ c.beat place = b ∧ b.isPause = false

theorem First.unique {b b' : Beat} (h : c.First b) (h' : c.First b') : b = b' := by
  obtain ⟨place, hbefore, rfl, hb⟩ := h
  obtain ⟨place', hbefore', rfl, hb'⟩ := h'
  rcases Nat.lt_trichotomy place place' with hlt | rfl | hlt
  · simp [hbefore' place hlt] at hb
  · rfl
  · simp [hbefore place' hlt] at hb'

theorem begins_nil (c : Cursor) : c.Begins [] := ⟨0, by simp [Reaches], rfl⟩

theorem Reaches.succ (h : c.Reaches place) (hp : (c.beat place).passes = true) :
    c.Reaches (place + 1) := by
  intro n hn
  rcases Nat.lt_succ_iff_lt_or_eq.mp hn with hn | rfl
  · exact h n hn
  · exact hp

theorem Reaches.le_of_stops {last : Nat} (h : c.Reaches place)
    (stops : (c.beat last).passes = false) : place ≤ last := by
  refine Nat.le_of_not_lt fun hlt => ?_
  have hpasses := h last hlt
  rw [stops] at hpasses
  cases hpasses

theorem Reaches.eq_of_stops {last : Nat} (h : c.Reaches place) (h' : c.Reaches last)
    (stops : (c.beat place).passes = false) (stops' : (c.beat last).passes = false) :
    place = last :=
  Nat.le_antisymm (h.le_of_stops stops') (h'.le_of_stops stops)

theorem documentsBefore_succ_of_document {d : Document} (h : c.beat place = .document d) :
    c.documentsBefore (place + 1) = c.documentsBefore place ++ [d] := by
  simp [documentsBefore, List.range_succ, h]

theorem documentsBefore_succ_of_pause {ms : Nat} {positive : 0 < ms}
    (h : c.beat place = .pause ms positive) :
    c.documentsBefore (place + 1) = c.documentsBefore place := by
  simp [documentsBefore, List.range_succ, h]

theorem Reaches.isPause (h : c.Reaches place) (nothing : c.documentsBefore place = []) :
    ∀ n < place, (c.beat n).isPause = true := by
  intro n hn
  have hpasses := h n hn
  cases hb : c.beat n with
  | document d =>
    have hnone := List.filterMap_eq_nil_iff.mp nothing n (List.mem_range.mpr hn)
    simp [hb] at hnone
  | pause => rfl
  | failure | hang | finish => simp [hb, Beat.passes] at hpasses

theorem beat_ofList (beats : List Beat) (n : Nat) :
    (ofList beats).beat n = (beats[n]?).getD .finish := by
  simp [ofList, Array.getD_eq_getD_getElem?]

theorem documentsBefore_ofList (beats : List Beat) (place : Nat) :
    (ofList beats).documentsBefore place = (beats.take place).filterMap Beat.document? := by
  induction place with
  | zero => rfl
  | succ place ih =>
    have hbeat := beat_ofList beats place
    rw [List.take_add_one, List.filterMap_append, ← ih]
    cases hb : beats[place]? with
    | none => simp [documentsBefore, List.range_succ, hbeat, hb]
    | some b => cases b <;> simp [documentsBefore, List.range_succ, hbeat, hb, Beat.document?]

theorem beat_ofDocuments (documents : List Document) (n : Nat) :
    (ofDocuments documents).beat n = ((documents[n]?).map Beat.document).getD .finish := by
  simp [ofDocuments, beat_ofList]

theorem first_ofDocuments (documents : List Document) :
    (ofDocuments documents).First ((documents.head?.map Beat.document).getD .finish) := by
  refine ⟨0, by simp, ?_, ?_⟩
  · rw [beat_ofDocuments, List.head?_eq_getElem?]
  · cases documents <;> rfl

end Cursor

namespace Reading

variable {r r' : Reading} {now : Nat}

def documents (r : Reading) : List Document := r.cursor.documentsBefore r.place

/-- Reading has come to its place beat by beat, and pauses only where the cursor does. -/
structure Sound (r : Reading) : Prop where
  reaches : r.cursor.Reaches r.place
  pausing : r.resume ≠ none → ∃ ms positive, r.cursor.beat r.place = .pause ms positive

theorem sound_start (c : Cursor) : Sound { cursor := c } := ⟨by simp [Cursor.Reaches], by simp⟩

theorem Sound.begins (h : r.Sound) : r.cursor.Begins r.documents := ⟨r.place, h.reaches, rfl⟩

theorem look_document_iff {d : Document} :
    r.look now = .document d r' ↔
      r.resume = none ∧ r.cursor.beat r.place = .document d ∧ r' = r.next := by
  unfold look
  split
  next hr => split <;> simp [hr]
  next hr => cases hb : r.cursor.beat r.place <;> simp [hr, eq_comm]

theorem look_failure_iff {failure : Failure} :
    r.look now = .failure failure ↔ r.resume = none ∧ r.cursor.beat r.place = .failure failure := by
  unfold look
  split
  next hr => split <;> simp [hr]
  next hr => cases hb : r.cursor.beat r.place <;> simp [hr]

theorem look_finish_iff :
    r.look now = .finish ↔ r.resume = none ∧ r.cursor.beat r.place = .finish := by
  unfold look
  split
  next hr => split <;> simp [hr]
  next hr => cases hb : r.cursor.beat r.place <;> simp [hr]

theorem look_nothing_iff :
    r.look now = .nothing ↔ (∃ tick, r.resume = some tick ∧ now < tick) ∨
      r.resume = none ∧ r.cursor.beat r.place = .hang := by
  unfold look
  split
  next tick hr => split <;> simp_all
  next hr => cases hb : r.cursor.beat r.place <;> simp [hr]

theorem look_moved (h : r.look now = .moved r') :
    (∃ tick, r.resume = some tick ∧ tick ≤ now ∧ r' = r.next) ∨
      ∃ ms positive, r.resume = none ∧ r.cursor.beat r.place = .pause ms positive ∧
        r' = { r with resume := some (now + ms) } := by
  unfold look at h
  split at h
  next tick hr =>
    split at h
    next hle =>
      cases h
      exact .inl ⟨tick, hr, hle, rfl⟩
    next => simp at h
  next hr =>
    split at h <;> simp at h
    next ms positive hb => exact .inr ⟨ms, positive, hr, hb, h.symm⟩

theorem Sound.of_document (hs : r.Sound) {d : Document} (h : r.look now = .document d r') :
    r'.Sound ∧ r'.cursor = r.cursor ∧ r'.documents = r.documents ++ [d] := by
  obtain ⟨-, hb, rfl⟩ := look_document_iff.mp h
  refine ⟨⟨hs.reaches.succ (by simp [hb, Beat.passes]), by simp [next]⟩, rfl, ?_⟩
  exact Cursor.documentsBefore_succ_of_document hb

theorem Sound.of_moved (hs : r.Sound) (h : r.look now = .moved r') :
    r'.Sound ∧ r'.cursor = r.cursor ∧ r'.documents = r.documents := by
  rcases look_moved h with ⟨tick, hr, -, rfl⟩ | ⟨ms, positive, -, hb, rfl⟩
  · obtain ⟨ms, positive, hb⟩ := hs.pausing (by simp [hr])
    refine ⟨⟨hs.reaches.succ (by simp [hb, Beat.passes]), by simp [next]⟩, rfl, ?_⟩
    exact Cursor.documentsBefore_succ_of_pause hb
  · exact ⟨⟨hs.reaches, fun _ => ⟨ms, positive, hb⟩⟩, rfl, rfl⟩

theorem Sound.awake (hs : r.Sound) (event : (r.cursor.beat r.place).isPause = false) :
    r.resume = none := by
  cases hresume : r.resume with
  | none => rfl
  | some tick =>
    obtain ⟨ms, positive, hpause⟩ := hs.pausing (by simp [hresume])
    rw [hpause] at event
    cases event

theorem Sound.next (hs : r.Sound) (pauses : (r.cursor.beat r.place).isPause = true) :
    r.next.Sound := by
  have hpasses : (r.cursor.beat r.place).passes = true := by
    cases hb : r.cursor.beat r.place with
    | pause => rfl
    | document | failure | hang | finish => simp [hb, Beat.isPause] at pauses
  exact ⟨hs.reaches.succ hpasses, by simp [Reading.next]⟩

theorem Sound.fails (hs : r.Sound) {failure : Failure} (h : r.look now = .failure failure) :
    r.cursor.Fails r.documents failure :=
  ⟨r.place, hs.reaches, rfl, (look_failure_iff.mp h).2⟩

theorem Sound.yields (hs : r.Sound) (h : r.look now = .finish) : r.cursor.Yields r.documents :=
  ⟨r.place, hs.reaches, rfl, (look_finish_iff.mp h).2⟩

end Reading

end Menagerie.Stream
