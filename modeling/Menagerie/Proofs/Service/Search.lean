import Menagerie.Proofs.Service.Change
import Menagerie.Proofs.Stream.Reading

/-!
# Searches that find nothing

A search reads its cursor up to the first document. It misses in the step in which it comes to the
end of a cursor without documents, and in no other (`missed_run_iff`).
-/

namespace Menagerie.Service

section

variable {s s' : Service} {e : Event} {n : Nat} {name : String} {r : Stream.Reading} {call : Call}

theorem Call.release_eq_search_iff {state : Search} :
    call.release = .search name state ↔ call = .search name state := by
  cases call with
  | search | listing => rfl
  | drain d => cases d <;> simp [release]

theorem Call.Comes.reading (h : Call.Comes s e s' n (.search name (.reading r))) :
    s.calls[n]? = some (.search name (.reading r)) ∨
      r = { cursor := r.cursor } ∨
      ∃ r₀, s.calls[n]? = some (.search name (.reading r₀)) ∧ r₀.look s.now = .moved r := by
  cases h with
  | same held => exact .inl held
  | released held _ release =>
    rw [Call.release_eq_search_iff.mp release.symm] at held
    exact .inl held
  | steps _ step =>
    obtain ⟨held, steps, -⟩ := step
    cases steps with
    | answered => exact .inr (.inl rfl)
    | moved look => exact .inr (.inr ⟨_, held, look⟩)
  | leaves _ _ leaves => cases leaves
  | enters _ enters => cases enters

theorem Call.Comes.missed (h : Call.Comes s e s' n (.search name .missed)) :
    s.calls[n]? = some (.search name .missed) ∨
      e = .step (.call n) ∧
        ∃ r, s.calls[n]? = some (.search name (.reading r)) ∧ r.look s.now = .finish := by
  cases h with
  | same held => exact .inl held
  | released held _ release =>
    rw [Call.release_eq_search_iff.mp release.symm] at held
    exact .inl held
  | steps own step =>
    obtain ⟨held, steps, -⟩ := step
    cases steps with
    | missed look => exact .inr ⟨own, _, held, look⟩
  | leaves _ _ leaves => cases leaves
  | enters _ enters => cases enters

theorem Change.answered {state : Search} (change : Change s e s')
    (held : s.calls[n]? = some (.search name state)) (settled : (state.answer? name).isSome = true) :
    s'.calls[n]? = some (.search name state) := by
  obtain ⟨new, hnew, hcomes⟩ := change.exists_comes held
  cases hcomes with
  | same same => exact held ▸ same ▸ hnew
  | released before _ release =>
    cases held.symm.trans before
    rwa [release] at hnew
  | steps _ step =>
    obtain ⟨before, steps, -⟩ := step
    cases held.symm.trans before
    cases steps <;> cases settled
  | leaves _ before leaves =>
    cases held.symm.trans before
    cases leaves <;> cases settled
  | enters place =>
    rw [place, List.getElem?_eq_none (Nat.le_refl _)] at held
    cases held

end

namespace Scene

variable {t : Scene} {n : Nat} {name : String}

/-- A search that reads has come to its place beat by beat, and to no document yet. -/
def Searching (t : Scene) : Prop :=
  ∀ (n : Nat) (name : String) (r : Stream.Reading),
    t.service.calls[n]? = some (.search name (.reading r)) → r.Sound ∧ r.documents = []

/-- The search `n` is at the end of its cursor, which has no documents. -/
def Exhausts (t : Scene) (n : Nat) (name : String) : Prop :=
  ∃ r : Stream.Reading, t.service.calls[n]? = some (.search name (.reading r)) ∧
    r.look t.service.now = .finish ∧ r.cursor.Yields []

theorem Searching.happen (h : t.Searching) (e : Event) : (t.happen e).Searching := by
  intro n name r held
  rcases ((t.change e).comes held).reading with hsame | hstart | ⟨r₀, hbefore, hlook⟩
  · exact h n name r hsame
  · rw [hstart]
    exact ⟨Stream.Reading.sound_start r.cursor, rfl⟩
  · obtain ⟨hsound, hnothing⟩ := h n name r₀ hbefore
    obtain ⟨hsound', -, hdocuments⟩ := hsound.of_moved hlook
    exact ⟨hsound', hdocuments.trans hnothing⟩

theorem missed_happen_iff (h : t.Searching) (e : Event) :
    (t.happen e).service.calls[n]? = some (.search name .missed) ↔
      t.service.calls[n]? = some (.search name .missed) ∨
        e = .step (.call n) ∧ t.Exhausts n name := by
  constructor
  · intro held
    rcases ((t.change e).comes held).missed with hsame | ⟨rfl, r, hbefore, hlook⟩
    · exact .inl hsame
    · obtain ⟨hsound, hnothing⟩ := h n name r hbefore
      exact .inr ⟨rfl, r, hbefore, hlook, hnothing ▸ hsound.yields hlook⟩
  · rintro (hsame | ⟨rfl, r, held, hlook, -⟩)
    · exact (t.change e).answered hsame rfl
    · have hstep : t.service.step (.call n) = some (t.service.searchMissed n name) := by
        simp [step, stepCall, held, stepSearch, hlook]
      have hnext : (t.happen (.step (.call n))).service.calls =
          t.service.calls.set n (.search name .missed) := by
        simp [Scene.happen, hstep, searchMissed, setCall, note, count]
      rw [hnext, List.getElem?_set_self (List.getElem?_eq_some_iff.mp held).1]

/-- A search misses exactly in the step in which it comes to the end of a cursor without
documents. -/
theorem missed_run_iff (h : t.Searching) (n : Nat) (name : String) (events : List Event) :
    (t.run events).service.calls[n]? = some (.search name .missed) ↔
      t.service.calls[n]? = some (.search name .missed) ∨
        ∃ before after, events = before ++ .step (.call n) :: after ∧
          (t.run before).Exhausts n name := by
  have hrun := run_iff_exists (fun _ e ht => Searching.happen ht e)
    (P := fun t => t.service.calls[n]? = some (.search name .missed))
    (Q := fun t e => e = .step (.call n) ∧ t.Exhausts n name)
    (fun _ e ht => missed_happen_iff ht e) h events
  refine hrun.trans (or_congr_right ⟨?_, ?_⟩)
  · rintro ⟨before, e, after, hsplit, rfl, hexhausts⟩
    exact ⟨before, after, hsplit, hexhausts⟩
  · rintro ⟨before, after, hsplit, hexhausts⟩
    exact ⟨before, _, after, hsplit, rfl, hexhausts⟩

end Scene

end Menagerie.Service
