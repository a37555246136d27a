/-!
# Runs

A run is what comes of a list of things that happen one after another. Each kind of state has a
`run` of its own; these are the lemmas for all of them.
-/

namespace Menagerie

/-- Runs go on with `happen`, one entry of the list after another. -/
class Runs {σ ε : Type} (run : σ → List ε → σ) (happen : outParam (σ → ε → σ)) : Prop where
  eq_foldl : ∀ s es, run s es = es.foldl happen s

namespace Runs

variable {σ ε : Type} {happen : σ → ε → σ} (run : σ → List ε → σ) [runs : Runs run happen]

include runs

theorem nil (s : σ) : run s [] = s :=
  runs.eq_foldl s []

theorem cons (s : σ) (e : ε) (es : List ε) : run s (e :: es) = run (happen s e) es := by
  rw [runs.eq_foldl, runs.eq_foldl, List.foldl_cons]

theorem append (s : σ) (es es' : List ε) : run s (es ++ es') = run (run s es) es' := by
  rw [runs.eq_foldl, runs.eq_foldl, runs.eq_foldl, List.foldl_append]

/-- What holds at first and is kept by all that can happen holds ever after. -/
theorem invariant {P : σ → Prop} (keep : ∀ s e, P s → P (happen s e)) {s : σ} (es : List ε)
    (start : P s) : P (run s es) := by
  induction es generalizing s with
  | nil =>
    rw [nil run]
    exact start
  | cons e es ih =>
    rw [cons run]
    exact ih (keep s e start)

end Runs

end Menagerie
