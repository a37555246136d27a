import Menagerie.Proofs.Client.Budget

/-!
# The whole list or nothing

A client that asks for the list gives up all that it has received if the stream fails or the deadline
passes before the clean end: `WholeOrNone`. After the deadline it does not ask at all. `answers_iff`
says for which deadlines a client keeps to this, whatever the server sends and when: not for those
that are too far away for the header of the request.
-/

namespace Menagerie.Client

variable {now deadline instant : Instant} {arrivals : List Arrival}
  {result : Except CallError (List Creature)}

structure WholeOrNone (now deadline : Instant) (arrivals : List Arrival)
    (result : Except CallError (List Creature)) : Prop where
  ok_iff : ∀ creatures, result = .ok creatures ↔
    ∃ instant, instant ≤ deadline ∧ Brings now arrivals creatures .finish instant
  failed : ∀ creatures status instant, instant ≤ deadline →
    Brings now arrivals creatures (.failed status) instant →
      result = .error (.ofStatus listCall status)
  late : (∀ creatures event instant, Brings now arrivals creatures event instant →
    deadline < instant) → result = .error (.timeout listCall)

theorem Lists.wholeOrNone (h : Lists now deadline arrivals result instant) :
    WholeOrNone now deadline arrivals result where
  ok_iff creatures := by
    constructor
    · rintro rfl
      cases h with
      | complete timely brings => exact ⟨instant, timely, brings⟩
    · rintro ⟨instant', timely, brings⟩
      exact (h.unique (.complete timely brings)).1
  failed creatures status instant' timely brings := (h.unique (.failed timely brings)).1
  late late := (h.unique (.late late)).1

/-- Before the deadline the request is sent, and the call gives the whole list or nothing; after the
deadline nothing is sent. -/
structure Answers (now deadline : Instant) : Prop where
  early : now < deadline → ∀ {σ : Type} (server : Server σ) (s : σ), ∃ request second,
    list? server s ⟨deadline⟩ now = some ((server.list s request).1, second) ∧
      second.request = some request ∧
      WholeOrNone now deadline (server.list s request).2 second.result
  passed : deadline ≤ now → ∀ {σ : Type} (server : Server σ) (s : σ), ∃ second,
    list? server s ⟨deadline⟩ now = some (s, second) ∧ second.request = none ∧
      second.result = .error (.timeout listCall)

theorem answers_of_lt (fits : deadline - now < Timeout.limit) : Answers now deadline where
  early early σ server s := by
    obtain ⟨request, second, hlist, hrequest, -, lists⟩ :=
      list?_of_lt server s early (Timeout.isSome_write?_iff.mpr fits)
    exact ⟨request, second, hlist, hrequest, lists.wholeOrNone⟩
  passed late σ server s := ⟨_, list?_of_le late, rfl, rfl⟩

theorem list?_eq_none {σ : Type} (large : Timeout.limit ≤ deadline - now) (server : Server σ)
    (s : σ) : list? server s ⟨deadline⟩ now = none := by
  rw [list?, prepare_eq_unwritable_iff.mpr large]

theorem not_answers_of_le (large : Timeout.limit ≤ deadline - now) : ¬ Answers now deadline := by
  intro answers
  have hpos : 0 < Timeout.limit := by decide
  have hearly : now < deadline := Nat.lt_of_sub_pos (Nat.lt_of_lt_of_le hpos large)
  obtain ⟨request, second, hlist, -⟩ := answers.early hearly silent ()
  rw [list?_eq_none large] at hlist
  cases hlist

/-- A client keeps to this exactly if the time left can be said in a header; otherwise the call for
the list breaks off before anything is sent. -/
theorem answers_iff (now deadline : Instant) :
    (Answers now deadline ↔ deadline - now < Timeout.limit) ∧
      (Timeout.limit ≤ deadline - now → ∀ {σ : Type} (server : Server σ) (s : σ),
        list? server s ⟨deadline⟩ now = none) := by
  refine ⟨⟨fun answers => ?_, answers_of_lt⟩, fun large => list?_eq_none large⟩
  rcases Nat.lt_or_ge (deadline - now) Timeout.limit with fits | large
  · exact fits
  · exact absurd answers (not_answers_of_le large)

/-- A server that has nothing to list says so at once, but a client that has a hundred million hours
left never gets to ask. -/
theorem list_breaks_at_limit :
    let server : Server Unit := ⟨fun s _ => (s, none), fun s _ => (s, [⟨0, .finish⟩])⟩
    (∀ request, Brings 0 (server.list () request).2 [] .finish 0) ∧
      (list? server () ⟨Timeout.limit⟩ 0).isNone = true ∧ ¬ Answers 0 Timeout.limit := by
  intro server
  have hlarge : Timeout.limit ≤ Timeout.limit - 0 := Nat.le_refl _
  refine ⟨fun request => .last (by simp), ?_, not_answers_of_le hlarge⟩
  rw [list?_eq_none hlarge]
  rfl

end Menagerie.Client
