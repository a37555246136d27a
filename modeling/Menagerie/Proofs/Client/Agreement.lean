import Menagerie.Proofs.Client.Run

/-!
# Clients and servers agree on the deadline

A header has room for eight digits, so that a client writes the time left in a coarser unit the more
of it there is, and the server reads less than there was. `agrees_of_write?`: never more, short by
less than one unit and by no more than a hundred-thousandth, and exactly the time left where that is
a moderate number of milliseconds.
-/

namespace Menagerie

namespace Timeout

variable {d : Duration} {u : TimeUnit} {text : List Char}

-- ---------------------------------------------------------------------------
-- The unit
-- ---------------------------------------------------------------------------

namespace TimeUnit

theorem mem_all (u : TimeUnit) : u ∈ all := by
  cases u <;> decide

theorem pairwise_all : all.Pairwise fun u v => u.length < v.length := by
  decide

theorem length_pos (u : TimeUnit) : 0 < u.length := by
  cases u <;> decide

theorem exists_finer (h : u ≠ .nano) :
    ∃ v : TimeUnit, v.length < u.length ∧ u.length ≤ 1000 * v.length := by
  cases u with
  | nano => exact absurd rfl h
  | micro => exact ⟨.nano, by decide, by decide⟩
  | milli => exact ⟨.micro, by decide, by decide⟩
  | second => exact ⟨.milli, by decide, by decide⟩
  | minute => exact ⟨.second, by decide, by decide⟩
  | hour => exact ⟨.minute, by decide, by decide⟩

theorem length_dvd_milli (h : u.length ≤ milli.length) : u.length ∣ milli.length := by
  cases u with
  | nano | micro | milli => decide
  | second | minute | hour => exact absurd h (by decide)

end TimeUnit

/-- The finest unit in which eight digits hold the duration. -/
structure Finest (d : Duration) (u : TimeUnit) : Prop where
  fits : d / u.length ≤ 99999999
  finer : ∀ v : TimeUnit, v.length < u.length → 99999999 < d / v.length

theorem finest_of_unit? (h : unit? d = some u) : Finest d u := by
  obtain ⟨hfits, finer, coarser, hall, hfiner⟩ := List.find?_eq_some_iff_append.mp h
  have hlimit : Nat.pow 10 digitLimit = 99999999 + 1 := rfl
  rw [hlimit, decide_eq_true_eq] at hfits
  have hsorted := TimeUnit.pairwise_all
  rw [hall] at hsorted
  refine ⟨Nat.le_of_lt_succ hfits, fun v hv => ?_⟩
  have hmem := v.mem_all
  rw [hall, List.mem_append, List.mem_cons] at hmem
  rcases hmem with hmem | rfl | hmem
  · have hlarge := hfiner v hmem
    rw [hlimit, Bool.not_eq_true', decide_eq_false_iff_not, Nat.not_lt] at hlarge
    exact hlarge
  · exact absurd hv (Nat.lt_irrefl _)
  · have hcoarser := (List.pairwise_cons.mp (List.pairwise_append.mp hsorted).2.1).1 v hmem
    exact absurd hv (Nat.lt_asymm hcoarser)

-- ---------------------------------------------------------------------------
-- What is lost
-- ---------------------------------------------------------------------------

structure Agrees (d : Duration) (u : TimeUnit) (read : Duration) : Prop where
  le : read ≤ d
  lt_unit : d - read < u.length
  loss : (d - read) * 100000 ≤ d
  exact_of_millis : ∀ ms, ms < 100000000 → d = ms * TimeUnit.milli.length → read = d

/-- A finer unit was too small for the duration, so that the duration is long against the unit. -/
theorem Finest.loss (h : Finest d u) : d % u.length * 100000 ≤ d := by
  by_cases hnano : u = .nano
  · subst hnano
    simp [TimeUnit.length, Nat.mod_one]
  · obtain ⟨v, hv, hratio⟩ := TimeUnit.exists_finer hnano
    have hlong : 100000000 * v.length ≤ d :=
      (Nat.le_div_iff_mul_le v.length_pos).mp (h.finer v hv)
    calc d % u.length * 100000
        ≤ u.length * 100000 := Nat.mul_le_mul_right _ (Nat.le_of_lt (Nat.mod_lt _ u.length_pos))
      _ ≤ 1000 * v.length * 100000 := Nat.mul_le_mul_right _ hratio
      _ = 100000000 * v.length := by rw [Nat.mul_right_comm]
      _ ≤ d := hlong

theorem Finest.dvd_of_millis (h : Finest d u) {ms : Nat} (small : ms < 100000000)
    (millis : d = ms * TimeUnit.milli.length) : u.length ∣ d := by
  have hunit : u.length ≤ TimeUnit.milli.length := by
    refine Nat.le_of_not_lt fun hcoarse => ?_
    have hlarge := h.finer .milli hcoarse
    rw [millis, Nat.mul_div_cancel _ (TimeUnit.length_pos _)] at hlarge
    exact absurd small (Nat.not_lt.mpr hlarge)
  rw [millis]
  exact Nat.dvd_mul_left_of_dvd (TimeUnit.length_dvd_milli hunit) ms

theorem Finest.agrees (h : Finest d u) : Agrees d u (d / u.length * u.length) where
  le := Nat.div_mul_le_self d u.length
  lt_unit := by
    rw [← Nat.mod_eq_sub_div_mul]
    exact Nat.mod_lt _ u.length_pos
  loss := by
    rw [← Nat.mod_eq_sub_div_mul]
    exact h.loss
  exact_of_millis ms small millis := Nat.div_mul_cancel (h.dvd_of_millis small millis)

end Timeout

-- ---------------------------------------------------------------------------
-- Requests
-- ---------------------------------------------------------------------------

namespace Client

variable {d : Timeout.Duration} {text : List Char}

theorem prepare_of_write? {μ : Type} (written : Timeout.write? d = some text) (positive : 0 < d)
    (message : μ) (now : Instant) :
    Deadline.prepare ⟨now + d⟩ now message =
      .request ⟨message,
        Metadata.empty.insert Timeout.header (Metadata.bytesOf (String.ofList text))⟩ := by
  have hearly : now < now + d := Nat.lt_add_of_pos_right positive
  simp only [Deadline.prepare, Deadline.remaining?, hearly, if_true, Nat.add_sub_cancel_left,
    written]

/-- What the server reads of a header that says the time left. -/
theorem agrees_of_write? (written : Timeout.write? d = some text) :
    ∃ u read, Timeout.Finest d u ∧ text = Nat.toDigits 10 (d / u.length) ++ [u.letter] ∧
      Timeout.Agrees d u read ∧
      (∀ m : Metadata, Timeout.ofMetadata?
        (m.insert Timeout.header (Metadata.bytesOf (String.ofList text))) = some read) ∧
      (0 < d → ∀ {μ : Type} (message : μ) (now : Instant), ∃ request,
        Deadline.prepare ⟨now + d⟩ now message = .request request ∧ request.message = message ∧
          Timeout.ofMetadata? request.metadata = some read) := by
  obtain ⟨u, hu, -, htext⟩ := Timeout.write?_eq_some_iff.mp written
  have hread (m : Metadata) : Timeout.ofMetadata?
      (m.insert Timeout.header (Metadata.bytesOf (String.ofList text))) =
        some (d / u.length * u.length) := by
    obtain ⟨v, hv, hm⟩ := Timeout.ofMetadata?_of_write? m written
    cases hu.symm.trans hv
    exact hm
  have hfinest := Timeout.finest_of_unit? hu
  refine ⟨u, d / u.length * u.length, hfinest, htext, hfinest.agrees, hread, ?_⟩
  intro positive μ message now
  exact ⟨_, prepare_of_write? written positive message now, rfl, hread .empty⟩

theorem agrees_of_minutes :
    Timeout.write? 123456789012 = some "123456m".toList ∧
      ∃ u read, Timeout.Finest 123456789012 u ∧
        "123456m".toList = Nat.toDigits 10 (123456789012 / u.length) ++ [u.letter] ∧
        Timeout.Agrees 123456789012 u read ∧
        (∀ m : Metadata, Timeout.ofMetadata?
          (m.insert Timeout.header (Metadata.bytesOf (String.ofList "123456m".toList))) =
            some read) ∧
        (0 < 123456789012 → ∀ {μ : Type} (message : μ) (now : Instant), ∃ request,
          Deadline.prepare ⟨now + 123456789012⟩ now message = .request request ∧
            request.message = message ∧ Timeout.ofMetadata? request.metadata = some read) := by
  have hwritten : Timeout.write? 123456789012 = some "123456m".toList := by decide +kernel
  exact ⟨hwritten, agrees_of_write? hwritten⟩

end Client

end Menagerie
