import Menagerie.Proofs.Metadata
import Menagerie.Timeout

/-!
# Timeouts that are written and read back

A duration that is written into a header is read back cut down to whole units of the unit that was
chosen, so never longer than it was: `ofMetadata?_of_write?`. All durations below `limit` can be
written, and no others.
-/

namespace Menagerie

-- ---------------------------------------------------------------------------
-- Digits and units
-- ---------------------------------------------------------------------------

namespace Timeout

variable {d e : Duration} {u : TimeUnit} {text : List Char}

@[simp] theorem TimeUnit.ofLetter?_letter (u : TimeUnit) : ofLetter? u.letter = some u := by
  cases u <;> rfl

theorem TimeUnit.printable_letter (u : TimeUnit) : Metadata.Printable u.letter := by
  cases u <;> exact ⟨by decide, by decide⟩

theorem value_toDigits (n : Nat) : value (Nat.toDigits 10 n) = n := Nat.ofDigitChars_ten_toDigits

theorem parse?_toDigits {n : Nat} (small : n < Nat.pow 10 digitLimit) (u : TimeUnit) :
    parse? (Nat.toDigits 10 n ++ [u.letter]) = some (n * u.length) := by
  have hlength : (Nat.toDigits 10 n).length ≤ digitLimit :=
    (Nat.length_toDigits_le_iff (by decide) (by decide)).mpr small
  have hdigits : (Nat.toDigits 10 n).all Char.isDigit = true :=
    List.all_eq_true.mpr fun c hc => Nat.isDigit_of_mem_toDigits (by decide) (by decide) hc
  simp [parse?, Nat.toDigits_ne_nil, hlength, hdigits, value_toDigits]

theorem plain_toDigits (n : Nat) (u : TimeUnit) :
    Metadata.Plain (String.ofList (Nat.toDigits 10 n ++ [u.letter])) := by
  intro c hc
  refine .inr ?_
  rw [String.toList_ofList] at hc
  rcases List.mem_append.mp hc with hdigit | hletter
  · have hd := Nat.isDigit_of_mem_toDigits (by decide) (by decide) hdigit
    obtain ⟨hlow, hhigh⟩ := Char.isDigit_iff_toNat.mp hd
    exact ⟨Nat.le_trans (by decide) hlow, Nat.lt_of_le_of_lt hhigh (by decide)⟩
  · rw [List.mem_singleton.mp hletter]
    exact u.printable_letter

/-- What is written is the number of whole units, in a unit that leaves at most eight digits. -/
theorem write?_eq_some_iff :
    write? d = some text ↔ ∃ u, unit? d = some u ∧ d / u.length < Nat.pow 10 digitLimit ∧
      text = Nat.toDigits 10 (d / u.length) ++ [u.letter] := by
  unfold write?
  constructor
  · intro h
    obtain ⟨u, hu, rfl⟩ := Option.map_eq_some_iff.mp h
    exact ⟨u, hu, by simpa using List.find?_some hu, rfl⟩
  · rintro ⟨u, hu, -, rfl⟩
    rw [hu]
    rfl

/-- The shortest duration that no header can say: its hours need more than eight digits. -/
def limit : Duration := Nat.pow 10 digitLimit * TimeUnit.hour.length

theorem TimeUnit.length_le_hour (u : TimeUnit) : u.length ≤ TimeUnit.hour.length := by
  cases u <;> decide

theorem isSome_write?_iff : (write? d).isSome = true ↔ d < limit := by
  simp only [write?, unit?, Option.isSome_map, List.find?_isSome, decide_eq_true_eq]
  constructor
  · rintro ⟨u, -, hsmall⟩
    have hcoarse : d / TimeUnit.hour.length ≤ d / u.length :=
      Nat.div_le_div_left u.length_le_hour (by cases u <;> decide)
    exact (Nat.div_lt_iff_lt_mul (by decide)).mp (Nat.lt_of_le_of_lt hcoarse hsmall)
  · intro h
    exact ⟨.hour, by decide, (Nat.div_lt_iff_lt_mul (by decide)).mpr h⟩

theorem isSome_write?_of_le (h : e ≤ d) (fits : (write? d).isSome = true) :
    (write? e).isSome = true :=
  isSome_write?_iff.mpr (Nat.lt_of_le_of_lt h (isSome_write?_iff.mp fits))

/-- A timeout that is written into a header comes out shorter by less than one unit. -/
theorem ofMetadata?_of_write? (m : Metadata) (h : write? d = some text) :
    ∃ u, unit? d = some u ∧
      ofMetadata? (m.insert header (Metadata.bytesOf (String.ofList text))) =
        some (d / u.length * u.length) := by
  obtain ⟨u, hu, hsmall, rfl⟩ := write?_eq_some_iff.mp h
  refine ⟨u, hu, ?_⟩
  rw [ofMetadata?, Metadata.text?_insert _ _ (plain_toDigits _ u), Option.bind_some,
    String.toList_ofList, parse?_toDigits hsmall]

end Timeout

end Menagerie
