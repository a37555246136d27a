import Mathlib.Data.Nat.Digits.Defs
import Menagerie.Proofs.Timeout

/-!
# How timeouts are spelled

`Spells` is the grammar of the header's value in bytes, with the duration that each value stands for.
`ofMetadata?_iff_spells`: the reader accepts these values and no others, and reads the duration.

`readStrictly` reads the bytes with all that could break a reader off on its way: a cut inside a
character, or a number that is too large for 64 bits. It never breaks off, and reads the same.
-/

namespace Menagerie.Timeout

-- ---------------------------------------------------------------------------
-- The grammar
-- ---------------------------------------------------------------------------

def IsDigit (b : UInt8) : Prop := 48 ≤ b.toNat ∧ b.toNat ≤ 57

instance (b : UInt8) : Decidable (IsDigit b) := by
  unfold IsDigit
  infer_instance

def decimal (digits : List UInt8) : Nat := Nat.ofDigits 10 (digits.map fun b => b.toNat - 48).reverse

def TimeUnit.byte : TimeUnit → UInt8
  | .hour => 'H'.toUInt8
  | .minute => 'M'.toUInt8
  | .second => 'S'.toUInt8
  | .milli => 'm'.toUInt8
  | .micro => 'u'.toUInt8
  | .nano => 'n'.toUInt8

/-- One to eight digits and the letter of a unit spell so many of the unit. -/
inductive Spells : List UInt8 → Duration → Prop where
  | digits {digits : List UInt8} (u : TimeUnit) (nonempty : digits ≠ []) (few : digits.length ≤ 8)
      (ascii : ∀ b ∈ digits, IsDigit b) : Spells (digits ++ [u.byte]) (decimal digits * u.length)

variable {d : Duration} {u : TimeUnit} {b : UInt8} {bytes digits : List UInt8} {text : List Char}

theorem decimal_lt (ascii : ∀ b ∈ digits, IsDigit b) : decimal digits < 10 ^ digits.length := by
  have hlt : ∀ x ∈ (digits.map fun b => b.toNat - 48).reverse, x < 10 := by
    intro x hx
    obtain ⟨b, hb, rfl⟩ := List.mem_map.mp (List.mem_reverse.mp hx)
    obtain ⟨-, hhigh⟩ := ascii b hb
    omega
  simpa [decimal] using Nat.ofDigits_lt_base_pow_length (by decide) hlt

theorem decimal_lt_of_few (few : digits.length ≤ 8) (ascii : ∀ b ∈ digits, IsDigit b) :
    decimal digits < 100000000 :=
  Nat.lt_of_lt_of_le (decimal_lt ascii) (Nat.pow_le_pow_right (by decide) few)

theorem Spells.lt_limit (h : Spells bytes d) : d < limit := by
  cases h with
  | digits u nonempty few ascii =>
    calc decimal _ * u.length
        < 100000000 * u.length :=
          Nat.mul_lt_mul_of_pos_right (decimal_lt_of_few few ascii) (by cases u <;> decide)
      _ ≤ limit := Nat.mul_le_mul_left 100000000 u.length_le_hour

-- ---------------------------------------------------------------------------
-- Bytes and characters
-- ---------------------------------------------------------------------------

def characterOf (b : UInt8) : Char := Char.ofNat b.toNat

@[simp] theorem toNat_characterOf (b : UInt8) : (characterOf b).toNat = b.toNat := by
  have hvalid : b.toNat.isValidChar := .inl (Nat.lt_trans b.toNat_lt (by decide))
  rw [characterOf, Char.ofNat, dif_pos hvalid]
  rfl

theorem characterOf_injective {b b' : UInt8} (h : characterOf b = characterOf b') : b = b' := by
  have hnat := congrArg Char.toNat h
  rw [toNat_characterOf, toNat_characterOf] at hnat
  exact UInt8.toNat_inj.mp hnat

theorem characterOf_byte (u : TimeUnit) : characterOf u.byte = u.letter := by
  cases u <;> rfl

theorem isDigit_characterOf : (characterOf b).isDigit = true ↔ IsDigit b := by
  rw [Char.isDigit_iff_toNat, toNat_characterOf]
  rfl

theorem IsDigit.isVisible (h : IsDigit b) : Metadata.isVisible b = true := by
  obtain ⟨hlow, hhigh⟩ := h
  have hlow' : 32 ≤ b := UInt8.le_iff_toNat_le.mpr (Nat.le_trans (by decide) hlow)
  have hhigh' : b < 127 := UInt8.lt_iff_toNat_lt.mpr (Nat.lt_of_le_of_lt hhigh (by decide))
  simp [Metadata.isVisible, hlow', hhigh']

theorem TimeUnit.isVisible_byte (u : TimeUnit) : Metadata.isVisible u.byte = true := by
  cases u <;> decide

theorem Spells.isVisible (h : Spells bytes d) : bytes.all Metadata.isVisible = true := by
  cases h with
  | digits u nonempty few ascii =>
    rw [List.all_append, Bool.and_eq_true, List.all_eq_true]
    exact ⟨fun b hb => (ascii b hb).isVisible, by simp [u.isVisible_byte]⟩

theorem Spells.two_le_length (h : Spells bytes d) : 2 ≤ bytes.length := by
  cases h with
  | digits u nonempty =>
    rw [List.length_append, List.length_singleton]
    exact Nat.succ_le_succ (List.length_pos_iff.mpr nonempty)

theorem value_characters (digits : List UInt8) :
    value (digits.map characterOf) = decimal digits := by
  rw [value, decimal, Nat.ofDigits_eq_foldr, List.foldr_reverse, List.foldl_map, List.foldl_map]
  simp [Nat.add_comm]

-- ---------------------------------------------------------------------------
-- The reader
-- ---------------------------------------------------------------------------

theorem TimeUnit.ofLetter?_eq_some_iff {c : Char} : ofLetter? c = some u ↔ c = u.letter := by
  constructor
  · intro h
    unfold ofLetter? at h
    split at h <;> cases h <;> rfl
  · rintro rfl
    exact ofLetter?_letter u

theorem parse?_eq_some_iff : parse? text = some d ↔
    ∃ digits u, text = digits ++ [TimeUnit.letter u] ∧ digits ≠ [] ∧ digits.length ≤ digitLimit ∧
      digits.all Char.isDigit = true ∧ d = value digits * u.length := by
  constructor
  · intro h
    unfold parse? at h
    split at h
    next => cases h
    next letter hlast =>
      obtain ⟨digits, rfl⟩ := List.getLast?_eq_some_iff.mp hlast
      simp only [List.dropLast_concat] at h
      split at h
      next hdigits =>
        obtain ⟨u, hu, rfl⟩ := Option.map_eq_some_iff.mp h
        rw [TimeUnit.ofLetter?_eq_some_iff.mp hu]
        exact ⟨digits, u, rfl, hdigits.1, hdigits.2.1, hdigits.2.2, rfl⟩
      next => cases h
  · rintro ⟨digits, u, rfl, hsome, hfew, hdigits, rfl⟩
    simp [parse?, hsome, hfew, hdigits]

def readText (bytes : List UInt8) : Option Duration :=
  (Metadata.textOf? bytes).bind fun text => parse? text.toList

theorem readText_of_visible (visible : bytes.all Metadata.isVisible = true) :
    readText bytes = parse? (bytes.map characterOf) := by
  rw [readText, Metadata.textOf?, if_pos visible, Option.bind_some, String.toList_ofList]
  rfl

theorem readText_eq_some_iff : readText bytes = some d ↔ Spells bytes d := by
  constructor
  · intro h
    have hvisible : bytes.all Metadata.isVisible = true := by
      by_contra hhidden
      simp [readText, Metadata.textOf?, hhidden] at h
    rw [readText_of_visible hvisible, parse?_eq_some_iff] at h
    obtain ⟨characters, u, htext, hnonempty, hfew, hdigits, rfl⟩ := h
    obtain ⟨digits, letter, rfl, rfl, hletter⟩ := List.map_eq_append_iff.mp htext
    obtain ⟨b, rfl, hb⟩ := List.map_eq_singleton_iff.mp hletter
    obtain rfl : b = u.byte := characterOf_injective (hb.trans (characterOf_byte u).symm)
    rw [List.length_map] at hfew
    rw [value_characters]
    refine .digits u (by simpa using hnonempty) hfew fun b hb => ?_
    exact isDigit_characterOf.mp (List.all_eq_true.mp hdigits _ (List.mem_map_of_mem hb))
  · intro h
    rw [readText_of_visible h.isVisible, parse?_eq_some_iff]
    cases h with
    | @digits digits u nonempty few ascii =>
      refine ⟨digits.map characterOf, u, ?_, by simpa using nonempty, ?_, ?_, ?_⟩
      · rw [List.map_append, List.map_singleton, characterOf_byte]
      · rw [List.length_map]
        exact few
      · simpa [isDigit_characterOf] using ascii
      · rw [value_characters]

-- ---------------------------------------------------------------------------
-- A reader that can break off
-- ---------------------------------------------------------------------------

/-- What would break a reader off. -/
inductive Mishap where
  | cut
  | overflow
  deriving DecidableEq, Repr

def times (n k : Nat) : Except Mishap Nat :=
  if n * k < UInt64.size then .ok (n * k) else .error .overflow

/-- A character begins here, or the text ends: the bytes inside a character are 80 to BF. -/
def isBoundary (text : List UInt8) (i : Nat) : Bool :=
  match text[i]? with
  | some b => b < 0x80 || 0xC0 ≤ b
  | none => i = text.length

def splitAt (text : List UInt8) (i : Nat) : Except Mishap (List UInt8 × List UInt8) :=
  if isBoundary text i then .ok (text.take i, text.drop i) else .error .cut

def TimeUnit.ofByte? (b : UInt8) : Option TimeUnit := all.find? (·.byte = b)

/-- So many of the unit; hours and minutes are counted in seconds. -/
def TimeUnit.times (u : TimeUnit) (n : Nat) : Except Mishap Duration :=
  match u with
  | .hour => do
    let minutes ← Timeout.times n 60
    let seconds ← Timeout.times minutes 60
    return seconds * second.length
  | .minute => do
    let seconds ← Timeout.times n 60
    return seconds * second.length
  | .second | .milli | .micro | .nano => return n * u.length

def readParts (digits letter : List UInt8) : Except Mishap (Option Duration) :=
  if digitLimit < digits.length ∨ ¬ digits.all (IsDigit ·) then .ok none
  else if UInt64.size ≤ decimal digits then .ok none
  else match letter.head?.bind TimeUnit.ofByte? with
    | some u => some <$> u.times (decimal digits)
    | none => .ok none

/-- Reads the bytes before the last one as a number, and the last one as a unit. -/
def readStrictly (bytes : List UInt8) : Except Mishap (Option Duration) :=
  if ¬ bytes.all Metadata.isVisible ∨ bytes.length < 2 then .ok none
  else do
    let (digits, letter) ← splitAt bytes (bytes.length - 1)
    readParts digits letter

theorem times_of_lt {n k : Nat} (h : n * k < UInt64.size) : times n k = .ok (n * k) := if_pos h

theorem TimeUnit.times_of_lt {n : Nat} (h : n < 100000000) : u.times n = .ok (n * u.length) := by
  have hminutes : n * 60 < UInt64.size := by
    simp only [UInt64.size]
    omega
  have hseconds : n * 60 * 60 < UInt64.size := by
    simp only [UInt64.size]
    omega
  cases u with
  | hour =>
    simp only [times, Timeout.times_of_lt hminutes, Timeout.times_of_lt hseconds, bind, Except.bind,
      pure, Except.pure, length, Nat.mul_assoc]
  | minute =>
    simp only [times, Timeout.times_of_lt hminutes, bind, Except.bind, pure, Except.pure, length,
      Nat.mul_assoc]
  | second | milli | micro | nano => rfl

theorem splitAt_last (visible : Metadata.isVisible b = true) :
    splitAt (digits ++ [b]) digits.length = .ok (digits, [b]) := by
  have hascii : b < 0x80 := by
    simp only [Metadata.isVisible, Bool.or_eq_true, Bool.and_eq_true, decide_eq_true_eq] at visible
    rcases visible with ⟨-, hlt⟩ | rfl
    · exact UInt8.lt_trans hlt (by decide)
    · decide
  simp [splitAt, isBoundary, hascii]

theorem TimeUnit.ofByte?_eq_some_iff : ofByte? b = some u ↔ u.byte = b := by
  constructor
  · intro h
    simpa using List.find?_some h
  · rintro rfl
    cases u <;> rfl

theorem spells_append_iff : Spells (digits ++ [b]) d ↔
    digits ≠ [] ∧ digits.length ≤ 8 ∧ (∀ b ∈ digits, IsDigit b) ∧
      ∃ u : TimeUnit, u.byte = b ∧ d = decimal digits * u.length := by
  constructor
  · intro h
    generalize hbytes : digits ++ [b] = bytes at h
    cases h with
    | digits u nonempty few ascii =>
      obtain ⟨rfl, rfl⟩ := List.append_singleton_inj.mp hbytes
      exact ⟨nonempty, few, ascii, u, rfl, rfl⟩
  · rintro ⟨hnonempty, hfew, hascii, u, rfl, rfl⟩
    exact .digits u hnonempty hfew hascii

theorem exists_readParts (nonempty : digits ≠ []) (b : UInt8) :
    ∃ result, readParts digits [b] = .ok result ∧
      ∀ d, result = some d ↔ Spells (digits ++ [b]) d := by
  unfold readParts
  split
  next hbad =>
    refine ⟨none, rfl, fun d => ⟨nofun, fun h => ?_⟩⟩
    obtain ⟨-, hfew, hascii, -⟩ := spells_append_iff.mp h
    rcases hbad with hmany | hother
    · exact absurd hfew (Nat.not_le.mpr hmany)
    · exact absurd (by simpa using hascii) hother
  next hgood =>
    rw [not_or, Nat.not_lt, Decidable.not_not] at hgood
    obtain ⟨hfew, hall⟩ := hgood
    have hascii : ∀ b ∈ digits, IsDigit b := by simpa using hall
    have hsmall := decimal_lt_of_few hfew hascii
    rw [if_neg (Nat.not_le.mpr (Nat.lt_trans hsmall (by decide))), List.head?_cons,
      Option.bind_some]
    cases hunit : TimeUnit.ofByte? b with
    | none =>
      refine ⟨none, rfl, fun d => ⟨nofun, fun h => ?_⟩⟩
      obtain ⟨-, -, -, u, hu, -⟩ := spells_append_iff.mp h
      rw [TimeUnit.ofByte?_eq_some_iff.mpr hu] at hunit
      cases hunit
    | some u =>
      have hbyte := TimeUnit.ofByte?_eq_some_iff.mp hunit
      refine ⟨some (decimal digits * u.length),
        congrArg (Functor.map some) (TimeUnit.times_of_lt hsmall), fun d => ⟨?_, fun h => ?_⟩⟩
      · rintro ⟨⟩
        exact spells_append_iff.mpr ⟨nonempty, hfew, hascii, u, hbyte, rfl⟩
      · obtain ⟨-, -, -, v, hv, rfl⟩ := spells_append_iff.mp h
        rw [TimeUnit.ofByte?_eq_some_iff.mpr hv] at hunit
        cases hunit
        rfl

/-- Nothing goes wrong on the way, and what is read is what the bytes spell. -/
theorem exists_readStrictly (bytes : List UInt8) :
    ∃ result, readStrictly bytes = .ok result ∧ ∀ d, result = some d ↔ Spells bytes d := by
  unfold readStrictly
  split
  next hbad =>
    refine ⟨none, rfl, fun d => ⟨nofun, fun h => ?_⟩⟩
    rcases hbad with hhidden | hshort
    · exact absurd h.isVisible hhidden
    · exact absurd h.two_le_length (Nat.not_le.mpr hshort)
  next hgood =>
    rw [not_or, Decidable.not_not, Nat.not_lt] at hgood
    obtain ⟨hvisible, hlong⟩ := hgood
    rcases List.eq_nil_or_concat bytes with rfl | ⟨digits, b, rfl⟩
    · exact absurd hlong (by decide)
    · rw [List.concat_eq_append] at hvisible hlong ⊢
      have hlast : Metadata.isVisible b = true :=
        List.all_eq_true.mp hvisible b (List.mem_append_right _ List.mem_cons_self)
      have hnonempty : digits ≠ [] := by
        rintro rfl
        simp at hlong
      rw [List.length_append, List.length_singleton, Nat.add_sub_cancel, splitAt_last hlast]
      exact exists_readParts hnonempty b

theorem readStrictly_eq (bytes : List UInt8) : readStrictly bytes = .ok (readText bytes) := by
  obtain ⟨result, hresult, hspells⟩ := exists_readStrictly bytes
  rw [hresult]
  refine congrArg _ (Option.ext fun d => ?_)
  exact (hspells d).trans readText_eq_some_iff.symm

-- ---------------------------------------------------------------------------
-- Headers
-- ---------------------------------------------------------------------------

def readHeader (m : Metadata) : Except Mishap (Option Duration) :=
  match m.get? header with
  | some bytes => readStrictly bytes
  | none => .ok none

theorem ofMetadata?_eq (m : Metadata) : ofMetadata? m = (m.get? header).bind readText :=
  Option.bind_assoc _ _ _

/-- The reader accepts the first value if it spells a duration, and reads this duration, which is
below the limit of what can be written; nothing breaks it off. -/
theorem ofMetadata?_iff_spells (m : Metadata) :
    (∀ d, ofMetadata? m = some d ↔ ∃ bytes, m.get? header = some bytes ∧ Spells bytes d) ∧
      (∀ d, ofMetadata? m = some d → d < limit) ∧ readHeader m = .ok (ofMetadata? m) := by
  have hiff : ∀ d, ofMetadata? m = some d ↔
      ∃ bytes, m.get? header = some bytes ∧ Spells bytes d := by
    intro d
    simp only [ofMetadata?_eq, Option.bind_eq_some_iff, readText_eq_some_iff]
  refine ⟨hiff, fun d hd => ?_, ?_⟩
  · obtain ⟨bytes, -, hspells⟩ := (hiff d).mp hd
    exact hspells.lt_limit
  · rw [readHeader, ofMetadata?_eq]
    cases m.get? header with
    | none => rfl
    | some bytes => exact readStrictly_eq bytes

end Menagerie.Timeout
