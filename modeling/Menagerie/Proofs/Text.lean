import Mathlib.Data.List.Basic
import Menagerie.Text.Parts
import Menagerie.Text.Digits

/-!
# Texts in bytes, in parts and in digits

A character of ASCII is one byte, and all bytes of any other character are above ASCII. A text falls
into the parts between its separators. A number in hexadecimal digits reads as itself:
`readHex?_hexText`.
-/

namespace Menagerie.Text

variable {a c separator : Char} {cs xs ys : List Char}

-- ---------------------------------------------------------------------------
-- Characters in bytes
-- ---------------------------------------------------------------------------

theorem toList_loop (bytes : ByteArray) (i : Nat) (before : List UInt8) :
    ByteArray.toList.loop bytes i before = before.reverse ++ bytes.data.toList.drop i := by
  fun_induction ByteArray.toList.loop bytes i before with
  | case1 i before h ih =>
    have hlength : i < bytes.data.toList.length := h
    have hget : bytes.get! i = bytes.data.toList[i] := by
      simp [ByteArray.get!, h]
    rw [ih, List.drop_eq_getElem_cons hlength, hget]
    simp
  | case2 i before h =>
    rw [List.drop_eq_nil_of_le (by simpa using h), List.append_nil]

theorem toList_toUTF8_eq (text : String) : text.toUTF8.toList = text.toByteArray.data.toList := by
  rw [String.toUTF8, ByteArray.toList, toList_loop]
  rfl

def encode (cs : List Char) : List UInt8 := cs.flatMap String.utf8EncodeChar

theorem toList_toUTF8 (text : String) : text.toUTF8.toList = encode text.toList := by
  rw [← String.ofList_toList (s := text), toList_toUTF8_eq, String.toByteArray_ofList,
    List.utf8Encode, List.toList_data_toByteArray, String.toList_ofList]
  rfl

theorem encode_append (xs ys : List Char) : encode (xs ++ ys) = encode xs ++ encode ys :=
  List.flatMap_append

theorem encode_cons (c : Char) (cs : List Char) :
    encode (c :: cs) = String.utf8EncodeChar c ++ encode cs := rfl

theorem utf8EncodeChar_of_ascii (h : c.toNat < 128) : String.utf8EncodeChar c = [c.toUInt8] := by
  have hval : c.val.toNat ≤ 127 := Nat.le_of_lt_succ h
  rw [String.utf8EncodeChar, if_pos hval]
  rfl

theorem exists_utf8EncodeChar (h : 128 ≤ c.toNat) :
    ∃ b bs, String.utf8EncodeChar c = b :: bs ∧ 0xC0 ≤ b.toNat ∧ ∀ x ∈ bs, 128 ≤ x.toNat := by
  have hval : ¬ c.val.toNat ≤ 127 := Nat.not_le.mpr h
  simp only [String.utf8EncodeChar, if_neg hval]
  split
  next => exact ⟨_, _, rfl, by simp; omega, by simp; omega⟩
  next =>
    split
    next => exact ⟨_, _, rfl, by simp; omega, by simp; omega⟩
    next => exact ⟨_, _, rfl, by simp; omega, by simp; omega⟩

theorem exists_cons_utf8EncodeChar (c : Char) :
    ∃ b bs, String.utf8EncodeChar c = b :: bs ∧ ∀ x ∈ bs, 128 ≤ x.toNat := by
  rcases Nat.lt_or_ge c.toNat 128 with hascii | hlong
  · exact ⟨c.toUInt8, [], utf8EncodeChar_of_ascii hascii, by simp⟩
  · obtain ⟨b, bs, hbytes, -, hlater⟩ := exists_utf8EncodeChar hlong
    exact ⟨b, bs, hbytes, hlater⟩

theorem toNat_toUInt8 (ascii : a.toNat < 128) : a.toUInt8.toNat = a.toNat := by
  rw [Char.toUInt8, UInt32.toNat_toUInt8]
  exact Nat.mod_eq_of_lt (Nat.lt_trans ascii (by decide))

theorem mem_utf8EncodeChar_iff (ascii : a.toNat < 128) :
    a.toUInt8 ∈ String.utf8EncodeChar c ↔ c = a := by
  have hnat := toNat_toUInt8 ascii
  constructor
  · intro h
    rcases Nat.lt_or_ge c.toNat 128 with hascii | hlong
    · rw [utf8EncodeChar_of_ascii hascii, List.mem_singleton] at h
      exact Char.toNat_inj.mp (by rw [← hnat, h, toNat_toUInt8 hascii])
    · obtain ⟨b, bs, hbytes, hfirst, hinside⟩ := exists_utf8EncodeChar hlong
      rw [hbytes, List.mem_cons] at h
      rcases h with rfl | h
      · omega
      · have := hinside _ h
        omega
  · rintro rfl
    rw [utf8EncodeChar_of_ascii ascii]
    exact List.mem_singleton_self _

theorem mem_encode_iff (ascii : a.toNat < 128) : a.toUInt8 ∈ encode cs ↔ a ∈ cs := by
  simp [encode, mem_utf8EncodeChar_iff ascii]

-- ---------------------------------------------------------------------------
-- Parts
-- ---------------------------------------------------------------------------

theorem split_ne_nil (separator : Char) (cs : List Char) : split separator cs ≠ [] := by
  cases cs with
  | nil => exact List.cons_ne_nil _ _
  | cons c cs =>
    rw [split]
    split
    · exact List.cons_ne_nil _ _
    · split <;> exact List.cons_ne_nil _ _

theorem split_of_not_mem (h : separator ∉ cs) : split separator cs = [cs] := by
  induction cs with
  | nil => rfl
  | cons c cs ih =>
    obtain ⟨hne, hrest⟩ := List.ne_and_not_mem_of_not_mem_cons h
    rw [split, ih hrest]
    exact if_neg hne.symm

theorem split_append_cons (h : separator ∉ cs) (rest : List Char) :
    split separator (cs ++ separator :: rest) = cs :: split separator rest := by
  induction cs with
  | nil =>
    rw [List.nil_append, split]
    cases hrest : split separator rest with
    | nil => exact absurd hrest (split_ne_nil separator rest)
    | cons part parts => exact if_pos rfl
  | cons c cs ih =>
    obtain ⟨hne, hrest⟩ := List.ne_and_not_mem_of_not_mem_cons h
    rw [List.cons_append, split, ih hrest]
    exact if_neg hne.symm

theorem trimChars_of_not_blank (h : ∀ c ∈ cs, isBlank c = false) : trimChars cs = cs := by
  have hkeep : ∀ ds : List Char, (∀ c ∈ ds, isBlank c = false) → ds.dropWhile isBlank = ds := by
    rintro (_ | ⟨d, ds⟩) hds
    · rfl
    · simp [hds d List.mem_cons_self]
  rw [trimChars, dropTrailing, hkeep cs h, hkeep, List.reverse_reverse]
  simpa using h

-- ---------------------------------------------------------------------------
-- Hexadecimal digits
-- ---------------------------------------------------------------------------

theorem hexDigit?_digitChar : ∀ n < 16, hexDigit? n.digitChar = some n := by
  decide

theorem foldlM_toDigits (n : Nat) :
    (Nat.toDigits 16 n).foldlM (fun m c => (hexDigit? c).map (16 * m + ·)) 0 = some n := by
  induction n using Nat.strongRecOn with
  | ind n ih =>
    rw [Nat.toDigits_eq_if (by decide)]
    split
    next hsmall => simp [hexDigit?_digitChar n hsmall]
    next hlarge =>
      have hdigit := hexDigit?_digitChar (n % 16) (Nat.mod_lt n (by decide))
      simp [ih (n / 16) (by omega), hdigit, Nat.div_add_mod]

theorem foldlM_replicate (width : Nat) :
    (List.replicate width '0').foldlM (fun m c => (hexDigit? c).map (16 * m + ·)) 0 = some 0 := by
  induction width with
  | zero => rfl
  | succ width ih =>
    rw [List.replicate_succ, List.foldlM_cons]
    exact ih

theorem hexValue?_hexText (width n : Nat) : hexValue? (hexText width n).toList = some n := by
  simp [hexValue?, hexText, foldlM_replicate, foldlM_toDigits]

theorem length_hexText {width n : Nat} (positive : 0 < width) (small : n < Nat.pow 16 width) :
    (hexText width n).length = width := by
  have hlength := (Nat.length_toDigits_le_iff (by decide) positive).mpr small
  simp [hexText]
  omega

theorem mem_toDigits {c : Char} {n : Nat} (h : c ∈ Nat.toDigits 16 n) :
    ∃ k < 16, c = Nat.digitChar k := by
  induction n using Nat.strongRecOn with
  | ind n ih =>
    rw [Nat.toDigits_eq_if (by decide)] at h
    split at h
    next hsmall => exact ⟨n, hsmall, List.mem_singleton.mp h⟩
    next hlarge =>
      rcases List.mem_append.mp h with hfirst | hlast
      · exact ih (n / 16) (by omega) hfirst
      · exact ⟨n % 16, Nat.mod_lt n (by decide), List.mem_singleton.mp hlast⟩

theorem mem_hexText {c : Char} {width n : Nat} (h : c ∈ (hexText width n).toList) :
    c ∈ "0123456789abcdef".toList := by
  have hdigits : ∀ k < 16, Nat.digitChar k ∈ "0123456789abcdef".toList := by decide
  simp only [hexText, String.toList_ofList, List.mem_append, List.mem_replicate] at h
  rcases h with ⟨-, rfl⟩ | h
  · decide
  · obtain ⟨k, hk, rfl⟩ := mem_toDigits h
    exact hdigits k hk

theorem readHex?_hexText {bound width n : Nat} (small : n < bound) :
    readHex? bound (hexText width n).toList = some n := by
  have hvalue := hexValue?_hexText width n
  unfold readHex?
  split
  next rest hplus =>
    have hmem : '+' ∈ (hexText width n).toList := hplus ▸ List.mem_cons_self
    exact absurd (mem_hexText hmem) (by decide)
  next => simp [hvalue, small]

end Menagerie.Text
