import Menagerie.Proofs.StoreUri
import Menagerie.Proofs.Timeout.Spelling

/-!
# Store URIs in bytes

The places where a URI falls apart are found in its bytes. `maskBytes` searches bytes and cuts them,
and would break off at a cut inside a character. `maskBytes_encode`: it never does, and its result is
the masked text in bytes.
-/

namespace Menagerie

-- ---------------------------------------------------------------------------
-- Cuts
-- ---------------------------------------------------------------------------

namespace Text

theorem isBoundary_encode (xs ys : List Char) :
    Timeout.isBoundary (encode xs ++ encode ys) (encode xs).length = true := by
  unfold Timeout.isBoundary
  rw [List.getElem?_append_right (Nat.le_refl _), Nat.sub_self]
  cases ys with
  | nil => simp [encode]
  | cons c ys =>
    rw [encode_cons]
    rcases Nat.lt_or_ge c.toNat 128 with hascii | hlong
    · have hlow : c.toUInt8 < 0x80 := by
        rw [UInt8.lt_iff_toNat_lt, toNat_toUInt8 hascii]
        exact hascii
      simp [utf8EncodeChar_of_ascii hascii, hlow]
    · obtain ⟨b, bs, hbytes, hfirst, -⟩ := exists_utf8EncodeChar hlong
      have hhigh : 0xC0 ≤ b := UInt8.le_iff_toNat_le.mpr hfirst
      simp [hbytes, hhigh]

/-- A text is cut between two characters. -/
theorem splitAt_encode (xs ys : List Char) :
    Timeout.splitAt (encode (xs ++ ys)) (encode xs).length = .ok (encode xs, encode ys) := by
  rw [encode_append, Timeout.splitAt, if_pos (isBoundary_encode xs ys), List.take_left,
    List.drop_left]

end Text

-- ---------------------------------------------------------------------------
-- Masking bytes
-- ---------------------------------------------------------------------------

namespace StoreUri

open Text Timeout

variable {uri cs xs ys info hosts authority : List Char} {c : Char} {b : UInt8} {bytes : List UInt8}

def separatorAt? : List UInt8 → Option Nat
  | [] => none
  | b :: rest =>
    if (encode separator).isPrefixOf (b :: rest) then some 0 else (separatorAt? rest).map (· + 1)

def endsAuthorityByte (b : UInt8) : Bool := b = '/'.toUInt8 || b = '?'.toUInt8

def lastAt? (bytes : List UInt8) : Option Nat :=
  (bytes.reverse.findIdx? (· = '@'.toUInt8)).map (bytes.length - 1 - ·)

def maskBytes (uri : List UInt8) : Except Mishap (List UInt8) :=
  match separatorAt? uri with
  | none => .ok uri
  | some i => do
    let (scheme, _) ← splitAt uri i
    let (_, rest) ← splitAt uri (i + (encode separator).length)
    let (authority, tail) ← splitAt rest (rest.findIdx endsAuthorityByte)
    match lastAt? authority with
    | none => return uri
    | some j => do
      let _ ← splitAt authority j
      let (_, hosts) ← splitAt authority (j + 1)
      return scheme ++ encode (separator ++ "***@".toList) ++ hosts ++ tail

theorem encode_prefix_iff : encode xs <+: encode ys ↔ xs <+: ys := by
  constructor
  · rintro ⟨bytes, h⟩
    refine List.isPrefix_of_utf8Encode_append_eq_utf8Encode bytes.toByteArray ?_
    have hbytes := congrArg List.toByteArray h
    rwa [List.toByteArray_append] at hbytes
  · rintro ⟨rest, rfl⟩
    rw [encode_append]
    exact List.prefix_append _ _

-- ---------------------------------------------------------------------------
-- The separator
-- ---------------------------------------------------------------------------

theorem separatorAt?_of_starts (h : encode separator <+: bytes) : separatorAt? bytes = some 0 := by
  obtain ⟨rest, rfl⟩ := h
  rfl

theorem separatorAt?_cons (h : ¬ encode separator <+: b :: bytes) :
    separatorAt? (b :: bytes) = (separatorAt? bytes).map (· + 1) := by
  rw [separatorAt?, if_neg (by simpa using h)]

theorem separatorAt?_append (h : ':'.toUInt8 ∉ bytes) (rest : List UInt8) :
    separatorAt? (bytes ++ rest) = (separatorAt? rest).map (· + bytes.length) := by
  induction bytes with
  | nil => simp
  | cons b bytes ih =>
    rw [List.mem_cons, not_or] at h
    have hstarts : ¬ encode separator <+: b :: (bytes ++ rest) := by
      rintro ⟨_, heq⟩
      exact h.1 (List.head_eq_of_cons_eq heq)
    rw [List.cons_append, separatorAt?_cons hstarts, ih h.2, Option.map_map]
    rfl

theorem separatorAt?_encode (uri : List Char) :
    separatorAt? (encode uri) = (splitScheme? uri).map fun parts => (encode parts.1).length := by
  induction uri with
  | nil => rfl
  | cons c uri ih =>
    by_cases hstarts : separator <+: c :: uri
    · rw [separatorAt?_of_starts (encode_prefix_iff.mpr hstarts)]
      obtain ⟨rest, hrest⟩ := hstarts
      rw [← hrest]
      rfl
    · obtain ⟨b, bs, hbytes, hlater⟩ := exists_cons_utf8EncodeChar c
      -- no later byte of a character is the first of the separator
      have hcolon : ':'.toUInt8 ∉ bs := fun h => absurd (hlater _ h) (by decide)
      have hlength : (String.utf8EncodeChar c).length = bs.length + 1 := by rw [hbytes]; rfl
      have hcut : ¬ encode separator <+: b :: (bs ++ encode uri) := by
        rw [← List.cons_append, ← hbytes, ← encode_cons, encode_prefix_iff]
        exact hstarts
      rw [splitScheme?_cons hstarts, encode_cons, hbytes, List.cons_append,
        separatorAt?_cons hcut, separatorAt?_append hcolon, ih]
      cases splitScheme? uri with
      | none => rfl
      | some parts => simp [encode_cons, hlength]; omega

-- ---------------------------------------------------------------------------
-- The authority
-- ---------------------------------------------------------------------------

theorem endsAuthorityByte_of_mem (h : endsAuthority c = false) (hb : b ∈ String.utf8EncodeChar c) :
    endsAuthorityByte b = false := by
  rw [endsAuthority, Bool.or_eq_false_iff, decide_eq_false_iff_not, decide_eq_false_iff_not] at h
  rw [endsAuthorityByte, Bool.or_eq_false_iff, decide_eq_false_iff_not, decide_eq_false_iff_not]
  constructor
  · rintro rfl
    exact h.1 ((mem_utf8EncodeChar_iff (by decide)).mp hb)
  · rintro rfl
    exact h.2 ((mem_utf8EncodeChar_iff (by decide)).mp hb)

theorem findIdx_encode (cs : List Char) :
    (encode cs).findIdx endsAuthorityByte =
      (encode (cs.takeWhile (! endsAuthority ·))).length := by
  induction cs with
  | nil => rfl
  | cons c cs ih =>
    cases hends : endsAuthority c with
    | true =>
      have hc : c = '/' ∨ c = '?' := by simpa [endsAuthority] using hends
      rcases hc with rfl | rfl <;> rfl
    | false =>
      have hnone : (String.utf8EncodeChar c).findIdx endsAuthorityByte =
          (String.utf8EncodeChar c).length :=
        List.findIdx_eq_length_of_false fun b hb => endsAuthorityByte_of_mem hends hb
      rw [encode_cons, List.findIdx_append, hnone, if_neg (Nat.lt_irrefl _), ih,
        List.takeWhile_cons_of_pos (by simp [hends]), encode_cons, List.length_append, Nat.add_comm]

-- ---------------------------------------------------------------------------
-- The last at sign
-- ---------------------------------------------------------------------------

theorem findIdx?_at_of_not_mem (h : '@' ∉ cs) :
    (encode cs).reverse.findIdx? (· = '@'.toUInt8) = none := by
  rw [List.findIdx?_eq_none_iff]
  intro b hb
  rw [decide_eq_false_iff_not]
  rintro rfl
  exact h ((mem_encode_iff (by decide)).mp (List.mem_reverse.mp hb))

theorem lastAt?_encode_of_not_mem (h : '@' ∉ authority) : lastAt? (encode authority) = none := by
  rw [lastAt?, findIdx?_at_of_not_mem h]
  rfl

theorem lastAt?_encode (info : List Char) (h : '@' ∉ hosts) :
    lastAt? (encode (info ++ '@' :: hosts)) = some (encode info).length := by
  have hbytes : encode (info ++ '@' :: hosts) = encode info ++ '@'.toUInt8 :: encode hosts := by
    rw [encode_append]
    rfl
  have hreverse : (encode (info ++ '@' :: hosts)).reverse =
      (encode hosts).reverse ++ '@'.toUInt8 :: (encode info).reverse := by simp [hbytes]
  have hfirst : ('@'.toUInt8 :: (encode info).reverse).findIdx? (· = '@'.toUInt8) = some 0 := rfl
  rw [lastAt?, hreverse, List.findIdx?_append, findIdx?_at_of_not_mem h, hfirst, hbytes]
  simp

-- ---------------------------------------------------------------------------
-- Masking
-- ---------------------------------------------------------------------------

theorem splitAt_authority (rest : List Char) :
    splitAt (encode rest) ((encode rest).findIdx endsAuthorityByte) =
      .ok (encode (rest.takeWhile (! endsAuthority ·)),
        encode (rest.dropWhile (! endsAuthority ·))) := by
  have hcut := splitAt_encode (rest.takeWhile (! endsAuthority ·))
    (rest.dropWhile (! endsAuthority ·))
  rwa [List.takeWhile_append_dropWhile, ← findIdx_encode] at hcut

theorem splitAt_separator (scheme rest : List Char) :
    splitAt (encode (scheme ++ separator ++ rest))
        ((encode scheme).length + (encode separator).length) =
      .ok (encode (scheme ++ separator), encode rest) := by
  rw [← List.length_append, ← encode_append]
  exact splitAt_encode _ _

theorem splitAt_at (info hosts : List Char) :
    splitAt (encode (info ++ '@' :: hosts)) ((encode info).length + 1) =
      .ok (encode (info ++ ['@']), encode hosts) := by
  have hlength : (encode (info ++ ['@'])).length = (encode info).length + 1 := by
    rw [encode_append, List.length_append]
    rfl
  have hcut := splitAt_encode (info ++ ['@']) hosts
  rwa [hlength, List.append_assoc] at hcut

/-- The bytes of a text are masked as the text is, and every cut is between two characters. -/
theorem maskBytes_encode (uri : List Char) : maskBytes (encode uri) = .ok (encode (mask uri)) := by
  cases hsplit : splitScheme? uri with
  | none => rw [maskBytes, separatorAt?_encode, mask, hsplit]; rfl
  | some parts =>
    obtain ⟨scheme, rest⟩ := parts
    have huri := eq_of_splitScheme? hsplit
    have hscheme := splitAt_encode scheme (separator ++ rest)
    rw [← List.append_assoc, ← huri] at hscheme
    have hrest := splitAt_separator scheme rest
    rw [← huri] at hrest
    simp only [maskBytes, mask, separatorAt?_encode, hsplit, Option.map_some, hscheme, hrest,
      splitAt_authority, bind, Except.bind]
    by_cases hat : '@' ∈ rest.takeWhile (! endsAuthority ·)
    · obtain ⟨info, hosts, hauthority, hlast⟩ := exists_lastAt hat
      have hinfo := splitAt_encode info ('@' :: hosts)
      simp only [hauthority, lastAt?_encode info hlast, afterLastAt?_append info hlast, hinfo,
        splitAt_at, pure, Except.pure]
      simp only [encode_append, List.append_assoc]
    · simp only [lastAt?_encode_of_not_mem hat, afterLastAt?_of_not_mem hat]
      rfl

end StoreUri

end Menagerie
