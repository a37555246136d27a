import Mathlib.Data.Nat.Digits.Defs
import Menagerie.Wire.Field

/-!
# The grammar of messages

What bytes spell: numbers, keys, values, groups and whole sequences of fields. A number has many
spellings, since bytes without bits may follow its last; fields stand in any order, as often as they
like. The readers accept these spellings and no others: `readKey_eq_ok_iff`, `skipValue_eq_ok_iff`,
`skip_eq_ok_iff`.
-/

namespace Menagerie.Wire

-- ---------------------------------------------------------------------------
-- Spellings
-- ---------------------------------------------------------------------------

/-- Groups of seven bits, least first; all but the last byte have their top bit set. Of `limit` bytes
the last one carries a single bit. -/
structure Varint.SpellsWithin (limit : Nat) (bytes : List UInt8) (n : Nat) : Prop where
  continues : ∀ b ∈ bytes.dropLast, 128 ≤ b.toNat
  stops : ∃ b ∈ bytes.getLast?, b.toNat < 128
  few : bytes.length ≤ limit
  value : Nat.ofDigits 128 (bytes.map fun b => b.toNat % 128) = n
  small : n < 2 ^ (7 * limit - 6)

abbrev Varint.Spells : List UInt8 → Nat → Prop := Varint.SpellsWithin 10

structure Key.Spells (bytes : List UInt8) (key : Key) : Prop where
  positive : 0 < key.number
  small : 8 * key.number + key.kind.toNat < UInt32.size
  code : Varint.Spells bytes (8 * key.number + key.kind.toNat)

inductive Payload where
  | number (n : Nat)
  | bytes (contents : List UInt8)
  | ignored

inductive Payload.Spells : Kind → List UInt8 → Payload → Prop where
  | varint {bytes : List UInt8} {n : Nat} (h : Varint.Spells bytes n) :
      Spells .varint bytes (.number n)
  | fixed64 {bytes : List UInt8} (h : bytes.length = 8) : Spells .fixed64 bytes .ignored
  | fixed32 {bytes : List UInt8} (h : bytes.length = 4) : Spells .fixed32 bytes .ignored
  | delimited {count contents : List UInt8} (h : Varint.Spells count contents.length) :
      Spells .delimited (count ++ contents) (.bytes contents)

/-- The fields of a group up to its end mark, with groups in it nested up to `depth` deep. -/
inductive Group : Nat → Nat → List UInt8 → Prop where
  | closed {depth number : Nat} {mark : List UInt8} (h : Key.Spells mark ⟨number, .groupEnd⟩) :
      Group depth number mark
  | value {depth number : Nat} {mark bytes rest : List UInt8} {key : Key} {payload : Payload}
      (hkey : Key.Spells mark key) (hvalue : Payload.Spells key.kind bytes payload)
      (hrest : Group (depth + 1) number rest) : Group (depth + 1) number (mark ++ bytes ++ rest)
  | group {depth number inner : Nat} {mark bytes rest : List UInt8}
      (hkey : Key.Spells mark ⟨inner, .groupStart⟩) (hinner : Group depth inner bytes)
      (hrest : Group (depth + 1) number rest) : Group (depth + 1) number (mark ++ bytes ++ rest)

inductive Value : Key → List UInt8 → Payload → Prop where
  | plain {key : Key} {bytes : List UInt8} {payload : Payload}
      (h : Payload.Spells key.kind bytes payload) : Value key bytes payload
  | group {number : Nat} {bytes : List UInt8} (h : Group (depthLimit - 1) number bytes) :
      Value ⟨number, .groupStart⟩ bytes .ignored

structure Field where
  number : Nat
  payload : Payload

inductive Field.Spells : List UInt8 → Field → Prop where
  | keyed {mark bytes : List UInt8} {key : Key} {payload : Payload} (hkey : Key.Spells mark key)
      (hvalue : Value key bytes payload) : Spells (mark ++ bytes) ⟨key.number, payload⟩

inductive Spells : List UInt8 → List Field → Prop where
  | nil : Spells [] []
  | cons {bytes rest : List UInt8} {field : Field} {fields : List Field}
      (hfield : Field.Spells bytes field) (hrest : Spells rest fields) :
      Spells (bytes ++ rest) (field :: fields)

variable {limit n number depth : Nat} {b : UInt8} {bytes rest taken contents : List UInt8}
  {key : Key} {kind : Kind} {payload : Payload} {opened outer : List Nat}

theorem Spells.append {first second : List Field} (h : Spells bytes first)
    (h' : Spells rest second) : Spells (bytes ++ rest) (first ++ second) := by
  induction h with
  | nil => exact h'
  | cons hfield _ ih =>
    rw [List.append_assoc]
    exact .cons hfield ih

-- ---------------------------------------------------------------------------
-- Numbers
-- ---------------------------------------------------------------------------

namespace Varint

theorem not_spellsWithin_nil : ¬ SpellsWithin limit [] n := by
  rintro ⟨-, ⟨b, hb, -⟩, -⟩
  cases hb

theorem not_spellsWithin_zero : ¬ SpellsWithin 0 bytes n := by
  intro h
  rw [List.eq_nil_of_length_eq_zero (Nat.le_zero.mp h.few)] at h
  exact not_spellsWithin_nil h

theorem spellsWithin_singleton_iff :
    SpellsWithin (limit + 1) [b] n ↔ b.toNat < 128 ∧ b.toNat = n ∧ (limit = 0 → n ≤ 1) := by
  constructor
  · rintro ⟨-, ⟨c, hc, hlt⟩, -, hvalue, hsmall⟩
    obtain rfl : b = c := by simpa using hc
    refine ⟨hlt, by simpa [Nat.mod_eq_of_lt hlt] using hvalue, ?_⟩
    rintro rfl
    exact Nat.le_of_lt_succ hsmall
  · rintro ⟨hlt, rfl, hone⟩
    refine ⟨by simp, ⟨b, rfl, hlt⟩, by simp, by simp [Nat.mod_eq_of_lt hlt], ?_⟩
    cases limit with
    | zero => exact Nat.lt_succ_of_le (hone rfl)
    | succ limit =>
      calc b.toNat < 2 ^ 7 := hlt
        _ ≤ 2 ^ (7 * (limit + 2) - 6) := Nat.pow_le_pow_right (by decide) (by omega)

theorem spellsWithin_cons_iff (h : bytes ≠ []) :
    SpellsWithin (limit + 1) (b :: bytes) n ↔
      128 ≤ b.toNat ∧ ∃ m, SpellsWithin limit bytes m ∧ b.toNat - 128 + 128 * m = n := by
  obtain ⟨c, tail, rfl⟩ := List.exists_cons_of_ne_nil h
  have hdigit : 128 ≤ b.toNat → b.toNat % 128 = b.toNat - 128 := by
    have := b.toNat_lt
    omega
  cases limit with
  | zero =>
    refine iff_of_false (fun h => absurd h.few (by simp)) ?_
    rintro ⟨-, m, h, -⟩
    exact not_spellsWithin_zero h
  | succ limit =>
    have hpow : 2 ^ (7 * (limit + 2) - 6) = 128 * 2 ^ (7 * (limit + 1) - 6) := by
      rw [show 7 * (limit + 2) - 6 = 7 + (7 * (limit + 1) - 6) by omega, Nat.pow_add]
    constructor
    · rintro ⟨hcontinues, hstops, hfew, hvalue, hsmall⟩
      have hb : 128 ≤ b.toNat := hcontinues b (by simp)
      rw [List.map_cons, Nat.ofDigits_cons, hdigit hb] at hvalue
      refine ⟨hb, _, ⟨fun x hx => hcontinues x (by simp [hx]), by simpa using hstops,
        by simpa using hfew, rfl, ?_⟩, hvalue⟩
      rw [hpow] at hsmall
      omega
    · rintro ⟨hb, m, ⟨hcontinues, hstops, hfew, hvalue, hsmall⟩, rfl⟩
      refine ⟨?_, by simpa using hstops, by simpa using hfew, ?_, ?_⟩
      · intro x hx
        rcases List.mem_cons.mp hx with rfl | hx
        · exact hb
        · exact hcontinues x hx
      · rw [List.map_cons, Nat.ofDigits_cons, hdigit hb, hvalue]
      · have := b.toNat_lt
        rw [hpow]
        omega

theorem readUpTo_eq_some_iff :
    readUpTo limit bytes = some (n, rest) ↔
      ∃ taken, bytes = taken ++ rest ∧ SpellsWithin limit taken n := by
  induction limit generalizing bytes n with
  | zero => simp [readUpTo, not_spellsWithin_zero]
  | succ limit ih =>
    cases bytes with
    | nil =>
      simp only [readUpTo, reduceCtorEq, false_iff]
      rintro ⟨taken, hsplit, hspells⟩
      rw [List.nil_eq_append_iff.mp hsplit |>.1] at hspells
      exact not_spellsWithin_nil hspells
    | cons b tail =>
      rw [readUpTo]
      split
      next hlast =>
        constructor
        · intro h
          split at h
          · cases h
          next hone =>
            obtain ⟨rfl, rfl⟩ := Prod.mk.inj (Option.some.inj h)
            refine ⟨[b], rfl, spellsWithin_singleton_iff.mpr ⟨hlast, rfl, fun hlimit => ?_⟩⟩
            exact Nat.le_of_not_lt fun hlt => hone ⟨hlimit, hlt⟩
        · rintro ⟨taken, hsplit, hspells⟩
          rcases List.cons_eq_append_iff.mp hsplit with ⟨rfl, -⟩ | ⟨more, rfl, rfl⟩
          · exact absurd hspells not_spellsWithin_nil
          · cases more with
            | nil =>
              obtain ⟨-, rfl, hone⟩ := spellsWithin_singleton_iff.mp hspells
              rw [if_neg (fun h => absurd (hone h.1) (Nat.not_le.mpr h.2))]
              rfl
            | cons c more =>
              have hb := ((spellsWithin_cons_iff (List.cons_ne_nil c more)).mp hspells).1
              exact absurd hlast (Nat.not_lt.mpr hb)
      next hmore =>
        simp only [Option.map_eq_some_iff, Prod.exists, Prod.mk.injEq]
        constructor
        · rintro ⟨m, r, hread, rfl, rfl⟩
          obtain ⟨taken, rfl, hspells⟩ := ih.mp hread
          have hsome : taken ≠ [] := by
            rintro rfl
            exact not_spellsWithin_nil hspells
          exact ⟨b :: taken, rfl, (spellsWithin_cons_iff hsome).mpr
            ⟨Nat.le_of_not_lt hmore, m, hspells, rfl⟩⟩
        · rintro ⟨taken, hsplit, hspells⟩
          rcases List.cons_eq_append_iff.mp hsplit with ⟨rfl, -⟩ | ⟨more, rfl, rfl⟩
          · exact absurd hspells not_spellsWithin_nil
          · cases more with
            | nil => exact absurd (spellsWithin_singleton_iff.mp hspells).1 hmore
            | cons c more =>
              obtain ⟨-, m, hm, rfl⟩ :=
                (spellsWithin_cons_iff (List.cons_ne_nil c more)).mp hspells
              exact ⟨m, rest, ih.mpr ⟨c :: more, rfl, hm⟩, rfl, rfl⟩

theorem write_of_lt (h : n < 128) : write n = [UInt8.ofNat n] := by
  rw [write, if_pos h]

theorem write_of_le (h : 128 ≤ n) :
    write n = UInt8.ofNat (n % 128 + 128) :: write (n / 128) := by
  rw [write, if_neg (Nat.not_lt.mpr h)]

theorem write_ne_nil (n : Nat) : write n ≠ [] := by
  unfold write
  split <;> simp

theorem spellsWithin_write (h : n < 2 ^ (7 * limit + 1)) :
    SpellsWithin (limit + 1) (write n) n := by
  induction limit generalizing n with
  | zero =>
    have hsmall : n < 128 := Nat.lt_of_lt_of_le h (by decide)
    rw [write_of_lt hsmall, spellsWithin_singleton_iff, UInt8.toNat_ofNat']
    exact ⟨by omega, by omega, fun _ => Nat.le_of_lt_succ h⟩
  | succ limit ih =>
    rcases Nat.lt_or_ge n 128 with hsmall | hlarge
    · rw [write_of_lt hsmall, spellsWithin_singleton_iff, UInt8.toNat_ofNat']
      exact ⟨by omega, by omega, nofun⟩
    · have hrest : n / 128 < 2 ^ (7 * limit + 1) := by
        rw [Nat.div_lt_iff_lt_mul (by decide)]
        calc n < 2 ^ (7 * (limit + 1) + 1) := h
          _ = 2 ^ (7 * limit + 1) * 128 := by
            rw [show 7 * (limit + 1) + 1 = 7 * limit + 1 + 7 by omega, Nat.pow_add]
      rw [write_of_le hlarge, spellsWithin_cons_iff (write_ne_nil _), UInt8.toNat_ofNat']
      exact ⟨by omega, n / 128, ih hrest, by omega⟩

theorem spells_write (h : n < 2 ^ 64) : Spells (write n) n := spellsWithin_write h

theorem Spells.lt (h : Spells bytes n) : n < 2 ^ 64 := h.small

end Varint

-- ---------------------------------------------------------------------------
-- Keys and values
-- ---------------------------------------------------------------------------

theorem readVarint_eq_ok_iff :
    readVarint bytes = .ok (n, rest) ↔
      ∃ taken, bytes = taken ++ rest ∧ Varint.Spells taken n := by
  rw [← Varint.readUpTo_eq_some_iff, readVarint, Varint.read]
  split <;> simp [*]

theorem Kind.ofNat?_eq_some_iff : ofNat? n = some kind ↔ n = kind.toNat := by
  constructor
  · intro h
    unfold ofNat? at h
    split at h <;> cases h <;> rfl
  · rintro rfl
    exact ofNat?_toNat kind

theorem Kind.toNat_lt (kind : Kind) : kind.toNat < 8 := by
  cases kind <;> decide

theorem readKey_eq_ok_iff :
    readKey bytes = .ok (key, rest) ↔ ∃ taken, bytes = taken ++ rest ∧ Key.Spells taken key := by
  obtain ⟨number, kind⟩ := key
  have hkind := kind.toNat_lt
  constructor
  · intro h
    unfold readKey at h
    split at h
    · cases h
    next n r hread =>
      obtain ⟨taken, rfl, hspells⟩ := readVarint_eq_ok_iff.mp hread
      split at h
      · cases h
      next hsmall =>
        split at h
        · cases h
        next kind' hofNat =>
          split at h
          · cases h
          next hnumber =>
            cases h
            have hcode : 8 * (n / 8) + kind.toNat = n := by
              rw [← Kind.ofNat?_eq_some_iff.mp hofNat, Nat.div_add_mod]
            exact ⟨taken, rfl, Nat.pos_of_ne_zero hnumber, by
              rw [hcode]
              exact Nat.lt_of_not_le hsmall, by rwa [hcode]⟩
  · rintro ⟨taken, rfl, hpositive, hsmall, hcode⟩
    have hmod : (8 * number + kind.toNat) % 8 = kind.toNat := by omega
    have hdiv : (8 * number + kind.toNat) / 8 = number := by omega
    have hnumber : number ≠ 0 := Nat.ne_of_gt hpositive
    rw [readKey, readVarint_eq_ok_iff.mpr ⟨taken, rfl, hcode⟩]
    simp only [if_neg (Nat.not_le.mpr hsmall), hmod, hdiv, Kind.ofNat?_toNat, if_neg hnumber]

theorem Key.Spells.read (h : Key.Spells bytes key) (rest : List UInt8) :
    readKey (bytes ++ rest) = .ok (key, rest) :=
  readKey_eq_ok_iff.mpr ⟨bytes, rfl, h⟩

theorem take_eq_ok_iff :
    take n bytes = .ok (contents, rest) ↔ bytes = contents ++ rest ∧ contents.length = n := by
  unfold take
  constructor
  · intro h
    split at h
    next hle =>
      cases h
      exact ⟨(List.take_append_drop n bytes).symm, List.length_take_of_le hle⟩
    next => cases h
  · rintro ⟨rfl, rfl⟩
    simp

theorem readDelimited_eq_ok_iff :
    readDelimited bytes = .ok (contents, rest) ↔
      ∃ count, bytes = count ++ contents ++ rest ∧ Varint.Spells count contents.length := by
  constructor
  · intro h
    unfold readDelimited at h
    split at h
    · cases h
    next n r hread =>
      obtain ⟨count, rfl, hspells⟩ := readVarint_eq_ok_iff.mp hread
      obtain ⟨rfl, rfl⟩ := take_eq_ok_iff.mp h
      exact ⟨count, (List.append_assoc ..).symm, hspells⟩
  · rintro ⟨count, rfl, hspells⟩
    rw [readDelimited, readVarint_eq_ok_iff.mpr ⟨count, List.append_assoc .., hspells⟩]
    exact take_eq_ok_iff.mpr ⟨rfl, rfl⟩

theorem map_snd_eq_ok_iff {α : Type} {read : Read α} :
    read.map (·.2) = .ok rest ↔ ∃ a, read = .ok (a, rest) := by
  cases read with
  | error fault => simp [Except.map]
  | ok result => simp [Except.map, Prod.ext_iff]

theorem skipValue_eq_ok_iff :
    skipValue kind bytes = .ok rest ↔
      ∃ taken payload, bytes = taken ++ rest ∧ Payload.Spells kind taken payload := by
  constructor
  · intro h
    cases kind with
    | varint =>
      obtain ⟨n, hread⟩ := map_snd_eq_ok_iff.mp h
      obtain ⟨taken, hsplit, hspells⟩ := readVarint_eq_ok_iff.mp hread
      exact ⟨taken, _, hsplit, .varint hspells⟩
    | fixed64 =>
      obtain ⟨taken, hread⟩ := map_snd_eq_ok_iff.mp h
      obtain ⟨hsplit, hlength⟩ := take_eq_ok_iff.mp hread
      exact ⟨taken, _, hsplit, .fixed64 hlength⟩
    | fixed32 =>
      obtain ⟨taken, hread⟩ := map_snd_eq_ok_iff.mp h
      obtain ⟨hsplit, hlength⟩ := take_eq_ok_iff.mp hread
      exact ⟨taken, _, hsplit, .fixed32 hlength⟩
    | delimited =>
      obtain ⟨contents, hread⟩ := map_snd_eq_ok_iff.mp h
      obtain ⟨count, hsplit, hspells⟩ := readDelimited_eq_ok_iff.mp hread
      exact ⟨_, _, hsplit, .delimited hspells⟩
    | groupStart | groupEnd => cases h
  · rintro ⟨taken, payload, rfl, hspells⟩
    cases hspells with
    | varint h => exact map_snd_eq_ok_iff.mpr ⟨_, readVarint_eq_ok_iff.mpr ⟨_, rfl, h⟩⟩
    | fixed64 h => exact map_snd_eq_ok_iff.mpr ⟨_, take_eq_ok_iff.mpr ⟨rfl, h⟩⟩
    | fixed32 h => exact map_snd_eq_ok_iff.mpr ⟨_, take_eq_ok_iff.mpr ⟨rfl, h⟩⟩
    | delimited h => exact map_snd_eq_ok_iff.mpr ⟨_, readDelimited_eq_ok_iff.mpr ⟨_, rfl, h⟩⟩

theorem Payload.Spells.not_groupStart (h : Payload.Spells kind bytes payload) :
    kind ≠ .groupStart := by
  rintro rfl
  cases h

theorem Payload.Spells.not_groupEnd (h : Payload.Spells kind bytes payload) :
    kind ≠ .groupEnd := by
  rintro rfl
  cases h

-- ---------------------------------------------------------------------------
-- Groups
-- ---------------------------------------------------------------------------

/-- What is left of the open groups, the innermost first, and what comes behind them. -/
inductive Closes : List Nat → List UInt8 → List UInt8 → Prop where
  | nil {rest : List UInt8} : Closes [] rest rest
  | cons {number : Nat} {outer : List Nat} {bytes more rest : List UInt8}
      (hgroup : Group (depthLimit - (outer.length + 1)) number bytes)
      (houter : Closes outer more rest) : Closes (number :: outer) (bytes ++ more) rest

theorem exists_depth (h : ¬ depthLimit ≤ outer.length + 1) :
    ∃ depth, depthLimit - (outer.length + 1) = depth + 1 ∧
      depthLimit - (outer.length + 2) = depth :=
  ⟨depthLimit - (outer.length + 2), by omega, rfl⟩

theorem closes_of_skipGroups (h : skipGroups opened bytes = .ok rest) :
    Closes opened bytes rest := by
  fun_induction skipGroups opened bytes with
  | case1 bytes =>
    cases h
    exact .nil
  | case2 => cases h
  | case3 bytes outer key r hread _ hend ih =>
    obtain ⟨mark, rfl, hkey⟩ := readKey_eq_ok_iff.mp hread
    have hmark : Key.Spells mark ⟨key.number, .groupEnd⟩ := hend ▸ hkey
    exact .cons (.closed hmark) (ih h)
  | case4 => cases h
  | case5 => cases h
  | case6 bytes number outer key r hread _ _ hdepth hstart ih =>
    obtain ⟨mark, rfl, hkey⟩ := readKey_eq_ok_iff.mp hread
    have hmark : Key.Spells mark ⟨key.number, .groupStart⟩ := hstart ▸ hkey
    obtain ⟨depth, hnow, hinside⟩ := exists_depth hdepth
    -- The new group ends first; what follows its end is the rest of the one around it.
    cases ih h with
    | cons hinner hmore =>
      cases hmore with
      | cons hgroup houter =>
        rw [hnow] at hgroup
        rw [List.length_cons, hinside] at hinner
        rw [← List.append_assoc, ← List.append_assoc]
        exact .cons (hnow ▸ .group hmark hinner hgroup) houter
  | case7 => cases h
  | case8 bytes number outer key r hread _ _ hdepth _ r' hskip _ ih =>
    obtain ⟨mark, rfl, hkey⟩ := readKey_eq_ok_iff.mp hread
    obtain ⟨taken, payload, rfl, hvalue⟩ := skipValue_eq_ok_iff.mp hskip
    obtain ⟨depth, hnow, -⟩ := exists_depth hdepth
    cases ih h with
    | cons hgroup houter =>
      rw [hnow] at hgroup
      rw [← List.append_assoc, ← List.append_assoc]
      exact .cons (hnow ▸ .value hkey hvalue hgroup) houter

theorem skipGroups_closed (h : readKey bytes = .ok (⟨number, .groupEnd⟩, rest)) :
    skipGroups (number :: outer) bytes = skipGroups outer rest := by
  rw [skipGroups]
  split
  next hread => cases h.symm.trans hread
  next hread =>
    cases h.symm.trans hread
    rw [if_pos rfl, if_pos rfl]

theorem skipGroups_opened {inner : Nat} (h : readKey bytes = .ok (⟨inner, .groupStart⟩, rest))
    (hdepth : ¬ depthLimit ≤ outer.length + 1) :
    skipGroups (number :: outer) bytes = skipGroups (inner :: number :: outer) rest := by
  rw [skipGroups]
  split
  next hread => cases h.symm.trans hread
  next hread =>
    cases h.symm.trans hread
    rw [if_neg (by simp), if_neg hdepth, if_pos rfl]

theorem skipGroups_value {more : List UInt8} (h : readKey bytes = .ok (key, rest))
    (hdepth : ¬ depthLimit ≤ outer.length + 1) (hvalue : Payload.Spells key.kind taken payload)
    (hrest : rest = taken ++ more) :
    skipGroups (number :: outer) bytes = skipGroups (number :: outer) more := by
  have hskip := skipValue_eq_ok_iff.mpr ⟨taken, payload, hrest, hvalue⟩
  rw [skipGroups]
  split
  next hread => cases h.symm.trans hread
  next hread =>
    cases h.symm.trans hread
    rw [if_neg hvalue.not_groupEnd, if_neg hdepth, if_neg hvalue.not_groupStart]
    split
    next hs => cases hskip.symm.trans hs
    next hs =>
      cases hskip.symm.trans hs
      rfl

theorem skipGroups_of_group (h : Group depth number bytes)
    (hdepth : depthLimit - (outer.length + 1) = depth) (rest : List UInt8) :
    skipGroups (number :: outer) (bytes ++ rest) = skipGroups outer rest := by
  induction h generalizing outer rest with
  | closed hmark => exact skipGroups_closed (hmark.read rest)
  | value hkey hvalue _ ih =>
    rw [List.append_assoc, List.append_assoc,
      skipGroups_value (hkey.read _) (by omega) hvalue rfl]
    exact ih hdepth rest
  | group hkey _ _ ihinner ihrest =>
    rw [List.append_assoc, List.append_assoc, skipGroups_opened (hkey.read _) (by omega),
      ihinner (by rw [List.length_cons]; omega)]
    exact ihrest hdepth rest

theorem skipGroups_eq_ok_iff :
    skipGroups [number] bytes = .ok rest ↔
      ∃ taken, bytes = taken ++ rest ∧ Group (depthLimit - 1) number taken := by
  constructor
  · intro h
    cases closes_of_skipGroups h with
    | cons hgroup houter =>
      cases houter
      exact ⟨_, rfl, hgroup⟩
  · rintro ⟨taken, rfl, hgroup⟩
    rw [skipGroups_of_group hgroup rfl, skipGroups]

theorem skip_eq_ok_iff :
    skip key bytes = .ok rest ↔
      ∃ taken payload, bytes = taken ++ rest ∧ Value key taken payload := by
  unfold skip
  constructor
  · intro h
    split at h
    next hstart =>
      obtain ⟨taken, hsplit, hgroup⟩ := skipGroups_eq_ok_iff.mp h
      obtain ⟨number, kind⟩ := key
      cases hstart
      exact ⟨taken, _, hsplit, .group hgroup⟩
    next =>
      obtain ⟨taken, payload, hsplit, hvalue⟩ := skipValue_eq_ok_iff.mp h
      exact ⟨taken, payload, hsplit, .plain hvalue⟩
  · rintro ⟨taken, payload, hsplit, hvalue | hgroup⟩
    · rw [if_neg hvalue.not_groupStart]
      exact skipValue_eq_ok_iff.mpr ⟨taken, payload, hsplit, hvalue⟩
    · rw [if_pos rfl]
      exact skipGroups_eq_ok_iff.mpr ⟨taken, hsplit, hgroup⟩

end Menagerie.Wire
