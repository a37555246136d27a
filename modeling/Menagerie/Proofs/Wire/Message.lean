import Mathlib
import Menagerie.Proofs.Text
import Menagerie.Proofs.Wire.Grammar
import Menagerie.Wire.Schema

/-!
# Messages written and read

`Shape.Says` is what a sequence of fields says of a message: for every slot the last field of its
number counts, and none leaves it empty; other numbers say nothing. A shape that is `Lawful` reads
the messages that the spelled fields say and no others, and it writes a spelling of the fields that
are not empty. `messages_faithful` puts this together for the messages of the service.
-/

namespace Menagerie.Wire

variable {μ : Type}

-- ---------------------------------------------------------------------------
-- Slots
-- ---------------------------------------------------------------------------

inductive Scalar where
  | text (contents : String)
  | word (n : UInt32)
  deriving DecidableEq

namespace Scalar

def payload : Scalar → Payload
  | .text contents => .bytes contents.toUTF8.toList
  | .word n => .number n.toNat

/-- A text is preceded by the number of its bytes, which is below `2 ^ 64`. -/
def Fits : Scalar → Prop
  | .text contents => contents.utf8ByteSize < 2 ^ 64
  | .word _ => True

end Scalar

namespace Slot

def value (m : μ) : Slot μ → Scalar
  | .text _ _ get _ => .text (get m)
  | .word _ _ get _ => .word (get m)

def empty : Slot μ → Scalar
  | .text .. => .text ""
  | .word .. => .word 0

def put (m : μ) : Slot μ → Scalar → μ
  | .text _ _ _ set, .text contents => set m contents
  | .word _ _ _ set, .word n => set m n
  | _, _ => m

/-- The value that a slot takes from a field: a text in UTF-8, or the low 32 bits of a number. -/
def scalar? : Slot μ → Payload → Option Scalar
  | .text .., .bytes contents => (text? contents).map .text
  | .word .., .number n => some (.word (UInt32.ofNat n))
  | _, _ => none

/-- The values that the fields have for a slot, unless one of them does not fit. -/
def scalars? (s : Slot μ) (fields : List Field) : Option (List Scalar) :=
  (fields.filter (·.number = s.number)).mapM fun f => s.scalar? f.payload

/-- What is put into one slot does not show in the other. -/
def Apart (s s' : Slot μ) : Prop :=
  (∀ m v, s'.value (s.put m v) = s'.value m) ∧ ∀ m v, s.value (s'.put m v) = s.value m

instance : Std.Symm (@Apart μ) := ⟨fun _ _ h => ⟨h.2, h.1⟩⟩

def field? (m : μ) (s : Slot μ) : Option Field :=
  if s.value m = s.empty then none else some ⟨s.number, (s.value m).payload⟩

end Slot

namespace Shape

/-- The message has the last of the values that the fields have for each slot. -/
def Says (shape : Shape μ) (fields : List Field) (m : μ) : Prop :=
  ∀ s ∈ shape.slots, ∃ values, s.scalars? fields = some values ∧
    s.value m = values.getLast?.getD s.empty

/-- The fields of a message that are not empty, in the order of the slots. -/
def fieldsOf (shape : Shape μ) (m : μ) : List Field := shape.slots.filterMap (Slot.field? m)

def Fits (shape : Shape μ) (m : μ) : Prop := ∀ s ∈ shape.slots, (s.value m).Fits

/-- A message is no more than the values of its slots, which do not depend on each other. -/
structure Lawful (shape : Shape μ) : Prop where
  numbered : ∀ s ∈ shape.slots, 0 < s.number ∧ s.number < 2 ^ 29
  distinct : (shape.slots.map Slot.number).Nodup
  value_blank : ∀ s ∈ shape.slots, s.value shape.blank = s.empty
  value_put : ∀ s ∈ shape.slots, ∀ m payload v, s.scalar? payload = some v →
    s.value (s.put m v) = v
  apart : shape.slots.Pairwise Slot.Apart
  ext : ∀ m m', (∀ s ∈ shape.slots, s.value m = s.value m') → m = m'

def take (shape : Shape μ) (m : μ) (f : Field) : Option μ :=
  match shape.slot? f.number with
  | some s => (s.scalar? f.payload).map (s.put m)
  | none => some m

end Shape

variable {shape : Shape μ} {s s' : Slot μ} {m m' : μ} {kind : Kind} {payload : Payload}
  {bytes rest contents : List UInt8} {text : String} {fields : List Field} {v : Scalar}

-- ---------------------------------------------------------------------------
-- Reading a value
-- ---------------------------------------------------------------------------

theorem length_toUTF8 (text : String) : text.toUTF8.toList.length = text.utf8ByteSize := by
  rw [Text.toList_toUTF8_eq]
  rfl

theorem text?_eq_some_iff : Slot.text? contents = some text ↔ contents = text.toUTF8.toList := by
  rw [Slot.text?, Text.toList_toUTF8_eq]
  unfold String.fromUTF8?
  constructor
  · intro h
    split at h
    · cases h
      rfl
    · cases h
  · rintro rfl
    exact dif_pos text.isValidUTF8

theorem scalar?_payload (s : Slot μ) (m : μ) :
    s.scalar? (s.value m).payload = some (s.value m) := by
  cases s with
  | text number name get set =>
    have htext : Slot.text? (get m).toUTF8.toList = some (get m) := text?_eq_some_iff.mpr rfl
    simp only [Slot.scalar?, Slot.value, Scalar.payload, htext, Option.map_some]
  | word number name get set => simp [Slot.scalar?, Slot.value, Scalar.payload]

theorem slot_decode_eq_ok_iff :
    s.decode m kind bytes = .ok (m', rest) ↔ ∃ taken payload v, bytes = taken ++ rest ∧
      Payload.Spells kind taken payload ∧ s.scalar? payload = some v ∧ s.put m v = m' := by
  unfold Slot.decode
  constructor
  · intro h
    split at h
    · cases h
    next hkind =>
      obtain rfl : kind = s.kind := Decidable.not_not.mp hkind
      split at h
      next number name get set =>
        split at h
        · cases h
        next taken r hread =>
          obtain ⟨count, rfl, hspells⟩ := readDelimited_eq_ok_iff.mp hread
          split at h
          · cases h
          next contents htext =>
            cases h
            refine ⟨count ++ taken, _, .text contents, rfl, .delimited hspells, ?_, rfl⟩
            rw [Slot.scalar?, htext]
            rfl
      next number name get set =>
        split at h
        · cases h
        next n r hread =>
          obtain ⟨taken, rfl, hspells⟩ := readVarint_eq_ok_iff.mp hread
          cases h
          exact ⟨taken, _, .word (UInt32.ofNat n), rfl, .varint hspells, rfl, rfl⟩
  · rintro ⟨taken, payload, v, rfl, hpayload, hscalar, rfl⟩
    cases hpayload with
    | varint hspells =>
      cases s with
      | text => cases hscalar
      | word =>
        cases hscalar
        have hread := readVarint_eq_ok_iff.mpr ⟨_, (rfl : _ ++ rest = _), hspells⟩
        simp [Slot.kind, hread, Slot.put]
    | delimited hspells =>
      cases s with
      | text =>
        obtain ⟨contents, htext, rfl⟩ := Option.map_eq_some_iff.mp hscalar
        have hread := readDelimited_eq_ok_iff.mpr ⟨_, (rfl : _ ++ _ ++ rest = _), hspells⟩
        simp only [Slot.kind, ne_eq, not_true_eq_false, if_false, hread, htext, Slot.put]
      | word => cases hscalar
    | fixed64 | fixed32 => cases s <;> cases hscalar

-- ---------------------------------------------------------------------------
-- Reading fields
-- ---------------------------------------------------------------------------

theorem scalar?_ignored (s : Slot μ) : s.scalar? .ignored = none := by
  cases s <;> rfl

theorem step_eq_ok_iff :
    shape.step m bytes = .ok (m', rest) ↔
      ∃ taken f, bytes = taken ++ rest ∧ Field.Spells taken f ∧ shape.take m f = some m' := by
  constructor
  · intro h
    unfold Shape.step at h
    split at h
    · cases h
    next key r hread =>
      obtain ⟨mark, rfl, hkey⟩ := readKey_eq_ok_iff.mp hread
      split at h
      next s hslot =>
        split at h
        · cases h
        next read hdecode =>
          cases h
          obtain ⟨taken, payload, v, rfl, hpayload, hscalar, hput⟩ :=
            slot_decode_eq_ok_iff.mp hdecode
          refine ⟨_, _, (List.append_assoc ..).symm, .keyed hkey (.plain hpayload), ?_⟩
          simp [Shape.take, hslot, hscalar, hput]
      next hslot =>
        split at h
        · cases h
        next r' hskip =>
          cases h
          obtain ⟨taken, payload, rfl, hvalue⟩ := skip_eq_ok_iff.mp hskip
          refine ⟨_, _, (List.append_assoc ..).symm, .keyed hkey hvalue, ?_⟩
          simp [Shape.take, hslot]
  · rintro ⟨taken, f, rfl, ⟨hkey, hvalue⟩, htake⟩
    unfold Shape.step
    rw [List.append_assoc, hkey.read]
    unfold Shape.take at htake
    simp only at htake ⊢
    split
    next s hslot =>
      rw [hslot] at htake
      obtain ⟨v, hscalar, hput⟩ := Option.map_eq_some_iff.mp htake
      cases hvalue with
      | plain hpayload =>
        rw [slot_decode_eq_ok_iff.mpr ⟨_, _, v, rfl, hpayload, hscalar, hput⟩]
      | group => rw [scalar?_ignored] at hscalar; cases hscalar
    next hslot =>
      rw [hslot] at htake
      cases htake
      rw [skip_eq_ok_iff.mpr ⟨_, _, rfl, hvalue⟩]

theorem decodeInto_nil : shape.decodeInto m [] = .ok m := by
  rw [Shape.decodeInto]

theorem decodeInto_of_step {next : μ} (h : shape.step m bytes = .ok (next, rest)) :
    shape.decodeInto m bytes = shape.decodeInto next rest := by
  have hshorter := Shape.length_step h
  cases bytes with
  | nil => cases hshorter
  | cons b tail =>
    rw [Shape.decodeInto]
    split
    next hs => cases h.symm.trans hs
    next hs =>
      cases h.symm.trans hs
      rfl

theorem decodeInto_eq_ok_iff :
    shape.decodeInto m bytes = .ok m' ↔
      ∃ fields, Spells bytes fields ∧ fields.foldlM shape.take m = some m' := by
  constructor
  · intro h
    fun_induction shape.decodeInto m bytes with
    | case1 m =>
      cases h
      exact ⟨[], .nil, rfl⟩
    | case2 => cases h
    | case3 m b tail next rest hstep _ ih =>
      obtain ⟨fields, hspells, hfold⟩ := ih h
      obtain ⟨taken, f, hsplit, hfield, htake⟩ := step_eq_ok_iff.mp hstep
      rw [hsplit]
      refine ⟨f :: fields, .cons hfield hspells, ?_⟩
      simp [htake, hfold]
  · rintro ⟨fields, hspells, hfold⟩
    induction hspells generalizing m with
    | nil =>
      cases hfold
      exact decodeInto_nil
    | cons hfield _ ih =>
      rw [List.foldlM_cons] at hfold
      obtain ⟨next, htake, hrest⟩ := Option.bind_eq_some_iff.mp hfold
      rw [decodeInto_of_step (step_eq_ok_iff.mpr ⟨_, _, rfl, hfield, htake⟩)]
      exact ih hrest

-- ---------------------------------------------------------------------------
-- What fields say
-- ---------------------------------------------------------------------------

theorem scalars?_cons_of_ne {f : Field} (h : f.number ≠ s.number) :
    s.scalars? (f :: fields) = s.scalars? fields := by
  simp [Slot.scalars?, h]

theorem scalars?_cons_of_eq {f : Field} (h : f.number = s.number) :
    s.scalars? (f :: fields) =
      (s.scalar? f.payload).bind fun v => (s.scalars? fields).map (v :: ·) := by
  simp [Slot.scalars?, h, List.mapM_cons, Option.map_eq_bind]

namespace Shape.Lawful

variable (lawful : shape.Lawful)

include lawful

theorem filter_slots (hs : s ∈ shape.slots) :
    shape.slots.filter (·.number = s.number) = [s] := by
  have hdistinct := lawful.distinct
  generalize shape.slots = slots at hs hdistinct
  induction slots with
  | nil => cases hs
  | cons t slots ih =>
    rw [List.map_cons, List.nodup_cons] at hdistinct
    rcases List.mem_cons.mp hs with rfl | hs
    · have hothers : slots.filter (·.number = s.number) = [] := by
        rw [List.filter_eq_nil_iff]
        intro t ht hnumber
        exact hdistinct.1 (of_decide_eq_true hnumber ▸ List.mem_map_of_mem ht)
      simp [hothers]
    · have hne : ¬ t.number = s.number := fun h => hdistinct.1 (h ▸ List.mem_map_of_mem hs)
      simpa [hne] using ih hs hdistinct.2

theorem slot?_number (hs : s ∈ shape.slots) : shape.slot? s.number = some s := by
  rw [Shape.slot?, ← List.head?_filter, lawful.filter_slots hs]
  rfl

theorem value_put_of_ne (hs : s ∈ shape.slots) (hs' : s' ∈ shape.slots)
    (hne : s'.number ≠ s.number) (m : μ) (v : Scalar) : s'.value (s.put m v) = s'.value m := by
  have hslots : s ≠ s' := fun h => hne (h ▸ rfl)
  exact (lawful.apart.forall hs hs' hslots).1 m v

/-- Where the fields have no value for a slot, the message keeps the one that it had. -/
theorem foldlM_take_eq_some_iff :
    fields.foldlM shape.take m = some m' ↔ ∀ s ∈ shape.slots, ∃ values,
      s.scalars? fields = some values ∧ s.value m' = values.getLast?.getD (s.value m) := by
  induction fields generalizing m with
  | nil =>
    simp only [List.foldlM_nil, Option.pure_def, Option.some.injEq]
    constructor
    · rintro rfl s -
      exact ⟨[], rfl, rfl⟩
    · intro h
      refine lawful.ext m m' fun s hs => ?_
      obtain ⟨values, hvalues, hvalue⟩ := h s hs
      cases hvalues
      exact hvalue.symm
  | cons f fields ih =>
    rw [List.foldlM_cons]
    cases hslot : shape.slot? f.number with
    | none =>
      have htake : shape.take m f = some m := by simp [Shape.take, hslot]
      simp only [htake, Option.bind_eq_bind, Option.bind_some, ih]
      refine forall₂_congr fun s hs => ?_
      have hne : f.number ≠ s.number := by
        intro h
        rw [h, lawful.slot?_number hs] at hslot
        cases hslot
      rw [scalars?_cons_of_ne hne]
    | some t =>
      -- What the field puts into its slot is the last value there unless a later field has one.
      have ht : t ∈ shape.slots := List.mem_of_find?_eq_some hslot
      have hnumber : t.number = f.number := by simpa using List.find?_some hslot
      cases hscalar : t.scalar? f.payload with
      | none =>
        have htake : shape.take m f = none := by simp [Shape.take, hslot, hscalar]
        simp only [htake, Option.bind_eq_bind, Option.bind_none, reduceCtorEq, false_iff]
        intro h
        obtain ⟨values, hvalues, -⟩ := h t ht
        rw [scalars?_cons_of_eq hnumber.symm, hscalar] at hvalues
        cases hvalues
      | some v =>
        have htake : shape.take m f = some (t.put m v) := by simp [Shape.take, hslot, hscalar]
        simp only [htake, Option.bind_eq_bind, Option.bind_some, ih]
        refine forall₂_congr fun s hs => ?_
        by_cases hsame : s.number = t.number
        · obtain rfl : s = t := by
            have hfound := lawful.slot?_number hs
            rw [hsame, lawful.slot?_number ht] at hfound
            exact (Option.some.inj hfound).symm
          rw [scalars?_cons_of_eq hnumber.symm, hscalar, lawful.value_put s hs m _ v hscalar]
          simp [List.getLast?_cons]
        · rw [scalars?_cons_of_ne fun h => hsame (h.symm.trans hnumber.symm),
            lawful.value_put_of_ne ht hs hsame]

theorem decode_eq_ok_iff :
    shape.decode bytes = .ok m ↔ ∃ fields, Spells bytes fields ∧ shape.Says fields m := by
  rw [Shape.decode, decodeInto_eq_ok_iff]
  refine exists_congr fun fields => and_congr_right fun _ => ?_
  rw [lawful.foldlM_take_eq_some_iff]
  refine forall₂_congr fun s hs => ?_
  rw [lawful.value_blank s hs]

end Shape.Lawful

-- ---------------------------------------------------------------------------
-- Writing
-- ---------------------------------------------------------------------------

theorem field?_of_empty (h : s.value m = s.empty) : s.field? m = none := if_pos h

theorem field?_of_ne_empty (h : s.value m ≠ s.empty) :
    s.field? m = some ⟨s.number, (s.value m).payload⟩ := if_neg h

theorem filterMap_field?_cons (m : μ) (s : Slot μ) (slots : List (Slot μ)) :
    (s :: slots).filterMap (Slot.field? m) =
      (s.field? m).toList ++ slots.filterMap (Slot.field? m) := by
  cases hfield : s.field? m <;> simp [hfield]

theorem encode_of_empty (h : s.value m = s.empty) : s.encode m = [] := by
  cases s with
  | text number name get set =>
    have hget : get m = "" := Scalar.text.inj h
    simp [Slot.encode, hget]
  | word number name get set =>
    have hget : get m = 0 := Scalar.word.inj h
    simp [Slot.encode, hget]

theorem spells_writeKey {key : Key} (numbered : 0 < key.number ∧ key.number < 2 ^ 29) :
    Key.Spells (writeKey key) key := by
  have hcode : 8 * key.number + key.kind.toNat < 2 ^ 32 := by
    have := key.kind.toNat_lt
    omega
  exact ⟨numbered.1, hcode, Varint.spells_write (Nat.lt_trans hcode (by decide))⟩

theorem spells_encode_slot (numbered : 0 < s.number ∧ s.number < 2 ^ 29)
    (fits : (s.value m).Fits) : Spells (s.encode m) (s.field? m).toList := by
  by_cases hempty : s.value m = s.empty
  · rw [encode_of_empty hempty, field?_of_empty hempty]
    exact .nil
  · rw [field?_of_ne_empty hempty]
    suffices h : Field.Spells (s.encode m) ⟨s.number, (s.value m).payload⟩ by
      simpa using Spells.cons h .nil
    cases s with
    | text number name get set =>
      have hsome : (get m).toUTF8.toList ≠ [] := by
        intro h
        have hlength := length_toUTF8 (get m)
        rw [h, List.length_nil] at hlength
        exact hempty (congrArg Scalar.text (String.utf8ByteSize_eq_zero_iff.mp hlength.symm))
      rw [Slot.encode, if_neg hsome, List.append_assoc]
      refine .keyed (spells_writeKey numbered) (.plain (.delimited (Varint.spells_write ?_)))
      rw [length_toUTF8]
      exact fits
    | word number name get set =>
      have hsome : get m ≠ 0 := fun h => hempty (congrArg Scalar.word h)
      rw [Slot.encode, if_neg hsome]
      refine .keyed (spells_writeKey numbered) (.plain (.varint (Varint.spells_write ?_)))
      exact Nat.lt_trans (get m).toNat_lt (by decide)

-- ---------------------------------------------------------------------------
-- Lengths
-- ---------------------------------------------------------------------------

theorem Slot.fits_empty (s : Slot μ) : s.empty.Fits := by
  cases s with
  | text => exact Nat.two_pow_pos 64
  | word => trivial

theorem Payload.Spells.fits (h : Payload.Spells kind bytes payload)
    (hscalar : s.scalar? payload = some v) : v.Fits := by
  cases s with
  | word =>
    cases h with
    | varint =>
      cases hscalar
      trivial
    | delimited | fixed64 | fixed32 => cases hscalar
  | text =>
    cases h with
    | delimited hcount =>
      obtain ⟨contents, htext, rfl⟩ := Option.map_eq_some_iff.mp hscalar
      rw [text?_eq_some_iff.mp htext, length_toUTF8] at hcount
      exact hcount.lt
    | varint | fixed64 | fixed32 => cases hscalar

theorem Field.Spells.fits {f : Field} (h : Field.Spells bytes f)
    (hscalar : s.scalar? f.payload = some v) : v.Fits := by
  obtain ⟨-, hpayload | -⟩ := h
  · exact hpayload.fits hscalar
  · rw [scalar?_ignored] at hscalar
    cases hscalar

theorem exists_of_mem_scalars? {values : List Scalar} (h : s.scalars? fields = some values)
    (hv : v ∈ values) : ∃ f ∈ fields, s.scalar? f.payload = some v := by
  induction fields generalizing values with
  | nil =>
    cases h
    cases hv
  | cons f fields ih =>
    by_cases hnumber : f.number = s.number
    · rw [scalars?_cons_of_eq hnumber] at h
      obtain ⟨first, hscalar, hrest⟩ := Option.bind_eq_some_iff.mp h
      obtain ⟨more, hmore, rfl⟩ := Option.map_eq_some_iff.mp hrest
      rcases List.mem_cons.mp hv with rfl | hv
      · exact ⟨f, List.mem_cons_self, hscalar⟩
      · obtain ⟨g, hg, hscalar⟩ := ih hmore hv
        exact ⟨g, List.mem_cons_of_mem f hg, hscalar⟩
    · rw [scalars?_cons_of_ne hnumber] at h
      obtain ⟨g, hg, hscalar⟩ := ih h hv
      exact ⟨g, List.mem_cons_of_mem f hg, hscalar⟩

theorem Spells.exists_of_mem {f : Field} (h : Spells bytes fields) (hf : f ∈ fields) :
    ∃ taken, Field.Spells taken f := by
  induction h with
  | nil => cases hf
  | cons hfield _ ih =>
    rcases List.mem_cons.mp hf with rfl | hf
    · exact ⟨_, hfield⟩
    · exact ih hf

-- ---------------------------------------------------------------------------
-- Round trips
-- ---------------------------------------------------------------------------

namespace Shape.Lawful

variable (lawful : shape.Lawful)

include lawful

theorem spells_encode (fits : shape.Fits m) : Spells (shape.encode m) (shape.fieldsOf m) := by
  have hslots : ∀ slots : List (Slot μ), (∀ s ∈ slots, s ∈ shape.slots) →
      Spells (slots.flatMap (Slot.encode m)) (slots.filterMap (Slot.field? m)) := by
    intro slots
    induction slots with
    | nil => exact fun _ => .nil
    | cons s slots ih =>
      intro hmem
      have hs := hmem s List.mem_cons_self
      have hfirst := spells_encode_slot (lawful.numbered s hs) (fits s hs)
      have hrest := ih fun t ht => hmem t (List.mem_cons_of_mem s ht)
      rw [List.flatMap_cons, filterMap_field?_cons]
      exact hfirst.append hrest
  exact hslots shape.slots fun _ => id

theorem filter_fieldsOf (hs : s ∈ shape.slots) :
    (shape.fieldsOf m).filter (·.number = s.number) = (s.field? m).toList := by
  have hfield : ∀ t : Slot μ, (t.field? m).filter (·.number = s.number) =
      if decide (t.number = s.number) = true then t.field? m else none := by
    intro t
    by_cases hempty : t.value m = t.empty
    · simp [field?_of_empty hempty]
    · rw [field?_of_ne_empty hempty]
      by_cases hnumber : t.number = s.number <;> simp [hnumber]
  simp only [Shape.fieldsOf, List.filter_filterMap, hfield]
  rw [← List.filterMap_filter, lawful.filter_slots hs, filterMap_field?_cons, List.filterMap_nil,
    List.append_nil]

theorem says_fieldsOf (m : μ) : shape.Says (shape.fieldsOf m) m := by
  intro s hs
  rw [Slot.scalars?, lawful.filter_fieldsOf hs]
  by_cases hempty : s.value m = s.empty
  · exact ⟨[], by rw [field?_of_empty hempty]; rfl, hempty⟩
  · refine ⟨[s.value m], ?_, rfl⟩
    rw [field?_of_ne_empty hempty]
    simp [scalar?_payload]

theorem decode_encode (fits : shape.Fits m) : shape.decode (shape.encode m) = .ok m :=
  lawful.decode_eq_ok_iff.mpr ⟨_, lawful.spells_encode fits, lawful.says_fieldsOf m⟩

/-- What is read has texts of less than `2 ^ 64` bytes, since their lengths have been read. -/
theorem fits_of_decode (h : shape.decode bytes = .ok m) : shape.Fits m := by
  obtain ⟨fields, hspells, hsays⟩ := lawful.decode_eq_ok_iff.mp h
  intro s hs
  obtain ⟨values, hvalues, hvalue⟩ := hsays s hs
  rw [hvalue]
  cases hlast : values.getLast? with
  | none => exact s.fits_empty
  | some v =>
    obtain ⟨f, hf, hscalar⟩ := exists_of_mem_scalars? hvalues (List.mem_of_getLast? hlast)
    obtain ⟨taken, hfield⟩ := hspells.exists_of_mem hf
    exact hfield.fits hscalar

end Shape.Lawful

/-- What the wire format promises of a type of messages. -/
structure Shape.Faithful (shape : Shape μ) : Prop where
  decode_iff : ∀ bytes m,
    shape.decode bytes = .ok m ↔ ∃ fields, Spells bytes fields ∧ shape.Says fields m
  spells_encode : ∀ m, shape.Fits m → Spells (shape.encode m) (shape.fieldsOf m)
  decode_encode_iff : ∀ m, shape.decode (shape.encode m) = .ok m ↔ shape.Fits m
  encode_injective : ∀ m m', shape.Fits m → shape.Fits m' → shape.encode m = shape.encode m' →
    m = m'
  /-- However a message was spelled, it is written in a way that reads and writes as itself. -/
  settles : ∀ bytes m, shape.decode bytes = .ok m →
    shape.decode (shape.encode m) = .ok m ∧
      (shape.decode (shape.encode m)).map shape.encode = .ok (shape.encode m)

theorem Shape.Lawful.faithful (lawful : shape.Lawful) : shape.Faithful where
  decode_iff _ _ := lawful.decode_eq_ok_iff
  spells_encode _ := lawful.spells_encode
  decode_encode_iff _ := ⟨lawful.fits_of_decode, lawful.decode_encode⟩
  encode_injective m m' fits fits' h := by
    have hback := lawful.decode_encode fits
    rw [h, lawful.decode_encode fits'] at hback
    exact (Except.ok.inj hback).symm
  settles bytes m h := by
    have hback := lawful.decode_encode (lawful.fits_of_decode h)
    exact ⟨hback, by rw [hback]; rfl⟩

-- ---------------------------------------------------------------------------
-- The messages of the service
-- ---------------------------------------------------------------------------

theorem value_put_text {number : Nat} {name : String} {get : μ → String} {set : μ → String → μ}
    (h : ∀ m contents, get (set m contents) = contents) (m : μ) (payload : Payload) (v : Scalar)
    (hscalar : (Slot.text number name get set).scalar? payload = some v) :
    (Slot.text number name get set).value ((Slot.text number name get set).put m v) = v := by
  cases payload with
  | bytes contents =>
    obtain ⟨text, -, rfl⟩ := Option.map_eq_some_iff.mp hscalar
    exact congrArg Scalar.text (h m text)
  | number | ignored => cases hscalar

theorem value_put_word {number : Nat} {name : String} {get : μ → UInt32} {set : μ → UInt32 → μ}
    (h : ∀ m n, get (set m n) = n) (m : μ) (payload : Payload) (v : Scalar)
    (hscalar : (Slot.word number name get set).scalar? payload = some v) :
    (Slot.word number name get set).value ((Slot.word number name get set).put m v) = v := by
  cases payload with
  | number n =>
    cases hscalar
    exact congrArg Scalar.word (h m _)
  | bytes | ignored => cases hscalar

theorem lawful_creatureShape : creatureShape.Lawful where
  numbered := by simp [creatureShape, Slot.number]
  distinct := by simp [creatureShape, Slot.number]
  value_blank := by simp [creatureShape, Slot.value, Slot.empty]
  value_put := by
    simp only [creatureShape, List.forall_mem_cons]
    exact ⟨value_put_text fun _ _ => rfl, value_put_text fun _ _ => rfl,
      value_put_word fun _ _ => rfl, value_put_word fun _ _ => rfl,
      value_put_text fun _ _ => rfl, List.forall_mem_nil _⟩
  apart := by
    simp only [creatureShape, List.pairwise_cons, List.forall_mem_cons, List.not_mem_nil,
      false_implies, implies_true, List.Pairwise.nil, and_true]
    and_intros <;> rintro m (_ | _) <;> rfl
  ext := by
    rintro ⟨id, name, channelOffset, audioChannel, notes⟩ m' h
    simp only [creatureShape, List.forall_mem_cons, Slot.value, Scalar.text.injEq,
      Scalar.word.injEq] at h
    obtain ⟨rfl, rfl, rfl, rfl, rfl, -⟩ := h
    rfl

theorem lawful_creatureNameShape : creatureNameShape.Lawful where
  numbered := by simp [creatureNameShape, Slot.number]
  distinct := by simp [creatureNameShape, Slot.number]
  value_blank := by simp [creatureNameShape, Slot.value, Slot.empty]
  value_put := by
    simp only [creatureNameShape, List.forall_mem_cons]
    exact ⟨value_put_text fun _ _ => rfl, List.forall_mem_nil _⟩
  apart := List.pairwise_singleton _ _
  ext := by
    rintro ⟨name⟩ m' h
    simp only [creatureNameShape, List.forall_mem_cons, Slot.value, Scalar.text.injEq] at h
    obtain ⟨rfl, -⟩ := h
    rfl

theorem lawful_creaturesRequestShape : creaturesRequestShape.Lawful where
  numbered := nofun
  distinct := .nil
  value_blank := nofun
  value_put := nofun
  apart := .nil
  ext _ _ _ := rfl

/-- Every message of the service can be read from what it is written as, and whatever is read as a
message is what its fields say, the last one of each number. -/
theorem messages_faithful :
    creatureShape.Faithful ∧ creatureNameShape.Faithful ∧ creaturesRequestShape.Faithful :=
  ⟨lawful_creatureShape.faithful, lawful_creatureNameShape.faithful,
    lawful_creaturesRequestShape.faithful⟩

-- An unknown field, two names of which the last counts, and a length in three bytes.
example : creatureNameShape.decode [0x0a, 0x01, 0x41, 0x10, 0x05, 0x0a, 0x81, 0x80, 0x00, 0x42] =
    .ok ⟨"B"⟩ := by cbv

end Menagerie.Wire
