import Menagerie.Wire.Field

/-!
# Messages by their fields

A `Shape` lists the fields of a message type with their numbers and says how each is read from and
put into a value. `Shape.encode` writes the fields in that order and leaves out those that are
empty or zero; `Shape.decode` takes fields in any order, keeps the last value of each and skips
what the shape does not list.
-/

namespace Menagerie.Wire

inductive Slot (μ : Type) where
  | text (number : Nat) (name : String) (get : μ → String) (set : μ → String → μ)
  | word (number : Nat) (name : String) (get : μ → UInt32) (set : μ → UInt32 → μ)

namespace Slot

variable {μ : Type}

def number : Slot μ → Nat
  | .text number .. | .word number .. => number

def name : Slot μ → String
  | .text _ name .. | .word _ name .. => name

def kind : Slot μ → Kind
  | .text .. => .delimited
  | .word .. => .varint

/-- Nothing for a default value. -/
def encode (m : μ) : Slot μ → List UInt8
  | .text number _ get _ =>
    let bytes := (get m).toUTF8.toList
    if bytes = [] then []
    else writeKey ⟨number, .delimited⟩ ++ Varint.write bytes.length ++ bytes
  | .word number _ get _ =>
    if get m = 0 then [] else writeKey ⟨number, .varint⟩ ++ Varint.write (get m).toNat

def text? (bytes : List UInt8) : Option String := String.fromUTF8? ⟨bytes.toArray⟩

/-- Reads one value into its place; of a number the low 32 bits count. -/
def decode (m : μ) (found : Kind) (bytes : List UInt8) (s : Slot μ) : Read μ :=
  if found ≠ s.kind then .error (.wrongKind found s.kind)
  else match s with
    | .text _ _ _ set =>
      match readDelimited bytes with
      | .error fault => .error fault
      | .ok (taken, rest) =>
        match text? taken with
        | none => .error .invalidText
        | some contents => .ok (set m contents, rest)
    | .word _ _ _ set =>
      match readVarint bytes with
      | .error fault => .error fault
      | .ok (n, rest) => .ok (set m (UInt32.ofNat n), rest)

theorem length_decode {m m' : μ} {found : Kind} {bytes rest : List UInt8} {s : Slot μ}
    (h : s.decode m found bytes = .ok (m', rest)) : rest.length ≤ bytes.length := by
  unfold decode at h
  split at h
  · simp at h
  · split at h
    · split at h
      next => simp at h
      next taken r hr =>
        split at h
        · simp at h
        · simp only [Except.ok.injEq, Prod.mk.injEq] at h
          exact h.2 ▸ length_readDelimited hr
    · split at h
      next => simp at h
      next n r hr =>
        simp only [Except.ok.injEq, Prod.mk.injEq] at h
        exact h.2 ▸ Nat.le_of_lt (length_readVarint hr)

end Slot

structure Shape (μ : Type) where
  name : String
  blank : μ
  slots : List (Slot μ)

/-- A fault, and the field that was being read if the shape lists it. -/
structure DecodeError where
  field : Option String
  fault : Fault
  deriving DecidableEq, Inhabited, Repr

def DecodeError.message (e : DecodeError) : String :=
  "failed to decode Protobuf message: " ++
    (match e.field with
      | none => ""
      | some field => field ++ ": ") ++ e.fault.message

namespace Shape

variable {μ : Type}

def encode (shape : Shape μ) (m : μ) : List UInt8 := shape.slots.flatMap (Slot.encode m)

def slot? (shape : Shape μ) (number : Nat) : Option (Slot μ) :=
  shape.slots.find? (·.number = number)

def step (shape : Shape μ) (m : μ) (bytes : List UInt8) : Except DecodeError (μ × List UInt8) :=
  match readKey bytes with
  | .error fault => .error ⟨none, fault⟩
  | .ok (key, rest) =>
    match shape.slot? key.number with
    | some slot =>
      match slot.decode m key.kind rest with
      | .error fault => .error ⟨some (shape.name ++ "." ++ slot.name), fault⟩
      | .ok read => .ok read
    | none =>
      match skip key rest with
      | .error fault => .error ⟨none, fault⟩
      | .ok rest => .ok (m, rest)

theorem length_step {shape : Shape μ} {m m' : μ} {bytes rest : List UInt8}
    (h : shape.step m bytes = .ok (m', rest)) : rest.length < bytes.length := by
  unfold step at h
  split at h
  next => simp at h
  next key r hk =>
    have hl := length_readKey hk
    split at h
    · split at h
      next => simp at h
      next read hd =>
        cases h
        exact Nat.lt_of_le_of_lt (Slot.length_decode hd) hl
    · split at h
      next => simp at h
      next s hs =>
        simp only [Except.ok.injEq, Prod.mk.injEq] at h
        exact Nat.lt_of_le_of_lt (h.2 ▸ length_skip hs) hl

def decodeInto (shape : Shape μ) (m : μ) (bytes : List UInt8) : Except DecodeError μ :=
  match bytes with
  | [] => .ok m
  | b :: tail =>
    match h : shape.step m (b :: tail) with
    | .error e => .error e
    | .ok (m', rest) =>
      have : rest.length < (b :: tail).length := length_step h
      decodeInto shape m' rest
termination_by bytes.length
decreasing_by assumption

def decode (shape : Shape μ) (bytes : List UInt8) : Except DecodeError μ :=
  shape.decodeInto shape.blank bytes

end Shape

end Menagerie.Wire
