/-!
# Fields on the wire

A varint is a number in groups of seven bits, least first; every byte but the last has its top bit
set. A reader takes at most ten bytes, and the tenth may only be 0 or 1, so the value is below
`2 ^ 64`. Longer spellings of a number than `Varint.write` chooses are read as well.

A message is a sequence of fields: a key with the field's number and the kind of its value, then the
value. Fields that a reader does not know are skipped by their kind alone; a group reaches to the end
mark with its own number, and groups may be nested `depthLimit` deep.
-/

namespace Menagerie.Wire.Varint

def write (n : Nat) : List UInt8 :=
  if n < 128 then [UInt8.ofNat n] else UInt8.ofNat (n % 128 + 128) :: write (n / 128)

/-- Reads a number of at most `limit` bytes, of which the last carries a single bit. -/
def readUpTo : Nat → List UInt8 → Option (Nat × List UInt8)
  | 0, _ => none
  | _ + 1, [] => none
  | limit + 1, b :: rest =>
    if b.toNat < 128 then
      if limit = 0 ∧ 1 < b.toNat then none else some (b.toNat, rest)
    else (readUpTo limit rest).map fun (n, rest) => (b.toNat - 128 + 128 * n, rest)

def read (bytes : List UInt8) : Option (Nat × List UInt8) := readUpTo 10 bytes

theorem length_readUpTo {limit n : Nat} {bytes rest : List UInt8}
    (h : readUpTo limit bytes = some (n, rest)) : rest.length < bytes.length := by
  induction limit generalizing bytes n rest with
  | zero => simp [readUpTo] at h
  | succ limit ih =>
    cases bytes with
    | nil => simp [readUpTo] at h
    | cons b tail =>
      simp only [readUpTo] at h
      split at h
      · split at h
        · simp at h
        · simp only [Option.some.injEq, Prod.mk.injEq] at h
          simp [h.2]
      · obtain ⟨⟨m, r⟩, hr, he⟩ := Option.map_eq_some_iff.1 h
        simp only [Prod.mk.injEq] at he
        have := ih hr
        grind

end Menagerie.Wire.Varint

namespace Menagerie.Wire

inductive Kind where
  | varint | fixed64 | delimited | groupStart | groupEnd | fixed32
  deriving DecidableEq, Inhabited, Repr

namespace Kind

def ofNat? : Nat → Option Kind
  | 0 => some .varint
  | 1 => some .fixed64
  | 2 => some .delimited
  | 3 => some .groupStart
  | 4 => some .groupEnd
  | 5 => some .fixed32
  | _ => none

def toNat : Kind → Nat
  | .varint => 0
  | .fixed64 => 1
  | .delimited => 2
  | .groupStart => 3
  | .groupEnd => 4
  | .fixed32 => 5

def name : Kind → String
  | .varint => "Varint"
  | .fixed64 => "SixtyFourBit"
  | .delimited => "LengthDelimited"
  | .groupStart => "StartGroup"
  | .groupEnd => "EndGroup"
  | .fixed32 => "ThirtyTwoBit"

theorem ofNat?_toNat (k : Kind) : ofNat? k.toNat = some k := by cases k <;> rfl

end Kind

inductive Fault where
  | invalidVarint
  | underflow
  | wrongKind (found expected : Kind)
  | invalidText
  | zeroNumber
  | invalidKind (value : Nat)
  | invalidKey (value : Nat)
  | unexpectedEnd
  | tooDeep
  deriving DecidableEq, Inhabited, Repr

def Fault.message : Fault → String
  | .invalidVarint => "invalid varint"
  | .underflow => "buffer underflow"
  | .wrongKind found expected =>
    "invalid wire type: " ++ found.name ++ " (expected " ++ expected.name ++ ")"
  | .invalidText => "invalid string value: data is not UTF-8 encoded"
  | .zeroNumber => "invalid tag value: 0"
  | .invalidKind value => "invalid wire type value: " ++ toString value
  | .invalidKey value => "invalid key value: " ++ toString value
  | .unexpectedEnd => "unexpected end group tag"
  | .tooDeep => "recursion limit reached"

abbrev Read (α : Type) := Except Fault (α × List UInt8)

structure Key where
  number : Nat
  kind : Kind
  deriving DecidableEq, Inhabited, Repr

def writeKey (k : Key) : List UInt8 := Varint.write (8 * k.number + k.kind.toNat)

def readVarint (bytes : List UInt8) : Read Nat :=
  match Varint.read bytes with
  | some read => .ok read
  | none => .error .invalidVarint

/-- Keys are below `2 ^ 32`; the kind is looked at before the number. -/
def readKey (bytes : List UInt8) : Read Key :=
  match readVarint bytes with
  | .error fault => .error fault
  | .ok (n, rest) =>
    if UInt32.size ≤ n then .error (.invalidKey n)
    else match Kind.ofNat? (n % 8) with
      | none => .error (.invalidKind (n % 8))
      | some kind => if n / 8 = 0 then .error .zeroNumber else .ok (⟨n / 8, kind⟩, rest)

def take (n : Nat) (bytes : List UInt8) : Read (List UInt8) :=
  if n ≤ bytes.length then .ok (bytes.take n, bytes.drop n) else .error .underflow

def readDelimited (bytes : List UInt8) : Read (List UInt8) :=
  match readVarint bytes with
  | .error fault => .error fault
  | .ok (n, rest) => take n rest

def skipValue (kind : Kind) (bytes : List UInt8) : Except Fault (List UInt8) :=
  match kind with
  | .varint => (readVarint bytes).map (·.2)
  | .fixed64 => (take 8 bytes).map (·.2)
  | .fixed32 => (take 4 bytes).map (·.2)
  | .delimited => (readDelimited bytes).map (·.2)
  | .groupStart | .groupEnd => .error .unexpectedEnd

theorem length_readVarint {n : Nat} {bytes rest : List UInt8}
    (h : readVarint bytes = .ok (n, rest)) : rest.length < bytes.length := by
  unfold readVarint at h
  split at h
  next r hr =>
    cases h
    exact Varint.length_readUpTo hr
  next => simp at h

theorem length_readKey {key : Key} {bytes rest : List UInt8}
    (h : readKey bytes = .ok (key, rest)) : rest.length < bytes.length := by
  unfold readKey at h
  split at h
  next => simp at h
  next n r hr =>
    have hl := length_readVarint hr
    split at h
    · simp at h
    · split at h
      · simp at h
      · split at h
        · simp at h
        · simp only [Except.ok.injEq, Prod.mk.injEq] at h
          exact h.2 ▸ hl

theorem length_take {n : Nat} {bytes taken rest : List UInt8}
    (h : take n bytes = .ok (taken, rest)) : rest.length ≤ bytes.length := by
  unfold take at h
  split at h
  · simp only [Except.ok.injEq, Prod.mk.injEq] at h
    simp [← h.2]
  · simp at h

theorem length_readDelimited {bytes taken rest : List UInt8}
    (h : readDelimited bytes = .ok (taken, rest)) : rest.length ≤ bytes.length := by
  unfold readDelimited at h
  split at h
  next => simp at h
  next n r hr => exact Nat.le_trans (length_take h) (Nat.le_of_lt (length_readVarint hr))

theorem length_skipValue {kind : Kind} {bytes rest : List UInt8}
    (h : skipValue kind bytes = .ok rest) : rest.length ≤ bytes.length := by
  have key : ∀ {α : Type} {r : Read α},
      (∀ a s, r = .ok (a, s) → s.length ≤ bytes.length) → r.map (·.2) = .ok rest →
      rest.length ≤ bytes.length := by
    intro α r hr he
    cases r with
    | error f => simp [Except.map] at he
    | ok p =>
      obtain ⟨a, s⟩ := p
      simp only [Except.map, Except.ok.injEq] at he
      exact he ▸ hr a s rfl
  cases kind with
  | varint => exact key (fun _ _ h => Nat.le_of_lt (length_readVarint h)) h
  | fixed64 => exact key (fun _ _ h => length_take h) h
  | fixed32 => exact key (fun _ _ h => length_take h) h
  | delimited => exact key (fun _ _ h => length_readDelimited h) h
  | groupStart => simp [skipValue] at h
  | groupEnd => simp [skipValue] at h

/-- How many groups may be open at once when a field begins in the innermost. -/
def depthLimit : Nat := 100

/-- Skips fields until the end marks of all open groups were read. -/
def skipGroups (opened : List Nat) (bytes : List UInt8) : Except Fault (List UInt8) :=
  match opened with
  | [] => .ok bytes
  | number :: outer =>
    match hk : readKey bytes with
    | .error fault => .error fault
    | .ok (key, rest) =>
      have := length_readKey hk
      if key.kind = .groupEnd then
        if key.number = number then skipGroups outer rest else .error .unexpectedEnd
      else if depthLimit ≤ outer.length + 1 then .error .tooDeep
      else if key.kind = .groupStart then skipGroups (key.number :: number :: outer) rest
      else
        match hs : skipValue key.kind rest with
        | .error fault => .error fault
        | .ok rest' =>
          have := length_skipValue hs
          skipGroups (number :: outer) rest'
termination_by bytes.length

def skip (key : Key) (bytes : List UInt8) : Except Fault (List UInt8) :=
  if key.kind = .groupStart then skipGroups [key.number] bytes else skipValue key.kind bytes

theorem length_skipGroups {opened : List Nat} {bytes rest : List UInt8}
    (h : skipGroups opened bytes = .ok rest) : rest.length ≤ bytes.length := by
  fun_induction skipGroups opened bytes <;> grind

theorem length_skip {key : Key} {bytes rest : List UInt8} (h : skip key bytes = .ok rest) :
    rest.length ≤ bytes.length := by
  unfold skip at h
  split at h
  · exact length_skipGroups h
  · exact length_skipValue h

end Menagerie.Wire
