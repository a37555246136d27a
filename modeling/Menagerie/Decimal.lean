/-!
# Doubles and their decimal digits

A double is kept as its 64 bits, so that equality is decidable and the two zeros differ. `parts`
reads the bits as an exact dyadic rational; `ofDecimal?` scales a significand by a power of ten.

`Binary64.shortest` gives the digits and the decimal exponent of the shortest decimal that rounds to
a double. All reals strictly between the two midpoints round to it, and the midpoints themselves
when its mantissa is even. For each count of digits only the two points of that decimal grid next to
the value are candidates, because a grid point further away can be in the interval only if one of
these two is. `Layout` holds what a format decides: where positional notation ends and how an
exponent is spelled.
-/

namespace Menagerie.Decimal

-- ---------------------------------------------------------------------------
-- Doubles
-- ---------------------------------------------------------------------------

structure Binary64 where
  bits : UInt64
  deriving DecidableEq, Inhabited, Repr

namespace Binary64

def ofFloat (f : Float) : Binary64 := ⟨f.toBits⟩

/-- The sign bit, set on `-0.0` as well. -/
def negative (b : Binary64) : Bool := b.bits.toNat >>> 63 = 1

def exponentField (b : Binary64) : Nat := b.bits.toNat >>> 52 % 2048

def fraction (b : Binary64) : Nat := b.bits.toNat % (1 <<< 52)

def isFinite (b : Binary64) : Bool := b.exponentField ≠ 2047

/-- The magnitude of a finite number is `mantissa * 2 ^ exponent`. -/
structure Parts where
  mantissa : Nat
  exponent : Int
  /-- The gap to the number below is half the gap to the number above. -/
  narrowBelow : Bool
  deriving DecidableEq, Repr

def parts (b : Binary64) : Parts :=
  if b.exponentField = 0 then ⟨b.fraction, -1074, false⟩
  else ⟨1 <<< 52 + b.fraction, (b.exponentField : Int) - 1075, b.fraction = 0 ∧ 1 < b.exponentField⟩

def powerOfTen (k : Nat) : Float := Float.ofScientific 1 false k

/-- Scales a significand by `10 ^ e` in double arithmetic: one product or quotient where the power
is itself a double, two quotients below that. `none` above the largest double. -/
def ofDecimal? (negative : Bool) (significand : UInt64) (e : Int) : Option Binary64 :=
  let f := significand.toFloat
  let magnitude : Option Float :=
    if 308 < e then
      if significand = 0 then some f else none
    else if 0 ≤ e then
      let g := f * powerOfTen e.toNat
      if g.isInf then none else some g
    else if -308 ≤ e then some (f / powerOfTen (-e).toNat)
    else if -616 ≤ e then some (f / powerOfTen 308 / powerOfTen (-e - 308).toNat)
    else some 0
  magnitude.map fun g => ofFloat (if negative then -g else g)

end Binary64

-- ---------------------------------------------------------------------------
-- The fewest digits that read back
-- ---------------------------------------------------------------------------

structure Ratio where
  num : Nat
  den : Nat
  deriving Repr

namespace Ratio

def ofDyadic (n : Nat) (e : Int) : Ratio :=
  if 0 ≤ e then ⟨n <<< e.toNat, 1⟩ else ⟨n, 1 <<< (-e).toNat⟩

def scaleDown (r : Ratio) (k : Int) : Ratio :=
  if 0 ≤ k then ⟨r.num, r.den * Nat.pow 10 k.toNat⟩ else ⟨r.num * Nat.pow 10 (-k).toNat, r.den⟩

def floor (r : Ratio) : Nat := r.num / r.den

def digitCount (n : Nat) : Nat := (Nat.toDigits 10 n).length

def decimalExponent (r : Ratio) : Int :=
  let guess : Int := (digitCount r.num : Int) - digitCount r.den
  if (r.scaleDown guess).floor = 0 then guess - 1 else guess

end Ratio

/-- `digits` read as `d.ddd` times ten to the `exponent`. -/
structure Shortest where
  digits : List Char
  exponent : Int
  deriving Repr

namespace Shortest

def trimZeros (digits : List Char) : List Char :=
  match (digits.reverse.dropWhile (· = '0')).reverse with
  | [] => ['0']
  | ds => ds

/-- Whether `n` grid units lie in the interval of the numbers that round to the value. -/
def covers (low high : Ratio) (closed : Bool) (n : Nat) : Bool :=
  if closed then low.num ≤ n * low.den ∧ n * high.den ≤ high.num
  else low.num < n * low.den ∧ n * high.den < high.num

/-- The grid point next to `value` that lies in the interval; of two the nearer, of two equally near
the even one. -/
def nearest? (low value high : Ratio) (closed : Bool) : Option Nat :=
  let below := value.floor
  match covers low high closed below, covers low high closed (below + 1) with
  | true, true =>
    let twice := 2 * value.num
    let middle := (2 * below + 1) * value.den
    if twice < middle then some below
    else if middle < twice then some (below + 1)
    else if below % 2 = 0 then some below else some (below + 1)
  | true, false => some below
  | false, true => some (below + 1)
  | false, false => none

def search (low value high : Ratio) (closed : Bool) (lead : Int) (count : Nat) : Nat → Shortest
  | 0 => ⟨['0'], 0⟩
  | tries + 1 =>
    let unit := lead - (count : Int) + 1
    match nearest? (low.scaleDown unit) (value.scaleDown unit) (high.scaleDown unit) closed with
    | some n =>
      let digits := Nat.toDigits 10 n
      ⟨trimZeros digits, unit + digits.length - 1⟩
    | none => search low value high closed lead (count + 1) tries

end Shortest

def Binary64.shortest (b : Binary64) : Shortest :=
  let p := b.parts
  if p.mantissa = 0 then ⟨['0'], 0⟩
  else
    let value := Ratio.ofDyadic (4 * p.mantissa) (p.exponent - 2)
    let high := Ratio.ofDyadic (4 * p.mantissa + 2) (p.exponent - 2)
    let low := Ratio.ofDyadic (4 * p.mantissa - if p.narrowBelow then 1 else 2) (p.exponent - 2)
    Shortest.search low value high (p.mantissa % 2 = 0) value.decimalExponent 1 17

structure Layout where
  least : Int
  bound : Int
  deriving Repr

namespace Layout

def positional (digits : List Char) (exponent : Int) : List Char :=
  if exponent < 0 then
    '0' :: '.' :: (List.replicate ((-exponent).toNat - 1) '0' ++ digits)
  else
    let whole := exponent.toNat + 1
    let padded := digits ++ List.replicate (whole - digits.length) '0'
    match padded.drop whole with
    | [] => padded ++ ['.', '0']
    | rest => padded.take whole ++ '.' :: rest

def scientific (digits : List Char) (exponent : Int) : List Char :=
  let mantissa := match digits with
    | [] | [_] => digits
    | d :: rest => d :: '.' :: rest
  let sign := if exponent < 0 then '-' else '+'
  mantissa ++ 'e' :: sign :: Nat.toDigits 10 exponent.natAbs

def write (layout : Layout) (b : Binary64) : String :=
  let s := b.shortest
  let magnitude :=
    if layout.least ≤ s.exponent ∧ s.exponent < layout.bound then positional s.digits s.exponent
    else scientific s.digits s.exponent
  String.ofList (if b.negative then '-' :: magnitude else magnitude)

end Layout

end Menagerie.Decimal
