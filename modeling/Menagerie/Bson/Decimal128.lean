import Menagerie.Text.Digits
import Menagerie.Text.Parts

/-!
# Decimal numbers of 34 digits

A decimal is a coefficient of at most 34 digits and a power of ten. A text is read without any
rounding, so digits are dropped only when they are zeros.
-/

namespace Menagerie.Bson

inductive Decimal128 where
  | invalid
  | infinite (negative : Bool)
  | finite (negative : Bool) (coefficient : Nat) (exponent : Int)
  deriving DecidableEq, Inhabited, Repr

namespace Decimal128

def precision : Nat := 34

def leastExponent : Int := -6176

def greatestExponent : Int := 6111

/-- The first digits, if the others are zeros. -/
def shorten? (digits : List Char) (length : Nat) : Option (List Char) :=
  if (digits.drop length).all (· = '0') then some (digits.take length) else none

def exponent? (text : List Char) : Option Int :=
  match Text.readInteger (String.ofList text) with
  | .ok n => if -32768 ≤ n ∧ n ≤ 32767 then some n else none
  | .error _ => none

/-- Digits with a point among them: all digits, and how many come after the point. -/
def joined (text : List Char) : List Char × Nat :=
  match Text.splitFirst? '.' text with
  | some (whole, fraction) => (whole ++ fraction, fraction.length)
  | none => (text, 0)

def withoutZeros (digits : List Char) : List Char :=
  let rest := digits.dropWhile (· = '0')
  if rest = [] ∧ digits ≠ [] then ['0'] else rest

def value? (digits : List Char) : Option Nat :=
  if digits ≠ [] ∧ digits.all Char.isDigit then
    some (digits.foldl (fun n c => 10 * n + (c.toNat - '0'.toNat)) 0)
  else none

/-- Moves the exponent into its range, if zeros at the end of the digits allow it. -/
def fit? (digits : List Char) (exponent : Int) : Option (List Char × Int) :=
  if exponent < leastExponent then
    if digits = ['0'] then some (digits, leastExponent)
    else
      let excess := (leastExponent - exponent).toNat
      if digits.length < excess then none
      else (shorten? digits (digits.length - excess)).map (·, leastExponent)
  else if greatestExponent < exponent then
    if digits = ['0'] then some (digits, greatestExponent)
    else
      let missing := (exponent - greatestExponent).toNat
      if precision < digits.length + missing then none
      else some (digits ++ List.replicate missing '0', greatestExponent)
  else some (digits, exponent)

def readFinite? (negative : Bool) (text : List Char) : Option Decimal128 := do
  let (number, exponent) ← match Text.splitFirst? 'e' text with
    | none => some (text, 0)
    | some (number, exponent) => (exponent? exponent).map (number, ·)
  let (digits, places) := joined number
  let digits := withoutZeros digits
  let kept ← if precision < digits.length then shorten? digits precision else some digits
  let exponent := exponent - places + (digits.length - kept.length : Nat)
  let (digits, exponent) ← fit? kept exponent
  (value? digits).map fun n => .finite negative n exponent

def read? (text : String) : Option Decimal128 :=
  let (negative, rest) := match text.toList with
    | '-' :: rest => (true, rest)
    | '+' :: rest => (false, rest)
    | rest => (false, rest)
  let lower := rest.map Char.toLower
  if lower = "nan".toList ∨ lower = "snan".toList then some .invalid
  else if lower = "infinity".toList ∨ lower = "inf".toList then some (.infinite negative)
  else readFinite? negative lower

/-- Positional from `0.000001` on as long as the exponent is not positive, else scientific. -/
def write : Decimal128 → String
  | .invalid => "NaN"
  | .infinite negative => (if negative then "-" else "") ++ "Infinity"
  | .finite negative coefficient exponent =>
    let digits := Nat.toDigits 10 coefficient
    let lead : Int := exponent + digits.length - 1
    let text :=
      if exponent ≤ 0 ∧ -6 ≤ lead then
        let places := (-exponent).toNat
        if places = 0 then digits
        else if digits.length ≤ places then
          "0.".toList ++ List.replicate (places - digits.length) '0' ++ digits
        else
          digits.take (digits.length - places) ++ '.' :: digits.drop (digits.length - places)
      else
        digits.take 1 ++ (if digits.length = 1 then [] else '.' :: digits.drop 1) ++
          'E' :: (if 0 < lead then ['+'] else []) ++ (toString lead).toList
    (if negative then "-" else "") ++ String.ofList text

end Decimal128

end Menagerie.Bson
