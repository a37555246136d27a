/-!
# Numbers and bytes in digits

Integers are a sign and decimal digits, and nothing else; they are taken digit by digit, so a text
that is too large and has a bad character later on is too large. Numbers in base sixteen are written
with small letters and read with either. In base sixty-four three bytes are four characters, and
equality signs fill up the last group; a reader takes exactly the texts that a writer makes.
-/

namespace Menagerie.Text

-- ---------------------------------------------------------------------------
-- Integers
-- ---------------------------------------------------------------------------

inductive IntegerFault where
  | empty
  | invalidDigit
  | tooLarge
  | tooSmall
  deriving DecidableEq, Inhabited, Repr

def IntegerFault.message : IntegerFault → String
  | .empty => "cannot parse integer from empty string"
  | .invalidDigit => "invalid digit found in string"
  | .tooLarge => "number too large to fit in target type"
  | .tooSmall => "number too small to fit in target type"

/-- A magnitude of at most `most`; `fault` when the digits reach beyond it. -/
def readMagnitude (most : Nat) (fault : IntegerFault) (digits : List Char) :
    Except IntegerFault Nat :=
  digits.foldlM (fun n c =>
    if c.isDigit then
      let next := 10 * n + (c.toNat - '0'.toNat)
      if next ≤ most then .ok next else .error fault
    else .error .invalidDigit) 0

def readNatural (most : Nat) (text : String) : Except IntegerFault Nat :=
  match text.toList with
  | [] => .error .empty
  | ['+'] => .error .invalidDigit
  | '+' :: digits => readMagnitude most .tooLarge digits
  | digits => readMagnitude most .tooLarge digits

def readInteger (text : String) : Except IntegerFault Int :=
  match text.toList with
  | [] => .error .empty
  | ['+'] | ['-'] => .error .invalidDigit
  | '+' :: digits => (readMagnitude (1 <<< 63 - 1) .tooLarge digits).map Int.ofNat
  | '-' :: digits => (readMagnitude (1 <<< 63) .tooSmall digits).map fun n => -(n : Int)
  | digits => (readMagnitude (1 <<< 63 - 1) .tooLarge digits).map Int.ofNat

-- ---------------------------------------------------------------------------
-- Base sixteen
-- ---------------------------------------------------------------------------

def hexText (width n : Nat) : String :=
  let digits := Nat.toDigits 16 n
  String.ofList (List.replicate (width - digits.length) '0' ++ digits)

def hexDigit? (c : Char) : Option Nat :=
  if c.isDigit then some (c.toNat - '0'.toNat)
  else if 'a' ≤ c ∧ c ≤ 'f' then some (c.toNat - 'a'.toNat + 10)
  else if 'A' ≤ c ∧ c ≤ 'F' then some (c.toNat - 'A'.toNat + 10)
  else none

def hexValue? (digits : List Char) : Option Nat :=
  if digits = [] then none
  else digits.foldlM (fun n c => (hexDigit? c).map (16 * n + ·)) 0

def readHex? (bound : Nat) (text : List Char) : Option Nat :=
  let digits := match text with
    | '+' :: rest => rest
    | _ => text
  (hexValue? digits).filter (· < bound)

end Menagerie.Text

namespace Menagerie.Text.Base64

-- ---------------------------------------------------------------------------
-- Base sixty-four
-- ---------------------------------------------------------------------------

def alphabet : List Char :=
  "ABCDEFGHIJKLMNOPQRSTUVWXYZabcdefghijklmnopqrstuvwxyz0123456789+/".toList

def digit (n : Nat) : Char := alphabet.getD n '='

def value? (c : Char) : Option Nat :=
  if c ∈ alphabet then some (alphabet.idxOf c) else none

def write : List UInt8 → List Char
  | [] => []
  | [a] =>
    let n := a.toNat * 16
    [digit (n / 64), digit (n % 64), '=', '=']
  | [a, b] =>
    let n := (a.toNat * 256 + b.toNat) * 4
    [digit (n / 4096), digit (n / 64 % 64), digit (n % 64), '=']
  | a :: b :: c :: rest =>
    let n := (a.toNat * 256 + b.toNat) * 256 + c.toNat
    digit (n / 262144) :: digit (n / 4096 % 64) :: digit (n / 64 % 64) :: digit (n % 64) ::
      write rest

/-- Bits that make up no whole byte must be zero. -/
def read? : List Char → Option (List UInt8)
  | [] => some []
  | [a, b, '=', '='] => do
    let n := (← value? a) * 64 + (← value? b)
    if n % 16 = 0 then some [UInt8.ofNat (n / 16)] else none
  | [a, b, c, '='] => do
    let n := ((← value? a) * 64 + (← value? b)) * 64 + (← value? c)
    if n % 4 = 0 then some [UInt8.ofNat (n / 1024), UInt8.ofNat (n / 4 % 256)] else none
  | a :: b :: c :: d :: rest => do
    let n := (((← value? a) * 64 + (← value? b)) * 64 + (← value? c)) * 64 + (← value? d)
    let bytes ← read? rest
    some (UInt8.ofNat (n / 65536) :: UInt8.ofNat (n / 256 % 256) :: UInt8.ofNat (n % 256) :: bytes)
  | _ => none

end Menagerie.Text.Base64
