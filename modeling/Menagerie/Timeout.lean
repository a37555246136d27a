import Menagerie.Metadata

/-!
# Timeouts in headers

A caller tells how long it is going to wait by up to eight digits and a unit. `Timeout.parse?` reads
such a text, `Timeout.write?` chooses the finest unit in which eight digits are enough, and so cuts
off less than one unit.
-/

namespace Menagerie.Timeout

/-- A length of time in nanoseconds. -/
abbrev Duration := Nat

inductive TimeUnit where
  | hour | minute | second | milli | micro | nano
  deriving DecidableEq, Repr

namespace TimeUnit

def length : TimeUnit → Duration
  | .hour => 3600 * 1000000000
  | .minute => 60 * 1000000000
  | .second => 1000000000
  | .milli => 1000000
  | .micro => 1000
  | .nano => 1

def letter : TimeUnit → Char
  | .hour => 'H'
  | .minute => 'M'
  | .second => 'S'
  | .milli => 'm'
  | .micro => 'u'
  | .nano => 'n'

def ofLetter? : Char → Option TimeUnit
  | 'H' => some .hour
  | 'M' => some .minute
  | 'S' => some .second
  | 'm' => some .milli
  | 'u' => some .micro
  | 'n' => some .nano
  | _ => none

def all : List TimeUnit := [.nano, .micro, .milli, .second, .minute, .hour]

end TimeUnit

def digitLimit : Nat := 8

def value (digits : List Char) : Nat :=
  digits.foldl (fun n c => 10 * n + (c.toNat - '0'.toNat)) 0

/-- One to eight digits and the letter of a unit. -/
def parse? (text : List Char) : Option Duration :=
  match text.getLast? with
  | none => none
  | some letter =>
    let digits := text.dropLast
    if digits ≠ [] ∧ digits.length ≤ digitLimit ∧ digits.all Char.isDigit then
      (TimeUnit.ofLetter? letter).map fun u => value digits * u.length
    else none

/-- The finest unit in which eight digits hold the duration, cut down to whole units. -/
def unit? (d : Duration) : Option TimeUnit :=
  TimeUnit.all.find? fun u => d / u.length < Nat.pow 10 digitLimit

/-- `none` if even the whole hours need more than eight digits. -/
def write? (d : Duration) : Option (List Char) :=
  (unit? d).map fun u => Nat.toDigits 10 (d / u.length) ++ [u.letter]

def header : String := "grpc-timeout"

/-- The timeout that came with a call; a malformed one counts as none. -/
def ofMetadata? (m : Metadata) : Option Duration :=
  (m.text? header).bind fun text => parse? text.toList

end Menagerie.Timeout
