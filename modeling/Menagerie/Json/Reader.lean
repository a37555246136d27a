import Menagerie.Json.Value
import Menagerie.Text.Digits

/-!
# Reading JSON text

A literal is the pieces of a number. Its significand is kept in 64 bits: digits of the whole part
that no longer fit raise the exponent, and digits of the fraction that no longer fit are ignored.

The reader is a pushdown machine that takes one character at a time. The stack holds the containers
that are still open; the mode says what the machine is in the middle of. `Value.parse?` runs it over
a whole text. The grammar is strict: no character may follow the value, a key that comes twice keeps
its last value, an escaped half of a surrogate pair must have its partner, and at most `depthLimit`
containers are open at once.
-/

namespace Menagerie.Json

-- ---------------------------------------------------------------------------
-- Number literals
-- ---------------------------------------------------------------------------

structure Literal where
  negative : Bool
  whole : List Char
  fraction : Option (List Char)
  /-- Whether the exponent is negative, and its digits. -/
  exponent : Option (Bool × List Char)

namespace Literal

def digit (c : Char) : Nat := c.toNat - '0'.toNat

def natural (digits : List Char) : Nat := digits.foldl (fun n c => 10 * n + digit c) 0

def wordBound : Nat := UInt64.size

/-- Appends digits to a significand while the result fits 64 bits; the digits left over. -/
def extend : Nat → List Char → Nat × List Char
  | significand, [] => (significand, [])
  | significand, c :: rest =>
    let next := 10 * significand + digit c
    if next < wordBound then extend next rest else (significand, c :: rest)

def scaled (l : Literal) : Nat × Int :=
  let (whole, dropped) := extend 0 l.whole
  let fraction := l.fraction.getD []
  let (significand, ignored) := extend whole fraction
  let taken := fraction.length - ignored.length
  let written : Int := match l.exponent with
    | none => 0
    | some (true, digits) => -(natural digits : Int)
    | some (false, digits) => natural digits
  (significand, written + dropped.length - taken)

/-- The integer of a literal with neither fraction nor exponent that fits 64 bits; `-0` is none. -/
def integer? (l : Literal) : Option Int :=
  let n := natural l.whole
  match l.fraction, l.exponent, l.negative with
  | none, none, false => if n < wordBound then some n else none
  | none, none, true => if 0 < n ∧ n ≤ 1 <<< 63 then some (-(n : Int)) else none
  | _, _, _ => none

/-- `none` for a literal above the largest double. -/
def number? (l : Literal) : Option Number :=
  match l.integer? with
  | some n => some (.integer n)
  | none =>
    let (significand, exponent) := l.scaled
    (Decimal.Binary64.ofDecimal? l.negative (UInt64.ofNat significand) exponent).map .double

end Literal

-- ---------------------------------------------------------------------------
-- Texts
-- ---------------------------------------------------------------------------

inductive Frame where
  /-- The items so far, last first. -/
  | array (done : List Value)
  /-- The members so far, and the key whose value comes next. -/
  | object (done : Members) (key : String)

inductive Role where
  | value
  | key

inductive Escape where
  | none
  | opened
  /-- Digits left of `\uXXXX` and their value so far. -/
  | unit (left value : Nat)

inductive Digits where
  | minus
  | zero
  | whole
  | point
  | fraction
  | mark
  | sign
  | exponent

inductive Mode where
  | value
  | firstItem
  | firstKey
  | key
  | colon
  | after (value : Value)
  | word (rest : List Char) (value : Value)
  /-- The characters so far, last first, and the first half of a surrogate pair. -/
  | text (role : Role) (done : List Char) (escape : Escape) (half : Option Nat)
  | number (at_ : Digits) (literal : Literal)

structure Reader where
  stack : List Frame
  mode : Mode

namespace Reader

def depthLimit : Nat := 127

def start : Reader := ⟨[], .value⟩

def isBlank (c : Char) : Bool := c = ' ' || c = '\t' || c = '\n' || c = '\r'

def push (r : Reader) (frame : Frame) (mode : Mode) : Option Reader :=
  if r.stack.length < depthLimit then some ⟨frame :: r.stack, mode⟩ else none

def beginNumber (stack : List Frame) (c : Char) : Option Reader :=
  let literal : Literal := ⟨c = '-', if c = '-' then [] else [c], none, none⟩
  if c = '-' then some ⟨stack, .number .minus literal⟩
  else if c = '0' then some ⟨stack, .number .zero literal⟩
  else if c.isDigit then some ⟨stack, .number .whole literal⟩
  else none

def beginValue (r : Reader) (c : Char) : Option Reader :=
  match c with
  | '"' => some ⟨r.stack, .text .value [] .none none⟩
  | '[' => r.push (.array []) .firstItem
  | '{' => r.push (.object [] "") .firstKey
  | 't' => some ⟨r.stack, .word ['r', 'u', 'e'] (.bool true)⟩
  | 'f' => some ⟨r.stack, .word ['a', 'l', 's', 'e'] (.bool false)⟩
  | 'n' => some ⟨r.stack, .word ['u', 'l', 'l'] .null⟩
  | c => beginNumber r.stack c

def afterValue (stack : List Frame) (value : Value) (c : Char) : Option Reader :=
  if isBlank c then some ⟨stack, .after value⟩
  else match stack, c with
    | .array done :: rest, ',' => some ⟨.array (value :: done) :: rest, .value⟩
    | .array done :: rest, ']' => some ⟨rest, .after (.array (value :: done).reverse)⟩
    | .object done key :: rest, ',' => some ⟨.object (done.insert key value) "" :: rest, .key⟩
    | .object done key :: rest, '}' => some ⟨rest, .after (.object (done.insert key value))⟩
    | _, _ => none

def closeEmpty (r : Reader) (value : Value) : Reader := ⟨r.stack.tail, .after value⟩

def endText (stack : List Frame) (role : Role) (done : List Char) : Option Reader :=
  let text := String.ofList done.reverse
  match role, stack with
  | .value, _ => some ⟨stack, .after (.string text)⟩
  | .key, .object members _ :: rest => some ⟨.object members text :: rest, .colon⟩
  | .key, _ => none

def endUnit (done : List Char) (half : Option Nat) (unit : Nat) :
    Option (List Char × Option Nat) :=
  let isHigh := 0xD800 ≤ unit ∧ unit < 0xDC00
  let isLow := 0xDC00 ≤ unit ∧ unit < 0xE000
  match half with
  | none =>
    if isHigh then some (done, some unit)
    else if isLow then none
    else some (Char.ofNat unit :: done, none)
  | some high =>
    if isLow then
      some (Char.ofNat (0x10000 + (high - 0xD800) * 0x400 + (unit - 0xDC00)) :: done, none)
    else none

def escaped? : Char → Option Char
  | '"' => some '"'
  | '\\' => some '\\'
  | '/' => some '/'
  | 'b' => some '\x08'
  | 'f' => some '\x0c'
  | 'n' => some '\n'
  | 'r' => some '\r'
  | 't' => some '\t'
  | _ => none

def inText (stack : List Frame) (role : Role) (done : List Char) (escape : Escape)
    (half : Option Nat) (c : Char) : Option Reader :=
  let go (done : List Char) (escape : Escape) (half : Option Nat) : Option Reader :=
    some ⟨stack, .text role done escape half⟩
  match escape with
  | .none =>
    if c = '\\' then go done .opened half
    else if half.isSome then none
    else if c = '"' then endText stack role done
    else if c.toNat < 0x20 then none
    else go (c :: done) .none none
  | .opened =>
    if c = 'u' then go done (.unit 4 0) half
    else if half.isSome then none
    else (escaped? c).bind fun e => go (e :: done) .none none
  | .unit left value =>
    (Text.hexDigit? c).bind fun d =>
      let value := 16 * value + d
      if 1 < left then go done (.unit (left - 1) value) half
      else (endUnit done half value).bind fun (done, half) => go done .none half

def Digits.accepts : Digits → Bool
  | .zero | .whole | .fraction | .exponent => true
  | _ => false

def nextDigits? (at_ : Digits) (c : Char) : Option Digits :=
  let isMark := c = 'e' || c = 'E'
  match at_ with
  | .minus => if c = '0' then some .zero else if c.isDigit then some .whole else none
  | .zero => if c = '.' then some .point else if isMark then some .mark else none
  | .whole =>
    if c.isDigit then some .whole else if c = '.' then some .point
    else if isMark then some .mark else none
  | .point => if c.isDigit then some .fraction else none
  | .fraction => if c.isDigit then some .fraction else if isMark then some .mark else none
  | .mark =>
    if c.isDigit then some .exponent else if c = '+' || c = '-' then some .sign else none
  | .sign => if c.isDigit then some .exponent else none
  | .exponent => if c.isDigit then some .exponent else none

def extendLiteral (l : Literal) (c : Char) : Digits → Literal
  | .minus => l
  | .zero | .whole => { l with whole := c :: l.whole }
  | .point => { l with fraction := some [] }
  | .fraction => { l with fraction := some (c :: l.fraction.getD []) }
  | .mark => { l with exponent := some (false, []) }
  | .sign => { l with exponent := some (c = '-', []) }
  | .exponent =>
    { l with exponent := l.exponent.map fun (negative, digits) => (negative, c :: digits) }

def endNumber? (at_ : Digits) (l : Literal) : Option Value :=
  if Digits.accepts at_ then
    let forward : Literal := { l with
      whole := l.whole.reverse
      fraction := l.fraction.map List.reverse
      exponent := l.exponent.map fun (negative, digits) => (negative, digits.reverse) }
    forward.number?.map .number
  else none

def step (r : Reader) (c : Char) : Option Reader :=
  match r.mode with
  | .value => if isBlank c then some r else r.beginValue c
  | .firstItem =>
    if isBlank c then some r
    else if c = ']' then some (r.closeEmpty (.array []))
    else r.beginValue c
  | .firstKey =>
    if isBlank c then some r
    else if c = '}' then some (r.closeEmpty (.object []))
    else if c = '"' then some ⟨r.stack, .text .key [] .none none⟩
    else none
  | .key =>
    if isBlank c then some r
    else if c = '"' then some ⟨r.stack, .text .key [] .none none⟩
    else none
  | .colon =>
    if isBlank c then some r else if c = ':' then some ⟨r.stack, .value⟩ else none
  | .after value => afterValue r.stack value c
  | .word [] _ => none
  | .word [last] value => if c = last then some ⟨r.stack, .after value⟩ else none
  | .word (expected :: rest) value =>
    if c = expected then some ⟨r.stack, .word rest value⟩ else none
  | .text role done escape half => inText r.stack role done escape half c
  | .number at_ literal =>
    match nextDigits? at_ c with
    | some next => some ⟨r.stack, .number next (extendLiteral literal c next)⟩
    | none => (endNumber? at_ literal).bind fun value => afterValue r.stack value c

def finish? (r : Reader) : Option Value :=
  match r.stack, r.mode with
  | [], .after value => some value
  | [], .number at_ literal => endNumber? at_ literal
  | _, _ => none

end Reader

def Value.parse? (text : String) : Option Value :=
  (text.toList.foldlM Reader.step Reader.start).bind Reader.finish?

end Menagerie.Json
