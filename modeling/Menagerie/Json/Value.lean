import Menagerie.Decimal
import Menagerie.Text.Digits

/-!
# JSON values and their text

Numbers keep the kind of their literal: an integer that fits 64 bits stays an integer, every other
literal is a double. Members of an object stand in the order in which their keys first came.

The text of a value is compact: no blanks, members in their order. Control characters, the quote and
the backslash are escaped in strings; everything else stands for itself.
-/

namespace Menagerie.Json

inductive Number where
  | integer (value : Int)
  | double (value : Decimal.Binary64)
  deriving DecidableEq, Inhabited, Repr

inductive Value where
  | null
  | bool (value : Bool)
  | number (value : Number)
  | string (value : String)
  | array (items : List Value)
  | object (members : List (String × Value))
  deriving Inhabited

/-- Members in order, at most one for each key when built by `insert`. -/
abbrev Members := List (String × Value)

namespace Members

def get? : Members → String → Option Value
  | [], _ => none
  | (k, v) :: rest, key => if k = key then some v else get? rest key

/-- Replaces the value of a key in its place, or adds the key at the end. -/
def insert : Members → String → Value → Members
  | [], key, value => [(key, value)]
  | (k, v) :: rest, key, value =>
    if k = key then (k, value) :: rest else (k, v) :: insert rest key value

theorem get?_insert (members : Members) (key other : String) (value : Value) :
    (members.insert key value).get? other =
      if other = key then some value else members.get? other := by
  induction members with
  | nil => simp [insert, get?, eq_comm]
  | cons head rest ih =>
    obtain ⟨k, v⟩ := head
    by_cases hk : k = key <;> by_cases ho : k = other <;> grind [insert, get?]

end Members

namespace Value

def string? : Value → Option String
  | .string s => some s
  | _ => none

def integer? : Value → Option Int
  | .number (.integer n) => some n
  | _ => none

def natural? : Value → Option Nat
  | .number (.integer (.ofNat n)) => some n
  | _ => none

def bool? : Value → Option Bool
  | .bool b => some b
  | _ => none

def members? : Value → Option Members
  | .object members => some members
  | _ => none

def member? (value : Value) (key : String) : Option Value :=
  value.members?.bind (·.get? key)

def ofNat (n : Nat) : Value := .number (.integer n)

end Value

-- ---------------------------------------------------------------------------
-- Text
-- ---------------------------------------------------------------------------

/-- Doubles stand positionally from `0.00001` to below `10 ^ 16`, and in scientific notation outside
of that range. -/
def doubleLayout : Decimal.Layout := ⟨-5, 16⟩

def Number.text : Number → String
  | .integer n => toString n
  | .double d => doubleLayout.write d

def escapeChar (c : Char) : String :=
  match c with
  | '"' => "\\\""
  | '\\' => "\\\\"
  | '\n' => "\\n"
  | '\r' => "\\r"
  | '\t' => "\\t"
  | c => if c.toNat < 0x20 then "\\u" ++ Text.hexText 4 c.toNat else c.toString

def quote (s : String) : String :=
  s.toList.foldl (fun text c => text ++ escapeChar c) "\"" ++ "\""

mutual

def Value.text : Value → String
  | .null => "null"
  | .bool b => if b then "true" else "false"
  | .number n => n.text
  | .string s => quote s
  | .array items => "[" ++ itemsText items ++ "]"
  | .object members => "\x7b" ++ membersText members ++ "\x7d"

def itemsText : List Value → String
  | [] => ""
  | [item] => item.text
  | item :: rest => item.text ++ "," ++ itemsText rest

def membersText : List (String × Value) → String
  | [] => ""
  | [(key, value)] => quote key ++ ":" ++ value.text
  | (key, value) :: rest => quote key ++ ":" ++ value.text ++ "," ++ membersText rest

end

end Menagerie.Json
