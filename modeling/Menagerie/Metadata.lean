/-!
# Call metadata

Headers that travel with a call: pairs of a key and a value, keys without regard to case and with
repetitions. A value is a list of bytes, of which only visible ASCII can be read as text.
-/

namespace Menagerie

/-- The entries in order; keys are kept in lower case. -/
structure Metadata where
  entries : List (String × List UInt8)
  deriving DecidableEq, Inhabited, Repr

namespace Metadata

def isKeyChar (c : Char) : Bool :=
  c.isAlphanum || "!#$%&'*+-.^_|~".toList.contains c || c.toNat = 0x60

def lowerCase (key : String) : String := String.ofList (key.toList.map Char.toLower)

def binarySuffix : List Char := "-bin".toList

def nameLimit : Nat := 65535

/-- The key in lower case, if text values may stand under it. -/
def textKey? (key : String) : Option String :=
  let lower := key.toList.map Char.toLower
  if key.toList ≠ [] ∧ key.toList.length ≤ nameLimit ∧ key.toList.all isKeyChar ∧
      ¬ binarySuffix.isSuffixOf lower then
    some (String.ofList lower)
  else none

def isValueByte (b : UInt8) : Bool := 32 ≤ b && b ≠ 127 || b = 9

def isVisible (b : UInt8) : Bool := 32 ≤ b && b < 127 || b = 9

def value? (bytes : List UInt8) : Option (List UInt8) :=
  if bytes.all isValueByte then some bytes else none

def empty : Metadata := ⟨[]⟩

def getAll (m : Metadata) (key : String) : List (List UInt8) :=
  m.entries.filterMap fun (k, v) => if k = lowerCase key then some v else none

def get? (m : Metadata) (key : String) : Option (List UInt8) := (m.getAll key).head?

def append (m : Metadata) (key : String) (value : List UInt8) : Metadata :=
  ⟨m.entries ++ [(lowerCase key, value)]⟩

def insert (m : Metadata) (key : String) (value : List UInt8) : Metadata :=
  ⟨m.entries.filter (·.1 ≠ lowerCase key) ++ [(lowerCase key, value)]⟩

def bytesOf (text : String) : List UInt8 := text.toUTF8.toList

def textOf? (bytes : List UInt8) : Option String :=
  if bytes.all isVisible then some (String.ofList (bytes.map fun b => Char.ofNat b.toNat))
  else none

/-- The first value under a key as a text, if it is visible ASCII throughout. -/
def text? (m : Metadata) (key : String) : Option String := (m.get? key).bind textOf?

structure Rules where
  allowsKey : String → Bool
  allowsText : String → Bool

/-- The rules of HTTP. They let texts in that are not visible ASCII and so cannot be read again. -/
def Rules.http : Rules where
  allowsKey key := (textKey? key).isSome
  allowsText text := (value? (bytesOf text)).isSome

def setBy (rules : Rules) (m : Metadata) (key value : String) : Metadata :=
  if rules.allowsKey key ∧ rules.allowsText value then m.insert key (bytesOf value) else m

def set (m : Metadata) (key value : String) : Metadata := m.setBy .http key value

end Metadata

end Menagerie
