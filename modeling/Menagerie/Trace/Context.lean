import Menagerie.Text.Parts
import Menagerie.Text.Digits

/-!
# Trace contexts

A context names a trace and one span in it, and travels in two headers: the parent, whose parts are
hexadecimal numbers between dashes, and the vendors' entries. `Context.read?` accepts what other
versions of the format may send; `Context.parentText` writes version zero.
-/

namespace Menagerie.Trace

abbrev TraceId := BitVec 128

abbrev SpanId := BitVec 64

abbrev Vendors := List (List Char × List Char)

structure Context where
  trace : TraceId
  span : SpanId
  sampled : Bool
  vendors : Vendors := []
  deriving DecidableEq, Repr

/-- Zero names neither a trace nor a span. -/
def Context.isValid (c : Context) : Bool := c.trace ≠ 0 ∧ c.span ≠ 0

/-! ## Vendors -/

namespace Vendors

def lengthLimit : Nat := 256

def isLowerOrDigit (c : Char) : Bool := c.isLower || c.isDigit

def isKeyChar (c : Char) : Bool := isLowerOrDigit c || "_-*/@".toList.contains c

/-- At most this many characters come after the at sign. -/
def vendorLimit : Nat := 13

/-- A key begins with a small letter or a digit, and so does what comes after its at sign. -/
def isKey (key : List Char) : Bool :=
  key.length ≤ lengthLimit && key.all isKeyChar && key.head?.all isLowerOrDigit &&
    match Text.splitFirst? '@' key with
    | none => true
    | some (_, vendor) =>
      vendor.length ≤ vendorLimit && ! vendor.contains '@' && vendor.head?.all isLowerOrDigit

def isValue (value : List Char) : Bool :=
  value.length ≤ lengthLimit && ! value.contains ',' && ! value.contains '='

/-- One entry; equality signs that follow the first are dropped. -/
def readEntry? (text : List Char) : Option (List Char × List Char) := do
  let (key, rest) ← Text.splitFirst? '=' text
  let value := rest.dropWhile (· = '=')
  if isKey key && isValue value then some (key, value) else none

/-- The entries of a header; one that cannot be read spoils them all. -/
def read (text : List Char) : Vendors :=
  ((Text.splitTerminated ',' text).mapM readEntry?).getD []

def text (v : Vendors) : List Char :=
  List.intercalate [','] (v.map fun (key, value) => key ++ '=' :: value)

end Vendors

/-! ## The parent -/

namespace Context

def lastVersion : Nat := 254

def readId? (bound : Nat) (text : List Char) : Option Nat :=
  if text.any Char.isUpper then none else Text.readHex? bound text

/-- Version zero has four parts and defines two flags; later ones may have more of both. -/
def readParts? (parts : List (List Char)) (vendors : Vendors) : Option Context :=
  match parts with
  | version :: trace :: span :: flags :: more => do
    let version ← Text.readHex? 256 version
    if lastVersion < version ∨ (version = 0 ∧ more ≠ []) then none
    else
      let trace ← readId? (1 <<< 128) trace
      let span ← readId? (1 <<< 64) span
      let flags ← Text.readHex? 256 flags
      if version = 0 ∧ 2 < flags then none
      else
        let context : Context :=
          ⟨BitVec.ofNat 128 trace, BitVec.ofNat 64 span, flags % 2 = 1, vendors⟩
        if context.isValid then some context else none
  | _ => none

def read? (parent vendors : List Char) : Option Context :=
  readParts? (Text.splitTerminated '-' (Text.trimChars parent)) (Vendors.read vendors)

def traceText (c : Context) : String := Text.hexText 32 c.trace.toNat

def spanText (c : Context) : String := Text.hexText 16 c.span.toNat

def parentText (c : Context) : String :=
  "00-" ++ c.traceText ++ "-" ++ c.spanText ++ "-" ++ if c.sampled then "01" else "00"

end Context

end Menagerie.Trace
