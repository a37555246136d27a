import Menagerie.Bson.Value

/-!
# Values of a database server in JSON

JSON values as a notation for the values of a database server: plain values stand for themselves,
and an object with a certain key that begins with a dollar sign stands for a value of the kind that
the key names. Such an object has no other members than its kind has.
-/

namespace Menagerie.Bson.ExtendedJson

/-- What a JSON value stands for: as a value, and as a document whose keys have no meaning of their
own. -/
structure Reading where
  value : Option Value
  document : Option (List (String × Value)) := none

/-! ## Texts of numbers -/

def splitSign (text : List Char) : Bool × List Char :=
  match text with
  | '-' :: rest => (true, rest)
  | '+' :: rest => (false, rest)
  | _ => (false, text)

def scaled (digits : List Char) (exponent : Int) : Float :=
  let significant := digits.dropWhile (· = '0')
  let n := significant.foldl (fun n c => 10 * n + (c.toNat - '0'.toNat)) 0
  let lead := exponent + significant.length
  if n = 0 ∨ lead < -400 then 0
  else if 400 < lead then 1 / 0
  else Float.ofScientific n (exponent < 0) exponent.natAbs

def readFinite? (text : List Char) : Option Float := do
  let lower := text.map Char.toLower
  let (number, exponent) ← match Text.splitFirst? 'e' lower with
    | none => some (lower, (0 : Int))
    | some (number, exponent) =>
      let (negative, digits) := splitSign exponent
      (Decimal128.value? digits).map fun n => (number, if negative then -(n : Int) else n)
  let (digits, places) := Decimal128.joined number
  if digits ≠ [] ∧ digits.all Char.isDigit then some (scaled digits (exponent - places)) else none

def readDouble? (text : String) : Option Decimal.Binary64 := do
  let (negative, rest) := splitSign text.toList
  let lower := String.ofList (rest.map Char.toLower)
  let f ← if lower = "inf" ∨ lower = "infinity" then some (1 / 0 : Float)
    else if lower = "nan" then some (0 / 0 : Float)
    else readFinite? rest
  some (if lower = "nan" then ⟨if negative then 0xFFF8000000000000 else 0x7FF8000000000000⟩
    else .ofFloat (if negative then -f else f))

def readInt32? (text : String) : Option Int32 :=
  match Text.readInteger text with
  | .ok n => if -0x80000000 ≤ n ∧ n < 0x80000000 then some (Int32.ofInt n) else none
  | .error _ => none

def readInt64? (text : String) : Option Int64 :=
  match Text.readInteger text with
  | .ok n => some (Int64.ofInt n)
  | .error _ => none

def ofNumber : Json.Number → Value
  | .double d => .double d
  | .integer n =>
    if -0x80000000 ≤ n ∧ n < 0x80000000 then .int32 (Int32.ofInt n)
    else if n < 0x8000000000000000 then .int64 (Int64.ofInt n)
    else .double (.ofFloat (UInt64.ofNat n.toNat).toFloat)

/-! ## Objects that stand for values -/

def fields? (keys : List String) (members : Json.Members) : Option (List (Option Json.Value)) :=
  if members.all fun (key, _) => key ∈ keys then some (keys.map members.get?) else none

def string? (value : Option Json.Value) : Option String := value.bind (·.string?)

def word? (value : Option Json.Value) : Option UInt32 := do
  let n ← value.bind (·.natural?)
  if n < UInt32.size then some (UInt32.ofNat n) else none

def objectId? (members : Json.Members) : Option ObjectId := do
  let [id] ← fields? ["$oid"] members | none
  let digits := (← string? id).toList
  if digits.length = 24 then (Text.hexValue? digits).map fun n => ⟨BitVec.ofNat 96 n⟩ else none

def regularExpression? (body : Json.Value) : Option Value := do
  let [pattern, options] ← fields? ["pattern", "options"] (← body.members?) | none
  some (.regularExpression (← string? pattern) (sorted (← string? options)))

def binary? (body : Json.Value) : Option Value := do
  let [base64, subtype] ← fields? ["base64", "subType"] (← body.members?) | none
  let bytes ← Text.Base64.read? (← string? base64).toList
  let digits := (← string? subtype).toList
  if digits.length = 2 then
    (Text.hexValue? digits).map fun n => .binary (UInt8.ofNat n) bytes
  else none

/-- The digits of a UUID, with dashes in their places or none, perhaps in braces or with a label. -/
def uuidDigits? (text : List Char) : Option (List Char) :=
  let label := "urn:uuid:".toList
  let inner :=
    if label.isPrefixOf text then text.drop label.length
    else if text.head? = some '{' ∧ text.getLast? = some '}' then text.tail.dropLast
    else text
  if inner.length = 32 then some inner
  else
    let groups := Text.split '-' inner
    if groups.map List.length = [8, 4, 4, 4, 12] then some groups.flatten else none

def pairs : List Char → List (List Char)
  | a :: b :: rest => [a, b] :: pairs rest
  | _ => []

def uuid? (text : String) : Option Value := do
  let bytes ← (pairs (← uuidDigits? text.toList)).mapM Text.hexValue?
  some (.binary 4 (bytes.map UInt8.ofNat))

def timestamp? (body : Json.Value) : Option Value := do
  let [time, increment] ← fields? ["t", "i"] (← body.members?) | none
  some (.timestamp (← word? time) (← word? increment))

def dateTime? : Json.Value → Option Value
  | .object members => do
    let [ms] ← fields? ["$numberLong"] members | none
    (readInt64? (← string? ms)).map .dateTime
  | .string text => (Text.DateTime.read? text.toList).map fun ms => .dateTime (Int64.ofInt ms)
  | .number (.integer n) => if n < 0x8000000000000000 then some (.dateTime (Int64.ofInt n)) else none
  | _ => none

def pointer? (body : Json.Value) : Option Value := do
  let [target, id] ← fields? ["$ref", "$id"] (← body.members?) | none
  some (.pointer (← string? target) (← objectId? (← id.bind (·.members?))))

def scoped? (code : String) (scope : Option Json.Value) (reading : Option Reading) :
    Option Value :=
  match scope with
  | none | some .null => some (.code code)
  | some _ => (reading.bind (·.document)).map (.scopedCode code)

def special? (key : String) (members : Json.Members) (readings : List (String × Reading)) :
    Option Value :=
  let only : Option Json.Value := do
    let [body] ← fields? [key] members | none
    body
  match key with
  | "$oid" => (objectId? members).map .objectId
  | "$symbol" => (string? only).map .symbol
  | "$regularExpression" => only.bind regularExpression?
  | "$numberInt" => ((string? only).bind readInt32?).map .int32
  | "$numberLong" => ((string? only).bind readInt64?).map .int64
  | "$numberDouble" => ((string? only).bind readDouble?).map .double
  | "$numberDecimal" => ((string? only).bind Decimal128.read?).map .decimal
  | "$binary" => only.bind binary?
  | "$uuid" => (string? only).bind uuid?
  | "$code" => do
    let [code, scope] ← fields? ["$code", "$scope"] members | none
    scoped? (← string? code) scope (readings.lookup "$scope")
  | "$timestamp" => only.bind timestamp?
  | "$date" => only.bind dateTime?
  | "$minKey" => if only.bind (·.natural?) = some 1 then some .minKey else none
  | "$maxKey" => if only.bind (·.natural?) = some 1 then some .maxKey else none
  | "$dbPointer" => only.bind pointer?
  | "$undefined" => if only.bind (·.bool?) = some true then some .undefined else none
  | _ => none

/-- Keys that give an object a meaning, the strongest first. -/
def specialKeys : List String := [
  "$oid", "$symbol", "$regularExpression", "$numberInt", "$numberLong", "$numberDouble",
  "$numberDecimal", "$binary", "$uuid", "$code", "$timestamp", "$date", "$minKey", "$maxKey",
  "$dbPointer", "$undefined"]

def documentOf? (readings : List (String × Reading)) : Option (List (String × Value)) :=
  readings.mapM fun (key, reading) => reading.value.map (key, ·)

mutual

def read : Json.Value → Reading
  | .null => ⟨some .null, none⟩
  | .bool b => ⟨some (.boolean b), none⟩
  | .number n => ⟨some (ofNumber n), none⟩
  | .string s => ⟨some (.string s), none⟩
  | .array items => ⟨(readItems items).map .array, none⟩
  | .object members =>
    let readings := readMembers members
    let document := documentOf? readings
    match specialKeys.find? fun key => (Json.Members.get? members key).isSome with
    | some key => ⟨special? key members readings, document⟩
    | none => ⟨document.map .document, document⟩

def readItems : List Json.Value → Option (List Value)
  | [] => some []
  | item :: rest =>
    match (read item).value, readItems rest with
    | some value, some values => some (value :: values)
    | _, _ => none

def readMembers : List (String × Json.Value) → List (String × Reading)
  | [] => []
  | (key, value) :: rest => (key, read value) :: readMembers rest

end

def document? (members : Json.Members) : Option Document :=
  (documentOf? (readMembers members)).map Document.mk

end Menagerie.Bson.ExtendedJson
