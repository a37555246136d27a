import Menagerie.Bson.Decimal128
import Menagerie.Document
import Menagerie.Text.Digits
import Menagerie.Text.DateTime

/-!
# Documents of a database server

The kinds of values that a database server keeps, and the JSON values that stand for them. A kind
without a counterpart becomes an object whose key begins with a dollar sign; numbers of all sizes
become plain numbers.
-/

namespace Menagerie.Bson

structure ObjectId where
  bits : BitVec 96
  deriving DecidableEq, Inhabited, Repr

def ObjectId.text (i : ObjectId) : String := Text.hexText 24 i.bits.toNat

inductive Value where
  | double (value : Decimal.Binary64)
  | string (value : String)
  | document (members : List (String × Value))
  | array (items : List Value)
  | binary (subtype : UInt8) (bytes : List UInt8)
  | undefined
  | objectId (id : ObjectId)
  | boolean (value : Bool)
  | dateTime (ms : Int64)
  | null
  | regularExpression (pattern options : String)
  | pointer (target : String) (id : ObjectId)
  | code (code : String)
  | scopedCode (code : String) (scope : List (String × Value))
  | symbol (text : String)
  | int32 (value : Int32)
  | int64 (value : Int64)
  | timestamp (time increment : UInt32)
  | decimal (value : Decimal128)
  | minKey
  | maxKey
  deriving Inhabited

/-- The first instant after the year 9999. -/
def yearsEnd : Int := 253402300800000

def specialName? (d : Decimal.Binary64) : Option String :=
  if d.isFinite then none
  else if d.fraction = 0 then some (if d.negative then "-Infinity" else "Infinity")
  else some (if d.negative then "-NaN" else "NaN")

def tagged (key : String) (value : Json.Value) : Json.Value := .object [(key, value)]

def sorted (text : String) : String :=
  String.ofList (text.toList.mergeSort fun a b => a.toNat ≤ b.toNat)

/-- A date from 1970 to the year 9999 is a text, any other a number of milliseconds. -/
def dateValue (ms : Int) : Json.Value :=
  tagged "$date" <|
    if 0 ≤ ms ∧ ms < yearsEnd then .string (Text.DateTime.write ms.toNat)
    else tagged "$numberLong" (.string (toString ms))

mutual

def Value.toJson : Value → Json.Value
  | .double d =>
    match specialName? d with
    | some name => tagged "$numberDouble" (.string name)
    | none => .number (.double d)
  | .string s => .string s
  | .document members => .object (membersToJson members)
  | .array items => .array (itemsToJson items)
  | .binary subtype bytes => tagged "$binary" <| .object [
      ("base64", .string (String.ofList (Text.Base64.write bytes))),
      ("subType", .string (Text.hexText 2 subtype.toNat))]
  | .undefined => tagged "$undefined" (.bool true)
  | .objectId id => tagged "$oid" (.string id.text)
  | .boolean b => .bool b
  | .dateTime ms => dateValue ms.toInt
  | .null => .null
  | .regularExpression pattern options => tagged "$regularExpression" <| .object [
      ("pattern", .string pattern), ("options", .string (sorted options))]
  | .pointer target id => tagged "$dbPointer" <| .object [
      ("$ref", .string target), ("$id", tagged "$oid" (.string id.text))]
  | .code code => tagged "$code" (.string code)
  | .scopedCode code scope =>
    .object [("$code", .string code), ("$scope", .object (membersToJson scope))]
  | .symbol text => tagged "$symbol" (.string text)
  | .int32 n => .number (.integer n.toInt)
  | .int64 n => .number (.integer n.toInt)
  | .timestamp time increment => tagged "$timestamp" <| .object [
      ("t", .ofNat time.toNat), ("i", .ofNat increment.toNat)]
  | .decimal d => tagged "$numberDecimal" (.string d.write)
  | .minKey => tagged "$minKey" (.ofNat 1)
  | .maxKey => tagged "$maxKey" (.ofNat 1)

def membersToJson : List (String × Value) → Json.Members
  | [] => []
  | (key, value) :: rest => (key, value.toJson) :: membersToJson rest

def itemsToJson : List Value → List Json.Value
  | [] => []
  | value :: rest => value.toJson :: itemsToJson rest

end

structure Document where
  members : List (String × Value)
  deriving Inhabited

namespace Document

def get? (d : Document) (key : String) : Option Value := d.members.lookup key

/-- The stored document that a JSON value is; the empty one for a value that is no object. -/
def ofJson : Json.Value → Menagerie.Document
  | .object members => ⟨members⟩
  | _ => .empty

def toDocument (d : Document) : Menagerie.Document := ofJson (Value.document d.members).toJson

theorem get?_membersToJson (members : List (String × Value)) (key : String) :
    Json.Members.get? (membersToJson members) key = (members.lookup key).map Value.toJson := by
  induction members with
  | nil => simp [membersToJson, Json.Members.get?]
  | cons head rest ih =>
    obtain ⟨k, v⟩ := head
    by_cases h : k = key
    · simp [membersToJson, Json.Members.get?, h]
    · have : (key == k) = false := by simp [Ne.symm h]
      simp [membersToJson, Json.Members.get?, List.lookup_cons, h, this, ih]

end Document

end Menagerie.Bson
