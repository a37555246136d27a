import Menagerie.Bson.Value
import Menagerie.Proofs.Document
import Menagerie.Proofs.Text

/-!
# Creatures of server documents

A document of a database server becomes a stored document by way of JSON, where some kinds of values
turn into objects. `toCreature_faithful`: the creature that comes out is what the values of the
server's document stand for, no document is lost on the way, and an object that stands for a value
is never taken for an identity unless the value is one.
-/

namespace Menagerie

namespace Bson

-- ---------------------------------------------------------------------------
-- What values stand for
-- ---------------------------------------------------------------------------

inductive Identity : Value → String → Prop where
  | objectId (i : ObjectId) : Identity (.objectId i) i.text
  | string (s : String) : Identity (.string s) s
  | int32 (n : Int32) : Identity (.int32 n) (toString n.toInt)
  | int64 (n : Int64) : Identity (.int64 n) (toString n.toInt)
  | double {d : Decimal.Binary64} (finite : d.isFinite = true) :
      Identity (.double d) (Json.doubleLayout.write d)
  /-- A document that looks like an object identifier in JSON. -/
  | document {members : List (String × Value)} {s : String}
      (h : members.lookup "$oid" = some (.string s)) : Identity (.document members) s

/-- Only integers count, not doubles. -/
inductive Count : Value → UInt32 → Prop where
  | int32 {n : Int32} {m : UInt32} (h : n.toInt = m.toNat) : Count (.int32 n) m
  | int64 {n : Int64} {m : UInt32} (h : n.toInt = m.toNat) : Count (.int64 n) m

def sense : Sense Value where
  identity := Identity
  text v t := v = .string t
  count := Count

variable {v : Value} {t : String} {n : UInt32}

theorem specialName?_eq_none_iff {d : Decimal.Binary64} :
    specialName? d = none ↔ d.isFinite = true := by
  unfold specialName?
  split
  next h => simp [h]
  next h => split <;> simp [h]

theorem identity_object_iff {members : Json.Members} :
    Json.Identity (.object members) t ↔ members.get? "$oid" = some (.string t) :=
  ⟨fun h => by cases h; assumption, .object⟩

theorem identity_number_iff {n : Json.Number} : Json.Identity (.number n) t ↔ n.text = t :=
  ⟨fun h => by cases h; rfl, fun h => h ▸ .number n⟩

theorem text_toJson_iff : v.toJson = .string t ↔ v = .string t := by
  constructor
  · intro h
    cases v with
    | string s =>
      cases h
      rfl
    | double d =>
      rw [Value.toJson] at h
      split at h <;> cases h
    | _ => cases h
  · rintro rfl
    rfl

/-- Of all kinds that become objects only object identifiers are identities, and documents that look
like one. -/
theorem identity_toJson_iff : Json.Identity v.toJson t ↔ Identity v t := by
  constructor
  · intro h
    cases v with
    | objectId i =>
      cases identity_object_iff.mp h
      exact .objectId i
    | string s =>
      cases h
      exact .string _
    | int32 n =>
      cases identity_number_iff.mp h
      exact .int32 n
    | int64 n =>
      cases identity_number_iff.mp h
      exact .int64 n
    | double d =>
      rw [Value.toJson] at h
      split at h
      next => cases identity_object_iff.mp h
      next hname =>
        cases identity_number_iff.mp h
        exact .double (specialName?_eq_none_iff.mp hname)
    | document members =>
      have hoid := identity_object_iff.mp h
      rw [Document.get?_membersToJson, Option.map_eq_some_iff] at hoid
      obtain ⟨v, hv, ht⟩ := hoid
      rw [text_toJson_iff.mp ht] at hv
      exact .document hv
    | array | boolean | null => cases h
    | binary | undefined | dateTime | regularExpression | pointer | code | scopedCode | symbol
    | timestamp | decimal | minKey | maxKey => cases identity_object_iff.mp h
  · rintro (i | _ | n | n | finite | hoid)
    · exact .object rfl
    · exact .string _
    · exact .number (.integer n.toInt)
    · exact .number (.integer n.toInt)
    · rw [Value.toJson, specialName?_eq_none_iff.mpr finite]
      exact .number _
    · refine .object ?_
      rw [Document.get?_membersToJson, hoid]
      rfl

theorem count_toJson_iff : v.toJson = .number (.integer n.toNat) ↔ Count v n := by
  constructor
  · intro h
    cases v with
    | int32 k => exact .int32 (Json.Number.integer.inj (Json.Value.number.inj h))
    | int64 k => exact .int64 (Json.Number.integer.inj (Json.Value.number.inj h))
    | double d =>
      rw [Value.toJson] at h
      split at h <;> cases h
    | _ => cases h
  · rintro (h | h) <;> rw [Value.toJson, h]

theorem kept_toJson : Sense.Kept Value.toJson sense Json.sense where
  identity _ _ := identity_toJson_iff
  text _ _ := text_toJson_iff
  count _ _ := count_toJson_iff

-- ---------------------------------------------------------------------------
-- Documents
-- ---------------------------------------------------------------------------

structure ObjectId.Spelled (i : ObjectId) (t : String) : Prop where
  length : t.length = 24
  digits : ∀ c ∈ t.toList, c ∈ "0123456789abcdef".toList
  value : Text.hexValue? t.toList = some i.bits.toNat

theorem ObjectId.spelled_text (i : ObjectId) : i.Spelled i.text where
  length := Text.length_hexText (by decide) (Nat.lt_of_lt_of_eq i.bits.isLt (by decide))
  digits _ := Text.mem_hexText
  value := Text.hexValue?_hexText 24 i.bits.toNat

def Value.isNumber : Value → Bool
  | .double _ | .int32 _ | .int64 _ | .decimal _ => true
  | _ => false

theorem member?_of_identity (h : Identity v t) :
    v.isNumber = true ∨ v = .string t ∨ v.toJson.member? "$oid" = some (.string t) := by
  cases h with
  | objectId i => exact .inr (.inr rfl)
  | string s => exact .inr (.inl rfl)
  | int32 | int64 | double => exact .inl rfl
  | document hoid =>
    refine .inr (.inr ?_)
    rw [Value.toJson, Json.Value.member?, Json.Value.members?, Option.bind_some,
      Document.get?_membersToJson, hoid]
    rfl

theorem map_fst_membersToJson (members : List (String × Value)) :
    (membersToJson members).map Prod.fst = members.map Prod.fst := by
  induction members with
  | nil => rfl
  | cons head rest ih => rw [membersToJson, List.map_cons, List.map_cons, ih]

theorem Document.get?_toDocument (d : Document) :
    d.toDocument.get? = fun key => (d.get? key).map Value.toJson :=
  funext fun key => get?_membersToJson d.members key

/-- The creature of a server's document is what its values describe. The document becomes an object
with the same keys, so that it is never replaced by the empty one. An identity is the text of an
object identifier, a number or a text, or else the text under the key of object identifiers. -/
theorem Document.toCreature_faithful (d : Document) :
    (∀ c, Describes sense d.get? c ↔ c = d.toDocument.toCreature) ∧
      ((Value.document d.members).toJson = .object d.toDocument.members ∧
        d.toDocument.members.map Prod.fst = d.members.map Prod.fst) ∧
      (∀ i : ObjectId, i.Spelled i.text) ∧
      ∀ v t, Identity v t →
        v.isNumber = true ∨ v = .string t ∨ v.toJson.member? "$oid" = some (.string t) := by
  refine ⟨fun c => ?_, ⟨rfl, map_fst_membersToJson d.members⟩, ObjectId.spelled_text,
    fun v t => member?_of_identity⟩
  rw [← Menagerie.Document.describes_iff, d.get?_toDocument]
  exact (describes_map kept_toJson).symm

end Bson

end Menagerie
