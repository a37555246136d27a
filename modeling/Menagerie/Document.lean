import Menagerie.Json.Value
import Menagerie.Text.Quoted

/-!
# Documents and creatures

A creature is the record that both calls of the service answer with. A document is a JSON object of
any shape, and `Document.toCreature` reads a creature off it: every field is optional, and a field of
the wrong kind reads as the empty text or as zero. A query asks one collection of one database for
the documents whose text under one field is exactly a given value.
-/

namespace Menagerie

-- ---------------------------------------------------------------------------
-- Creatures
-- ---------------------------------------------------------------------------

structure Creature where
  id : String := ""
  name : String := ""
  channelOffset : UInt32 := 0
  audioChannel : UInt32 := 0
  notes : String := ""
  deriving DecidableEq, Inhabited, Repr

def Creature.detail (c : Creature) : String :=
  Text.record "Creature" [
    ("id", Text.quote c.id),
    ("name", Text.quote c.name),
    ("channel_offset", toString c.channelOffset.toNat),
    ("audio_channel", toString c.audioChannel.toNat),
    ("notes", Text.quote c.notes)]

-- ---------------------------------------------------------------------------
-- Documents
-- ---------------------------------------------------------------------------

structure Document where
  members : Json.Members
  deriving Inhabited

namespace Document

def empty : Document := ⟨[]⟩

def get? (d : Document) (key : String) : Option Json.Value := d.members.get? key

def insert (d : Document) (key : String) (value : Json.Value) : Document :=
  ⟨d.members.insert key value⟩

theorem get?_insert (d : Document) (key other : String) (value : Json.Value) :
    (d.insert key value).get? other = if other = key then some value else d.get? other :=
  Json.Members.get?_insert d.members key other value

def toValue (d : Document) : Json.Value := .object d.members

def text? (d : Document) (key : String) : Option String := (d.get? key).bind (·.string?)

/-- The identity that a value stands for: a text, a number's text, or the text under `$oid`. -/
def identity? : Json.Value → Option String
  | .string s => some s
  | .number n => some n.text
  | .object members => (Json.Members.get? members "$oid").bind (·.string?)
  | _ => none

/-- `_id` is read whenever it is there, usable or not; `id` only in its absence. -/
def id (d : Document) : String :=
  (((d.get? "_id").orElse fun _ => d.get? "id").bind identity?).getD ""

def name (d : Document) : String :=
  ((d.text? "name").orElse fun _ => d.text? "title").getD ""

/-- An integer literal from 0 to below `2 ^ 32`; anything else counts as 0. -/
def channel (d : Document) (key : String) : UInt32 :=
  match (d.get? key).bind (·.natural?) with
  | some n => if n < UInt32.size then UInt32.ofNat n else 0
  | none => 0

def toCreature (d : Document) : Creature where
  id := d.id
  name := d.name
  channelOffset := d.channel "channel_offset"
  audioChannel := d.channel "audio_channel"
  notes := (d.text? "notes").getD ""

end Document

-- ---------------------------------------------------------------------------
-- Queries
-- ---------------------------------------------------------------------------

structure Namespace where
  database : String
  collection : String
  deriving DecidableEq, Inhabited, Repr

namespace Namespace

def text (n : Namespace) : String := n.database ++ "." ++ n.collection

def detailIn (layout : Text.Layout) (n : Namespace) : String :=
  Text.recordIn layout "Namespace" [
    ("database", Text.quote n.database),
    ("collection", Text.quote n.collection)]

def detail (n : Namespace) : String := n.detailIn .inline

end Namespace

structure Filter where
  field : String
  value : String
  deriving DecidableEq, Inhabited, Repr

namespace Filter

def accepts (f : Filter) (d : Document) : Bool := d.text? f.field = some f.value

def detailIn (layout : Text.Layout) (f : Filter) : String :=
  Text.recordIn layout "Filter" [("field", Text.quote f.field), ("value", Text.quote f.value)]

end Filter

structure Lookup where
  target : Namespace
  filter : Filter
  deriving DecidableEq, Inhabited, Repr

def Lookup.detailIn (layout : Text.Layout) (l : Lookup) : String :=
  Text.recordIn layout "LookupQuery" [
    ("namespace", l.target.detailIn layout),
    ("filter", l.filter.detailIn layout)]

end Menagerie
