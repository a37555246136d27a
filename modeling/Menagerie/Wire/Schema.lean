import Menagerie.Document
import Menagerie.Wire.Shape

/-!
# Messages and schema

What the two calls send and receive, the shapes by which they travel, and the message types and the
service as a schema file declares them, with the full names that the schema defines.
-/

namespace Menagerie

structure CreatureName where
  name : String
  deriving DecidableEq, Inhabited, Repr

def CreatureName.detail (n : CreatureName) : String :=
  Text.record "CreatureName" [("name", Text.quote n.name)]

structure CreaturesRequest where
  deriving DecidableEq, Inhabited, Repr

def CreaturesRequest.detail (_ : CreaturesRequest) : String := "GetCreaturesRequest"

namespace Wire

def creatureShape : Shape Creature where
  name := "Creature"
  blank := {}
  slots := [
    .text 1 "id" (·.id) fun c id => { c with id },
    .text 2 "name" (·.name) fun c name => { c with name },
    .word 3 "channel_offset" (·.channelOffset) fun c channelOffset => { c with channelOffset },
    .word 4 "audio_channel" (·.audioChannel) fun c audioChannel => { c with audioChannel },
    .text 5 "notes" (·.notes) fun c notes => { c with notes }]

def creatureNameShape : Shape CreatureName where
  name := "CreatureName"
  blank := ⟨""⟩
  slots := [.text 1 "name" (·.name) fun _ name => ⟨name⟩]

def creaturesRequestShape : Shape CreaturesRequest where
  name := "GetCreaturesRequest"
  blank := {}
  slots := []

end Wire

end Menagerie

namespace Menagerie.Wire

structure SchemaField where
  number : Nat
  name : String
  kind : Kind
  deriving DecidableEq, Repr

structure MessageType where
  name : String
  fields : List SchemaField
  comment : Option String := none
  deriving DecidableEq, Repr

structure Method where
  name : String
  input : String
  output : String
  streams : Bool := false
  deriving DecidableEq, Repr

structure ServiceType where
  name : String
  methods : List Method
  deriving DecidableEq, Repr

structure Schema where
  file : String
  package : String
  messages : List MessageType
  service : ServiceType
  deriving DecidableEq, Repr

def Slot.declared (s : Slot μ) : SchemaField := ⟨s.number, s.name, s.kind⟩

def Shape.declared (shape : Shape μ) (comment : Option String) : MessageType :=
  ⟨shape.name, shape.slots.map Slot.declared, comment⟩

def creatureSchema : Schema where
  file := "creatures.proto"
  package := "server"
  messages := [
    creatureShape.declared (some "A single animatronic creature."),
    creatureNameShape.declared none,
    creaturesRequestShape.declared (some "Requests every creature the server knows about.")]
  service := ⟨"CreatureServer", [
    { name := "GetCreature", input := creatureNameShape.name, output := creatureShape.name },
    { name := "GetCreatures", input := creaturesRequestShape.name, output := creatureShape.name
      streams := true }]⟩

namespace Schema

def fullName (s : Schema) (name : String) : String := s.package ++ "." ++ name

def serviceName (s : Schema) : String := s.fullName s.service.name

def symbols (s : Schema) : List String :=
  s.messages.flatMap (fun m =>
    s.fullName m.name :: m.fields.map fun f => s.fullName m.name ++ "." ++ f.name) ++
  s.serviceName :: s.service.methods.map fun m => s.serviceName ++ "." ++ m.name

end Schema

end Menagerie.Wire
