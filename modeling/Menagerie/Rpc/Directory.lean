import Menagerie.Failure
import Menagerie.Wire.Schema

/-!
# What a server offers

Messages may travel compressed: the server takes every encoding it knows and answers in the first
one that the caller accepts. Beside the creature service, a server answers whether its services are
ready, which services it has and which schema file declares a symbol.
-/

namespace Menagerie.Rpc

-- ---------------------------------------------------------------------------
-- Encodings
-- ---------------------------------------------------------------------------

inductive Encoding where
  | gzip | deflate | zstd
  deriving DecidableEq, Inhabited, Repr

namespace Encoding

def name : Encoding → String
  | .gzip => "gzip"
  | .deflate => "deflate"
  | .zstd => "zstd"

def ofName? : String → Option Encoding
  | "gzip" => some .gzip
  | "deflate" => some .deflate
  | "zstd" => some .zstd
  | _ => none

def supported : List Encoding := [.zstd, .gzip, .deflate]

/-- The encoding of an answer; `none` leaves it as it is. -/
def negotiate (accepted : List Encoding) : Option Encoding := accepted.find? (· ∈ supported)

end Encoding

-- ---------------------------------------------------------------------------
-- Readiness and the schema
-- ---------------------------------------------------------------------------

inductive Readiness where
  | unknown | serving | notServing
  deriving DecidableEq, Inhabited, Repr

def Readiness.toNat : Readiness → Nat
  | .unknown => 0
  | .serving => 1
  | .notServing => 2

/-- Whether a service is ready. The server as a whole, which has the empty name, always is; the
creature service is until the server is told to stop. -/
def readiness (stopping : Bool) (service : String) : Except Status Readiness :=
  if service = "" then .ok .serving
  else if service = Wire.creatureSchema.serviceName then
    .ok (if stopping then .notServing else .serving)
  else .error ⟨.notFound, "service not registered"⟩

inductive Inquiry where
  | services
  | symbol (name : String)
  | file (name : String)
  deriving DecidableEq, Repr

inductive Disclosure where
  | services (names : List String)
  | file (schema : Wire.Schema)
  deriving DecidableEq, Repr

def inquiryService : String := "grpc.reflection.v1.ServerReflection"

def disclose (schema : Wire.Schema) : Inquiry → Except Status Disclosure
  | .services => .ok (.services [inquiryService, schema.serviceName])
  | .symbol name =>
    if name ∈ schema.symbols then .ok (.file schema)
    else .error ⟨.notFound, "symbol '" ++ name ++ "' not found"⟩
  | .file name =>
    if name = schema.file then .ok (.file schema)
    else .error ⟨.notFound, "file '" ++ name ++ "' not found"⟩

end Menagerie.Rpc
