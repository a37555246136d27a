import Menagerie.CommandLine.Parser
import Menagerie.Document
import Menagerie.StoreUri

/-!
# Server configuration

The options of the server program and the configuration they make. Values are checked in a fixed
order, and the first that cannot be used is reported.
-/

namespace Menagerie

/-- Values as they come from the command line, not yet checked. -/
structure ServerArguments where
  port : Nat
  storeUri : String
  creatureDatabase : String
  creatureCollection : String
  database : String
  collection : String
  lookupField : String
  lookupValue : String
  bufferSize : Nat
  /-- In seconds. -/
  shutdownTimeout : Nat
  deriving DecidableEq, Inhabited, Repr

structure ServerConfig where
  port : Nat
  store : StoreUri
  creatures : Namespace
  lookup : Lookup
  bufferSize : Nat
  /-- How long streams may go on after a shutdown, in milliseconds. -/
  drainTimeout : Nat
  deriving DecidableEq, Inhabited, Repr

inductive ServerConfig.Error where
  | emptyBuffer
  | blankName (env : String)
  | store (failure : Failure)
  deriving DecidableEq, Inhabited, Repr

namespace ServerConfig.Error

/-- Complaints of the configuration itself are plain messages; a store URI fails as such. -/
def kind : ServerConfig.Error → String
  | .emptyBuffer | .blankName _ => "Message"
  | .store failure => failure.kind

def message : ServerConfig.Error → String
  | .emptyBuffer => "STREAM_BUFFER_SIZE must be greater than 0"
  | .blankName env => env ++ " must not be empty"
  | .store failure => failure.message

end ServerConfig.Error

def ServerConfig.defaultPort : Nat := 50051

def ServerConfig.defaultStoreUri : String := "mongodb://10.3.2.11"

def ServerConfig.wordLimit : Nat := UInt64.size - 1

def ServerConfig.flags : List CommandLine.Flag := [
  { name := "port", env := "PORT", default := "50051", domain := .within 65535
    summary := "The server port", notes := ["The server listens on all interfaces."] },
  { name := "store-uri", env := "STORE_URI", default := defaultStoreUri
    summary := "Connection string of the backing document store"
    notes := ["`mongodb://` and `mongodb+srv://` URIs connect to MongoDB; `memory://` uses an empty " ++
      "in-process store."] },
  { name := "creature-database", env := "CREATURE_DATABASE", default := "creature_server"
    summary := "Database searched by `GetCreature`" },
  { name := "creature-collection", env := "CREATURE_COLLECTION", default := "creatures"
    summary := "Collection searched by `GetCreature`" },
  { name := "database", env := "STORE_DATABASE", default := "fakeDatabase"
    summary := "Database queried by `GetCreatures`" },
  { name := "collection", env := "STORE_COLLECTION", default := "movies"
    summary := "Collection queried by `GetCreatures`" },
  { name := "lookup-field", env := "LOOKUP_FIELD", default := "title"
    summary := "Document field matched by the `GetCreatures` lookup" },
  { name := "lookup-value", env := "LOOKUP_VALUE", default := "Back to the Future"
    summary := "Value the lookup field must equal" },
  { name := "stream-buffer-size", env := "STREAM_BUFFER_SIZE", default := "8"
    domain := .natural wordLimit
    summary := "Capacity of the response buffer between the store cursor and the gRPC stream" },
  { name := "shutdown-timeout", env := "SHUTDOWN_TIMEOUT", default := "3"
    domain := .natural wordLimit
    summary := "Seconds to wait for in-flight streams to drain on shutdown before they are " ++
      "cancelled" }]

def ServerConfig.program : CommandLine.Program where
  name := "creature-server"
  version := "0.1.0"
  about := "A gRPC service for creature records"
  overview := ["Runtime configuration for the `creature-server` binary.",
    "All values are parsed from CLI arguments or environment variables (a `.env` file is loaded " ++
      "first), with defaults matching the reference deployment."]
  flags := flags

def ServerArguments.ofArguments (a : CommandLine.Arguments) : ServerArguments where
  port := a.natural "port"
  storeUri := a.text "store-uri"
  creatureDatabase := a.text "creature-database"
  creatureCollection := a.text "creature-collection"
  database := a.text "database"
  collection := a.text "collection"
  lookupField := a.text "lookup-field"
  lookupValue := a.text "lookup-value"
  bufferSize := a.natural "stream-buffer-size"
  shutdownTimeout := a.natural "shutdown-timeout"

namespace ServerConfig

def names (a : ServerArguments) : List (String × String) := [
  ("CREATURE_DATABASE", a.creatureDatabase),
  ("CREATURE_COLLECTION", a.creatureCollection),
  ("STORE_DATABASE", a.database),
  ("STORE_COLLECTION", a.collection),
  ("LOOKUP_FIELD", a.lookupField)]

def ofArguments (a : ServerArguments) : Except Error ServerConfig :=
  if a.bufferSize = 0 then .error .emptyBuffer
  else match (names a).find? fun (_, value) => Text.allBlank value with
    | some (env, _) => .error (.blankName env)
    | none =>
      match StoreUri.parse a.storeUri with
      | .error failure => .error (.store failure)
      | .ok store => .ok {
        port := a.port
        store
        creatures := ⟨a.creatureDatabase, a.creatureCollection⟩
        lookup := ⟨⟨a.database, a.collection⟩, ⟨a.lookupField, a.lookupValue⟩⟩
        bufferSize := a.bufferSize
        drainTimeout := 1000 * a.shutdownTimeout }

def default : ServerConfig where
  port := defaultPort
  store := .mongo defaultStoreUri
  creatures := ⟨"creature_server", "creatures"⟩
  lookup := ⟨⟨"fakeDatabase", "movies"⟩, ⟨"title", "Back to the Future"⟩⟩
  bufferSize := 8
  drainTimeout := 3000

def listenAddress (s : ServerConfig) : String := "0.0.0.0:" ++ toString s.port

/-- A number of milliseconds in seconds, without zeros at the end. -/
def secondsText (ms : Nat) : String :=
  if ms = 0 then "0ns"
  else if ms < 1000 then toString ms ++ "ms"
  else
    let digits := toString (1000 + ms % 1000)
    let rest := ((digits.toList.drop 1).reverse.dropWhile (· = '0')).reverse
    toString (ms / 1000) ++ (if rest = [] then "" else "." ++ String.ofList rest) ++ "s"

def detailIn (layout : Text.Layout) (s : ServerConfig) : String :=
  Text.recordIn layout "ServerConfig" [
    ("listen_addr", s.listenAddress),
    ("store_uri", s.store.detail),
    ("creatures", s.creatures.detailIn layout),
    ("lookup", s.lookup.detailIn layout),
    ("stream_buffer_size", toString s.bufferSize),
    ("shutdown_timeout", secondsText s.drainTimeout)]

def detail (s : ServerConfig) : String := s.detailIn .inline

end ServerConfig

end Menagerie
