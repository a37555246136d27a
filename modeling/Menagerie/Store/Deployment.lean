import Menagerie.Bson.Value
import Menagerie.Failure
import Menagerie.Text.Digits
import Menagerie.Text.Parts

/-!
# Database servers

A connection string names the servers in order, or it has a fault, and the first one is told. A server
is reached by a ping. It answers a search in batches, and one of its commands may fail, which ends
whatever it was asked for.
-/

namespace Menagerie.Store

-- ---------------------------------------------------------------------------
-- Connection strings
-- ---------------------------------------------------------------------------

structure ServerAddress where
  host : String
  port : Nat
  deriving DecidableEq, Inhabited, Repr

namespace ServerAddress

def defaultPort : Nat := 27017

def text (a : ServerAddress) : String := a.host ++ ":" ++ toString a.port

def read (address : String) : Except String ServerAddress :=
  let fault (reason : String) : Except String ServerAddress :=
    .error ("invalid server address " ++ address ++ ": " ++ reason)
  let (host, port) := match Text.splitFirst? ':' address.toList with
    | some (host, port) => (host, some (String.ofList port))
    | none => (address.toList, none)
  if host = [] then fault "the hostname cannot be empty"
  else
    let name := String.ofList (host.map Char.toLower)
    match port with
    | none => .ok ⟨name, defaultPort⟩
    | some port =>
      match Text.readNatural 65535 port with
      | .ok (n + 1) => .ok ⟨name, n + 1⟩
      | _ => fault ("the port must be an integer between 1 and 65535, got " ++ port)

end ServerAddress

namespace ConnectionString

def scheme : List Char := "mongodb://".toList

/-- The text before the last separator, if there is one, and the text after it. -/
def splitLast (separator : Char) (text : List Char) : Option (List Char) × List Char :=
  match Text.splitFirst? separator text.reverse with
  | some (after, before) => (some before.reverse, after.reverse)
  | none => (none, text)

/-- Characters that user names and passwords hold only as escapes. -/
def isReserved (c : Char) : Bool := ":/?#[]@".toList.contains c

/-- Every percent sign begins an escape of two digits. -/
def isEscaped : List Char → Bool
  | [] => true
  | '%' :: a :: b :: rest =>
    (Text.hexDigit? a).isSome && (Text.hexDigit? b).isSome && isEscaped rest
  | c :: rest => c ≠ '%' && isEscaped rest

def checkUser (role : String) (text : List Char) : Except String Unit :=
  if text.any isReserved || ! isEscaped text then .error (role ++ " must be URL encoded")
  else .ok ()

def checkCredentials (text : List Char) : Except String Unit :=
  let (name, password) := match Text.splitFirst? ':' text with
    | some (name, password) => (name, password)
    | none => (text, [])
  if name = [] then .error "username cannot be empty"
  else do
    checkUser "username" name
    checkUser "password" password

def checkOption (text : List Char) : Except String Unit :=
  match Text.splitFirst? '=' text with
  | some _ => .ok ()
  | none =>
    .error ("connection string options is not a `key=value` pair: " ++ String.ofList text)

def servers (text : String) : Except String (List ServerAddress) := do
  let rest := text.toList.drop scheme.length
  let (place, options) := match Text.splitFirst? '?' rest with
    | some (place, options) => (place, Text.split '&' options)
    | none => (rest, [])
  let (credentials, place) := splitLast '@' place
  match credentials with
  | some credentials => checkCredentials credentials
  | none => pure ()
  let hosts := match Text.splitFirst? '/' place with
    | some (hosts, _) => hosts
    | none => place
  let servers ← (Text.split ',' hosts).mapM fun host => ServerAddress.read (String.ofList host)
  options.forM checkOption
  pure servers

end ConnectionString

-- ---------------------------------------------------------------------------
-- Searches
-- ---------------------------------------------------------------------------

inductive Command where
  | ping | find | getMore
  deriving DecidableEq, Inhabited, Repr

structure CommandFault where
  command : Command
  code : Int
  name : String
  message : String
  deriving DecidableEq, Inhabited, Repr

def CommandFault.failure (f : CommandFault) : Failure :=
  .store ("Kind: Command failed: Error code " ++ toString f.code ++ " (" ++ f.name ++ "): " ++
    f.message)

structure Deployment where
  documents : List Bson.Document
  batch : Nat
  fault : Option CommandFault := none
  deriving Inhabited

structure Harvest where
  documents : List Bson.Document
  /-- How many batches after the first were asked for. -/
  further : Nat
  failure : Option Failure

namespace Deployment

def faultOf? (d : Deployment) (command : Command) : Option Failure :=
  (d.fault.filter (·.command = command)).map CommandFault.failure

def unreachable? (d : Deployment) : Option Failure := d.faultOf? .ping

def furtherBatches (d : Deployment) : Nat :=
  if d.batch = 0 then 0 else (d.documents.length - 1) / d.batch

def search (d : Deployment) : Harvest :=
  match d.faultOf? .find with
  | some failure => ⟨[], 0, some failure⟩
  | none =>
    if d.furtherBatches = 0 then ⟨d.documents, 0, none⟩
    else match d.faultOf? .getMore with
      | some failure => ⟨d.documents.take d.batch, 1, some failure⟩
      | none => ⟨d.documents, d.furtherBatches, none⟩

end Deployment

end Menagerie.Store
