import Menagerie.Address
import Menagerie.Client.CallError
import Menagerie.CommandLine.Parser

/-!
# Client configuration

The options of the client program and the configuration they make.
-/

namespace Menagerie

structure ClientArguments where
  address : String
  name : String
  /-- In milliseconds. -/
  timeout : Nat
  deriving DecidableEq, Inhabited, Repr

structure ClientConfig where
  address : Address
  name : String
  /-- The time that both calls have together, in milliseconds. -/
  timeout : Nat
  deriving DecidableEq, Inhabited, Repr

inductive ClientConfig.Error where
  | zeroTimeout
  | address (error : Client.CallError)
  deriving DecidableEq, Inhabited, Repr

namespace ClientConfig.Error

def kind : ClientConfig.Error → String
  | .zeroTimeout => "Message"
  | .address error => error.kind

def message : ClientConfig.Error → String
  | .zeroTimeout => "CREATURE_TIMEOUT_MS must be greater than 0"
  | .address error => error.message

def causes : ClientConfig.Error → List String
  | .zeroTimeout => []
  | .address error => error.causes

end ClientConfig.Error

def ClientConfig.defaultAddress : String := "localhost:50051"

def ClientConfig.defaultName : String := "April"

def ClientConfig.defaultTimeout : Nat := 1000

def ClientConfig.flags : List CommandLine.Flag := [
  { name := "addr", env := "CREATURE_ADDR", default := defaultAddress
    summary := "The address to connect to"
    notes := ["A bare `host:port` is dialed over plaintext HTTP/2."] },
  { name := "name", env := "CREATURE_NAME", default := defaultName
    summary := "Name of the creature to look up" },
  { name := "timeout-ms", env := "CREATURE_TIMEOUT_MS", default := "1000"
    domain := .natural (UInt64.size - 1)
    summary := "Deadline shared by every call, in milliseconds" }]

def ClientConfig.program : CommandLine.Program where
  name := "creature-client"
  version := "0.1.0"
  about := "Looks up creatures on a creature-server"
  overview := ["Runtime configuration for the `creature-client` binary.",
    "Values come from CLI arguments or environment variables (a `.env` file is loaded first)."]
  flags := flags

def ClientArguments.ofArguments (a : CommandLine.Arguments) : ClientArguments where
  address := a.text "addr"
  name := a.text "name"
  timeout := a.natural "timeout-ms"

namespace ClientConfig

def hasScheme (text : List Char) : Bool :=
  match text with
  | [] => false
  | ':' :: '/' :: '/' :: _ => true
  | _ :: rest => hasScheme rest

/-- The text with a scheme: plain HTTP unless it names one. -/
def withScheme (text : String) : String :=
  if hasScheme text.toList then text else "http://" ++ text

/-- Where a socket of this machine stands in for a host. -/
def localAddress : Address := ⟨some "http", "tonic", ""⟩

def readAddress (text : String) : Except Client.CallError Address :=
  let full := withScheme text
  if "unix:".toList.isPrefixOf full.toList then .ok localAddress
  else match Address.read full with
    | .ok address => .ok address
    | .error fault => .error (.invalidAddress full ["invalid URI", fault.message])

def make (address name : String) (timeout : Nat) :
    Except Client.CallError ClientConfig := do
  pure ⟨← readAddress address, name, timeout⟩

def ofArguments (a : ClientArguments) : Except Error ClientConfig :=
  if a.timeout = 0 then .error .zeroTimeout
  else (make a.address a.name a.timeout).mapError .address

end ClientConfig

end Menagerie
