import Menagerie.Address
import Menagerie.Client.Calls
import Menagerie.CommandLine.Parser
import Menagerie.Failure
import Menagerie.Rpc.Host
import Menagerie.Store.Deployment
import Menagerie.StoreUri
import Menagerie.Telemetry
import Menagerie.Text.Parts

/-!
# The two programs

From the words of the command line to the outcome. The client reads its configuration, connects and
makes both calls; the server reads its configuration, listens and finds its store, and then runs
until it is told to end. What they find beyond themselves is a `Network`: whether a port can be
listened on, whether a store can be reached, and what answers at an address. An outcome is the exit
code of a program and what it has printed; a failure is printed with its causes below it, numbered
when there are several.
-/

namespace Menagerie.Launch

-- ---------------------------------------------------------------------------
-- The network
-- ---------------------------------------------------------------------------

structure Network (σ : Type) where
  /-- Why nobody can listen on a port. -/
  busy? : Nat → Option String
  missing? : StoreUri → Option Failure
  /-- The server at an address, or why there is none: the causes, nearest first. -/
  dial : Address → Except (List String) (Client.Server σ × σ)

namespace Network

def unreachable : String := "Network is unreachable (os error 101)"

def inUse : String := "Address already in use (os error 98)"

def unresolved : String :=
  "failed to lookup address information: Temporary failure in name resolution"

def isNumeric (host : List Char) : Bool :=
  host = "localhost".toList || host.head? = some '[' ||
    host.all fun c => c.isDigit || c = '.'

def noRoute (host : List Char) : String := if isNumeric host then unreachable else unresolved

def noStore (uri : StoreUri) : Option Failure :=
  match uri with
  | .memory => none
  | .mongo text =>
    match Store.ConnectionString.servers text with
    | .error fault => some (.store ("Kind: An invalid argument was provided: " ++ fault))
    | .ok servers =>
      let described := servers.map fun server =>
        "\x7b Address: " ++ server.text ++ ", Type: Unknown, Error: Kind: I/O error: " ++
          noRoute server.host.toList ++ ", labels: \x7b\x7d \x7d"
      some (.store ("Kind: Server selection timeout: No available servers. Topology: \x7b Type: " ++
        "Unknown, Servers: [ " ++ String.intercalate ", " described ++
        " ] \x7d, labels: \x7b\x7d"))

def hostOf (authority : List Char) : List Char :=
  let host := (Store.ConnectionString.splitLast '@' authority).2
  if host.head? = some '[' then host.takeWhile (· ≠ ']') ++ [']']
  else host.takeWhile (· ≠ ':')

def noFile : String := "No such file or directory (os error 2)"

def noAnswer (address : Address) : List String :=
  if address = ClientConfig.localAddress then ["transport error", noFile, noFile]
  else
    let host := hostOf address.authority.toList
    let step := if isNumeric host then "tcp connect error" else "dns error"
    ["transport error", step, step, noRoute host]

/-- A machine without a route to anywhere, on which some ports are taken. -/
def isolated (σ : Type) (taken : List Nat) : Network σ where
  busy? port := if port ∈ taken then some inUse else none
  missing? := noStore
  dial address := .error (noAnswer address)

end Network

-- ---------------------------------------------------------------------------
-- How a program ends
-- ---------------------------------------------------------------------------

structure Outcome where
  exit : Nat
  stdout : String := ""
  stderr : String := ""
  log : List Log.Line := []

/-- Lines after the first of a cause stand below its text. -/
def indent (first further : String) (text : String) : String :=
  let lines := (Text.split '\n' text.toList).map String.ofList
  first ++ String.intercalate ("\n" ++ further) lines

def causeTexts : List String → List String
  | [] => []
  | [cause] => [indent "    " "    " cause]
  | causes =>
    causes.zipIdx.map fun (cause, n) =>
      let number := toString n
      indent (String.ofList (List.replicate (5 - number.length) ' ') ++ number ++ ": ")
        "       " cause

def complaint (message : String) (causes : List String) : String :=
  "Error: " ++ message ++
    (if causes.isEmpty then ""
    else "\n\nCaused by:\n" ++ String.intercalate "\n" (causeTexts causes)) ++ "\n"

def Outcome.failed (message : String) (causes : List String) (log : List Log.Line := []) :
    Outcome where
  exit := 1
  stderr := complaint message causes
  log := log

def Outcome.refused (p : CommandLine.Program) (environment : CommandLine.Environment)
    (r : CommandLine.Refusal) : Outcome :=
  let text := r.render p p.name environment
  if r.isAnswer then { exit := 0, stdout := text } else { exit := 2, stderr := text }

-- ---------------------------------------------------------------------------
-- The client
-- ---------------------------------------------------------------------------

def foundText : Option Creature → String
  | some creature => "Some(" ++ creature.detail ++ ")"
  | none => "None"

def doneLine (r : Client.Report) : Log.Line :=
  ⟨.info, "Done: " ++ foundText r.creature ++ " and " ++ toString r.creatures.length ++
    " streamed creatures"⟩

def clientFailed (config : ClientConfig) (log : List Log.Line) (e : Client.CallError) : Outcome :=
  .failed ("talking to " ++ config.address.text) (e.message :: e.causes)
    (log.filter (·.level.onConsole) ++ [⟨.error, e.message⟩])

/-- Connects to the configured address and makes both calls over the connection. `none` when the
time left is too much for a header. -/
def drive? (network : Network σ) (config : ClientConfig) (start : Client.Instant) :
    Option (List Log.Line × Except Client.CallError Client.Report) :=
  match network.dial config.address with
  | .error causes => some ([], .error (.connect config.address.text causes))
  | .ok (server, s) =>
    (Client.run? server s config start).map fun (_, run) => (run.log, run.result)

/-- A run of the client program. When more time is left than a header can say the program breaks
off. -/
def runClient (network : Network σ) (environment : CommandLine.Environment) (words : List String) :
    Outcome :=
  match ClientConfig.program.parse environment words with
  | .error refusal => .refused ClientConfig.program environment refusal
  | .ok arguments =>
    match ClientConfig.ofArguments (.ofArguments arguments) with
    | .error e => .failed e.message e.causes
    | .ok config =>
      match drive? network config 0 with
      | none => { exit := 101 }
      | some (log, .error e) => clientFailed config log e
      | some (log, .ok report) =>
        { exit := 0, log := log.filter (·.level.onConsole) ++ [doneLine report] }

-- ---------------------------------------------------------------------------
-- The server
-- ---------------------------------------------------------------------------

inductive ServerStart where
  | ended (outcome : Outcome)
  | running (config : ServerConfig)

/-- Starts the server: the configuration first, then the port, then the store. -/
def startServer (network : Network σ) (environment : CommandLine.Environment)
    (words : List String) : ServerStart :=
  match ServerConfig.program.parse environment words with
  | .error refusal => .ended (.refused ServerConfig.program environment refusal)
  | .ok arguments =>
    match ServerConfig.ofArguments (.ofArguments arguments) with
    | .error e => .ended (.failed e.message [])
    | .ok config =>
      match network.busy? config.port with
      | some cause => .ended (.failed ("failed to listen on " ++ config.listenAddress) [cause])
      | none =>
        match network.missing? config.store with
        | some failure =>
          .ended (.failed ("failed to connect to store at " ++ config.store.display)
            [failure.message])
        | none => .running config

inductive Signal where
  | interrupt | terminate
  deriving DecidableEq, Inhabited, Repr

def Signal.line : Signal → Log.Line
  | .interrupt => ⟨.info, "Received Ctrl+C signal"⟩
  | .terminate => ⟨.info, "Received SIGTERM signal"⟩

def startLine (config : ServerConfig) : Log.Line :=
  ⟨.info, "Starting creature service on " ++ config.listenAddress ++ " with full config: " ++
    config.detailIn .lines⟩

def hostOf (config : ServerConfig) : Rpc.Host :=
  .start { config, backend := .memory .empty }

def endServer (config : ServerConfig) (host : Rpc.Host) (signal : Signal) : Outcome :=
  let before := host.service.log
  let after := ((host.stop.join config.drainTimeout).1.service.log).drop before.length
  let log := startLine config :: before ++ signal.line ::
    ⟨.info, "Shutdown signal received, terminating gracefully..."⟩ :: after ++
    [⟨.info, "Service shut down successfully"⟩]
  { exit := 0, log := log.filter (·.level.onConsole) }

end Menagerie.Launch
