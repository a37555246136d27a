import Menagerie.Client.CallError
import Menagerie.Config.Client
import Menagerie.Document
import Menagerie.Telemetry
import Menagerie.Timeout
import Menagerie.Wire.Schema

/-!
# Calls of the client

The client looks up one creature by name and then takes the whole stream of creatures, all before
one deadline. Each request carries the time that is left when it is sent, and none is sent once the
deadline has passed.

The server is anything that answers requests, each part of an answer after some time or never. What
comes at the deadline is in time; a call that ends at the deadline leaves no time for the next one.
-/

namespace Menagerie.Client

-- ---------------------------------------------------------------------------
-- Time budgets
-- ---------------------------------------------------------------------------

/-- Nanoseconds since some moment in the past. -/
abbrev Instant := Nat

structure Deadline where
  instant : Instant
  deriving DecidableEq, Inhabited, Repr

structure Request (μ : Type) where
  message : μ
  metadata : Metadata
  deriving DecidableEq, Repr

inductive Prepared (μ : Type) where
  | request (request : Request μ)
  | expired
  /-- Too much time is left for a header to say. -/
  | unwritable

namespace Deadline

def after (now : Instant) (budget : Timeout.Duration) : Deadline := ⟨now + budget⟩

def remaining? (d : Deadline) (now : Instant) : Option Timeout.Duration :=
  if now < d.instant then some (d.instant - now) else none

def prepare (d : Deadline) (now : Instant) (message : μ) : Prepared μ :=
  match d.remaining? now with
  | none => .expired
  | some left =>
    match Timeout.write? left with
    | none => .unwritable
    | some text =>
      let value := Metadata.bytesOf (String.ofList text)
      .request ⟨message, Metadata.empty.insert Timeout.header value⟩

end Deadline

-- ---------------------------------------------------------------------------
-- Calls
-- ---------------------------------------------------------------------------

structure Reply (α : Type) where
  delay : Timeout.Duration
  value : α

inductive Event where
  | creature (creature : Creature)
  | finish
  | failed (status : Status)
  deriving DecidableEq, Repr

/-- An event, and the time since the one before. -/
structure Arrival where
  gap : Timeout.Duration
  event : Event
  deriving DecidableEq, Repr

/-- What a client sees of a server at the other end of a connection. It stands for the channel as
well: for its limit on the size of a message, and for its own timer, which ends a call with a status
when the time in the header is over. `Rpc.Host` is a server with both. -/
structure Server (σ : Type) where
  search : σ → Request CreatureName → σ × Option (Reply (Except Status Creature))
  /-- A stream that never ends is a list without a last event. -/
  list : σ → Request CreaturesRequest → σ × List Arrival

structure Exchange (μ α : Type) where
  request : Option (Request μ)
  result : Except CallError α
  instant : Instant
  log : List Log.Line := []

def searchCall : String := "GetCreature"

def listCall : String := "GetCreatures"

def Deadline.await (d : Deadline) (now : Instant) (call : String)
    (reply : Option (Reply (Except Status α))) : Except CallError α × Instant :=
  match reply with
  | none => (.error (.timeout call), d.instant)
  | some reply =>
    if now + reply.delay ≤ d.instant then
      (reply.value.mapError (CallError.ofStatus call), now + reply.delay)
    else (.error (.timeout call), d.instant)

/-- The creatures that come before the stream or the time is over, and how it ended: `none` for a
clean end. -/
def Deadline.drain (d : Deadline) : Instant → List Arrival → List Creature × Option CallError × Instant
  | _, [] => ([], some (.timeout listCall), d.instant)
  | now, ⟨gap, event⟩ :: rest =>
    if now + gap ≤ d.instant then
      match event with
      | .creature creature =>
        let (creatures, ended) := d.drain (now + gap) rest
        (creature :: creatures, ended)
      | .finish => ([], none, now + gap)
      | .failed status => ([], some (.ofStatus listCall status), now + gap)
    else ([], some (.timeout listCall), d.instant)

def receivedLine (creature : Creature) : Log.Line :=
  ⟨.debug, "Received creature " ++ creature.detail⟩

/-- Looks up a creature. `none` when the time left is too much for a header. -/
def search? (server : Server σ) (s : σ) (d : Deadline) (now : Instant) (name : String) :
    Option (σ × Exchange CreatureName Creature) :=
  match d.prepare now (⟨name⟩ : CreatureName) with
  | .expired => some (s, { request := none, result := .error (.timeout searchCall), instant := now })
  | .unwritable => none
  | .request request =>
    let (s, reply) := server.search s request
    let (result, instant) := d.await now searchCall reply
    some (s, { request, result, instant })

/-- Takes a whole stream, or nothing of it if it does not end well in time. `none` when the time
left is too much for a header. -/
def list? (server : Server σ) (s : σ) (d : Deadline) (now : Instant) :
    Option (σ × Exchange CreaturesRequest (List Creature)) :=
  match d.prepare now ({} : CreaturesRequest) with
  | .expired => some (s, { request := none, result := .error (.timeout listCall), instant := now })
  | .unwritable => none
  | .request request =>
    let (s, arrivals) := server.list s request
    let (creatures, failure, instant) := d.drain now arrivals
    let result := match failure with
      | none => .ok creatures
      | some e => .error e
    some (s, { request, result, instant, log := creatures.map receivedLine })

structure Report where
  /-- `none` if the server has no creature of that name. -/
  creature : Option Creature
  creatures : List Creature
  deriving DecidableEq, Repr

structure Run where
  first : Exchange CreatureName Creature
  /-- `none` if the first call ended the run. -/
  second : Option (Exchange CreaturesRequest (List Creature))
  result : Except CallError Report
  log : List Log.Line

def Run.instant (r : Run) : Instant :=
  match r.second with
  | some second => second.instant
  | none => r.first.instant

/-- That there is no such creature is an answer as well. -/
def tolerate (result : Except CallError Creature) : Except CallError (Option Creature) :=
  match result with
  | .ok creature => .ok (some creature)
  | .error (.notFound ..) => .ok none
  | .error e => .error e

def answerLine (name : String) (result : Except CallError Creature) : List Log.Line :=
  match result with
  | .ok creature => [⟨.info, "Creature: " ++ creature.detail⟩]
  | .error (.notFound _ message) => [⟨.info, "No creature named " ++ name ++ ": " ++ message⟩]
  | .error _ => []

def Deadline.ofConfig (config : ClientConfig) (start : Instant) : Deadline :=
  .after start (config.timeout * 1000000)

/-- Both calls under one deadline, from the moment at which the connection is up. `none` when the
time left is too much for a header. -/
def run? (server : Server σ) (s : σ) (config : ClientConfig) (start : Instant) :
    Option (σ × Run) := do
  let d := Deadline.ofConfig config start
  let (s, first) ← search? server s d start config.name
  let log := answerLine config.name first.result
  match tolerate first.result with
  | .error e => some (s, { first, second := none, result := .error e, log })
  | .ok creature =>
    let log := log ++ [⟨.info, "Getting all of them"⟩]
    let (s, second) ← list? server s d first.instant
    match second.result with
    | .error e =>
      some (s, { first, second := some second, result := .error e, log := log ++ second.log })
    | .ok creatures =>
      let count : Log.Line := ⟨.info, "Streamed " ++ toString creatures.length ++ " creatures"⟩
      some (s, { first, second := some second, result := .ok ⟨creature, creatures⟩
                 log := log ++ second.log ++ [count] })

end Menagerie.Client
