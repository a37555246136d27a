/-!
# What the programs tell about themselves

Log lines, each a level and a message, and what the service counts about its calls and streams.
-/

namespace Menagerie.Log

inductive Level where
  | debug | info | warn | error
  deriving DecidableEq, Inhabited, Repr

def Level.onConsole (l : Level) : Bool := l ≠ .debug

def Level.name : Level → String
  | .debug => "DEBUG"
  | .info => "INFO"
  | .warn => "WARN"
  | .error => "ERROR"

structure Line where
  level : Level
  message : String
  deriving DecidableEq, Inhabited, Repr

def Line.text (l : Line) : String := l.level.name ++ " " ++ l.message

end Menagerie.Log

namespace Menagerie.Service

structure Metrics where
  /-- Searches by name, empty names included. -/
  searches : Nat := 0
  /-- Calls for a stream that were not refused. -/
  listings : Nat := 0
  inflight : Int := 0
  /-- Refused calls, failed searches and streams that ended early. -/
  errors : Nat := 0
  streamed : Nat := 0
  /-- Searches and streams that found nothing. -/
  misses : Nat := 0
  /-- Streams whose duration was recorded. -/
  durations : Nat := 0
  deriving DecidableEq, Inhabited, Repr

def Metrics.named (m : Metrics) : List (String × Int) :=
  [("requests.GetCreature", (m.searches : Int)), ("requests.GetCreatures", m.listings),
    ("streams_inflight", m.inflight), ("errors", m.errors), ("creatures_streamed", m.streamed),
    ("lookup_misses", m.misses), ("stream_duration", m.durations)].filter (·.2 ≠ 0)

end Menagerie.Service
