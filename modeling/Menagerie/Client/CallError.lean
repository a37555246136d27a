import Menagerie.Failure
import Menagerie.Text.Quoted

/-!
# Failed calls

Why a client call failed. Every status of the server is a timeout, a miss, or a transport failure
that keeps the status.
-/

namespace Menagerie

def Status.text (s : Status) : String :=
  "code: '" ++ s.code.description ++ "'" ++
    if s.message = "" then "" else ", message: " ++ Text.quote s.message

namespace Client

inductive CallError where
  | invalidAddress (address : String) (causes : List String)
  | connect (address : String) (causes : List String)
  | timeout (call : String)
  | notFound (call message : String)
  | transport (call : String) (status : Status)
  deriving DecidableEq, Inhabited, Repr

namespace CallError

/-- The message of the status that a call ends with when its own timeout passes on this side. -/
def timeoutExpired : String := "Timeout expired"

def ofStatus (call : String) (s : Status) : CallError :=
  if s.code = .deadlineExceeded then .timeout call
  else if s.code = .cancelled ∧ s.message = timeoutExpired then .timeout call
  else if s.code = .notFound then .notFound call s.message
  else .transport call s

def isTimeout : CallError → Bool
  | .timeout _ => true
  | _ => false

def kind : CallError → String
  | .invalidAddress .. => "InvalidAddress"
  | .connect .. => "Connect"
  | .timeout _ => "Timeout"
  | .notFound .. => "NotFound"
  | .transport .. => "Transport"

def message : CallError → String
  | .invalidAddress address _ => "invalid server address `" ++ address ++ "`"
  | .connect address _ => "failed to connect to " ++ address
  | .timeout call => call ++ " did not complete before the deadline"
  | .notFound call message => call ++ " found nothing: " ++ message
  | .transport call status => call ++ " failed: " ++ status.text

def causes : CallError → List String
  | .invalidAddress _ causes | .connect _ causes => causes
  | _ => []

end CallError

end Client

end Menagerie
