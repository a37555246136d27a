import Menagerie.Text.Quoted

/-!
# Statuses and failures

How a call ends when it does not end well: a status, which is one of seventeen codes and a message.
What can go wrong on the server is a failure. `Failure.message` is the text that logs show, and
`Failure.status` is what a caller is told.
-/

namespace Menagerie

inductive Code where
  | ok | cancelled | unknown | invalidArgument | deadlineExceeded | notFound | alreadyExists
  | permissionDenied | resourceExhausted | failedPrecondition | aborted | outOfRange
  | unimplemented | internal | unavailable | dataLoss | unauthenticated
  deriving DecidableEq, Inhabited, Repr

namespace Code

/-- The code of a number on the wire; every number without a code of its own is `unknown`. -/
def ofInt : Int → Code
  | 0 => .ok
  | 1 => .cancelled
  | 3 => .invalidArgument
  | 4 => .deadlineExceeded
  | 5 => .notFound
  | 6 => .alreadyExists
  | 7 => .permissionDenied
  | 8 => .resourceExhausted
  | 9 => .failedPrecondition
  | 10 => .aborted
  | 11 => .outOfRange
  | 12 => .unimplemented
  | 13 => .internal
  | 14 => .unavailable
  | 15 => .dataLoss
  | 16 => .unauthenticated
  | _ => .unknown

def name : Code → String
  | .ok => "Ok"
  | .cancelled => "Cancelled"
  | .unknown => "Unknown"
  | .invalidArgument => "InvalidArgument"
  | .deadlineExceeded => "DeadlineExceeded"
  | .notFound => "NotFound"
  | .alreadyExists => "AlreadyExists"
  | .permissionDenied => "PermissionDenied"
  | .resourceExhausted => "ResourceExhausted"
  | .failedPrecondition => "FailedPrecondition"
  | .aborted => "Aborted"
  | .outOfRange => "OutOfRange"
  | .unimplemented => "Unimplemented"
  | .internal => "Internal"
  | .unavailable => "Unavailable"
  | .dataLoss => "DataLoss"
  | .unauthenticated => "Unauthenticated"

def description : Code → String
  | .ok => "The operation completed successfully"
  | .cancelled => "The operation was cancelled"
  | .unknown => "Unknown error"
  | .invalidArgument => "Client specified an invalid argument"
  | .deadlineExceeded => "Deadline expired before operation could complete"
  | .notFound => "Some requested entity was not found"
  | .alreadyExists => "Some entity that we attempted to create already exists"
  | .permissionDenied => "The caller does not have permission to execute the specified operation"
  | .resourceExhausted => "Some resource has been exhausted"
  | .failedPrecondition =>
    "The system is not in a state required for the operation's execution"
  | .aborted => "The operation was aborted"
  | .outOfRange => "Operation was attempted past the valid range"
  | .unimplemented => "Operation is not implemented or not supported"
  | .internal => "Internal error"
  | .unavailable => "The service is currently unavailable"
  | .dataLoss => "Unrecoverable data loss or corruption"
  | .unauthenticated => "The request does not have valid authentication credentials"

end Code

structure Status where
  code : Code
  message : String
  deriving DecidableEq, Inhabited, Repr

-- ---------------------------------------------------------------------------
-- What goes wrong on the server
-- ---------------------------------------------------------------------------

inductive Failure where
  | store (context : String)
  | notFound (what : String)
  | invalidRequest (reason : String)
  | requestCancelled
  | deadlineExceeded
  | serviceShutdown
  | invalidConfig (reason : String)
  deriving DecidableEq, Inhabited, Repr

namespace Failure

def kind : Failure → String
  | .store _ => "Store"
  | .notFound _ => "NotFound"
  | .invalidRequest _ => "InvalidRequest"
  | .requestCancelled => "RequestCancelled"
  | .deadlineExceeded => "DeadlineExceeded"
  | .serviceShutdown => "ServiceShutdown"
  | .invalidConfig _ => "InvalidConfig"

def message : Failure → String
  | .store context => "Store error: " ++ context
  | .notFound what => what ++ " not found"
  | .invalidRequest reason => "Invalid request: " ++ reason
  | .requestCancelled => "Request cancelled by client"
  | .deadlineExceeded => "Deadline exceeded"
  | .serviceShutdown => "Service is shutting down"
  | .invalidConfig reason => "Invalid configuration: " ++ reason

def detail (f : Failure) : String :=
  match f with
  | .store context => Text.record f.kind [("context", Text.quote context)]
  | .notFound what => Text.record f.kind [("what", Text.quote what)]
  | .invalidRequest reason => Text.record f.kind [("reason", Text.quote reason)]
  | .invalidConfig reason => Text.record f.kind [("reason", Text.quote reason)]
  | .requestCancelled | .deadlineExceeded | .serviceShutdown => f.kind

def status : Failure → Status
  | .store context => ⟨.unavailable, "Store error: " ++ context⟩
  | .notFound what => ⟨.notFound, what ++ " not found"⟩
  | .invalidRequest reason => ⟨.invalidArgument, reason⟩
  | .requestCancelled => ⟨.cancelled, "Request was cancelled"⟩
  | .deadlineExceeded => ⟨.deadlineExceeded, "Deadline exceeded"⟩
  | .serviceShutdown => ⟨.unavailable, "Service is shutting down"⟩
  | .invalidConfig reason => ⟨.invalidArgument, reason⟩

def ofKind? (kind text : String) : Option Failure :=
  match kind with
  | "Store" => some (.store text)
  | "NotFound" => some (.notFound text)
  | "InvalidRequest" => some (.invalidRequest text)
  | "RequestCancelled" => some .requestCancelled
  | "DeadlineExceeded" => some .deadlineExceeded
  | "ServiceShutdown" => some .serviceShutdown
  | "InvalidConfig" => some (.invalidConfig text)
  | _ => none

end Failure

end Menagerie
