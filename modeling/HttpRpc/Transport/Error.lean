import HttpRpc.Backoff.Duration

/-!
# Transport errors

Why a request was not exchanged for a response. Some of these failures are passing ones, after which
the same request may be sent again.
-/

namespace HttpRpc

/-- The kinds of failures of the system below, of which all but `other` are passing ones. -/
inductive SystemErrorKind where
  | interrupted
  | wouldBlock
  | timedOut
  | connectionReset
  | connectionAborted
  | other
deriving DecidableEq, Repr

/-- A failure of the system below. -/
structure SystemError where
  kind : SystemErrorKind
  message : String
deriving DecidableEq, Repr

/-- Whether the same action may succeed later. -/
def SystemError.isPassing (e : SystemError) : Bool :=
  e.kind != .other

/-- Why a request was not exchanged for a response. -/
inductive TransportError where
  | connectionFailed (address : String) (cause : SystemError)
  | connectionLost (reason : String) (cause : Option SystemError)
  | timeout (duration : Duration)
  | invalidRequest (reason : String)
  | invalidConfiguration (reason : String)
  | protocolViolation (reason : String)
  | closed
  | system (cause : SystemError)
deriving DecidableEq, Repr

namespace TransportError

/-- The wording of an error. -/
def message : TransportError → String
  | connectionFailed address cause => "failed to connect to " ++ address ++ ": " ++ cause.message
  | connectionLost reason _ => "connection lost: " ++ reason
  | timeout duration => "operation timed out after " ++ duration.describe
  | invalidRequest reason => "invalid request: " ++ reason
  | invalidConfiguration reason => "invalid configuration: " ++ reason
  | protocolViolation reason => "protocol error: " ++ reason
  | closed => "transport is closed"
  | system cause => "I/O error: " ++ cause.message

/-- The name of the kind of an error. -/
def kind : TransportError → String
  | connectionFailed .. => "ConnectionFailed"
  | connectionLost .. => "ConnectionLost"
  | timeout _ => "Timeout"
  | invalidRequest _ => "InvalidRequest"
  | invalidConfiguration _ => "InvalidConfiguration"
  | protocolViolation _ => "Protocol"
  | closed => "Closed"
  | system _ => "Io"

/-- The wordings of the errors below, the nearest first. -/
def causes : TransportError → List String
  | connectionFailed _ cause | system cause => [cause.message]
  | connectionLost _ cause => (cause.map SystemError.message).toList
  | timeout _ | invalidRequest _ | invalidConfiguration _ | protocolViolation _ | closed => []

/-- Whether the request may be sent again. -/
def isRecoverable : TransportError → Bool
  | connectionFailed .. | connectionLost .. | timeout _ => true
  | system cause => cause.isPassing
  | invalidRequest _ | invalidConfiguration _ | protocolViolation _ | closed => false

end TransportError

end HttpRpc
