import HttpRpc.Backoff.Strategy
import HttpRpc.Client.Error
import HttpRpc.Log
import HttpRpc.Service.DispatchError
import HttpRpc.Trace.Vector

/-!
# Errors

All errors of the library in one type, and the event by which each is reported.
-/

namespace HttpRpc

/-- An error of the library. -/
inductive Error where
  | binding (cause : BindingError)
  | client (cause : ClientError)
  | dispatch (cause : DispatchError)
  | transport (cause : TransportError)
  | backoff (cause : BackoffError)
  | media (cause : MediaError)
  | requestVector (cause : RequestVectorError)

namespace Error

/-- The name of the kind of an error: the part of the library that it comes from. -/
def kind : Error → String
  | binding _ => "Binding"
  | client _ => "Client"
  | dispatch _ => "Dispatch"
  | transport _ => "Transport"
  | backoff _ => "Backoff"
  | media _ => "Media"
  | requestVector _ => "RequestVector"

/-- The wordings of an error and of those below it, the outermost first. -/
def causes : Error → List String
  | binding cause => [cause.message]
  | client cause => cause.message :: cause.causes
  | dispatch cause => cause.message :: cause.causes
  | transport cause => cause.message :: cause.causes
  | backoff cause => [cause.message]
  | media cause => [cause.message]
  | requestVector cause => [cause.message]

/-- The wording of an error. -/
def message : Error → String
  | binding cause => "binding error: " ++ cause.message
  | client cause => "client error: " ++ cause.message
  | dispatch cause => "dispatch error: " ++ cause.message
  | transport cause => "transport error: " ++ cause.message
  | backoff cause => "backoff error: " ++ cause.message
  | media cause => "media error: " ++ cause.message
  | requestVector cause => "request vector error: " ++ cause.message

/-- Whether the same action may succeed later. -/
def isRetryable : Error → Bool
  | transport cause => cause.isRecoverable
  | client cause => cause.isRecoverable
  | _ => false

/-- Whether the settings or declarations are to blame. -/
def isConfigurationError : Error → Bool
  | binding _ | backoff _ | transport (.invalidConfiguration _) => true
  | _ => false

/-- The event that reports an error that occurs under the ambient vector. -/
def event (ambient : Option RequestVector) (e : Error) : LogEvent :=
  let vector := ("request_vector",
    Text.optional (ambient.map fun vector => Text.quoted vector.render))
  let yesNo (b : Bool) := if b then "true" else "false"
  match e with
  | binding cause => ⟨.error, "Binding error occurred",
      [("error", cause.message), ("method", Text.optional (cause.method?.map Text.quoted))]⟩
  | client cause => ⟨.warn, "Client call failed",
      [("error", cause.message),
        ("status", Text.optional (cause.status?.map fun status => Text.decimal status.code)),
        ("recoverable", yesNo cause.isRecoverable), vector]⟩
  | dispatch cause =>
    let fields := [("error", cause.message), ("status", cause.status.render), vector]
    if cause.isServerError then ⟨.error, "Dispatch failed", fields⟩
    else ⟨.info, "Request rejected", fields⟩
  | transport cause => ⟨.error, "Transport error occurred",
      [("error", cause.message), ("recoverable", yesNo cause.isRecoverable)]⟩
  | backoff cause => ⟨.error, "Invalid backoff strategy", [("error", cause.message)]⟩
  | media cause => ⟨.warn, "Media type negotiation failed", [("error", cause.message)]⟩
  | requestVector cause => ⟨.warn, "Malformed request vector", [("error", cause.message)]⟩

end Error

end HttpRpc
