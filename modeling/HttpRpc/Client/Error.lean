import HttpRpc.Binding.Error
import HttpRpc.Codec.Basic
import HttpRpc.Http.Status
import HttpRpc.Service.Payload
import HttpRpc.Transport.Error

/-!
# Client errors

Why a call has no result: the call could not be made into a request, the request was not exchanged,
the response could not be read, or the server reported a failure, with a payload (`remote`) or
without (`unexplained`).
-/

namespace HttpRpc

open BindingError (marked)

/-- Why a call has no result. -/
inductive ClientError where
  | unsupportedMethod (interface method : String)
  | argument (cause : ArgumentError)
  | serialization (cause : SerializationError)
  | deserialization (cause : DeserializationError)
  | media (cause : MediaError)
  | transport (cause : TransportError)
  | remote (status : Status) (payload : ErrorPayload)
  | unexplained (status : Status) (body : String)

namespace ClientError

/-- The wording of an error. -/
def message : ClientError → String
  | unsupportedMethod interface method =>
    "interface " ++ marked interface ++ " has no route for method " ++ marked method
  | argument cause => cause.message
  | serialization cause => cause.describe
  | deserialization cause => cause.describe
  | media cause => cause.message
  | transport cause => cause.message
  | remote status payload => "remote error " ++ status.render ++ ": " ++ payload.render
  | unexplained code _ => "http status " ++ code.render

/-- The name of the kind of an error. -/
def kind : ClientError → String
  | unsupportedMethod .. => "UnsupportedMethod"
  | argument _ => "Argument"
  | serialization _ => "Serialization"
  | deserialization _ => "Deserialization"
  | media _ => "Media"
  | transport _ => "Transport"
  | remote .. => "Remote"
  | unexplained .. => "Status"

/-- The wordings of the errors below, the nearest first. An error that only passes on another one
has the causes of that one. -/
def causes : ClientError → List String
  | serialization cause => cause.cause.toList
  | deserialization cause => cause.cause.toList
  | transport cause => cause.causes
  | unsupportedMethod .. | argument _ | media _ | remote .. | unexplained .. => []

/-- The status of the response, if it was a failure. -/
def status? : ClientError → Option Status
  | remote code _ | unexplained code _ => some code
  | _ => none

/-- What the server says about the failure. -/
def payload? : ClientError → Option ErrorPayload
  | remote _ payload => some payload
  | _ => none

/-- Whether the call may be made again. -/
def isRecoverable : ClientError → Bool
  | transport cause => cause.isRecoverable
  | _ => false

/-- Whether the server blames the request. -/
def isClientError (e : ClientError) : Bool :=
  e.status?.any Status.isClientError

/-- Whether the server blames itself. -/
def isServerError (e : ClientError) : Bool :=
  e.status?.any Status.isServerError

end ClientError

end HttpRpc
