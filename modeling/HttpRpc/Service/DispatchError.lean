import HttpRpc.Binding.Error
import HttpRpc.Codec.Basic
import HttpRpc.Http.Verb
import HttpRpc.Service.Error

/-!
# Dispatch errors

Why a request is not answered with a result: the status of the answer, and what its payload says.
The payload of an internal failure tells nothing but the method.
-/

namespace HttpRpc

open BindingError (marked)

/-- Why a request is not answered with a result. -/
inductive DispatchError where
  | methodNotAllowed (verb : Verb)
  | payloadTooLarge (size limit : Nat)
  | unreadableBody (reason : String)
  | unsupportedMediaType (cause : MediaError)
  | notFound (method : String)
  | noReader (method : String) (cause : MediaError)
  | badRequest (method : String) (cause : DeserializationError)
  | service (method : String) (cause : ServiceError)
  | internalFailure (method : String) (cause : Option SerializationError)
  | notAcceptable (method : String) (cause : MediaError)
deriving Repr

namespace DispatchError

/-- The wording of an error. -/
def message : DispatchError → String
  | methodNotAllowed verb => "method " ++ verb.name ++ " not allowed"
  | payloadTooLarge size limit =>
    "request body of " ++ Text.decimal size ++ " bytes exceeds the " ++ Text.decimal limit ++
      " byte limit"
  | unreadableBody reason => "request body could not be read: " ++ reason
  | unsupportedMediaType cause => cause.message
  | notFound method => "no method named " ++ marked method
  | noReader method cause =>
    "no codec reads the input of " ++ marked method ++ ": " ++ cause.message
  | badRequest method cause => "bad request body for " ++ marked method ++ ": " ++ cause.describe
  | service method cause => marked method ++ " failed: " ++ cause.describe
  | internalFailure method _ => "internal error in " ++ marked method
  | notAcceptable method cause =>
    "result of " ++ marked method ++ " cannot be encoded: " ++ cause.message

/-- The wordings of the errors below, the nearest first. -/
def causes : DispatchError → List String
  | noReader _ cause | notAcceptable _ cause => [cause.message]
  | badRequest _ cause => cause.describe :: cause.cause.toList
  | service _ cause => [cause.describe]
  | internalFailure _ (some cause) => cause.describe :: cause.cause.toList
  | methodNotAllowed _ | payloadTooLarge .. | unreadableBody _ | unsupportedMediaType _
  | notFound _ | internalFailure _ none => []

/-- The HTTP status of an error. -/
def status : DispatchError → Status
  | methodNotAllowed _ => ⟨405⟩
  | payloadTooLarge .. => ⟨413⟩
  | unsupportedMediaType _ => ⟨415⟩
  | notFound _ => ⟨404⟩
  | badRequest .. | unreadableBody _ => ⟨400⟩
  | service _ cause => cause.status
  | noReader .. | internalFailure .. => ⟨500⟩
  | notAcceptable .. => ⟨406⟩

/-- Whether the server is to blame. -/
def isServerError (e : DispatchError) : Bool := e.status.isServerError

/-- What is told to the caller. -/
def toPayload (e : DispatchError) : ErrorPayload :=
  match e with
  | methodNotAllowed verb => .new "MethodNotAllowed" e.message [("verb", verb.name)]
  | payloadTooLarge _ limit => .new "PayloadTooLarge" e.message [("limit", Text.decimal limit)]
  | unreadableBody _ => .new "BadRequest" e.message []
  | unsupportedMediaType cause => .new "UnsupportedMediaType" cause.message []
  | notFound method => .new "NotFound" e.message [("method", method)]
  | badRequest method cause => .new "BadRequest" cause.message [("method", method)]
  | service _ cause => cause.toPayload
  | noReader method _ | internalFailure method _ =>
    .new "InternalError" "internal server error" [("method", method)]
  | notAcceptable method cause => .new "NotAcceptable" cause.message [("method", method)]

end DispatchError

end HttpRpc
