import HttpRpc.Service.Dispatcher

/-!
# Streamed requests

A request may arrive in pieces, and reading may fail after some of them. The pieces are put together
as long as they stay within the limit of the dispatcher; otherwise the request is refused without
being dispatched. A response states the length of its body, and to `HEAD` it is sent without the
body.
-/

namespace HttpRpc

/-- A request whose body arrives in pieces, after which reading may fail. -/
structure StreamedRequest where
  verb : Verb
  target : Target
  headers : Headers
  chunks : List Body
  failure : Option String

namespace StreamedRequest

/-- Why a body could not be put together. -/
inductive ReadError where
  | tooLong
  | failed (reason : String)
deriving DecidableEq, Repr

/-- The pieces put together, as long as they take no more than the octets left. -/
def collect (left : Nat) (failure : Option String) : List Body → Except ReadError Body
  | [] =>
    match failure with
    | none => .ok []
    | some reason => .error (.failed reason)
  | chunk :: rest =>
    if left < chunk.length then .error .tooLong
    else (collect (left - chunk.length) failure rest).map (chunk ++ ·)

/-- The number of octets that a length header states: digits, perhaps behind a plus sign. -/
def statedLength? (headers : Headers) : Option Nat := do
  let text ← headers.text? Headers.contentLength
  let digits := match text.toList with
    | '+' :: rest => rest
    | rest => rest
  (Text.value? 10 digits).filter fun n => n < UInt64.size

/-- The size that is told of a body beyond the limit: the one stated, or else one more than the
limit. -/
def claimedSize (headers : Headers) (limit : Nat) : Nat :=
  (statedLength? headers).getD (min (limit + 1) (UInt64.size - 1))

end StreamedRequest

namespace Response

/-- The response with the length of its body stated, unless it states one. -/
def withLength (response : Response) : Response :=
  if (response.headers.get? Headers.contentLength).isSome then response
  else { response with
    headers := HttpDispatcher.setText response.headers Headers.contentLength
      (Text.decimal response.body.length) }

/-- The response as it is sent to a request with the verb. -/
def sentTo (response : Response) (verb : Verb) : Response :=
  let complete := response.withLength
  if verb = .head then { complete with body := [] } else complete

end Response

/-- Answers a request whose body arrives in pieces. -/
def HttpDispatcher.serve (dispatcher : HttpDispatcher) (request : StreamedRequest) :
    Run Response := do
  let limit := dispatcher.config.maxBodyBytes
  let headers := request.headers
  let response ← match StreamedRequest.collect limit request.failure request.chunks with
    | .ok body => dispatcher.dispatch ⟨request.verb, request.target, headers, body⟩
    | .error .tooLong =>
      let size := StreamedRequest.claimedSize headers limit
      dispatcher.reject headers (.payloadTooLarge size limit)
    | .error (.failed reason) => dispatcher.reject headers (.unreadableBody reason)
  return response.sentTo request.verb

end HttpRpc
