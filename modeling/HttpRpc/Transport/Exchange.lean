import HttpRpc.Http.Message
import HttpRpc.Url.Basic

/-!
# Exchanges

What a client hands to a transport, and what a server receives of it.
-/

namespace HttpRpc

/-- A request as a client makes it. -/
structure ExchangeRequest where
  verb : Verb
  url : Url
  headers : Headers
  body : Option Body
deriving DecidableEq, Repr

/-- The request as a server receives it; a missing body is an empty one. -/
def ExchangeRequest.toRequest (request : ExchangeRequest) : Except TargetError Request :=
  (Target.parse request.url.render).map fun target =>
    ⟨request.verb, target, request.headers, request.body.getD []⟩

end HttpRpc
