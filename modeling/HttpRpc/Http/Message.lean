import HttpRpc.Codec.Basic
import HttpRpc.Http.Header
import HttpRpc.Http.Status
import HttpRpc.Http.Target
import HttpRpc.Http.Verb

/-!
# Messages

Requests as a server receives them, and responses.
-/

namespace HttpRpc

/-- A request as a server receives it. -/
structure Request where
  verb : Verb
  target : Target
  headers : Headers
  body : Body

/-- The answer to a request. -/
structure Response where
  status : Status
  headers : Headers
  body : Body

/-- The text of the type that a response gives its body, if it gives one. -/
def Response.contentType? (response : Response) : Option String :=
  response.headers.text? Headers.contentType

end HttpRpc
