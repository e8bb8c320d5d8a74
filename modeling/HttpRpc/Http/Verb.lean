/-!
# Verbs

What a request asks to be done.
-/

namespace HttpRpc

/-- An HTTP verb. -/
structure Verb where
  name : String
deriving DecidableEq, Repr

namespace Verb

/-- The verb that fetches. -/
def get : Verb := ⟨"GET"⟩

/-- The verb that submits. -/
def post : Verb := ⟨"POST"⟩

/-- The verb that fetches all but the body. -/
def head : Verb := ⟨"HEAD"⟩

end Verb

end HttpRpc
