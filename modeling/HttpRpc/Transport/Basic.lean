import HttpRpc.Run

/-!
# Transports

A transport exchanges requests for responses. The one in memory hands each request to a function
until it is closed; the scripted one answers with outcomes that were laid down before, and records
what it is asked for.
-/

namespace HttpRpc

/-- A way to exchange requests for responses. -/
structure Transport where
  name : String
  exchange : ExchangeRequest → Run (Except TransportError Response)

/-- What a server does with a request. -/
abbrev RequestHandler := Request → Run Response

namespace Transport

/-- The transport in memory of the given number, which hands requests to the handler. -/
def memory (number : Nat) (handler : RequestHandler) : Transport where
  name := "memory"
  exchange request := do
    if (← Run.link number).closed then return .error .closed
    match request.toRequest with
    | .error e => return .error (.invalidRequest e.message)
    | .ok received =>
      let response ← handler received
      Run.modifyLink number fun link => { link with exchanges := link.exchanges + 1 }
      Run.log ⟨.debug, "memory exchange complete", [("status", response.status.render)]⟩
      return .ok response

/-- Closes a transport in memory. -/
def closeMemory (number : Nat) : Run Unit :=
  Run.modifyLink number fun link => { link with closed := true }

/-- The scripted transport of the given number, which counts as closed when no outcome is left. -/
def scripted (number : Nat) : Transport where
  name := "scripted"
  exchange request := do
    let script ← Run.script number
    let recorded := script.recorded ++ [⟨request, ← Run.time⟩]
    Run.setScript number ⟨script.outcomes.tail, recorded⟩
    return script.outcomes.head?.getD (.error .closed)

end Transport

/-- The form of a transport in memory in descriptions. -/
def MemoryLink.describe (link : MemoryLink) : String :=
  Text.record "MemoryTransport" [("exchanges", Text.decimal link.exchanges),
    ("closed", if link.closed then "true" else "false")]

end HttpRpc
