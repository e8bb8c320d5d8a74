import HttpRpc.Client.Proxy
import HttpRpc.Proofs.Http.Header
import HttpRpc.Proofs.Run

/-!
# The run of a call

What a call does to the world. A request that is made is given its vector (`requestFor_of_prepare`)
and exchanged. A transport in memory that is open hands a request that can be received to its
handler once (`exchange_memory`); a response ends the exchange, and so does a failure that is not a
passing one. So a call is one run of the handler and ends as its response says
(`invoke_of_handler`), or does not reach it (`invoke_of_target_error`).
-/

namespace HttpRpc

/-- The transport in memory of the number is not closed. -/
def World.IsOpen (world : World) (number : Nat) : Prop :=
  (world.links.getD number ⟨0, true⟩).closed = false

/-- The world after the transport in memory of the number has completed an exchange. -/
def World.exchanged (world : World) (number : Nat) (status : Status) : World :=
  let links := world.links.modify number fun link => { link with exchanges := link.exchanges + 1 }
  { world with links }.logged ⟨.debug, "memory exchange complete", [("status", status.render)]⟩

/-- The world after a response has come through the transport in memory of the number to a caller
that waited for it. -/
def World.answered (world : World) (number : Nat) (status : Status) : World :=
  (world.exchanged number status).logged (ClientProxy.completeEvent status 1)

/-- A request whose URL is a target is received with its target. -/
theorem ExchangeRequest.toRequest_of_parse {request : ExchangeRequest} {target : Target}
    (h : Target.parse request.url.render = .ok target) :
    request.toRequest = .ok ⟨request.verb, target, request.headers, request.body.getD []⟩ := by
  rw [toRequest, h]
  rfl

/-- A request is received with the verb, the headers and the body that it was sent with. -/
theorem ExchangeRequest.exists_of_toRequest {request : ExchangeRequest} {received : Request}
    (h : request.toRequest = .ok received) :
    ∃ target, received = ⟨request.verb, target, request.headers, request.body.getD []⟩ := by
  unfold toRequest at h
  cases htarget : Target.parse request.url.render with
  | error e =>
      rw [htarget] at h
      cases h
  | ok target =>
      rw [htarget] at h
      cases h
      exact ⟨target, rfl⟩

/-- A request is received with the headers that it was sent with. -/
theorem ExchangeRequest.headers_of_toRequest {request : ExchangeRequest} {received : Request}
    (h : request.toRequest = .ok received) : received.headers = request.headers := by
  obtain ⟨target, rfl⟩ := exists_of_toRequest h
  rfl

namespace Transport

variable {number : Nat} {handler : RequestHandler} {request : ExchangeRequest}
  {context : Option RequestVector} {world after : World}

/-- An open transport in memory hands a request that can be received to its handler. -/
theorem exchange_memory {received : Request} {response : Response} (hopen : world.IsOpen number)
    (hreceived : request.toRequest = .ok received)
    (hhandler : handler received context world = (response, after)) :
    (memory number handler).exchange request context world =
      (.ok response, after.exchanged number response.status) := by
  have hlink : Run.link number context world =
      (world.links.getD number ⟨0, true⟩, world) := rfl
  show (Run.link number >>= _) context world = _
  rw [Run.bind_of_eq hlink, hopen, hreceived]
  show (handler received >>= _) context world = _
  rw [Run.bind_of_eq hhandler]
  rfl

/-- A request that cannot be received does not get behind the transport. -/
theorem exchange_memory_of_error {e : TargetError} (hopen : world.IsOpen number)
    (hreceived : request.toRequest = .error e) :
    (memory number handler).exchange request context world =
      (.error (.invalidRequest e.message), world) := by
  have hlink : Run.link number context world =
      (world.links.getD number ⟨0, true⟩, world) := rfl
  show (Run.link number >>= _) context world = _
  rw [Run.bind_of_eq hlink, hopen, hreceived]
  rfl

/-- Nothing gets behind a transport that is closed. -/
theorem exchange_memory_of_closed (hclosed : ¬world.IsOpen number) :
    (memory number handler).exchange request context world = (.error .closed, world) := by
  have hlink : Run.link number context world =
      (world.links.getD number ⟨0, true⟩, world) := rfl
  show (Run.link number >>= _) context world = _
  rw [Run.bind_of_eq hlink, Bool.of_not_eq_false hclosed]
  rfl

end Transport

namespace ClientProxy

variable {proxy : ClientProxy} {method : String} {args : List Json}
  {context : Option RequestVector} {world after : World}

/-! ## Requests -/

/-- A request as it is sent in a context: under a child of the ambient vector, if there is one. -/
def addressed (proxy : ClientProxy) (request : ExchangeRequest) (context : Option RequestVector)
    (world : World) : ExchangeRequest × World :=
  match context with
  | none => (request, world)
  | some parent =>
    let source := proxy.factory.source
    let (child, next) := (world.sources.getD source VectorSource.new).nextChild parent
    (withVector request child, { world with sources := world.sources.set source next })

/-- A call that is made into a request sends it under its vector. -/
theorem requestFor_of_prepare {request : ExchangeRequest}
    (h : proxy.prepare method args = .ok request) (context : Option RequestVector)
    (world : World) :
    proxy.requestFor method args context world =
      (.ok (proxy.addressed request context world).1,
        (proxy.addressed request context world).2) := by
  unfold requestFor
  rw [h]
  cases context with
  | none => rfl
  | some parent => rfl

/-- A call that is not made into a request sends nothing. -/
theorem requestFor_of_prepare_error {e : ClientError} (h : proxy.prepare method args = .error e)
    (context : Option RequestVector) (world : World) :
    proxy.requestFor method args context world = (.error e, world) := by
  unfold requestFor
  rw [h]
  rfl

/-- A vector is one header more. -/
theorem withVector_eq (request : ExchangeRequest) (vector : RequestVector) :
    ∃ headers, withVector request vector = { request with headers } ∧
      ∀ name, name ≠ Headers.requestVector → headers.get? name = request.headers.get? name := by
  unfold withVector
  split
  · exact ⟨_, rfl, fun name hname => request.headers.get?_insert_of_ne hname⟩
  · exact ⟨request.headers, rfl, fun name _ => rfl⟩

/-- Sending a request adds no header but its vector and does not touch a transport. -/
theorem addressed_eq (proxy : ClientProxy) (request : ExchangeRequest)
    (context : Option RequestVector) (world : World) :
    ∃ headers sources, proxy.addressed request context world =
        ({ request with headers }, { world with sources }) ∧
      ∀ name, name ≠ Headers.requestVector → headers.get? name = request.headers.get? name := by
  cases context with
  | none => exact ⟨request.headers, world.sources, rfl, fun name _ => rfl⟩
  | some parent =>
      obtain ⟨headers, hheaders, hsame⟩ := withVector_eq request
        ((world.sources.getD proxy.factory.source VectorSource.new).nextChild parent).1
      exact ⟨headers, _, Prod.ext hheaders rfl, hsame⟩

/-! ## Exchanges -/

/-- A response ends the exchange. -/
theorem exchangeWithRetry_of_response {factory : ClientFactory} {request : ExchangeRequest}
    {response : Response}
    (h : factory.transport.exchange request context world = (.ok response, after)) :
    exchangeWithRetry factory request context world =
      (.ok response, after.logged (completeEvent response.status 1)) := by
  -- The strategy is not asked: it comes into play with a failure only.
  unfold exchangeWithRetry exchangeFrom
  rw [Run.bind_of_eq h]
  rfl

/-- A failure that is not a passing one ends the exchange. -/
theorem exchangeWithRetry_of_failure {factory : ClientFactory} {request : ExchangeRequest}
    {e : TransportError} (he : e.isRecoverable = false)
    (h : factory.transport.exchange request context world = (.error e, after)) :
    exchangeWithRetry factory request context world = (.error e, after) := by
  unfold exchangeWithRetry exchangeFrom
  rw [Run.bind_of_eq h]
  simp only [he, Bool.false_eq_true, if_false]
  rfl

/-! ## Calls -/

variable {typeName : String} {shape : Shape} {request : ExchangeRequest} {sent : World}

/-- A call without a request ends with the reason for that. -/
theorem invoke_of_requestFor_error {e : ClientError}
    (hrequest : proxy.requestFor method args context world = (.error e, after)) (typeName : String)
    (shape : Shape) :
    proxy.invoke typeName shape method args context world = (.error e, after) := by
  unfold invoke
  rw [Run.bind_of_eq hrequest]
  rfl

/-- A call whose request is exchanged for a response ends as the response says. -/
theorem invoke_of_response {response : Response}
    (hrequest : proxy.requestFor method args context world = (.ok request, sent))
    (hexchange : exchangeWithRetry proxy.factory request context sent = (.ok response, after)) :
    proxy.invoke typeName shape method args context world =
      (interpret proxy.factory typeName shape response, after) := by
  unfold invoke
  rw [Run.bind_of_eq hrequest]
  show (exchangeWithRetry proxy.factory request >>= _) context sent = _
  rw [Run.bind_of_eq hexchange]
  rfl

/-- A call whose request is not exchanged ends with that. -/
theorem invoke_of_failure {e : TransportError}
    (hrequest : proxy.requestFor method args context world = (.ok request, sent))
    (hexchange : exchangeWithRetry proxy.factory request context sent = (.error e, after)) :
    proxy.invoke typeName shape method args context world = (.error (.transport e), after) := by
  unfold invoke
  rw [Run.bind_of_eq hrequest]
  show (exchangeWithRetry proxy.factory request >>= _) context sent = _
  rw [Run.bind_of_eq hexchange]
  rfl

/-- A call through an open transport in memory is one run of the handler, and ends as its response
says. -/
theorem invoke_of_handler {number : Nat} {handler : RequestHandler} {received : Request}
    {response : Response} (htransport : proxy.factory.transport = .memory number handler)
    (hopen : sent.IsOpen number)
    (hrequest : proxy.requestFor method args context world = (.ok request, sent))
    (hreceived : request.toRequest = .ok received)
    (hhandler : handler received context sent = (response, after)) :
    proxy.invoke typeName shape method args context world =
      (interpret proxy.factory typeName shape response,
        after.answered number response.status) := by
  have hexchange := Transport.exchange_memory hopen hreceived hhandler
  rw [← htransport] at hexchange
  exact invoke_of_response hrequest (exchangeWithRetry_of_response hexchange)

/-- A call through an open transport in memory whose request cannot be received ends with that. -/
theorem invoke_of_target_error {number : Nat} {handler : RequestHandler} {e : TargetError}
    (htransport : proxy.factory.transport = .memory number handler) (hopen : sent.IsOpen number)
    (hrequest : proxy.requestFor method args context world = (.ok request, sent))
    (hreceived : request.toRequest = .error e) :
    proxy.invoke typeName shape method args context world =
      (.error (.transport (.invalidRequest e.message)), sent) := by
  have hexchange : proxy.factory.transport.exchange request context sent =
      (.error (.invalidRequest e.message), sent) := by
    rw [htransport]
    exact Transport.exchange_memory_of_error hopen hreceived
  exact invoke_of_failure hrequest (exchangeWithRetry_of_failure rfl hexchange)

end ClientProxy

end HttpRpc
