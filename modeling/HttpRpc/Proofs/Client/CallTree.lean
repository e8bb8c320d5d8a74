import HttpRpc.Proofs.Client.Request
import HttpRpc.Proofs.Service.Json
import HttpRpc.Proofs.Trace.Vector

/-!
# Trees of calls

A handler may make calls of its own, whose handlers may make calls in turn. A `Plan` shows an action
as work of its own and calls through transports in memory, down to the handlers behind them, and
`Performs` is what such an action does, with a record of every call. The records trace the tree
(`CallRecord.Traces`): every handler runs under a child of the vector of its caller, and the
response to its call states that child (`Plan.calls_traced`).
-/

namespace HttpRpc

/-! ## Calls -/

/-- A call of a method through a proxy. -/
structure Call where
  proxy : ClientProxy
  typeName : String
  shape : Shape
  method : String
  args : List Json

namespace Call

/-- The run of a call. -/
def run (call : Call) : Run (Except ClientError Json) :=
  call.proxy.invoke call.typeName call.shape call.method call.args

/-- The request of a call. -/
def request (call : Call) : Run (Except ClientError ExchangeRequest) :=
  call.proxy.requestFor call.method call.args

/-- What a response means for the caller. -/
def read (call : Call) (response : Response) : Except ClientError Json :=
  ClientProxy.interpret call.proxy.factory call.typeName call.shape response

/-- A call goes through the transport in memory of the number to a dispatcher. -/
def Reaches (call : Call) (number : Nat) (dispatcher : HttpDispatcher) : Prop :=
  call.proxy.factory.transport = .memory number dispatcher.dispatch

/-- The request of a call is sent in a context and received behind an open transport. -/
structure Delivers (call : Call) (number : Nat) (context : Option RequestVector) (world : World)
    (request : ExchangeRequest) (received : Request) (sent : World) : Prop where
  request_eq : call.request context world = (.ok request, sent)
  isOpen : sent.IsOpen number
  received_eq : request.toRequest = .ok received

end Call

/-- What a method does with an input, which is nothing if it cannot be called. -/
def RpcMethod.handle (method : RpcMethod) (input : Json) : Run Outcome :=
  match method.invoker with
  | some invoker => invoker input
  | none => return .aborted

/-- What a method does is what its invoker does. -/
theorem RpcMethod.handle_eq {method : RpcMethod} {invoker : Invoker}
    (h : method.invoker = some invoker) (input : Json) : method.handle input = invoker input := by
  rw [handle, h]

/-- An action as it is made of work of its own and calls. What the handlers behind a call do is
shown in the same way. -/
inductive Plan : {α : Type} → Run α → Type 1 where
  | own {α : Type} (action : Run α) : Plan action
  | bind {α β : Type} {action : Run α} {rest : α → Run β} (first : Plan action)
      (next : ∀ a, Plan (rest a)) : Plan (action >>= rest)
  | call (call : Call) {number : Nat} {dispatcher : HttpDispatcher}
      (hreaches : call.Reaches number dispatcher)
      (handlers : ∀ (i : Fin dispatcher.registry.methods.length) (input : Json),
        Plan (dispatcher.registry.methods[i].handle input)) : Plan call.run

/-- What became of a call: it was not made into a request, its request was not answered, it was
answered without a handler, or a handler was run under a vector and made calls. -/
inductive CallRecord where
  | unsent
  | unanswered (request : ExchangeRequest)
  | refused (request : ExchangeRequest) (response : Response)
  | served (request : ExchangeRequest) (vector : RequestVector) (response : Response)
    (calls : List CallRecord)

open HttpDispatcher (vectorOf entered) in
/-- What an action does under a vector: its result, the world that it leaves, and its calls in their
order. The vector of a handler is the one that its dispatcher finds. -/
inductive Performs : {α : Type} → {action : Run α} → Plan action → RequestVector → World → α →
    World → List CallRecord → Prop where
  | own {α : Type} {action : Run α} {vector : RequestVector} {world after : World} {a : α}
      (h : action (some vector) world = (a, after)) :
      Performs (.own action) vector world a after []
  | bind {α β : Type} {action : Run α} {rest : α → Run β} {first : Plan action}
      {next : ∀ a, Plan (rest a)} {vector : RequestVector} {world between after : World} {a : α}
      {b : β} {calls more : List CallRecord} (hfirst : Performs first vector world a between calls)
      (hnext : Performs (next a) vector between b after more) :
      Performs (.bind first next) vector world b after (calls ++ more)
  | unsent {call : Call} {number : Nat} {dispatcher : HttpDispatcher}
      {hreaches : call.Reaches number dispatcher} {handlers} {vector : RequestVector}
      {world after : World} {e : ClientError}
      (hrequest : call.request (some vector) world = (.error e, after)) :
      Performs (.call call hreaches handlers) vector world (.error e) after [.unsent]
  | unanswered {call : Call} {number : Nat} {dispatcher : HttpDispatcher}
      {hreaches : call.Reaches number dispatcher} {handlers} {vector : RequestVector}
      {world sent after : World} {request : ExchangeRequest} {e : TransportError}
      (hrequest : call.request (some vector) world = (.ok request, sent))
      (hexchange : ClientProxy.exchangeWithRetry call.proxy.factory request (some vector) sent =
        (.error e, after)) :
      Performs (.call call hreaches handlers) vector world (.error (.transport e)) after
        [.unanswered request]
  | refused {call : Call} {number : Nat} {dispatcher : HttpDispatcher}
      {hreaches : call.Reaches number dispatcher} {handlers} {vector : RequestVector}
      {world sent left : World} {request : ExchangeRequest} {received : Request}
      {response : Response}
      (hdelivers : call.Delivers number (some vector) world request received sent)
      (hnone : ∀ method input invoker, dispatcher.prepare received = .ok (method, input) →
        method.invoker ≠ some invoker)
      (hdispatch : dispatcher.dispatch received (some vector) sent = (response, left)) :
      Performs (.call call hreaches handlers) vector world (call.read response)
        (left.answered number response.status) [.refused request response]
  | served {call : Call} {number : Nat} {dispatcher : HttpDispatcher}
      {hreaches : call.Reaches number dispatcher} {handlers} {vector : RequestVector}
      {world sent left final : World} {request : ExchangeRequest} {received : Request}
      {response : Response} {i : Fin dispatcher.registry.methods.length} {input : Json}
      {invoker : Invoker} {outcome : Outcome} {calls : List CallRecord}
      (hdelivers : call.Delivers number (some vector) world request received sent)
      (hprepare : dispatcher.prepare received = .ok (dispatcher.registry.methods[i], input))
      (hinvoker : dispatcher.registry.methods[i].invoker = some invoker)
      (hhandler : Performs (handlers i input) (vectorOf received sent)
        (entered received sent) outcome left calls)
      (hfinished : dispatcher.finished received (vectorOf received sent)
        (dispatcher.answer received dispatcher.registry.methods[i] outcome) left =
          (response, final)) :
      Performs (.call call hreaches handlers) vector world (call.read response)
        (final.answered number response.status)
        [.served request (vectorOf received sent) response calls]

namespace Call

/-- A call that is delivered ends with what its response means. -/
theorem run_of_dispatch {call : Call} {number : Nat} {dispatcher : HttpDispatcher}
    (hreaches : call.Reaches number dispatcher) {context : Option RequestVector}
    {world sent left : World} {request : ExchangeRequest} {received : Request}
    {response : Response} (hdelivers : call.Delivers number context world request received sent)
    (hdispatch : dispatcher.dispatch received context sent = (response, left)) :
    call.run context world = (call.read response, left.answered number response.status) :=
  ClientProxy.invoke_of_handler hreaches hdelivers.isOpen hdelivers.request_eq
    hdelivers.received_eq hdispatch

end Call

/-- What an action performs is its run. -/
theorem Performs.run_eq {α : Type} {action : Run α} {plan : Plan action} {vector : RequestVector}
    {world after : World} {a : α} {calls : List CallRecord}
    (h : Performs plan vector world a after calls) : action (some vector) world = (a, after) := by
  induction h with
  | own h => exact h
  | bind _ _ ihfirst ihnext => exact (Run.bind_of_eq ihfirst).trans ihnext
  | unsent hrequest => exact Run.bind_of_eq hrequest
  | unanswered hrequest hexchange =>
      exact (Run.bind_of_eq hrequest).trans (Run.bind_of_eq hexchange)
  | @refused _ _ _ hreaches _ _ _ _ _ _ _ _ hdelivers _ hdispatch =>
      exact Call.run_of_dispatch hreaches hdelivers hdispatch
  | @served _ _ _ hreaches _ _ _ _ _ _ _ _ _ _ _ _ _ _ hdelivers hprepare hinvoker _ hfinished
      ih =>
      rw [RpcMethod.handle_eq hinvoker] at ih
      refine Call.run_of_dispatch hreaches hdelivers ?_
      rw [HttpDispatcher.dispatch_of_prepare_ok hprepare hinvoker _ ih, hfinished]

/-- A method that a request may call is one of the registry. -/
theorem HttpDispatcher.exists_methods_eq_of_prepare {dispatcher : HttpDispatcher}
    {request : Request} {method : RpcMethod} {input : Json}
    (h : dispatcher.prepare request = .ok (method, input)) :
    ∃ i : Fin dispatcher.registry.methods.length, dispatcher.registry.methods[i] = method := by
  have hmem := List.mem_of_find?_eq_some (method?_of_prepare h)
  obtain ⟨i, hi, hmethod⟩ := List.mem_iff_getElem.1 hmem
  exact ⟨⟨i, hi⟩, hmethod⟩

/-- Every plan is performed under every vector. -/
theorem Plan.exists_performs {α : Type} {action : Run α} (plan : Plan action)
    (vector : RequestVector) (world : World) :
    ∃ a after calls, Performs plan vector world a after calls := by
  induction plan generalizing vector world with
  | own action =>
      rcases haction : action (some vector) world with ⟨a, after⟩
      exact ⟨a, after, [], .own haction⟩
  | bind first next ihfirst ihnext =>
      obtain ⟨a, between, calls, hfirst⟩ := ihfirst vector world
      obtain ⟨b, after, more, hnext⟩ := ihnext a vector between
      exact ⟨b, after, calls ++ more, .bind hfirst hnext⟩
  | @call call number dispatcher hreaches handlers ih =>
      rcases hrequest : call.request (some vector) world with ⟨e | request, sent⟩
      · exact ⟨_, _, _, .unsent hrequest⟩
      -- A failure of a transport in memory is not a passing one, so it ends the call.
      have hfailure {e : TransportError} (he : e.isRecoverable = false)
          (hexchange : (Transport.memory number dispatcher.dispatch).exchange request (some vector)
            sent = (.error e, sent)) :
          ∃ a after calls, Performs (.call call hreaches handlers) vector world a after calls := by
        rw [← hreaches] at hexchange
        exact ⟨_, _, _, .unanswered hrequest
          (ClientProxy.exchangeWithRetry_of_failure he hexchange)⟩
      by_cases hopen : sent.IsOpen number
      case neg => exact hfailure rfl (Transport.exchange_memory_of_closed hopen)
      cases hreceived : request.toRequest with
      | error e => exact hfailure rfl (Transport.exchange_memory_of_error hopen hreceived)
      | ok received =>
          have hdelivers : call.Delivers number (some vector) world request received sent :=
            ⟨hrequest, hopen, hreceived⟩
          by_cases hcalled : ∃ method input invoker,
            dispatcher.prepare received = .ok (method, input) ∧ method.invoker = some invoker
          · obtain ⟨method, input, invoker, hprepare, hinvoker⟩ := hcalled
            obtain ⟨i, rfl⟩ := HttpDispatcher.exists_methods_eq_of_prepare hprepare
            obtain ⟨outcome, left, calls, hhandler⟩ := ih i input
              (HttpDispatcher.vectorOf received sent) (HttpDispatcher.entered received sent)
            exact ⟨_, _, _, .served hdelivers hprepare hinvoker hhandler rfl⟩
          · refine ⟨_, _, _, .refused hdelivers (fun method input invoker hprepare hinvoker => ?_)
              rfl⟩
            exact hcalled ⟨method, input, invoker, hprepare, hinvoker⟩

/-- A method of the name `echo` can be called from everywhere. -/
theorem Call.exists_delivers_echo (number : Nat) {method : RpcMethod}
    (hname : method.name = "echo") :
    ∃ call : Call, call.Reaches number (.new ⟨[method]⟩) ∧
      ∀ (context : Option RequestVector) (world : World), world.IsOpen number →
        ∃ request received sent, call.Delivers number context world request received sent ∧
          (HttpDispatcher.new ⟨[method]⟩).prepare received = .ok (method, .bool true) ∧
          sent.links = world.links := by
  obtain ⟨make, hassemble⟩ := ClientFactory.exists_assemble_default
    (.memory number (HttpDispatcher.new ⟨[method]⟩).dispatch)
  obtain ⟨table, hbind, -, -, htarget⟩ := RouteTable.exists_bind_echo
  let proxy : ClientProxy := ⟨"Echo", table, make 0⟩
  let url := table.base.url.appendSegments ["echo"] false
  refine ⟨⟨proxy, "serde_json::value::Value", .any, "echo", [.bool true]⟩,
    (ClientFactory.assemble_default hassemble 0).1, fun context world hopen => ?_⟩
  have hvalue : Json.bool true ≠ .null := by
    rintro ⟨⟩
  obtain ⟨stated, hsubmitted, hcontent⟩ := ClientProxy.submitted_of_ne_null proxy url hvalue
  obtain ⟨headers, sources, haddressed, hsame⟩ :=
    ClientProxy.addressed_eq proxy (proxy.submitted url (.bool true)) context world
  have hrequest : proxy.requestFor "echo" [.bool true] context world =
      (.ok (proxy.addressed (proxy.submitted url (.bool true)) context world).1,
        (proxy.addressed (proxy.submitted url (.bool true)) context world).2) :=
    ClientProxy.requestFor_submit hassemble rfl (by decide) hbind List.mem_cons_self (.bool true)
      context world
  rw [haddressed, hsubmitted] at hrequest
  rw [hsubmitted] at hsame
  exact ⟨_, _, _, ⟨hrequest, hopen, ExchangeRequest.toRequest_of_parse htarget⟩,
    HttpDispatcher.prepare_json (RpcRegistry.get?_echo hname) ((hsame _ (by decide)).trans hcontent)
      Json.readable_true (by decide), rfl⟩

/-! ## Vectors of calls -/

/-- The record of a call traces a vector: its request states a child of the vector, its response
states that child, too, and a handler was run under that child and traces it with its calls. -/
inductive CallRecord.Traces : RequestVector → CallRecord → Prop where
  | unsent {vector : RequestVector} : Traces vector .unsent
  | unanswered {vector : RequestVector} {request : ExchangeRequest} (number : UInt64)
      (hrequest : request.headers.text? Headers.requestVector =
        some (vector.child number).render) : Traces vector (.unanswered request)
  | refused {vector : RequestVector} {request : ExchangeRequest} {response : Response}
      (number : UInt64)
      (hrequest : request.headers.text? Headers.requestVector = some (vector.child number).render)
      (hresponse : response.headers.text? Headers.requestVector =
        some (vector.child number).render) : Traces vector (.refused request response)
  | served {vector : RequestVector} {request : ExchangeRequest} {response : Response}
      {calls : List CallRecord} (number : UInt64)
      (hrequest : request.headers.text? Headers.requestVector = some (vector.child number).render)
      (hresponse : response.headers.text? Headers.requestVector =
        some (vector.child number).render)
      (hcalls : ∀ call ∈ calls, Traces (vector.child number) call) :
      Traces vector (.served request (vector.child number) response calls)

/-- The vector that is the number of levels above, if there are as many. -/
def RequestVector.ancestor? (vector : RequestVector) : Nat → Option RequestVector
  | 0 => some vector
  | levels + 1 => (vector.ancestor? levels).bind parent?

/-- A handler was run under the vector at a depth of a tree of calls, counted from one for the
handler of the call itself. -/
inductive CallRecord.Ran : CallRecord → Nat → RequestVector → Prop where
  | handler {request : ExchangeRequest} {vector : RequestVector} {response : Response}
      {calls : List CallRecord} : Ran (.served request vector response calls) 1 vector
  | nested {request : ExchangeRequest} {vector : RequestVector} {response : Response}
      {calls : List CallRecord} {call : CallRecord} {depth : Nat} {other : RequestVector}
      (hcall : call ∈ calls) (h : Ran call depth other) :
      Ran (.served request vector response calls) (depth + 1) other

/-- Every handler of a call that traces a vector was run under a vector of the same root, deeper by
the depth of the handler, and the vector is as many levels above. -/
theorem CallRecord.Traces.ran {vector other : RequestVector} {call : CallRecord} {depth : Nat}
    (h : call.Traces vector) (hran : call.Ran depth other) :
    other.root = vector.root ∧ other.depth = vector.depth + depth ∧
      other.ancestor? depth = some vector := by
  induction hran generalizing vector with
  | handler =>
      cases h with
      | served number => exact ⟨rfl, vector.depth_child number, vector.parent?_child number⟩
  | nested hcall _ ih =>
      cases h with
      | served number _ _ hcalls =>
          obtain ⟨hroot, hdepth, hancestor⟩ := ih (hcalls _ hcall)
          refine ⟨hroot, ?_, ?_⟩
          · rw [hdepth, RequestVector.depth_child, Nat.add_assoc, Nat.add_comm 1]
          · rw [RequestVector.ancestor?, hancestor]
            exact vector.parent?_child number

namespace Call.Delivers

variable {call : Call} {number : Nat} {vector : RequestVector} {world sent : World}
  {request : ExchangeRequest} {received : Request}

/-- A request that is delivered carries a child of the vector that it was sent from. -/
theorem exists_carried (h : call.Delivers number (some vector) world request received sent)
    (hvalid : vector.IsValid) :
    ∃ n, request.headers.text? Headers.requestVector = some (vector.child n).render ∧
      HttpDispatcher.carriedVector? received.headers = some (vector.child n) := by
  have htext := (ClientProxy.text?_of_requestFor hvalid h.request_eq).1
  refine ⟨_, htext, HttpDispatcher.carriedVector?_of_text? (hvalid.child _) ?_⟩
  rw [ExchangeRequest.headers_of_toRequest h.received_eq, htext]

end Call.Delivers

/-- The calls of an action under a valid vector trace it. -/
theorem Performs.traces {α : Type} {action : Run α} {plan : Plan action} {vector : RequestVector}
    {world after : World} {a : α} {calls : List CallRecord} (hvalid : vector.IsValid)
    (h : Performs plan vector world a after calls) : ∀ call ∈ calls, call.Traces vector := by
  induction h with
  | own => exact fun call hcall => absurd hcall List.not_mem_nil
  | bind _ _ ihfirst ihnext =>
      intro call hcall
      rcases List.mem_append.1 hcall with hcall | hcall
      · exact ihfirst hvalid call hcall
      · exact ihnext hvalid call hcall
  | unsent => exact fun call hcall => List.mem_singleton.1 hcall ▸ .unsent
  | unanswered hrequest =>
      have htext := (ClientProxy.text?_of_requestFor hvalid hrequest).1
      exact fun call hcall => List.mem_singleton.1 hcall ▸ .unanswered _ htext
  | refused hdelivers _ hdispatch =>
      obtain ⟨n, htext, hcarried⟩ := hdelivers.exists_carried hvalid
      have hresponse := HttpDispatcher.text?_of_dispatch (hvalid.child n) hcarried hdispatch
      exact fun call hcall => List.mem_singleton.1 hcall ▸ .refused n htext hresponse
  | @served _ _ _ _ _ vector _ sent _ _ _ received _ _ _ _ _ _ hdelivers _ _ _ hfinished ih =>
      obtain ⟨n, htext, hcarried⟩ := hdelivers.exists_carried hvalid
      have hvector : HttpDispatcher.vectorOf received sent = vector.child n := by
        rw [HttpDispatcher.vectorOf, hcarried, Option.getD_some]
      rw [hvector] at ih hfinished ⊢
      have hresponse := HttpDispatcher.text?_of_finished (hvalid.child n) hfinished
      exact fun call hcall => List.mem_singleton.1 hcall ▸
        .served n htext hresponse (ih (hvalid.child n))

/-- An action that is made of work and calls is performed under every valid vector, and its calls
trace the vector, with all handlers below. The vector is the ambient one again after the action, and
what was ambient around the action is so again after it. -/
theorem Plan.calls_traced {α : Type} {action : Run α} (plan : Plan action)
    {vector : RequestVector} (hvalid : vector.IsValid) (world : World) :
    (∃ a after calls, Performs plan vector world a after calls) ∧
    ∀ a after calls, Performs plan vector world a after calls →
      (∀ call ∈ calls, call.Traces vector ∧ ∀ depth other, call.Ran depth other →
        other.root = vector.root ∧ other.depth = vector.depth + depth ∧
          other.ancestor? depth = some vector) ∧
      (do let a ← action; return (a, ← Run.ambient)) (some vector) world =
        ((a, some vector), after) ∧
      ∀ context, (do let a ← Run.within vector action; return (a, ← Run.ambient)) context world =
        ((a, context), after) := by
  refine ⟨plan.exists_performs vector world, fun a after calls h => ⟨fun call hcall => ?_, ?_,
    fun context => ?_⟩⟩
  · have htraces := h.traces hvalid call hcall
    exact ⟨htraces, fun depth other hran => htraces.ran hran⟩
  · exact Run.bind_of_eq h.run_eq
  · have hwithin : Run.within vector action context world = (a, after) := h.run_eq
    exact Run.bind_of_eq hwithin

/-- A handler that makes a call, whose handler is two levels below. -/
theorem Plan.calls_traced_two_levels :
    ∃ (call : Call) (plan : Plan call.run) (a : Except ClientError Json) (after : World)
      (first second : RequestVector) (request below : ExchangeRequest)
      (response answer : Response),
      Performs plan ⟨"r", []⟩ { World.initial with links := [⟨0, false⟩, ⟨0, false⟩] } a after
        [.served request first response [.served below second answer []]] ∧
      second.root = "r" ∧ second.depth = 2 ∧ second.ancestor? 2 = some ⟨"r", []⟩ := by
  let echo : RpcMethod := ⟨"echo", 1, "T", "T", some fun input => return .value input⟩
  obtain ⟨inner, hinner, hwithin⟩ := Call.exists_delivers_echo 1 (show echo.name = "echo" from rfl)
  let relay : RpcMethod := ⟨"echo", 1, "T", "T", some fun _ => do
    let _ ← inner.run
    return .value .null⟩
  obtain ⟨outer, houter, haround⟩ := Call.exists_delivers_echo 0 (show relay.name = "echo" from rfl)
  let below : Plan inner.run := .call inner hinner fun _ _ => .own _
  let plan : Plan outer.run := .call outer houter
    (Fin.cases (fun _ => .bind below fun _ => .own _) fun i => i.elim0)
  obtain ⟨request, received, sent, hdelivers, hprepare, hlinks⟩ := haround (some ⟨"r", []⟩)
    { World.initial with links := [⟨0, false⟩, ⟨0, false⟩] } rfl
  have hopen : (HttpDispatcher.entered received sent).IsOpen 1 := by
    rw [World.IsOpen, HttpDispatcher.links_entered, hlinks]
    rfl
  obtain ⟨request', received', sent', hdelivers', hprepare', -⟩ :=
    hwithin (some (HttpDispatcher.vectorOf received sent)) _ hopen
  have hbelow : ∃ a after answer, Performs below (HttpDispatcher.vectorOf received sent)
      (HttpDispatcher.entered received sent) a after
      [.served request' (HttpDispatcher.vectorOf received' sent') answer []] :=
    ⟨_, _, _, @Performs.served inner 1 _ hinner _ _ _ _ _ _ _ _ _ ⟨0, Nat.zero_lt_one⟩ _ _ _ _
      hdelivers' hprepare' rfl (.own rfl) rfl⟩
  obtain ⟨_, _, answer, hbelow⟩ := hbelow
  have habove : ∃ a after response, Performs plan ⟨"r", []⟩
      { World.initial with links := [⟨0, false⟩, ⟨0, false⟩] } a after
      [.served request (HttpDispatcher.vectorOf received sent) response
        [.served request' (HttpDispatcher.vectorOf received' sent') answer []]] :=
    ⟨_, _, _, @Performs.served outer 0 _ houter _ _ _ _ _ _ _ _ _ ⟨0, Nat.zero_lt_one⟩ _ _ _ _
      hdelivers hprepare rfl (.bind hbelow (.own rfl)) rfl⟩
  obtain ⟨a, after, response, habove⟩ := habove
  have hran := ((plan.calls_traced (by decide) _).2 a after _ habove).1 _ List.mem_cons_self
  exact ⟨outer, plan, a, after, _, _, request, request', response, answer, habove,
    hran.2 2 _ (.nested List.mem_cons_self .handler)⟩

end HttpRpc
