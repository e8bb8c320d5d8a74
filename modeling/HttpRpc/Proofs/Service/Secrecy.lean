import HttpRpc.Proofs.Codec.Negotiation
import HttpRpc.Proofs.Service.Decision

/-!
# What an internal failure shows

A body may throw anything, report that its result has no JSON form, or return what the codec of the
answer does not write. The dispatcher catches what is thrown (`catching`) and answers all three in
one way, which is decided by its codecs, its settings and the request alone (`Breaks.response_eq`).
So nothing of a failure can be told from the answer (`response_eq_of_breaks`).
-/

namespace HttpRpc

/-- How a body ends whose panics are caught: with what it threw, or else with an error or an output.
-/
abbrev Caught (Thrown : Type) : Type := Except Thrown (Except InvocationError Json)

/-- The outcome of a body that has ended; what it threw is dropped. -/
def Caught.outcome {Thrown : Type} : Caught Thrown → Outcome
  | .error _ => .aborted
  | .ok (.error cause) => .failed cause
  | .ok (.ok output) => .value output

/-- The end of a body with an outcome. -/
def Outcome.caught : Outcome → Caught Unit
  | .value output => .ok (.ok output)
  | .failed cause => .ok (.error cause)
  | .aborted => .error ()

/-- The invoker that calls a body and catches what it throws. -/
def catching {Thrown : Type} (body : Json → Run (Caught Thrown)) : Invoker := fun input => do
  return (← body input).outcome

/-- Every invoker calls some body and catches what it throws. -/
theorem exists_catching_eq (invoker : Invoker) :
    ∃ body : Json → Run (Caught Unit), catching body = invoker := by
  have houtcome (outcome : Outcome) : outcome.caught.outcome = outcome := by
    cases outcome <;> rfl
  refine ⟨fun input => do return (← invoker input).caught, ?_⟩
  funext input context world
  show ((invoker input context world).1.caught.outcome, (invoker input context world).2) =
    invoker input context world
  rw [houtcome]
  rfl

namespace HttpDispatcher

variable {dispatcher other : HttpDispatcher} {request : Request} {method : RpcMethod}
  {vector : RequestVector}

/-- The ways in which the call of a method fails without the caller being at fault: the body throws,
its result has no JSON form, or the codec of the answer does not write its output. -/
inductive FailsInside (dispatcher : HttpDispatcher) (request : Request) (method : RpcMethod)
    {Thrown : Type} : Caught Thrown → Prop where
  | thrown (payload : Thrown) : FailsInside dispatcher request method (.error payload)
  | unconverted (cause : SerializationError) :
      FailsInside dispatcher request method (.ok (.error (.output cause)))
  | unwritten {output : Json} {codec : Codec} {media : MediaType} {cause : SerializationError}
      (hnegotiate : dispatcher.codecs.negotiate method.outputType (acceptedTypes request.headers) =
        .ok (codec, media))
      (hwrite : codec.write output = .error cause) :
      FailsInside dispatcher request method (.ok (.ok output))

/-- The request calls a method whose body fails inside. -/
def Breaks (dispatcher : HttpDispatcher) (request : Request) (world : World) : Prop :=
  ∃ (method : RpcMethod) (input : Json) (Thrown : Type) (body : Json → Run (Caught Thrown))
    (caught : Caught Thrown) (after : World),
    dispatcher.prepare request = .ok (method, input) ∧ method.invoker = some (catching body) ∧
      body input (some (vectorOf request world)) (entered request world) = (caught, after) ∧
      dispatcher.FailsInside request method caught

/-- However the call of a method fails inside, its answer is the error of the method. -/
theorem FailsInside.exists_answer {Thrown : Type} {caught : Caught Thrown}
    (h : dispatcher.FailsInside request method caught) :
    ∃ cause, dispatcher.answer request method caught.outcome =
      .error (.internalFailure method.name cause) := by
  cases h with
  | thrown payload => exact ⟨none, rfl⟩
  | unconverted cause => exact ⟨some cause, rfl⟩
  | @unwritten output codec media cause hnegotiate hwrite =>
      refine ⟨some cause, ?_⟩
      show dispatcher.encode method (acceptedTypes request.headers) output = _
      simp only [encode, hnegotiate, hwrite]

/-- The response to an internal failure does not depend on its cause. -/
theorem errorResponse_internalFailure (dispatcher : HttpDispatcher) (vector : RequestVector)
    (accepted : List MediaType) (name : String) (cause : Option SerializationError) :
    dispatcher.errorResponse vector accepted (.internalFailure name cause) =
      dispatcher.errorResponse vector accepted (.internalFailure name none) :=
  rfl

/-- A method is called under the name that the request states. -/
theorem name_of_prepare {input : Json} (h : dispatcher.prepare request = .ok (method, input)) :
    method.name = methodName dispatcher.config request.target :=
  RpcRegistry.name_of_get? (method?_of_prepare h)

/-- The response to a request whose call fails inside is made of the codecs, the settings and the
request. -/
theorem Breaks.response_eq {world : World} (h : dispatcher.Breaks request world)
    (hvector : carriedVector? request.headers = some vector) (context : Option RequestVector) :
    (dispatcher.dispatch request context world).1 =
      dispatcher.errorResponse vector (acceptedTypes request.headers)
        (.internalFailure (methodName dispatcher.config request.target) none) := by
  obtain ⟨method, input, Thrown, body, caught, after, hprepare, hinvoker, hbody, hfails⟩ := h
  have hrun : catching body input (some (vectorOf request world)) (entered request world) =
      (caught.outcome, after) :=
    Run.bind_of_eq hbody
  obtain ⟨cause, hanswer⟩ := hfails.exists_answer
  have hcarried : vectorOf request world = vector := by rw [vectorOf, hvector, Option.getD_some]
  rw [dispatch_of_prepare_ok hprepare hinvoker context hrun, hanswer, hcarried]
  show dispatcher.errorResponse vector _ (.internalFailure method.name cause) = _
  rw [errorResponse_internalFailure, name_of_prepare hprepare]

/-- Of dispatchers that differ in their methods only, no caller can tell apart the answers to a
request whose calls fail inside: neither what was thrown, nor the text of an error, nor which of the
failures it was. -/
theorem response_eq_of_breaks {world otherWorld : World}
    (hcodecs : other.codecs = dispatcher.codecs) (hconfig : other.config = dispatcher.config)
    (hvector : carriedVector? request.headers = some vector)
    (hbreaks : dispatcher.Breaks request world) (hother : other.Breaks request otherWorld)
    (context otherContext : Option RequestVector) :
    (other.dispatch request otherContext otherWorld).1 =
      (dispatcher.dispatch request context world).1 := by
  rw [hbreaks.response_eq hvector context, hother.response_eq hvector otherContext, hconfig]
  unfold errorResponse
  rw [hcodecs]

/-- A request that may call a method fails inside if its body does so whatever the input. -/
theorem breaks_of_const {Thrown : Type} {caught : Caught Thrown}
    (hpassed : Admission.failed? dispatcher request = none)
    (hmethod : dispatcher.method? request = some method)
    (hinvoker : method.invoker = some (catching fun _ => return caught))
    (hfails : dispatcher.FailsInside request method caught) (world : World) :
    dispatcher.Breaks request world := by
  obtain ⟨input, hprepare⟩ := exists_prepare_eq hpassed hmethod
  exact ⟨method, input, Thrown, _, caught, _, hprepare, hinvoker, rfl, hfails⟩

/-- A body that throws and one that returns an array where a text is accepted are answered alike. -/
theorem response_eq_of_breaks_echo :
    let throwing : RpcMethod :=
      ⟨"echo", 1, "T", "alloc::string::String",
        some (catching fun _ => return (.error "secret" : Caught String))⟩
    let returning : RpcMethod :=
      ⟨"echo", 1, "T", "alloc::string::String",
        some (catching fun _ => return (.ok (.ok (.array [])) : Caught Unit))⟩
    let request : Request := ⟨.post, ⟨"/echo", none⟩,
      ⟨[(Headers.contentType, [⟨Text.Utf8.encodeString "application/json"⟩]),
        (Headers.accept, [⟨Text.Utf8.encodeString "text/plain"⟩]),
        (Headers.requestVector, [⟨Text.Utf8.encodeString "r"⟩])]⟩, []⟩
    (new ⟨[throwing]⟩).Breaks request .initial ∧ (new ⟨[returning]⟩).Breaks request .initial ∧
      ((new ⟨[returning]⟩).dispatch request none .initial).1 =
        ((new ⟨[throwing]⟩).dispatch request none .initial).1 := by
  intro throwing returning request
  have hname : methodName .default request.target = "echo" := by decide
  have hmethod (method : RpcMethod) (h : method.name = "echo") :
      (new ⟨[method]⟩).method? request = some method := by
    show RpcRegistry.get? ⟨[method]⟩ (methodName .default request.target) = some method
    rw [hname]
    exact List.find?_cons_of_pos (beq_iff_eq.2 h)
  have haccepted : acceptedTypes request.headers = [.plainText] := by decide +kernel
  have hwrites : Codec.text.canWrite "alloc::string::String" .plainText = true := by
    show (_ && _) = true
    rw [MediaType.accepts_self, Bool.true_and]
    decide
  have hchosen : CodecRegistry.default.Chooses "alloc::string::String" [.plainText] .plainText
      .text :=
    ⟨hwrites, ⟨[], [], rfl, nofun⟩, [.json false], [], rfl,
      List.forall_mem_singleton.2 MediaType.accepts_json_plainText⟩
  have hvector : (carriedVector? request.headers).isSome = true := by decide
  obtain ⟨vector, hvector⟩ := Option.isSome_iff_exists.1 hvector
  have hthrowing : (new ⟨[throwing]⟩).Breaks request .initial :=
    breaks_of_const (by decide +kernel) (hmethod throwing rfl) rfl (.thrown "secret") .initial
  have hreturning : (new ⟨[returning]⟩).Breaks request .initial := by
    have hnegotiate := hchosen.negotiate_eq
    rw [← haccepted] at hnegotiate
    exact breaks_of_const (by decide +kernel) (hmethod returning rfl) rfl
      (.unwritten hnegotiate rfl) .initial
  have hcodecs : (new ⟨[returning]⟩).codecs = (new ⟨[throwing]⟩).codecs := rfl
  exact ⟨hthrowing, hreturning,
    response_eq_of_breaks hcodecs rfl hvector hthrowing hreturning none none⟩

end HttpDispatcher

end HttpRpc
