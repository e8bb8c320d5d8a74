import HttpRpc.Proofs.Http.Header
import HttpRpc.Proofs.Service.Admission
import HttpRpc.Proofs.Service.Dispatch
import HttpRpc.Proofs.Service.Registry

/-!
# What decides an answer

Once a method has ended, its outcome is looked at in a row of three checks (`Completion`). Together
with the checks before the call they decide every answer: the first check that fails gives the
status and the code, and only the checks before the call decide whether the invoker of the method
is run, which happens once (`dispatch_decided`).
-/

namespace HttpRpc

namespace HttpDispatcher

/-! ## The checks after the call -/

/-- The codec that writes the output of the method, and the media type that it writes. -/
def writer? (dispatcher : HttpDispatcher) (request : Request) : Option (Codec × MediaType) := do
  let method ← dispatcher.method? request
  dispatcher.codecs.negotiate? method.outputType (acceptedTypes request.headers)

/-- The output of an invocation. -/
def output? : Outcome → Option Json
  | .value output => some output
  | _ => none

/-- The checks after a method has ended. -/
inductive Completion where
  | outcome
  | writer
  | text
deriving DecidableEq, Repr

namespace Completion

/-- The order in which the checks are made. -/
def order : List Completion := [outcome, writer, text]

/-- Whether an outcome passes a check. -/
def passes (dispatcher : HttpDispatcher) (request : Request) (ended : Outcome) :
    Completion → Bool
  | outcome => (output? ended).isSome
  | writer => (dispatcher.writer? request).isSome
  | text => (dispatcher.writer? request).any fun (codec, _) =>
      (output? ended).any fun output => (codec.write output).isOk

/-- The first check that an outcome fails. -/
def failed? (dispatcher : HttpDispatcher) (request : Request) (ended : Outcome) :
    Option Completion :=
  order.find? fun check => !check.passes dispatcher request ended

/-- The status of the answer to a request whose outcome fails a check. -/
def status (ended : Outcome) : Completion → Status
  | outcome =>
    match ended with
    | .failed (.input _) => ⟨400⟩
    | .failed (.service cause) => cause.status
    | _ => ⟨500⟩
  | writer => ⟨406⟩
  | text => ⟨500⟩

/-- The code in the payload of the answer. -/
def code (ended : Outcome) : Completion → String
  | outcome =>
    match ended with
    | .failed (.input _) => "BadRequest"
    | .failed (.service cause) => cause.code
    | _ => "InternalError"
  | writer => "NotAcceptable"
  | text => "InternalError"

end Completion

section

variable {dispatcher : HttpDispatcher} {request : Request} {method : RpcMethod} {ended : Outcome}

/-- Only an output has a result, and any other outcome decides the error. -/
theorem result_decided (name : String) (ended : Outcome) :
    (∃ output, output? ended = some output ∧ result name ended = .ok output) ∨
    (output? ended = none ∧ ∃ e, result name ended = .error e ∧
      Tells e (Completion.status ended .outcome) (Completion.code ended .outcome) none) := by
  cases ended with
  | value output => exact .inl ⟨output, rfl, rfl⟩
  | failed cause =>
      right
      refine ⟨rfl, ?_⟩
      cases cause with
      | input cause => exact ⟨_, rfl, ⟨rfl, rfl, rfl⟩⟩
      | output cause => exact ⟨_, rfl, ⟨rfl, rfl, rfl⟩⟩
      | service cause => exact ⟨_, rfl, ⟨rfl, rfl, rfl⟩⟩
  | aborted => exact .inr ⟨rfl, _, rfl, ⟨rfl, rfl, rfl⟩⟩

/-- The first check that fails decides the error, and an outcome that fails none is written by the
codec that is found for it. -/
theorem answer_decided (hmethod : dispatcher.method? request = some method) (ended : Outcome) :
    (∃ check e, Completion.failed? dispatcher request ended = some check ∧
      dispatcher.answer request method ended = .error e ∧
      Tells e (check.status ended) (check.code ended) none) ∨
    (Completion.failed? dispatcher request ended = none ∧
      ∃ codec media output body, dispatcher.writer? request = some (codec, media) ∧
        output? ended = some output ∧ codec.write output = .ok body ∧
        dispatcher.answer request method ended = .ok (media, body)) := by
  simp only [Completion.failed?, Completion.order]
  unfold answer
  rcases result_decided method.name ended with
    ⟨output, houtput, hresult⟩ | ⟨hnone, e, hresult, htells⟩
  case inr =>
    left
    exact ⟨.outcome, e, by simp [Completion.passes, hnone], by rw [hresult], htells⟩
  rw [hresult]
  have hnegotiate : dispatcher.writer? request =
      dispatcher.codecs.negotiate? method.outputType (acceptedTypes request.headers) := by
    rw [writer?, hmethod]
    rfl
  unfold encode CodecRegistry.negotiate
  rw [← hnegotiate]
  cases hwriter : dispatcher.writer? request with
  | none =>
      left
      exact ⟨.writer, _, by simp [Completion.passes, houtput, hwriter], rfl, ⟨rfl, rfl, rfl⟩⟩
  | some found =>
      obtain ⟨codec, media⟩ := found
      simp only
      cases hwrite : codec.write output with
      | error cause =>
          left
          exact ⟨.text, _, by
            simp [Completion.passes, houtput, hwriter, hwrite, Except.isOk, Except.toBool], rfl,
            ⟨rfl, rfl, rfl⟩⟩
      | ok body =>
          right
          exact ⟨by
            simp [Completion.passes, houtput, hwriter, hwrite, Except.isOk, Except.toBool],
            codec, media, output, body, rfl, houtput, hwrite, rfl⟩

end

/-! ## Responses -/

/-- The answer without a result of a request under a vector: an error of the status and the code,
whose report is all that happens to the world. -/
structure Refused (dispatcher : HttpDispatcher) (request : Request) (vector : RequestVector)
    (status : Status) (code : String) (allowed : Option HeaderValue) (before : World)
    (answered : Response × World) : Prop where
  reported : ∃ e : DispatchError, e.toPayload.code = code ∧
    answered = dispatcher.finished request vector (.error e) before
  status_eq : answered.1.status = status
  allow_eq : answered.1.headers.get? Headers.allow = allowed

/-- A response states its vector and its media type only. -/
theorem allow_respond (vector : RequestVector) (status : Status) (media : MediaType)
    (body : Body) : (respond vector status media body).headers.get? Headers.allow = none := by
  unfold respond
  rw [get?_setText_of_ne _ (by decide), get?_setText_of_ne _ (by decide)]
  rfl

/-- The response to an error has the status of the error and allows what the error allows. -/
theorem errorResponse_tells (dispatcher : HttpDispatcher) (vector : RequestVector)
    (accepted : List MediaType) (e : DispatchError) :
    (dispatcher.errorResponse vector accepted e).status = e.status ∧
      (dispatcher.errorResponse vector accepted e).headers.get? Headers.allow = allowed? e := by
  unfold errorResponse
  obtain ⟨media, body⟩ := encodePayload dispatcher.codecs e.toPayload accepted
  have hpost : HeaderValue.ofString? "POST" = some postAllowed := by rfl
  cases e with
  | methodNotAllowed verb => exact ⟨rfl, get?_setText_self _ hpost⟩
  | _ => exact ⟨rfl, allow_respond ..⟩

/-- A request that is finished with an error is refused as the error tells. -/
theorem refused_of_tells {dispatcher : HttpDispatcher} {e : DispatchError} {status : Status}
    {code : String} {allowed : Option HeaderValue} (htells : Tells e status code allowed)
    (request : Request) (vector : RequestVector) (before : World) :
    dispatcher.Refused request vector status code allowed before
      (dispatcher.finished request vector (.error e) before) := by
  obtain ⟨hstatus, hallow⟩ :=
    errorResponse_tells dispatcher vector (acceptedTypes request.headers) e
  exact ⟨⟨e, htells.code_eq, rfl⟩, hstatus.trans htells.status_eq, hallow.trans htells.allowed_eq⟩

/-- Of a registry only the method of the name that a request states matters. -/
theorem dispatch_congr {dispatcher other : HttpDispatcher} {request : Request}
    (hcodecs : other.codecs = dispatcher.codecs) (hconfig : other.config = dispatcher.config)
    (hmethod : other.method? request = dispatcher.method? request) :
    other.dispatch request = dispatcher.dispatch request := by
  unfold method? at hmethod
  have hdecode : other.decode = dispatcher.decode := by
    unfold decode
    rw [hcodecs]
  have hprepare : other.prepare request = dispatcher.prepare request := by
    rw [hconfig] at hmethod
    simp only [prepare, hcodecs, hconfig, hdecode, hmethod]
  have hencode : other.encode = dispatcher.encode := by
    unfold encode
    rw [hcodecs]
  have herror : other.errorResponse = dispatcher.errorResponse := by
    unfold errorResponse
    rw [hcodecs]
  unfold dispatch handle
  rw [hprepare, hencode, herror]

/-- The first check that fails decides the answer to a request. If it is one of those before the
call, nothing but its report happens. Otherwise the invoker of the method is run once, under the
vector and with the input of the request, and nothing but the report of a check that its outcome
fails happens after it. No other method matters. -/
theorem dispatch_decided {strict : Bool} {decls : List RpcMethod} {dispatcher : HttpDispatcher}
    (hbuild : RpcRegistry.build strict decls = .ok dispatcher.registry) (request : Request)
    (context : Option RequestVector) (world : World) :
    (∀ check, Admission.failed? dispatcher request = some check →
      dispatcher.Refused request (vectorOf request world) check.status check.code check.allowed?
        (entered request world) (dispatcher.dispatch request context world)) ∧
    (Admission.failed? dispatcher request = none →
      ∃ method invoker input, dispatcher.method? request = some method ∧
        method.invoker = some invoker ∧ dispatcher.input? request = some input ∧
        ∀ ended after,
          invoker input (some (vectorOf request world)) (entered request world) = (ended, after) →
          (∀ check, Completion.failed? dispatcher request ended = some check →
            dispatcher.Refused request (vectorOf request world) (check.status ended)
              (check.code ended) none after (dispatcher.dispatch request context world)) ∧
          (Completion.failed? dispatcher request ended = none →
            ∃ codec media output body, dispatcher.writer? request = some (codec, media) ∧
              output? ended = some output ∧ codec.write output = .ok body ∧
              dispatcher.dispatch request context world =
                (respond (vectorOf request world) ⟨200⟩ media body, after) ∧
              (dispatcher.dispatch request context world).1.headers.get? Headers.allow = none)) ∧
    (∀ other : HttpDispatcher, other.codecs = dispatcher.codecs →
      other.config = dispatcher.config → other.method? request = dispatcher.method? request →
      other.dispatch request context world = dispatcher.dispatch request context world) := by
  refine ⟨?refused, ?called, ?others⟩
  case refused =>
    intro check hfailed
    rcases prepare_decided dispatcher request with
      ⟨check', e, hfailed', hprepare, htells⟩ | ⟨hnone, -⟩
    · cases hfailed.symm.trans hfailed'
      rw [dispatch_of_prepare_error hprepare context world]
      exact refused_of_tells htells ..
    · rw [hnone] at hfailed
      cases hfailed
  case called =>
    intro hnone
    rcases prepare_decided dispatcher request with
      ⟨check, e, hfailed, -⟩ | ⟨-, method, input, hmethod, hinput, hprepare⟩
    · rw [hnone] at hfailed
      cases hfailed
    · obtain ⟨invoker, hinvoker⟩ := RpcRegistry.invoker_of_get? hbuild hmethod
      refine ⟨method, invoker, input, hmethod, hinvoker, hinput, ?_⟩
      intro ended after hrun
      rw [dispatch_of_prepare_ok hprepare hinvoker context hrun]
      rcases answer_decided hmethod ended with
        ⟨check, e, hfailed, hanswer, htells⟩ |
        ⟨hpassed, codec, media, output, body, hwriter, houtput, hwrite, hanswer⟩
      · rw [hanswer]
        refine ⟨fun check' hfailed' => ?_, fun hpassed => ?_⟩
        · cases hfailed'.symm.trans hfailed
          exact refused_of_tells htells ..
        · rw [hpassed] at hfailed
          cases hfailed
      · rw [hanswer]
        refine ⟨fun check hfailed => ?_, fun _ => ?_⟩
        · rw [hpassed] at hfailed
          cases hfailed
        · exact ⟨codec, media, output, body, hwriter, houtput, hwrite, rfl,
            allow_respond ..⟩
  case others =>
    intro other hcodecs hconfig hmethod
    rw [dispatch_congr hcodecs hconfig hmethod]

/-- A request with an empty body for a method that gives its input back passes all checks. -/
theorem dispatch_decided_echo :
    ∃ registry, RpcRegistry.build true
        [⟨"echo", 1, "T", "T", some fun input => return .value input⟩] = .ok registry ∧
      ∀ world, ((HttpDispatcher.new registry).dispatch
        ⟨.post, ⟨"/echo", none⟩, ⟨[(Headers.contentType,
          [⟨Text.Utf8.encodeString "application/json"⟩])]⟩, []⟩ none world).1.status = ⟨200⟩ := by
  let echo : RpcMethod := ⟨"echo", 1, "T", "T", some fun input => return .value input⟩
  let dispatcher : HttpDispatcher := .new ⟨[echo]⟩
  let request : Request :=
    ⟨.post, ⟨"/echo", none⟩, ⟨[(Headers.contentType,
      [⟨Text.Utf8.encodeString "application/json"⟩])]⟩, []⟩
  have hbuild : RpcRegistry.build true [echo] = .ok dispatcher.registry := by rfl
  refine ⟨⟨[echo]⟩, hbuild, fun world => ?_⟩
  have hpassed : Admission.failed? dispatcher request = none := by decide +kernel
  obtain ⟨method, invoker, input, hmethod, hinvoker, hinput, hended⟩ :=
    (dispatch_decided hbuild request none world).2.1 hpassed
  have hecho : dispatcher.method? request = some echo := by
    have hname : methodName dispatcher.config request.target = "echo" := by decide
    rw [method?, hname]
    rfl
  have hnull : (dispatcher.input? request).all Json.isNull = true := by decide +kernel
  cases hecho.symm.trans hmethod
  cases hinvoker
  rw [hinput] at hnull
  obtain rfl : input = .null := by
    cases input with
    | null => rfl
    | _ => cases hnull
  have hcompleted : Completion.failed? dispatcher request (.value .null) = none := by
    decide +kernel
  obtain ⟨codec, media, output, body, -, -, -, hdispatch, -⟩ := (hended _ _ rfl).2 hcompleted
  exact congrArg (fun answered : Response × World => answered.1.status) hdispatch

end HttpDispatcher

end HttpRpc
