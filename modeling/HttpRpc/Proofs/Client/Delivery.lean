import HttpRpc.Proofs.Client.Request
import HttpRpc.Proofs.Service.Dispatch
import HttpRpc.Proofs.Service.Json
import HttpRpc.Proofs.Service.Payload

/-!
# What becomes of an outcome

A client and a server with the built-in codecs speak JSON with each other, whatever the media type
of requests is: the client accepts JSON first, so results and payloads are written as JSON, labelled
as JSON, and read as JSON. So the caller sees what the method ended with (`invoke_delivers`).
-/

namespace HttpRpc

/-! ## What a response says -/

namespace ClientProxy

variable {factory : ClientFactory} {response : Response} {value : Json}

/-- An empty body is read as null without a reader. -/
theorem decode_of_empty (h : response.body = []) (typeName : String) :
    decode factory typeName response = .ok .null := by
  rw [decode, h]
  rfl

/-- A body is not read without a reader. -/
theorem decode_of_reader_none {media : MediaType} {typeName : String} (hbody : response.body ≠ [])
    (hmedia : responseMediaType factory response = .ok media)
    (hreader : factory.codecs.readerFor? typeName media = none) :
    decode factory typeName response = .error (.media (.noReader typeName media.render)) := by
  simp only [decode, List.isEmpty_eq_false_iff.2 hbody, hmedia, hreader, Bool.false_eq_true,
    if_false, Except.mapError, ok_bind]
  rfl

/-- A body is read by the reader. -/
theorem decode_of_reader_some {media : MediaType} {typeName : String} {codec : Codec}
    (hbody : response.body ≠ []) (hmedia : responseMediaType factory response = .ok media)
    (hreader : factory.codecs.readerFor? typeName media = some codec) :
    decode factory typeName response =
      (codec.read response.body).mapError ClientError.deserialization := by
  simp only [decode, List.isEmpty_eq_false_iff.2 hbody, hmedia, hreader, Bool.false_eq_true,
    if_false, Except.mapError, ok_bind]

/-- A response that succeeds and cannot be read stands for the error. -/
theorem interpret_of_decode_error {typeName : String} {e : ClientError}
    (hstatus : response.status.isSuccess = true)
    (hdecode : decode factory typeName response = .error e) (shape : Shape) :
    interpret factory typeName shape response = .error e := by
  rw [interpret, hstatus, hdecode]
  rfl

/-- A response that succeeds stands for what is read, if that has the shape. -/
theorem interpret_of_decode_ok {typeName : String} (hstatus : response.status.isSuccess = true)
    (hdecode : decode factory typeName response = .ok value) (shape : Shape) :
    interpret factory typeName shape response =
      ((shape.read? value).map .ok).getD
        (.error (.deserialization (.json "value of another shape"))) := by
  simp only [interpret, hstatus, hdecode, Bool.not_true, Bool.false_eq_true, if_false, ok_bind]
  cases shape.read? value with
  | none => rfl
  | some result => rfl

/-- A response that fails is interpreted as the error that it reports. -/
theorem interpret_of_failure {typeName : String} {shape : Shape}
    (hstatus : response.status.isSuccess = false) :
    interpret factory typeName shape response = .error (decodeError factory response) := by
  rw [interpret, hstatus]
  rfl

/-- A body of JSON is read as its value, whatever the type. -/
theorem decode_json (hcodecs : factory.codecs = .default) (hreadable : value.Readable)
    (hbody : response.body = Text.Utf8.encodeString value.compact)
    (htype : response.contentType? = some "application/json") (typeName : String) :
    decode factory typeName response = .ok value := by
  have hnonempty : response.body ≠ [] :=
    hbody ▸ List.isEmpty_eq_false_iff.1 hreadable.body_isEmpty
  have hmedia : responseMediaType factory response = .ok .json := by
    rw [responseMediaType, htype]
    exact MediaType.parse_json
  have hreader : factory.codecs.readerFor? typeName .json = some (.json false) := by
    rw [hcodecs]
    exact CodecRegistry.readerFor?_json typeName
  rw [decode_of_reader_some hnonempty hmedia hreader, hbody, Codec.read_write_json hreadable]
  rfl

/-- A response that succeeds stands for its value. -/
theorem interpret_value (hcodecs : factory.codecs = .default) (hreadable : value.Readable)
    (hbody : response.body = Text.Utf8.encodeString value.compact)
    (htype : response.contentType? = some "application/json")
    (hstatus : response.status.isSuccess = true) (typeName : String) :
    interpret factory typeName .any response = .ok value :=
  interpret_of_decode_ok hstatus (decode_json hcodecs hreadable hbody htype typeName) .any

/-- A response that fails stands for its payload. -/
theorem interpret_payload {payload : ErrorPayload} (hcodecs : factory.codecs = .default)
    (hreadable : payload.toJson.Readable)
    (hbody : response.body = Text.Utf8.encodeString payload.toJson.compact)
    (htype : response.contentType? = some "application/json")
    (hstatus : response.status.isSuccess = false) (typeName : String) (shape : Shape) :
    interpret factory typeName shape response = .error (.remote response.status payload) := by
  have herror : decodeError factory response = .remote response.status payload := by
    unfold decodeError
    simp only [decode_json hcodecs hreadable hbody htype, Except.toOption, Option.bind_some,
      ErrorPayload.ofJson?_toJson]
  rw [interpret_of_failure hstatus, herror]

/-- A response that fails is an error with its status. -/
theorem interpret_failure (factory : ClientFactory) (typeName : String) (shape : Shape)
    (hstatus : response.status.isSuccess = false) :
    ∃ e, interpret factory typeName shape response = .error e ∧
      e.status? = some response.status := by
  refine ⟨decodeError factory response, interpret_of_failure hstatus, ?_⟩
  unfold decodeError
  split <;> rfl

end ClientProxy

/-! ## Delivery -/

namespace Outcome

/-- What the caller of a method sees of its outcome. -/
def delivered (method : String) : Outcome → Except ClientError Json
  | .value output => .ok output
  | .failed (.service cause) =>
    .error (.remote cause.status (.mk cause.code cause.message cause.parameters cause.inner))
  | .failed (.input cause) =>
    .error (.remote ⟨400⟩ (.new "BadRequest" cause.message [("method", method)]))
  | .failed (.output _) | .aborted =>
    .error (.remote ⟨500⟩ (.new "InternalError" "internal server error" [("method", method)]))

/-- What travels of an outcome: the output, or the payload of the error. -/
def carried (method : String) (outcome : Outcome) : Json :=
  match outcome.delivered method with
  | .ok output => output
  | .error e => (e.payload?.map ErrorPayload.toJson).getD .null

/-- What is not a value is delivered as the error that the dispatcher makes of it. -/
theorem delivered_of_result {method : String} {outcome : Outcome} {e : DispatchError}
    (h : HttpDispatcher.result method outcome = .error e) :
    outcome.delivered method = .error (.remote e.status e.toPayload) ∧
      e.status.isSuccess = false := by
  cases outcome with
  | value output => cases h
  | failed cause =>
      cases cause with
      | input cause => cases h; exact ⟨rfl, rfl⟩
      | output cause => cases h; exact ⟨rfl, rfl⟩
      | service cause =>
          cases h
          refine ⟨rfl, ?_⟩
          show cause.kind.status.isSuccess = false
          cases cause.kind <;> rfl
  | aborted => cases h; exact ⟨rfl, rfl⟩

end Outcome

/-- What a dispatcher answers once a method has ended is read as the outcome. -/
theorem interpret_finished {factory : ClientFactory} {dispatcher : HttpDispatcher}
    {received : Request} {method : RpcMethod} {outcome : Outcome} {others : List MediaType}
    (hclient : factory.codecs = .default) (hserver : dispatcher.codecs = .default)
    (haccepted : HttpDispatcher.acceptedTypes received.headers = .json :: others)
    (hreadable : (outcome.carried method.name).Readable) (vector : RequestVector) (after : World)
    (typeName : String) :
    ClientProxy.interpret factory typeName .any
        (dispatcher.finished received vector (dispatcher.answer received method outcome) after).1 =
      outcome.delivered method.name := by
  -- A result travels as the value itself, and anything else as the payload of an error.
  cases hresult : HttpDispatcher.result method.name outcome with
  | ok output =>
      obtain rfl : outcome = .value output := by
        cases outcome with
        | value other => cases hresult; rfl
        | failed cause => cases cause <;> cases hresult
        | aborted => cases hresult
      rw [HttpDispatcher.answer_json hserver haccepted]
      exact ClientProxy.interpret_value hclient hreadable rfl
        (HttpDispatcher.contentType?_respond ..) rfl typeName
  | error e =>
      obtain ⟨hdelivered, hstatus⟩ := Outcome.delivered_of_result hresult
      obtain ⟨hsame, hbody, htype⟩ :=
        HttpDispatcher.errorResponse_json hserver vector others e
      have hanswer : dispatcher.answer received method outcome = .error e := by
        rw [HttpDispatcher.answer, hresult]
      rw [← hsame] at hstatus
      rw [Outcome.carried, hdelivered] at hreadable
      rw [hanswer, hdelivered, ← hsame, ← haccepted]
      rw [← haccepted] at hbody htype hstatus
      exact ClientProxy.interpret_payload hclient hreadable hbody htype hstatus typeName .any

/-- The caller of a method that is reached through a transport in memory sees what the method ends
with: its output, its error with the status and the payload, or that the input was bad or the call
failed inside. -/
theorem ClientProxy.invoke_delivers {settings : FactorySettings} {make : Nat → ClientFactory}
    {proxy : ClientProxy} {source link : Nat} {dispatcher : HttpDispatcher}
    (hassemble : ClientFactory.assemble settings = .ok make)
    (hfactory : proxy.factory = make source)
    (hclient : settings.codecs.getD .default = .default)
    (htransport : settings.transport = some (.memory link dispatcher.dispatch))
    (hserver : dispatcher.codecs = .default)
    {name : String} {args : List Json} {context : Option RequestVector} {world sent after : World}
    {request : ExchangeRequest} {received : Request} {method : RpcMethod} {input : Json}
    {invoker : Invoker} {outcome : Outcome} (hopen : world.IsOpen link)
    (hrequest : proxy.requestFor name args context world = (.ok request, sent))
    (hreceived : request.toRequest = .ok received)
    (hprepare : dispatcher.prepare received = .ok (method, input))
    (hinvoker : method.invoker = some invoker)
    (hrun : invoker input (some (HttpDispatcher.vectorOf received sent))
      (HttpDispatcher.entered received sent) = (outcome, after))
    (hreadable : (outcome.carried method.name).Readable) :
    (proxy.invoke "serde_json::value::Value" .any name args context world).1 =
      outcome.delivered method.name := by
  obtain ⟨hmade, hcodecs, -, -, -, haccept⟩ := ClientFactory.assemble_eq_ok hassemble source
  rw [← hfactory] at hmade hcodecs haccept
  rw [hclient] at hcodecs
  rw [hcodecs] at haccept
  obtain ⟨hheader, hlinks⟩ := accept_of_requestFor hrequest
  have hmemory : proxy.factory.transport = .memory link dispatcher.dispatch :=
    Option.some.inj (hmade.symm.trans htransport)
  have hsent : sent.IsOpen link := by
    unfold World.IsOpen
    rw [hlinks]
    exact hopen
  have haccepted : HttpDispatcher.acceptedTypes received.headers = [.json, .plainText] := by
    have hheaders : received.headers = request.headers := by
      unfold ExchangeRequest.toRequest at hreceived
      cases htarget : Target.parse request.url.render with
      | error e => rw [htarget] at hreceived; cases hreceived
      | ok target => rw [htarget] at hreceived; cases hreceived; rfl
    rw [hheaders]
    exact HttpDispatcher.acceptedTypes_of_accept haccept hheader
  have hdispatch := HttpDispatcher.dispatch_of_prepare_ok hprepare hinvoker context hrun
  rw [invoke_of_handler hmemory hsent hrequest hreceived hdispatch]
  exact interpret_finished hcodecs hserver haccepted hreadable ..

/-- The caller of a method that gives its input back sees the argument. -/
theorem ClientProxy.invoke_delivers_echo :
    let echo : RpcMethod := ⟨"echo", 1, "T", "T", some fun input => return .value input⟩
    ∃ make table, ClientFactory.assemble ⟨.default, none,
        some (.memory 0 (HttpDispatcher.new ⟨[echo]⟩).dispatch)⟩ = .ok make ∧
      RouteTable.bind "http://host/api" [.submit "echo" "value"] = .ok table ∧
      (invoke ⟨"Echo", table, make 0⟩ "serde_json::value::Value" .any "echo" [.bool true] none
        { World.initial with links := [⟨0, false⟩] }).1 = .ok (.bool true) := by
  intro echo
  obtain ⟨make, hassemble⟩ := ClientFactory.exists_assemble_default
    (.memory 0 (HttpDispatcher.new ⟨[echo]⟩).dispatch)
  obtain ⟨table, hbind, -, -, htarget⟩ := RouteTable.exists_bind_echo
  refine ⟨make, table, hassemble, hbind, ?_⟩
  let proxy : ClientProxy := ⟨"Echo", table, make 0⟩
  let world : World := { World.initial with links := [⟨0, false⟩] }
  let url := table.base.url.appendSegments ["echo"] false
  have hopen : world.IsOpen 0 := rfl
  have hvalue : Json.bool true ≠ .null := by
    rintro ⟨⟩
  obtain ⟨headers, hsubmitted, hcontent⟩ := submitted_of_ne_null proxy url hvalue
  have hrequest : proxy.requestFor "echo" [.bool true] none world =
      (.ok (proxy.submitted url (.bool true)), world) :=
    requestFor_submit hassemble rfl (by decide) hbind List.mem_cons_self (.bool true) none world
  rw [hsubmitted] at hrequest
  have hmethod : RpcRegistry.get? ⟨[echo]⟩
      (HttpDispatcher.methodName .default ⟨"/api/echo", none⟩) = some echo := by
    have hname : HttpDispatcher.methodName .default ⟨"/api/echo", none⟩ = "echo" := by
      decide
    rw [hname]
    rfl
  have hprepare := HttpDispatcher.prepare_json hmethod hcontent Json.readable_true
    (by decide)
  exact invoke_delivers hassemble rfl rfl rfl rfl hopen hrequest
    (ExchangeRequest.toRequest_of_parse htarget) hprepare rfl rfl Json.readable_true

end HttpRpc
