import HttpRpc.Proofs.Client.CallTree
import HttpRpc.Proofs.Client.Delivery
import HttpRpc.Proofs.Codec.BuiltIn

/-!
# Calls of a server with the same codecs

A client and a dispatcher that share their codecs (`Call.Shares`). The dispatcher reads the list of
media types that the client sends with a call as the client wrote it (`Answered.acceptedTypes_eq`),
and the client reads the media type of a response as the dispatcher wrote it
(`responseMediaType_respond`). Whether the client has a reader for a response is then a question
about the codecs alone (`interpret_noReader_iff`).
-/

namespace HttpRpc

/-! ## Responses -/

/-- The media type of a response reads back, if it is plain. -/
theorem ClientProxy.responseMediaType_respond {media : MediaType} (h : media.IsPlain)
    (factory : ClientFactory) (vector : RequestVector) (status : Status) (body : Body) :
    responseMediaType factory (HttpDispatcher.respond vector status media body) = .ok media := by
  obtain ⟨value, hvalue, htext⟩ := h.exists_ofString?_eq
  have hcontent : (HttpDispatcher.respond vector status media body).contentType? =
      some media.render := by
    unfold Response.contentType? Headers.text? HttpDispatcher.respond
    rw [HttpDispatcher.get?_setText_self _ hvalue]
    exact htext
  rw [responseMediaType, hcontent]
  show MediaType.parse media.render = .ok media
  rw [MediaType.parse, h.parse?_render]

section

variable {factory : ClientFactory} {response : Response} {media : MediaType} {typeName : String}
  {shape : Shape}

/-- A response that succeeds has no reader exactly if it has a body and no codec reads the type from
its media type. -/
theorem ClientProxy.interpret_noReader_iff (hstatus : response.status.isSuccess = true)
    (hmedia : responseMediaType factory response = .ok media) :
    (∃ name text, interpret factory typeName shape response =
      .error (.media (.noReader name text))) ↔
    response.body ≠ [] ∧ factory.codecs.readerFor? typeName media = none := by
  have hother {value : Json} (hdecode : decode factory typeName response = .ok value)
      (name text : String) : interpret factory typeName shape response ≠
        .error (.media (.noReader name text)) := by
    rw [interpret_of_decode_ok hstatus hdecode shape]
    cases shape.read? value with
    | none => rintro ⟨⟩
    | some result => rintro ⟨⟩
  constructor
  · rintro ⟨name, text, hinterpret⟩
    by_cases hbody : response.body = []
    · exact absurd hinterpret (hother (decode_of_empty hbody typeName) name text)
    refine ⟨hbody, ?_⟩
    cases hreader : factory.codecs.readerFor? typeName media with
    | none => rfl
    | some codec =>
        have hdecode := decode_of_reader_some hbody hmedia hreader
        cases hread : codec.read response.body with
        | ok value =>
            rw [hread] at hdecode
            exact absurd hinterpret (hother hdecode name text)
        | error e =>
            rw [hread] at hdecode
            rw [interpret_of_decode_error hstatus hdecode shape] at hinterpret
            cases hinterpret
  · rintro ⟨hbody, hreader⟩
    have hdecode := decode_of_reader_none hbody hmedia hreader
    exact ⟨_, _, interpret_of_decode_error hstatus hdecode shape⟩

end

/-! ## Arguments -/

/-- A media type that a request states reads back, if it is plain. -/
theorem HttpDispatcher.contentType?_of_isPlain {headers : Headers} {media : MediaType}
    {value : HeaderValue} (h : media.IsPlain)
    (hvalue : HeaderValue.ofString? media.render = some value)
    (hheader : headers.get? Headers.contentType = some value) :
    contentType? headers = some (.ok media) := by
  obtain ⟨found, hfound, htext⟩ := h.exists_ofString?_eq
  cases hvalue.symm.trans hfound
  rw [contentType?, hheader, Option.map_some, htext]
  show some (MediaType.parse media.render) = _
  rw [MediaType.parse, h.parse?_render]

/-- An argument that is no part of the URL is written by the codec for the media type of requests.
-/
theorem ClientProxy.prepare_of_resolve {proxy : ClientProxy} {method : String} {args : List Json}
    {bound : BoundMethod} {url : Url} {value : Json} {codec : Codec} {body : Body}
    (hget : proxy.routes.get? method = some bound)
    (hresolve : bound.resolve args = .ok (url, some value))
    (hwriter : proxy.factory.codecs.writerFor? (valueTypeName value)
      proxy.factory.requestMediaType = some codec)
    (hwrite : codec.write value = .ok body) :
    ∃ headers, proxy.prepare method args = .ok ⟨bound.verb, url, headers, some body⟩ ∧
      headers.get? Headers.contentType = some proxy.factory.contentType :=
  ⟨_, prepares_iff.1 (.written hget hresolve hwriter hwrite), Headers.get?_insert_self
    (proxy.factory.defaultHeaders.insert Headers.accept proxy.factory.accept) _ _⟩

/-! ## Results -/

/-- A response with a result is the output of the method that the request states, written by the
codec that is negotiated for it. -/
theorem HttpDispatcher.exists_respond_of_status {dispatcher : HttpDispatcher} {request : Request}
    {context : Option RequestVector} {world : World}
    (hok : (dispatcher.dispatch request context world).1.status = .ok) :
    ∃ method output codec media body, dispatcher.method? request = some method ∧
      dispatcher.codecs.negotiate method.outputType (acceptedTypes request.headers) =
        .ok (codec, media) ∧
      codec.write output = .ok body ∧
      (dispatcher.dispatch request context world).1 =
        respond (vectorOf request world) .ok media body := by
  rcases dispatch_cases dispatcher request context world with
    ⟨media, body, hhandle, hresponse⟩ | ⟨e, -, hresponse⟩
  · obtain ⟨method, output, hmethod, hencode⟩ := exists_encode_of_handle hhandle
    obtain ⟨codec, hnegotiate, hwrite⟩ := exists_negotiate_of_encode hencode
    exact ⟨method, output, codec, media, body, hmethod, hnegotiate, hwrite, hresponse⟩
  · rw [hresponse] at hok
    have hstatus := (errorResponse_tells dispatcher (vectorOf request world)
      (acceptedTypes request.headers) e).1
    exact absurd (hstatus.symm.trans hok) e.status_ne_ok

/-! ## Calls -/

namespace Call

variable {call : Call} {dispatcher : HttpDispatcher} {codecs : CodecRegistry}
  {context : Option RequestVector} {world there : World} {received : Request} {response : Response}

/-- The client of a call and a dispatcher have the same codecs. -/
structure Shares (call : Call) (dispatcher : HttpDispatcher) (codecs : CodecRegistry) : Prop where
  client : ∃ settings make source, ClientFactory.assemble settings = .ok make ∧
    settings.codecs.getD .default = codecs ∧ call.proxy.factory = make source
  server : dispatcher.codecs = codecs

/-- The client has the codecs, and its headers state its media type and those of the codecs. -/
theorem Shares.factory_eq (h : call.Shares dispatcher codecs) :
    call.proxy.factory.codecs = codecs ∧
      HeaderValue.ofString? call.proxy.factory.requestMediaType.render =
        some call.proxy.factory.contentType ∧
      HeaderValue.ofString? codecs.acceptHeader = some call.proxy.factory.accept := by
  obtain ⟨settings, make, source, hassemble, hcodecs, hfactory⟩ := h.client
  obtain ⟨-, hmade, -, -, hcontent, haccept⟩ := ClientFactory.assemble_eq_ok hassemble source
  rw [hmade] at haccept
  rw [hfactory, ← hcodecs]
  exact ⟨hmade, hcontent, haccept⟩

/-- The request of a call is received by a dispatcher in some world, and its response comes back to
the call. -/
structure Answered (call : Call) (dispatcher : HttpDispatcher) (context : Option RequestVector)
    (world : World) (received : Request) (there : World) (response : Response) : Prop where
  exchanged : ∃ request sent, call.request context world = (.ok request, sent) ∧
    request.toRequest = .ok received ∧
    (ClientProxy.exchangeWithRetry call.proxy.factory request context sent).1 = .ok response
  dispatched : ∃ ambient, (dispatcher.dispatch received ambient there).1 = response

/-- A call with an argument that is no part of the URL sends it as the client writes it. -/
theorem request_of_resolve {bound : BoundMethod} {url : Url} {value : Json} {codec : Codec}
    {body : Body} (hget : call.proxy.routes.get? call.method = some bound)
    (hresolve : bound.resolve call.args = .ok (url, some value))
    (hwriter : call.proxy.factory.codecs.writerFor? (ClientProxy.valueTypeName value)
      call.proxy.factory.requestMediaType = some codec)
    (hwrite : codec.write value = .ok body) (context : Option RequestVector) (world : World) :
    ∃ headers sent, call.request context world =
        (.ok ⟨bound.verb, url, headers, some body⟩, sent) ∧
      headers.get? Headers.contentType = some call.proxy.factory.contentType ∧
      sent.links = world.links := by
  obtain ⟨prepared, hprepare, hcontent⟩ :=
    ClientProxy.prepare_of_resolve hget hresolve hwriter hwrite
  obtain ⟨headers, sources, haddressed, hheaders⟩ :=
    ClientProxy.addressed_eq call.proxy ⟨bound.verb, url, prepared, some body⟩ context world
  have hrequest := ClientProxy.requestFor_of_prepare hprepare context world
  rw [haddressed] at hrequest
  exact ⟨headers, _, hrequest, (hheaders _ (by decide)).trans hcontent, rfl⟩

/-- A call whose URL is a target is delivered through an open transport in memory. -/
theorem delivers_of_resolve {bound : BoundMethod} {url : Url} {value : Json} {codec : Codec}
    {body : Body} {target : Target} {number : Nat}
    (hget : call.proxy.routes.get? call.method = some bound)
    (hresolve : bound.resolve call.args = .ok (url, some value))
    (hwriter : call.proxy.factory.codecs.writerFor? (ClientProxy.valueTypeName value)
      call.proxy.factory.requestMediaType = some codec)
    (hwrite : codec.write value = .ok body) (htarget : Target.parse url.render = .ok target)
    (hopen : world.IsOpen number) (context : Option RequestVector) :
    ∃ request headers sent,
      call.Delivers number context world request ⟨bound.verb, target, headers, body⟩ sent ∧
      headers.get? Headers.contentType = some call.proxy.factory.contentType := by
  obtain ⟨headers, sent, hrequest, hcontent, hlinks⟩ :=
    request_of_resolve hget hresolve hwriter hwrite context world
  refine ⟨_, headers, sent, ⟨hrequest, ?_, ExchangeRequest.toRequest_of_parse htarget⟩, hcontent⟩
  rw [World.IsOpen, hlinks]
  exact hopen

/-- A call that reaches a dispatcher through a transport in memory is answered by it. -/
theorem answered_of_delivers {number : Nat} {request : ExchangeRequest} {sent left : World}
    (hreaches : call.Reaches number dispatcher)
    (hdelivers : call.Delivers number context world request received sent)
    (hdispatch : dispatcher.dispatch received context sent = (response, left)) :
    call.Answered dispatcher context world received sent response := by
  have hexchange := Transport.exchange_memory hdelivers.isOpen hdelivers.received_eq hdispatch
  rw [← hreaches] at hexchange
  have hexchanged := ClientProxy.exchangeWithRetry_of_response hexchange
  exact ⟨⟨request, sent, hdelivers.request_eq, hdelivers.received_eq, congrArg Prod.fst hexchanged⟩,
    context, congrArg Prod.fst hdispatch⟩

/-- A call that is answered ends with what the response means. -/
theorem Answered.run_eq (h : call.Answered dispatcher context world received there response) :
    (call.run context world).1 = call.read response := by
  obtain ⟨request, sent, hrequest, -, hexchange⟩ := h.exchanged
  rcases hresult : ClientProxy.exchangeWithRetry call.proxy.factory request context sent with
    ⟨result, after⟩
  rw [hresult] at hexchange
  cases hexchange
  exact congrArg Prod.fst (ClientProxy.invoke_of_response hrequest hresult)

/-- The response to a call is made of what the method of the call ends with. -/
theorem Answered.response_eq {method : RpcMethod} {input : Json} {invoker : Invoker}
    {outcome : Outcome} {after : World}
    (h : call.Answered dispatcher context world received there response)
    (hprepare : dispatcher.prepare received = .ok (method, input))
    (hinvoker : method.invoker = some invoker)
    (hrun : invoker input (some (HttpDispatcher.vectorOf received there))
      (HttpDispatcher.entered received there) = (outcome, after)) :
    response = (dispatcher.finished received (HttpDispatcher.vectorOf received there)
      (dispatcher.answer received method outcome) after).1 := by
  obtain ⟨ambient, hdispatch⟩ := h.dispatched
  rw [← hdispatch, HttpDispatcher.dispatch_of_prepare_ok hprepare hinvoker ambient hrun]

/-- The dispatcher reads the list of media types that comes with a call as the client wrote it. -/
theorem Answered.acceptedTypes_eq (hcodecs : ∀ codec ∈ codecs.codecs, codec.mediaType.IsPlain)
    (hshares : call.Shares dispatcher codecs)
    (h : call.Answered dispatcher context world received there response) :
    HttpDispatcher.acceptedTypes received.headers =
      MediaType.parseAccept codecs.acceptHeader := by
  obtain ⟨request, sent, hrequest, hreceived, -⟩ := h.exchanged
  have hheader := (ClientProxy.accept_of_requestFor hrequest).1
  rw [← ExchangeRequest.headers_of_toRequest hreceived] at hheader
  obtain ⟨value, hvalue, htext⟩ := CodecRegistry.exists_ofString?_acceptHeader hcodecs
  have hsame : call.proxy.factory.accept = value :=
    Option.some.inj (hshares.factory_eq.2.2.symm.trans hvalue)
  rw [← hsame] at htext
  have htext : received.headers.text? Headers.accept = some codecs.acceptHeader := by
    rw [Headers.text?, hheader]
    exact htext
  rw [HttpDispatcher.acceptedTypes, htext]

/-! ## Calls of a method `echo` -/

/-- There is a call, through a transport in memory, that submits a value to a method `echo` of a
dispatcher with the same codecs. -/
theorem exists_submit (dispatcher : HttpDispatcher) (value : Json) {media : MediaType}
    (hmedia : media.IsPlain)
    (hplain : ∀ codec ∈ dispatcher.codecs.codecs, codec.mediaType.IsPlain)
    (hsupports : dispatcher.codecs.supports media = true) (hvalue : value.isNull = false)
    (typeName : String) (shape : Shape) :
    ∃ call : Call, call.Shares dispatcher dispatcher.codecs ∧ call.Reaches 0 dispatcher ∧
      call.typeName = typeName ∧ call.shape = shape ∧ call.proxy.factory.requestMediaType = media ∧
      ∃ bound url, call.proxy.routes.get? call.method = some bound ∧
        bound.resolve call.args = .ok (url, some value) ∧ bound.verb = .post ∧
        Target.parse url.render = .ok ⟨"/api/echo", none⟩ := by
  obtain ⟨contentType, hcontent, -⟩ := hmedia.exists_ofString?_eq
  obtain ⟨accept, haccept, -⟩ := CodecRegistry.exists_ofString?_acceptHeader hplain
  let settings : FactorySettings := ⟨{ ClientConfig.default with requestMediaType := media },
    some dispatcher.codecs, some (.memory 0 dispatcher.dispatch)⟩
  have hassembled : ∃ make, ClientFactory.assemble settings = .ok make :=
    ClientFactory.exists_assemble rfl hmedia.concrete rfl hsupports hcontent haccept
  obtain ⟨make, hassemble⟩ := hassembled
  obtain ⟨htransport, -, hrequest, -⟩ := ClientFactory.assemble_eq_ok hassemble 0
  obtain ⟨table, hbind, -, -, htarget⟩ := RouteTable.exists_bind_echo
  obtain ⟨-, bound, hbound, hget⟩ := RouteTable.get?_of_bind hbind List.mem_cons_self
  cases (BoundMethod.bind_submit (by decide) table.base "value").symm.trans hbound
  have hresolve : BoundMethod.resolve ⟨"echo", .post, 1, ⟨table.base, .word "echo", [], [],
      some (table.base.url.appendSegments ["echo"] false)⟩, some 0⟩ [value] =
      .ok (table.base.url.appendSegments ["echo"] false, some value) := by
    rw [ClientProxy.resolve_submit rfl, hvalue]
    rfl
  exact ⟨⟨⟨"Echo", table, make 0⟩, typeName, shape, "echo", [value]⟩,
    ⟨⟨settings, make, 0, hassemble, rfl, rfl⟩, rfl⟩, (Option.some.inj htransport).symm, rfl, rfl,
    hrequest, _, _, hget, hresolve, rfl, htarget⟩

/-- There is a call that submits a value to a method `echo` that decodes it. -/
theorem exists_answered (codecs : CodecRegistry) (method : RpcMethod) (value : Json)
    {media : MediaType} {input : Json} {codec : Codec} {body : Body} (hname : method.name = "echo")
    (hmedia : media.IsPlain) (hplain : ∀ codec ∈ codecs.codecs, codec.mediaType.IsPlain)
    (hsupports : codecs.supports media = true) (hvalue : value.isNull = false)
    (hwriter : codecs.writerFor? (ClientProxy.valueTypeName value) media = some codec)
    (hwrite : codec.write value = .ok body)
    (hsize : body.length ≤ DispatcherConfig.default.maxBodyBytes)
    (hdecode : HttpDispatcher.decode ⟨⟨[method]⟩, codecs, .default⟩ method media body = .ok input)
    (hopen : world.IsOpen 0) (typeName : String) (shape : Shape) :
    ∃ (call : Call) (received : Request) (there : World) (response : Response),
      call.Shares ⟨⟨[method]⟩, codecs, .default⟩ codecs ∧
      call.Answered ⟨⟨[method]⟩, codecs, .default⟩ none world received there response ∧
      call.typeName = typeName ∧ call.shape = shape ∧ call.proxy.factory.requestMediaType = media ∧
      (∃ (bound : BoundMethod) (url : Url), call.proxy.routes.get? call.method = some bound ∧
        bound.resolve call.args = .ok (url, some value)) ∧
      HttpDispatcher.method? ⟨⟨[method]⟩, codecs, .default⟩ received = some method ∧
      HttpDispatcher.prepare ⟨⟨[method]⟩, codecs, .default⟩ received = .ok (method, input) := by
  let dispatcher : HttpDispatcher := ⟨⟨[method]⟩, codecs, .default⟩
  obtain ⟨call, hshares, hreaches, htype, hshape, hrequest, bound, url, hget, hresolve, hverb,
    htarget⟩ := exists_submit dispatcher value hmedia hplain hsupports hvalue typeName shape
  obtain ⟨hcodecs, hcontent, -⟩ := hshares.factory_eq
  have hcodecs : call.proxy.factory.codecs = codecs := hcodecs
  rw [← hcodecs, ← hrequest] at hwriter
  obtain ⟨request, headers, sent, hdelivers, hheader⟩ :=
    delivers_of_resolve hget hresolve hwriter hwrite htarget hopen none
  rcases hdispatch : dispatcher.dispatch ⟨bound.verb, ⟨"/api/echo", none⟩, headers, body⟩ none sent
    with ⟨response, left⟩
  rw [hrequest] at hcontent
  have hstated := HttpDispatcher.contentType?_of_isPlain hmedia hcontent hheader
  have hfound := RpcRegistry.get?_echo hname
  exact ⟨call, _, sent, response, hshares, answered_of_delivers hreaches hdelivers hdispatch, htype,
    hshape, hrequest, ⟨bound, url, hget, hresolve⟩, hfound,
    HttpDispatcher.prepare_of_decode hverb hsize
      (HttpDispatcher.media?_of_contentType? hstated hsupports) hfound hdecode⟩

end Call

end HttpRpc
