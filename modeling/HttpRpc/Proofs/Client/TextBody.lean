import HttpRpc.Proofs.Client.Answer

/-!
# Texts as bodies

A client and a server with the same built-in codecs, among them the one of plain texts. A text that
is sent as a plain text is what the other side reads, unless it is empty: an empty body counts as
null on both sides, and the codec is not asked (`text_delivered`).
-/

namespace HttpRpc

open HttpDispatcher (BuiltIn)

/-! ## Texts as octets -/

/-- Only the empty text has no octets. -/
theorem Text.Utf8.encodeString_eq_nil_iff {text : String} : encodeString text = [] ↔ text = "" := by
  refine ⟨fun h => ?_, fun h => by rw [h]; rfl⟩
  have hdecode := decode?_encodeString text
  rw [h] at hdecode
  exact String.toList_inj.1 (Option.some.inj hdecode).symm

/-- The codec of plain texts reads the text that it wrote. -/
theorem Codec.read_text_encodeString (text : String) :
    Codec.text.read (Text.Utf8.encodeString text) = .ok (.string text) := by
  have hdecode : Text.Utf8.decodeString? (Text.Utf8.encodeString text) = some text := by
    rw [Text.Utf8.decodeString?, Text.Utf8.decode?_encodeString, Option.map_some,
      String.ofList_toList]
  simp only [Codec.text, hdecode]

section

variable {codecs : CodecRegistry} (hcodecs : ∀ codec ∈ codecs.codecs, BuiltIn codec)
  (htext : .text ∈ codecs.codecs)

include hcodecs htext

/-! ## Arguments -/

/-- A server reads a plain text as the text, and the empty one as null. -/
theorem HttpDispatcher.decode_plainText {dispatcher : HttpDispatcher}
    (hserver : dispatcher.codecs = codecs) {method : RpcMethod}
    (htype : method.inputType ∈ Codec.stringTypes) (text : String) :
    dispatcher.decode method .plainText (Text.Utf8.encodeString text) =
      .ok (if text = "" then .null else .string text) := by
  have hreader : dispatcher.codecs.readerFor? method.inputType .plainText = some .text := by
    rw [hserver]
    exact CodecRegistry.readerFor?_plainText hcodecs htext htype
  split
  · next hempty =>
      rw [Text.Utf8.encodeString_eq_nil_iff.2 hempty]
      exact decode_of_empty hreader
  · next hne =>
      have hbody : (Text.Utf8.encodeString text).isEmpty = false :=
        List.isEmpty_eq_false_iff.2 fun h => hne (Text.Utf8.encodeString_eq_nil_iff.1 h)
      exact decode_of_read hreader hbody (Codec.read_text_encodeString text)

/-! ## Results -/

/-- A client reads a plain text as the text, and the empty one as null, which is no text. -/
theorem ClientProxy.interpret_plainText {factory : ClientFactory} {response : Response}
    {typeName text : String} (hclient : factory.codecs = codecs)
    (htype : typeName ∈ Codec.stringTypes) (hstatus : response.status.isSuccess = true)
    (hmedia : responseMediaType factory response = .ok .plainText)
    (hbody : response.body = Text.Utf8.encodeString text) :
    interpret factory typeName .text response =
      if text = "" then .error (.deserialization (.json "value of another shape"))
      else .ok (.string text) := by
  split
  · next hempty =>
      rw [hempty] at hbody
      rw [interpret_of_decode_ok hstatus (decode_of_empty hbody typeName)]
      rfl
  · next hne =>
      have hnonempty : response.body ≠ [] := fun h =>
        hne (Text.Utf8.encodeString_eq_nil_iff.1 (hbody.symm.trans h))
      have hreader : factory.codecs.readerFor? typeName .plainText = some .text := by
        rw [hclient]
        exact CodecRegistry.readerFor?_plainText hcodecs htext htype
      have hdecode := decode_of_reader_some hnonempty hmedia hreader
      rw [hbody, Codec.read_text_encodeString] at hdecode
      rw [interpret_of_decode_ok hstatus hdecode]
      rfl

omit htext in
/-- What is written as plain text for a text is the text. -/
theorem HttpDispatcher.body_of_encode_plainText {dispatcher : HttpDispatcher}
    (hserver : dispatcher.codecs = codecs) {method : RpcMethod} {accepted : List MediaType}
    {text : String} {body : Body}
    (h : dispatcher.encode method accepted (.string text) = .ok (.plainText, body)) :
    body = Text.Utf8.encodeString text := by
  obtain ⟨codec, hnegotiate, hwrite⟩ := exists_negotiate_of_encode h
  rw [hserver] at hnegotiate
  obtain ⟨entry, hchosen, hlabel⟩ := CodecRegistry.exists_chooses_of_negotiate hnegotiate
  have hcodec := hcodecs codec hchosen.codec_mem
  rw [hcodec.label_eq hchosen.writes] at hlabel
  have htext : codec = .text := by
    refine hcodec.eq_text ?_
    rw [← hlabel]
    exact MediaType.accepts_self .plainText
  rw [htext] at hwrite
  exact (Except.ok.inj hwrite).symm

end

/-! ## Both ways -/

/-- A text that is an argument of a client that sends plain texts is the input that a server with
the same codecs decodes, and a text that such a server answers with as a plain text is the result of
the call, each unless the text is empty: then the input is null, and the call fails. -/
theorem text_delivered {codecs : CodecRegistry} (hcodecs : ∀ codec ∈ codecs.codecs, BuiltIn codec)
    (htext : .text ∈ codecs.codecs) (text : String) :
    (∀ (call : Call) (dispatcher : HttpDispatcher) (bound : BoundMethod) (url : Url),
      call.Shares dispatcher codecs → call.proxy.factory.requestMediaType = .plainText →
      call.proxy.routes.get? call.method = some bound →
      bound.resolve call.args = .ok (url, some (.string text)) →
      ∀ context world, ∃ request sent, call.request context world = (.ok request, sent) ∧
        ∀ received, request.toRequest = .ok received →
          dispatcher.media? received = some .plainText ∧
          ∀ method : RpcMethod, method.inputType ∈ Codec.stringTypes →
            dispatcher.decode method .plainText received.body =
              .ok (if text = "" then .null else .string text)) ∧
    ∀ (call : Call) (dispatcher : HttpDispatcher) (context : Option RequestVector)
      (world there after : World) (received : Request) (response : Response) (method : RpcMethod)
      (input : Json) (invoker : Invoker) (body : Body),
      call.Shares dispatcher codecs → call.typeName ∈ Codec.stringTypes → call.shape = .text →
      call.Answered dispatcher context world received there response →
      dispatcher.prepare received = .ok (method, input) → method.invoker = some invoker →
      invoker input (some (HttpDispatcher.vectorOf received there))
        (HttpDispatcher.entered received there) = (.value (.string text), after) →
      dispatcher.encode method (HttpDispatcher.acceptedTypes received.headers) (.string text) =
        .ok (.plainText, body) →
      (call.run context world).1 =
        if text = "" then .error (.deserialization (.json "value of another shape"))
        else .ok (.string text) := by
  constructor
  · intro call dispatcher bound url hshares hrequest hget hresolve context world
    obtain ⟨hclient, hcontent, -⟩ := hshares.factory_eq
    have htype : ClientProxy.valueTypeName (.string text) ∈ Codec.stringTypes :=
      (by decide : "alloc::string::String" ∈ Codec.stringTypes)
    have hwriter : call.proxy.factory.codecs.writerFor? (ClientProxy.valueTypeName (.string text))
        call.proxy.factory.requestMediaType = some .text := by
      rw [hclient, hrequest]
      exact CodecRegistry.writerFor?_plainText hcodecs htext htype
    obtain ⟨headers, sent, hsent, hheader, -⟩ :=
      Call.request_of_resolve hget hresolve hwriter rfl context world
    refine ⟨_, sent, hsent, fun received hreceived => ?_⟩
    obtain ⟨target, rfl⟩ := ExchangeRequest.exists_of_toRequest hreceived
    have hsupports : dispatcher.codecs.supports .plainText = true := by
      rw [hshares.server]
      exact List.any_eq_true.2 ⟨_, htext, MediaType.accepts_self .plainText⟩
    rw [hrequest] at hcontent
    have hstated :=
      HttpDispatcher.contentType?_of_isPlain MediaType.isPlain_plainText hcontent hheader
    exact ⟨HttpDispatcher.media?_of_contentType? hstated hsupports,
      fun method hinput => HttpDispatcher.decode_plainText hcodecs htext hshares.server hinput text⟩
  · intro call dispatcher context world there after received response method input invoker body
      hshares htype hshape hanswered hprepare hinvoker hrun hencode
    have hresponse := hanswered.response_eq hprepare hinvoker hrun
    have hanswer : dispatcher.answer received method (.value (.string text)) =
        .ok (.plainText, body) := hencode
    rw [hanswer] at hresponse
    rw [hanswered.run_eq, Call.read, hshape, hresponse]
    exact ClientProxy.interpret_plainText hcodecs htext hshares.factory_eq.1 htype rfl
      (ClientProxy.responseMediaType_respond MediaType.isPlain_plainText ..)
      (HttpDispatcher.body_of_encode_plainText hcodecs hshares.server hencode)

/-- A text that is not empty comes back from a method that gives its input back. -/
theorem text_delivered_echo :
    let codecs : CodecRegistry := ⟨[.text]⟩
    let echo : RpcMethod := ⟨"echo", 1, "alloc::string::String", "alloc::string::String",
      some fun input => return .value input⟩
    let dispatcher : HttpDispatcher := ⟨⟨[echo]⟩, codecs, .default⟩
    let world : World := { World.initial with links := [⟨0, false⟩] }
    (∀ codec ∈ codecs.codecs, BuiltIn codec) ∧ .text ∈ codecs.codecs ∧
      ∃ (call : Call) (bound : BoundMethod) (url : Url) (request : ExchangeRequest) (sent : World)
        (received : Request),
        call.Shares dispatcher codecs ∧ call.proxy.factory.requestMediaType = .plainText ∧
        call.proxy.routes.get? call.method = some bound ∧
        bound.resolve call.args = .ok (url, some (.string "a")) ∧
        call.request none world = (.ok request, sent) ∧ request.toRequest = .ok received ∧
        dispatcher.decode echo .plainText received.body = .ok (.string "a") ∧
        (call.run none world).1 = .ok (.string "a") := by
  intro codecs echo dispatcher world
  have hcodecs : ∀ codec ∈ codecs.codecs, BuiltIn codec := List.forall_mem_singleton.2 .text
  have htext : .text ∈ codecs.codecs := List.mem_singleton_self _
  have hplain : ∀ codec ∈ codecs.codecs, codec.mediaType.IsPlain :=
    fun codec hcodec => (hcodecs codec hcodec).isPlain
  have hstring : "alloc::string::String" ∈ Codec.stringTypes := by decide
  have hdecode : dispatcher.decode echo .plainText (Text.Utf8.encodeString "a") =
      .ok (.string "a") :=
    (HttpDispatcher.decode_plainText hcodecs htext rfl hstring "a").trans
      (congrArg Except.ok (if_neg (by decide)))
  obtain ⟨call, received, there, response, hshares, hanswered, htype, hshape, hrequest,
    ⟨bound, url, hget, hresolve⟩, -, hprepare⟩ :=
    Call.exists_answered codecs echo (.string "a") rfl MediaType.isPlain_plainText hplain
      (by decide +kernel) rfl (CodecRegistry.writerFor?_plainText hcodecs htext hstring) rfl
      (by decide) hdecode (rfl : world.IsOpen 0) "alloc::string::String" .text
  have hencode : dispatcher.encode echo (HttpDispatcher.acceptedTypes received.headers)
      (.string "a") = .ok (.plainText, Text.Utf8.encodeString "a") := by
    have hnegotiate : dispatcher.codecs.negotiate echo.outputType
        (HttpDispatcher.acceptedTypes received.headers) = .ok (.text, .plainText) := by
      rw [hanswered.acceptedTypes_eq hplain hshares]
      exact CodecRegistry.negotiate_acceptHeader_of_head hcodecs rfl (by decide +kernel)
    rw [HttpDispatcher.encode, hnegotiate]
    rfl
  obtain ⟨harguments, hresults⟩ := text_delivered hcodecs htext "a"
  obtain ⟨request, sent, hsent, hread⟩ :=
    harguments call dispatcher bound url hshares hrequest hget hresolve none world
  obtain ⟨other, left, hother, hreceived, -⟩ := hanswered.exchanged
  cases hsent.symm.trans hother
  have hne : ¬ "a" = "" := by decide
  have hinput := (hread received hreceived).2 echo hstring
  rw [if_neg hne] at hinput
  have hrun := hresults call dispatcher none world there _ received response echo _ _ _ hshares
    (htype ▸ hstring) hshape hanswered hprepare rfl rfl hencode
  rw [if_neg hne] at hrun
  exact ⟨hcodecs, htext, call, bound, url, request, sent, received, hshares, hrequest, hget,
    hresolve, hsent, hreceived, hinput, hrun⟩

/-- The empty text as an argument is the input null. -/
theorem empty_text_lost :
    let echo : RpcMethod := ⟨"echo", 1, "alloc::string::String", "alloc::string::String",
      some fun input => return .value input⟩
    let dispatcher : HttpDispatcher := .new ⟨[echo]⟩
    let world : World := { World.initial with links := [⟨0, false⟩] }
    ∃ (call : Call) (bound : BoundMethod) (url : Url) (received : Request) (there : World)
      (response : Response), call.Shares dispatcher .default ∧
      call.proxy.factory.requestMediaType = .plainText ∧
      call.proxy.routes.get? call.method = some bound ∧
      bound.resolve call.args = .ok (url, some (.string "")) ∧
      call.Answered dispatcher none world received there response ∧
      dispatcher.prepare received = .ok (echo, .null) := by
  intro echo dispatcher world
  have hcodecs : ∀ codec ∈ CodecRegistry.default.codecs, BuiltIn codec :=
    List.forall_mem_cons.2 ⟨.json false, List.forall_mem_singleton.2 .text⟩
  have htext : .text ∈ CodecRegistry.default.codecs := List.mem_cons_of_mem _ List.mem_cons_self
  have hstring : "alloc::string::String" ∈ Codec.stringTypes := by decide
  obtain ⟨call, received, there, response, hshares, hanswered, -, -, hrequest,
    ⟨bound, url, hget, hresolve⟩, -, hprepare⟩ :=
    Call.exists_answered .default echo (.string "") rfl MediaType.isPlain_plainText
      (fun codec hcodec => (hcodecs codec hcodec).isPlain) (by decide +kernel) rfl
      (CodecRegistry.writerFor?_plainText hcodecs htext hstring) rfl (by decide)
      (HttpDispatcher.decode_plainText hcodecs htext rfl hstring "")
      (rfl : world.IsOpen 0) "alloc::string::String" .text
  exact ⟨call, bound, url, received, there, response, hshares, hrequest, hget, hresolve, hanswered,
    hprepare⟩

end HttpRpc
