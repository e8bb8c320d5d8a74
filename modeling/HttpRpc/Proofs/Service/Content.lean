import HttpRpc.Proofs.Codec.Default
import HttpRpc.Proofs.Codec.Negotiation
import HttpRpc.Proofs.Media.Accept
import HttpRpc.Proofs.Service.Decision

/-!
# What responses are made of

The body of every response is written by one codec, and the response states the media type that this
codec is labelled with. A result is written by the codec that is chosen for it, or it is not given
(`negotiation_decided`). An error is written by the codec that is chosen for payloads, or else as
JSON, which never fails (`refusal_expressed`).
-/

namespace HttpRpc

/-- The response states the media type as that of its body. -/
def Response.States (response : Response) (media : MediaType) : Prop :=
  ∃ value, HeaderValue.ofString? media.render = some value ∧
    response.headers.get? Headers.contentType = some value

/-- The status of an error is not that of a result. -/
theorem DispatchError.status_ne_ok (e : DispatchError) : e.status ≠ .ok := by
  cases e with
  | service method cause =>
      show cause.kind.status ≠ .ok
      cases cause.kind <;> decide
  | _ => simp [status, Status.ok]

namespace HttpDispatcher

variable {dispatcher : HttpDispatcher} {request : Request} {headers : Headers}
  {codecs : CodecRegistry} {accepted : List MediaType} {value : Json} {media : MediaType}
  {body : Body}

/-! ## Accepted media types -/

/-- The media types of a list are tokens. -/
theorem hasTokens_of_mem_parseAccept {text : String} (h : media ∈ MediaType.parseAccept text) :
    media.HasTokens := by
  rcases MediaType.mem_parseAccept h with rfl | ⟨hlisted, -⟩
  · exact MediaType.hasTokens_any
  · exact MediaType.hasTokens_of_mem_listed hlisted

/-- A media type that a request states is of tokens. -/
theorem hasTokens_of_contentType? (h : contentType? headers = some (.ok media)) :
    media.HasTokens := by
  obtain ⟨value, -, hvalue⟩ := Option.map_eq_some_iff.1 h
  split at hvalue
  · next text _ =>
      unfold MediaType.parse at hvalue
      split at hvalue
      · next found hfound =>
          cases hvalue
          exact MediaType.hasTokens_of_parse? hfound
      · cases hvalue
  · cases hvalue

/-- The media types that a caller accepts are of tokens. -/
theorem hasTokens_of_mem_acceptedTypes (h : media ∈ acceptedTypes headers) : media.HasTokens := by
  unfold acceptedTypes at h
  split at h
  · exact hasTokens_of_mem_parseAccept h
  · split at h
    · next stated hstated =>
        rw [List.mem_singleton.1 h]
        exact (hasTokens_of_contentType? hstated).withoutParams
    · rw [List.mem_singleton.1 h]
      exact MediaType.hasTokens_any

/-! ## Stating a media type -/

/-- A response states its media type, if that may be the value of a header. -/
theorem states_respond (h : media.IsStated) (vector : RequestVector) (status : Status)
    (body : Body) : (respond vector status media body).States media := by
  obtain ⟨value, hvalue⟩ := h
  exact ⟨value, hvalue, get?_setText_self _ hvalue⟩

/-- The body of the response to an error is its payload. -/
theorem body_errorResponse (dispatcher : HttpDispatcher) (vector : RequestVector)
    (accepted : List MediaType) (e : DispatchError) :
    (dispatcher.errorResponse vector accepted e).body =
      (encodePayload dispatcher.codecs e.toPayload accepted).2 := by
  unfold errorResponse
  cases e with
  | _ => rfl

/-- A response to an error has the body and states the media type that its payload is encoded
with. -/
theorem errorResponse_eq {payload : MediaType × Body} {e : DispatchError}
    (hpayload : encodePayload dispatcher.codecs e.toPayload accepted = payload)
    (hstated : payload.1.IsStated) (vector : RequestVector) :
    (dispatcher.errorResponse vector accepted e).body = payload.2 ∧
      (dispatcher.errorResponse vector accepted e).States payload.1 := by
  have hstates := states_respond hstated vector e.status payload.2
  unfold errorResponse
  rw [hpayload]
  cases e with
  | methodNotAllowed verb =>
      obtain ⟨value, hvalue, hheader⟩ := hstates
      exact ⟨rfl, value, hvalue, by rw [get?_setText_of_ne _ (by decide)]; exact hheader⟩
  | _ => exact ⟨rfl, hstates⟩

/-! ## Results and errors -/

/-- What is answered is the output of the method, encoded for the caller. -/
theorem exists_encode_of_handle {context : Option RequestVector} {world : World}
    (h : (dispatcher.handle request context world).1 = .ok (media, body)) :
    ∃ method output, dispatcher.method? request = some method ∧
      dispatcher.encode method (acceptedTypes request.headers) output = .ok (media, body) := by
  unfold handle at h
  rcases prepare_decided dispatcher request with
    ⟨-, e, -, hprepare, -⟩ | ⟨-, method, input, hmethod, -, hprepare⟩
  · rw [hprepare] at h
    cases h
  · rw [hprepare] at h
    rcases hinvoke : invoke method input context world with ⟨result, after⟩
    simp only at h
    rw [Run.bind_of_eq hinvoke] at h
    cases result with
    | error e => cases h
    | ok output => exact ⟨method, output, hmethod, h⟩

/-- The body of an answer is written by the codec that is negotiated for the output. -/
theorem exists_negotiate_of_encode {method : RpcMethod} {output : Json}
    (h : dispatcher.encode method accepted output = .ok (media, body)) :
    ∃ codec, dispatcher.codecs.negotiate method.outputType accepted = .ok (codec, media) ∧
      codec.write output = .ok body := by
  unfold encode at h
  split at h
  · cases h
  · next codec label hnegotiate =>
      split at h
      · next written hwrite =>
          cases h
          exact ⟨codec, hnegotiate, hwrite⟩
      · cases h

/-- A response is made of a result or tells of an error. -/
theorem dispatch_cases (dispatcher : HttpDispatcher) (request : Request)
    (context : Option RequestVector) (world : World) :
    (∃ media body, (dispatcher.handle request (some (vectorOf request world))
        (entered request world)).1 = .ok (media, body) ∧
      (dispatcher.dispatch request context world).1 =
        respond (vectorOf request world) .ok media body) ∨
    ∃ e, (dispatcher.handle request (some (vectorOf request world))
        (entered request world)).1 = .error e ∧
      (dispatcher.dispatch request context world).1 =
        dispatcher.errorResponse (vectorOf request world) (acceptedTypes request.headers) e := by
  rcases hhandle : dispatcher.handle request (some (vectorOf request world))
    (entered request world) with ⟨answer, after⟩
  rw [dispatch_of_handle context hhandle]
  cases answer with
  | ok found => exact .inl ⟨found.1, found.2, rfl, rfl⟩
  | error e => exact .inr ⟨e, rfl, rfl⟩

/-- A writer is negotiated exactly where some codec writes the type as an accepted media type, and
it is the first one for the first such media type, under a truthful label. So the response with a
result states the media type of the codec that wrote its body. -/
theorem negotiation_decided (hcodecs : ∀ codec ∈ codecs.codecs, codec.IsOrdinary) :
    (∀ typeName accepted,
      (codecs.HasNoWriter typeName accepted ∧ codecs.negotiate typeName accepted =
        .error (.noWriter typeName (MediaType.renderList accepted))) ∨
      ∃ entry codec label, codecs.Chooses typeName accepted entry codec ∧
        codec.Labels entry label ∧ codecs.negotiate typeName accepted = .ok (codec, label)) ∧
    ∀ dispatcher : HttpDispatcher, dispatcher.codecs = codecs →
      ∀ request context world, (dispatcher.dispatch request context world).1.status = .ok →
        ∃ method entry codec label output, dispatcher.method? request = some method ∧
          codecs.Chooses method.outputType (acceptedTypes request.headers) entry codec ∧
          codec.Labels entry label ∧
          codec.write output = .ok (dispatcher.dispatch request context world).1.body ∧
          (dispatcher.dispatch request context world).1.States label := by
  have hlabels {typeName : String} {accepted : List MediaType} {entry : MediaType} {codec : Codec}
      (h : codecs.Chooses typeName accepted entry codec) :
      codec.Labels entry (CodecRegistry.label codec entry) :=
    (hcodecs codec h.codec_mem).labels h.writes
  refine ⟨fun typeName accepted => ?_, fun dispatcher hdispatcher request context world hok => ?_⟩
  · rcases codecs.negotiate_cases typeName accepted with
      hnone | ⟨entry, codec, hchosen, hnegotiate⟩
    · exact .inl hnone
    · exact .inr ⟨entry, codec, _, hchosen, hlabels hchosen, hnegotiate⟩
  · rcases dispatch_cases dispatcher request context world with
      ⟨media, body, hhandle, hresponse⟩ | ⟨e, -, hresponse⟩
    · obtain ⟨method, output, hmethod, hencode⟩ := exists_encode_of_handle hhandle
      obtain ⟨codec, hnegotiate, hwrite⟩ := exists_negotiate_of_encode hencode
      rw [hdispatcher] at hnegotiate
      obtain ⟨entry, hchosen, rfl⟩ := CodecRegistry.exists_chooses_of_negotiate hnegotiate
      have hstated := Codec.isStated_label (hcodecs codec hchosen.codec_mem).isStated
        (hasTokens_of_mem_acceptedTypes hchosen.entry_mem)
      rw [hresponse]
      exact ⟨method, entry, codec, _, output, hmethod, hchosen, hlabels hchosen, hwrite,
        states_respond hstated ..⟩
    · rw [hresponse] at hok
      have hstatus := (errorResponse_tells dispatcher (vectorOf request world)
        (acceptedTypes request.headers) e).1
      exact absurd (hstatus.symm.trans hok) e.status_ne_ok

/-- A caller that sends JSON and lists nothing is answered in JSON, though plain text comes
first. -/
theorem negotiation_decided_echo :
    let echo : RpcMethod := ⟨"echo", 1, "T", "T", some fun input => return .value input⟩
    let request : Request := ⟨.post, ⟨"/echo", none⟩, ⟨[(Headers.contentType,
      [⟨Text.Utf8.encodeString "application/json; charset=utf-8"⟩])]⟩, []⟩
    let codecs : CodecRegistry := ⟨[.text, .json false]⟩
    let response := (HttpDispatcher.dispatch ⟨⟨[echo]⟩, codecs, .default⟩ request none .initial).1
    (∀ codec ∈ codecs.codecs, codec.IsOrdinary) ∧ response.status = .ok ∧
      ∃ codec ∈ codecs.codecs, ∃ entry label output, codec.Labels entry label ∧
        codec.write output = .ok response.body ∧ response.States label := by
  intro echo request codecs response
  have hordinary : ∀ codec ∈ codecs.codecs, codec.IsOrdinary :=
    List.forall_mem_cons.2 ⟨Codec.isOrdinary_text,
      List.forall_mem_singleton.2 (Codec.isOrdinary_json false)⟩
  have hok : response.status = .ok := by decide +kernel
  obtain ⟨method, entry, codec, label, output, -, hchosen, hlabels, hwrite, hstates⟩ :=
    (negotiation_decided hordinary).2 ⟨⟨[echo]⟩, codecs, .default⟩ rfl request none .initial hok
  exact ⟨hordinary, hok, codec, hchosen.codec_mem, entry, label, output, hlabels, hwrite, hstates⟩

/-! ## Payloads -/

/-- What a value becomes as a payload: what the codec negotiated for payloads writes, or else its
compact text as JSON. -/
inductive Expresses (codecs : CodecRegistry) (value : Json) (accepted : List MediaType) :
    MediaType → Body → Prop where
  | negotiated {codec : Codec} {media : MediaType} {body : Body}
      (hnegotiate : codecs.negotiate ErrorPayload.typeName accepted = .ok (codec, media))
      (hwrite : codec.write value = .ok body) : Expresses codecs value accepted media body
  | otherwise {body : Body}
      (hfailed : ∀ codec media,
        codecs.negotiate ErrorPayload.typeName accepted = .ok (codec, media) →
          ∃ e, codec.write value = .error e)
      (hwrite : (Codec.json false).write value = .ok body) :
      Expresses codecs value accepted .json body

/-- A payload is expressed as it should be. -/
theorem expresses_encodePayload (codecs : CodecRegistry) (payload : ErrorPayload)
    (accepted : List MediaType) :
    Expresses codecs payload.toJson accepted (encodePayload codecs payload accepted).1
      (encodePayload codecs payload accepted).2 := by
  unfold encodePayload
  cases hnegotiate : codecs.negotiate ErrorPayload.typeName accepted with
  | error e =>
      refine .otherwise (fun codec media h => ?_) rfl
      rw [hnegotiate] at h
      cases h
  | ok found =>
      obtain ⟨codec, media⟩ := found
      simp only
      cases hwrite : codec.write payload.toJson with
      | ok body => exact .negotiated hnegotiate hwrite
      | error e =>
          refine .otherwise (fun other label h => ?_) rfl
          rw [hnegotiate] at h
          cases h
          exact ⟨e, hwrite⟩

/-- The media type that a value is expressed in may be the value of a header. -/
theorem Expresses.isStated (h : Expresses codecs value accepted media body)
    (hcodecs : ∀ codec ∈ codecs.codecs, codec.mediaType.IsStated)
    (haccepted : ∀ entry ∈ accepted, entry.HasTokens) : media.IsStated := by
  cases h with
  | negotiated hnegotiate hwrite =>
      obtain ⟨entry, hchosen, rfl⟩ := CodecRegistry.exists_chooses_of_negotiate hnegotiate
      exact Codec.isStated_label (hcodecs _ hchosen.codec_mem) (haccepted _ hchosen.entry_mem)
  | otherwise hfailed hwrite => exact ⟨_, MediaType.ofString?_json⟩

/-! ## Built-in codecs -/

/-- The codecs of JSON, compact or not, and of plain texts. -/
inductive BuiltIn : Codec → Prop where
  | json (pretty : Bool) : BuiltIn (.json pretty)
  | text : BuiltIn .text

/-- The codec of JSON is labelled as JSON whatever it writes. -/
theorem label_json {pretty : Bool} {entry : MediaType}
    (h : MediaType.json.accepts entry = true) :
    CodecRegistry.label (.json pretty) entry = .json := by
  have hwrites : (Codec.json pretty).canWrite ErrorPayload.typeName entry = true := h
  exact (Codec.isOrdinary_json pretty).label_eq rfl hwrites

/-- Of the built-in codecs only those of JSON write payloads. -/
theorem BuiltIn.eq_json {codec : Codec} (h : BuiltIn codec) {entry : MediaType}
    (hwrites : codec.canWrite ErrorPayload.typeName entry = true) :
    ∃ pretty, codec = .json pretty ∧ CodecRegistry.label codec entry = .json := by
  cases h with
  | json pretty => exact ⟨pretty, rfl, label_json hwrites⟩
  | text =>
      have hserves : (Codec.stringTypes.contains ErrorPayload.typeName ||
          Codec.scalarTypes.contains ErrorPayload.typeName) = false := by
        decide
      have hnever : Codec.text.canWrite ErrorPayload.typeName entry = false := by
        show (_ && _) = false
        rw [hserves, Bool.and_false]
      rw [hnever] at hwrites
      cases hwrites

/-- The built-in codecs express payloads in JSON. -/
theorem Expresses.eq_json (h : Expresses codecs value accepted media body)
    (hcodecs : ∀ codec ∈ codecs.codecs, BuiltIn codec) :
    media = .json ∧ ∃ pretty, (pretty = true → .json true ∈ codecs.codecs) ∧
      body = Text.Utf8.encodeString (if pretty then value.pretty else value.compact) := by
  cases h with
  | negotiated hnegotiate hwrite =>
      obtain ⟨entry, hchosen, rfl⟩ := CodecRegistry.exists_chooses_of_negotiate hnegotiate
      obtain ⟨pretty, rfl, hlabel⟩ := (hcodecs _ hchosen.codec_mem).eq_json hchosen.writes
      refine ⟨hlabel, pretty, fun hpretty => ?_, (Except.ok.inj hwrite).symm⟩
      rw [← hpretty]
      exact hchosen.codec_mem
  | otherwise hfailed hwrite => exact ⟨rfl, false, nofun, (Except.ok.inj hwrite).symm⟩

/-! ## Refusals -/

/-- The response tells of the error: it has its status, and its body expresses its payload in the
media type that it states. With the built-in codecs that is JSON. -/
structure Conveys (dispatcher : HttpDispatcher) (accepted : List MediaType) (e : DispatchError)
    (response : Response) : Prop where
  status_eq : response.status = e.status
  expresses : ∃ media, Expresses dispatcher.codecs e.toPayload.toJson accepted media response.body ∧
    response.States media
  json : (∀ codec ∈ dispatcher.codecs.codecs, BuiltIn codec) →
    response.States .json ∧ ∃ pretty, (pretty = true → .json true ∈ dispatcher.codecs.codecs) ∧
      response.body = Text.Utf8.encodeString
        (if pretty then e.toPayload.toJson.pretty else e.toPayload.toJson.compact)

/-- The response to an error tells of it. -/
theorem conveys_errorResponse
    (hcodecs : ∀ codec ∈ dispatcher.codecs.codecs, codec.mediaType.IsStated)
    (haccepted : ∀ entry ∈ accepted, entry.HasTokens) (vector : RequestVector)
    (e : DispatchError) :
    dispatcher.Conveys accepted e (dispatcher.errorResponse vector accepted e) := by
  have hexpresses := expresses_encodePayload dispatcher.codecs e.toPayload accepted
  obtain ⟨hbody, hstates⟩ :=
    errorResponse_eq rfl (hexpresses.isStated hcodecs haccepted) vector
  rw [← hbody] at hexpresses
  refine ⟨(errorResponse_tells dispatcher vector accepted e).1, ⟨_, hexpresses, hstates⟩,
    fun hbuiltIn => ?_⟩
  obtain ⟨hjson, hwritten⟩ := hexpresses.eq_json hbuiltIn
  rw [hjson] at hstates
  exact ⟨hstates, hwritten⟩

/-- A response other than that of a result tells of the error that the request was handled with, and
so does the response to a request whose body could not be read. -/
theorem refusal_expressed
    (hcodecs : ∀ codec ∈ dispatcher.codecs.codecs, codec.mediaType.IsStated) :
    (∀ request context world, (dispatcher.dispatch request context world).1.status ≠ .ok →
      ∃ e, (dispatcher.handle request (some (vectorOf request world))
          (entered request world)).1 = .error e ∧
        dispatcher.Conveys (acceptedTypes request.headers) e
          (dispatcher.dispatch request context world).1) ∧
    ∀ headers e context world, dispatcher.Conveys (acceptedTypes headers) e
      (dispatcher.reject headers e context world).1 := by
  have hconveys (headers : Headers) (vector : RequestVector) (e : DispatchError) :
      dispatcher.Conveys (acceptedTypes headers) e
        (dispatcher.errorResponse vector (acceptedTypes headers) e) :=
    conveys_errorResponse hcodecs (fun _ => hasTokens_of_mem_acceptedTypes) vector e
  refine ⟨fun request context world hstatus => ?_, fun headers e context world => ?_⟩
  · rcases dispatch_cases dispatcher request context world with
      ⟨media, body, -, hresponse⟩ | ⟨e, hhandle, hresponse⟩
    · rw [hresponse] at hstatus
      exact absurd rfl hstatus
    · rw [hresponse]
      exact ⟨e, hhandle, hconveys request.headers _ e⟩
  · exact hconveys headers _ e

/-- A request with another verb is refused in JSON, though plain text comes first and the caller
accepts nothing else. -/
theorem refusal_expressed_get :
    let dispatcher : HttpDispatcher := ⟨⟨[]⟩, ⟨[.text, .json true]⟩, .default⟩
    let request : Request := ⟨.get, ⟨"/", none⟩,
      ⟨[(Headers.accept, [⟨Text.Utf8.encodeString "text/plain"⟩])]⟩, []⟩
    let response := (dispatcher.dispatch request none .initial).1
    let payload := (DispatchError.methodNotAllowed .get).toPayload.toJson
    (∀ codec ∈ dispatcher.codecs.codecs, codec.mediaType.IsStated) ∧ response.status ≠ .ok ∧
      response.States .json ∧ ∃ pretty : Bool, response.body =
        Text.Utf8.encodeString (if pretty then payload.pretty else payload.compact) := by
  intro dispatcher request response payload
  have hcodecs : ∀ codec ∈ dispatcher.codecs.codecs, codec.mediaType.IsStated ∧ BuiltIn codec :=
    List.forall_mem_cons.2 ⟨⟨Codec.isOrdinary_text.isStated, .text⟩,
      List.forall_mem_singleton.2 ⟨(Codec.isOrdinary_json true).isStated, .json true⟩⟩
  have hstated : ∀ codec ∈ dispatcher.codecs.codecs, codec.mediaType.IsStated :=
    fun codec hcodec => (hcodecs codec hcodec).1
  have hrefused : response.status ≠ .ok := by decide
  obtain ⟨e, hhandle, hconveys⟩ := (refusal_expressed hstated).1 request none .initial hrefused
  have hverb : (dispatcher.handle request (some (vectorOf request .initial))
      (entered request .initial)).1 = .error (.methodNotAllowed .get) := rfl
  cases hverb.symm.trans hhandle
  obtain ⟨hstates, pretty, -, hbody⟩ := hconveys.json fun codec hcodec => (hcodecs codec hcodec).2
  exact ⟨hstated, hrefused, hstates, pretty, hbody⟩

end HttpDispatcher

end HttpRpc
