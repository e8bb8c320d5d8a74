import HttpRpc.Proofs.Service.Content
import HttpRpc.Service.Streamed

/-!
# Requests in pieces and whole requests

A request that arrives in pieces should be answered like the request with its whole body. A body
within the limit is put together and dispatched, so nothing differs but what is sent besides
(`serve_of_fits`). A body beyond the limit is refused before the verb is looked at, which a whole
request is not: with any other verb than `POST` the two are refused for different reasons
(`serve_decided`).
-/

namespace HttpRpc

/-! ## Putting a body together -/

namespace StreamedRequest

/-- The request with its whole body. -/
def whole (request : StreamedRequest) : Request :=
  ⟨request.verb, request.target, request.headers, request.chunks.flatten⟩

/-- Pieces that can all be read are put together exactly when the whole is within the limit. -/
theorem collect_complete (left : Nat) (chunks : List Body) :
    collect left none chunks =
      if chunks.flatten.length ≤ left then .ok chunks.flatten else .error .tooLong := by
  induction chunks generalizing left with
  | nil => exact (if_pos (Nat.zero_le left)).symm
  | cons chunk rest ih =>
      rw [collect, ih, List.flatten_cons, List.length_append]
      by_cases hchunk : left < chunk.length
      · rw [if_pos hchunk, if_neg (by omega)]
      · rw [if_neg hchunk]
        by_cases hrest : rest.flatten.length ≤ left - chunk.length
        · rw [if_pos hrest, if_pos (by omega)]
          rfl
        · rw [if_neg hrest, if_neg (by omega)]
          rfl

end StreamedRequest

/-! ## Sending a response -/

namespace Response

variable (response : Response) (verb : Verb)

/-- The length of a body is stated beside the other headers. -/
theorem get?_withLength {name : String} (h : name ≠ Headers.contentLength) :
    response.withLength.headers.get? name = response.headers.get? name := by
  unfold withLength
  split
  · rfl
  · exact HttpDispatcher.get?_setText_of_ne _ h

/-- A response keeps its status. -/
theorem status_sentTo : (response.sentTo verb).status = response.status := by
  unfold sentTo withLength
  split <;> split <;> rfl

/-- A response keeps all headers but the length of its body. -/
theorem get?_sentTo {name : String} (h : name ≠ Headers.contentLength) :
    (response.sentTo verb).headers.get? name = response.headers.get? name := by
  rw [← response.get?_withLength h]
  unfold sentTo
  split <;> rfl

/-- A response is sent with its body, but to `HEAD`. -/
theorem body_sentTo {verb : Verb} (h : verb ≠ .head) :
    (response.sentTo verb).body = response.body := by
  unfold sentTo
  rw [if_neg h]
  unfold withLength
  split <;> rfl

end Response

namespace HttpDispatcher

/-! ## What responses to errors state -/

/-- A response states the media type of its body, if that may be the value of a header. -/
theorem contentType_respond (vector : RequestVector) (status : Status) (media : MediaType)
    (body : Body) : (respond vector status media body).headers.get? Headers.contentType =
      HeaderValue.ofString? media.render := by
  unfold respond
  cases hvalue : HeaderValue.ofString? media.render with
  | some value => exact get?_setText_self _ hvalue
  | none =>
      simp only [setText, hvalue]
      exact get?_setText_of_ne _ (by decide)

/-- The header that states the media type of the payload of an error. -/
def refusalType? (dispatcher : HttpDispatcher) (headers : Headers) (e : DispatchError) :
    Option HeaderValue :=
  HeaderValue.ofString?
    (encodePayload dispatcher.codecs e.toPayload (acceptedTypes headers)).1.render

/-- The response to an error states the media type of its payload. -/
theorem contentType_errorResponse (dispatcher : HttpDispatcher) (vector : RequestVector)
    (headers : Headers) (e : DispatchError) :
    (dispatcher.errorResponse vector (acceptedTypes headers) e).headers.get? Headers.contentType =
      dispatcher.refusalType? headers e := by
  unfold errorResponse refusalType?
  obtain ⟨media, body⟩ := encodePayload dispatcher.codecs e.toPayload (acceptedTypes headers)
  cases e with
  | methodNotAllowed verb =>
      simp only
      rw [get?_setText_of_ne _ (by decide)]
      exact contentType_respond ..
  | _ => exact contentType_respond ..

/-! ## Two answers to one request -/

/-- Two responses to a request agree: they have the same status, state the same media type, allow
the same verbs, and their bodies are the same or payloads of errors with the same code. To `HEAD` no
body is sent. -/
structure Agree (dispatcher : HttpDispatcher) (request : Request) (routed direct : Response) :
    Prop where
  status_eq : routed.status = direct.status
  contentType_eq :
    routed.headers.get? Headers.contentType = direct.headers.get? Headers.contentType
  allow_eq : routed.headers.get? Headers.allow = direct.headers.get? Headers.allow
  code_eq : request.verb ≠ .head → routed.body = direct.body ∨
    ∃ payload other : ErrorPayload, payload.code = other.code ∧
      routed.body =
        (encodePayload dispatcher.codecs payload (acceptedTypes request.headers)).2 ∧
      direct.body = (encodePayload dispatcher.codecs other (acceptedTypes request.headers)).2

/-- A response agrees with itself as it is sent. -/
theorem agree_sentTo (dispatcher : HttpDispatcher) (request : Request) (response : Response) :
    dispatcher.Agree request (response.sentTo request.verb) response where
  status_eq := response.status_sentTo request.verb
  contentType_eq := response.get?_sentTo request.verb (by decide)
  allow_eq := response.get?_sentTo request.verb (by decide)
  code_eq hverb := .inl (response.body_sentTo hverb)

section

variable (dispatcher : HttpDispatcher) (request : StreamedRequest)

/-- The error that the whole request is too long for. -/
def wholeTooLarge : DispatchError :=
  .payloadTooLarge request.whole.body.length dispatcher.config.maxBodyBytes

/-- The error that the request is too long for as long as it is not put together. -/
def piecesTooLarge : DispatchError :=
  .payloadTooLarge
    (StreamedRequest.claimedSize request.headers dispatcher.config.maxBodyBytes)
    dispatcher.config.maxBodyBytes

variable {dispatcher request}

/-- A request with a body within the limit is dispatched as a whole. -/
theorem serve_of_fits (hread : request.failure = none)
    (hsize : request.whole.body.length ≤ dispatcher.config.maxBodyBytes)
    (context : Option RequestVector) (world : World) :
    dispatcher.serve request context world =
      ((dispatcher.dispatch request.whole context world).1.sentTo request.verb,
        (dispatcher.dispatch request.whole context world).2) := by
  have hcollect : StreamedRequest.collect dispatcher.config.maxBodyBytes none request.chunks =
      .ok request.whole.body :=
    (StreamedRequest.collect_complete ..).trans (if_pos hsize)
  unfold serve
  rw [hread, hcollect]
  rfl

/-- A request with a body beyond the limit is refused, whatever else is wrong with it. -/
theorem serve_of_tooLong (hread : request.failure = none)
    (hsize : dispatcher.config.maxBodyBytes < request.whole.body.length)
    (context : Option RequestVector) (world : World) :
    (dispatcher.serve request context world).1 =
      (dispatcher.errorResponse (vectorOf request.whole world) (acceptedTypes request.headers)
        (dispatcher.piecesTooLarge request)).sentTo request.verb := by
  have hcollect : StreamedRequest.collect dispatcher.config.maxBodyBytes none request.chunks =
      .error .tooLong :=
    (StreamedRequest.collect_complete ..).trans (if_neg (Nat.not_le.2 hsize))
  unfold serve
  rw [hread, hcollect]
  have hvector : (requestVector request.headers context world).1 = vectorOf request.whole world :=
    congrArg Prod.fst (requestVector_eq request.whole context world)
  rw [← hvector]
  rfl

/-- A whole request with a body beyond the limit is refused for its size, if its verb is the right
one. -/
theorem dispatch_of_tooLong (hverb : request.verb = .post)
    (hsize : dispatcher.config.maxBodyBytes < request.whole.body.length)
    (context : Option RequestVector) (world : World) :
    (dispatcher.dispatch request.whole context world).1 =
      dispatcher.errorResponse (vectorOf request.whole world) (acceptedTypes request.headers)
        (dispatcher.wholeTooLarge request) :=
  congrArg Prod.fst (dispatch_of_prepare_error (prepare_of_size hverb hsize) context world)

/-- A whole request with another verb is refused for that. -/
theorem dispatch_of_verb (hverb : request.verb ≠ .post) (context : Option RequestVector)
    (world : World) : (dispatcher.dispatch request.whole context world).1 =
      dispatcher.errorResponse (vectorOf request.whole world) (acceptedTypes request.headers)
        (.methodNotAllowed request.verb) :=
  congrArg Prod.fst (dispatch_of_prepare_error (prepare_of_verb hverb) context world)

/-- What is told of a request in pieces with a body beyond the limit: that it is too large, and
nothing of its verb. -/
theorem serve_tells (hread : request.failure = none)
    (hsize : dispatcher.config.maxBodyBytes < request.whole.body.length)
    (context : Option RequestVector) (world : World) :
    (dispatcher.serve request context world).1.status = ⟨413⟩ ∧
      (dispatcher.serve request context world).1.headers.get? Headers.allow = none ∧
      (dispatcher.serve request context world).1.headers.get? Headers.contentType =
        dispatcher.refusalType? request.headers (dispatcher.piecesTooLarge request) := by
  obtain ⟨hstatus, hallow⟩ := errorResponse_tells dispatcher (vectorOf request.whole world)
    (acceptedTypes request.headers) (dispatcher.piecesTooLarge request)
  rw [serve_of_tooLong hread hsize, Response.status_sentTo, Response.get?_sentTo _ _ (by decide),
    Response.get?_sentTo _ _ (by decide), contentType_errorResponse]
  exact ⟨hstatus, hallow, rfl⟩

/-- What is told of a whole request with another verb than `POST`. -/
theorem dispatch_tells (hverb : request.verb ≠ .post) (context : Option RequestVector)
    (world : World) :
    (dispatcher.dispatch request.whole context world).1.status = ⟨405⟩ ∧
      (dispatcher.dispatch request.whole context world).1.headers.get? Headers.allow =
        some postAllowed := by
  rw [dispatch_of_verb hverb]
  exact errorResponse_tells ..

/-- With `POST` both answers to too large a request tell that it is too large, and agree if they are
of one media type. -/
theorem agree_of_tooLong (hread : request.failure = none) (hverb : request.verb = .post)
    (hsize : dispatcher.config.maxBodyBytes < request.whole.body.length)
    (htypes : dispatcher.refusalType? request.headers (dispatcher.piecesTooLarge request) =
      dispatcher.refusalType? request.headers (dispatcher.wholeTooLarge request))
    (context : Option RequestVector) (world : World) :
    dispatcher.Agree request.whole (dispatcher.serve request context world).1
      (dispatcher.dispatch request.whole context world).1 := by
  obtain ⟨hstatus, hallow, htype⟩ := serve_tells hread hsize context world
  obtain ⟨hstatus', hallow'⟩ := errorResponse_tells dispatcher (vectorOf request.whole world)
    (acceptedTypes request.headers) (dispatcher.wholeTooLarge request)
  have hhead : request.verb ≠ .head := by rw [hverb]; decide
  have hbody : (dispatcher.serve request context world).1.body = (encodePayload dispatcher.codecs
      (dispatcher.piecesTooLarge request).toPayload (acceptedTypes request.headers)).2 := by
    rw [serve_of_tooLong hread hsize, Response.body_sentTo _ hhead, body_errorResponse]
  rw [dispatch_of_tooLong hverb hsize]
  exact {
    status_eq := hstatus.trans hstatus'.symm
    contentType_eq := by rw [htype, contentType_errorResponse, htypes]
    allow_eq := hallow.trans hallow'.symm
    code_eq := fun _ => .inr ⟨(dispatcher.piecesTooLarge request).toPayload,
      (dispatcher.wholeTooLarge request).toPayload, rfl, hbody, body_errorResponse ..⟩ }

/-- The built-in codecs state the same media type for every error. -/
theorem refusalType?_eq (hcodecs : ∀ codec ∈ dispatcher.codecs.codecs, BuiltIn codec)
    (headers : Headers) (e : DispatchError) :
    dispatcher.refusalType? headers e = HeaderValue.ofString? MediaType.json.render := by
  have hexpresses := expresses_encodePayload dispatcher.codecs e.toPayload (acceptedTypes headers)
  rw [refusalType?, (hexpresses.eq_json hcodecs).1]

/-- A request that can be read to its end and is answered in pieces is answered as a whole if its
body is within the limit. Beyond it the two answers agree exactly for `POST`, and if the payload of
the error is of one media type whichever size it tells, as it is with the built-in codecs. With any
other verb the request in pieces is refused for its size and the whole one for its verb. -/
theorem serve_decided (hread : request.failure = none) (context : Option RequestVector)
    (world : World) :
    (request.whole.body.length ≤ dispatcher.config.maxBodyBytes →
      dispatcher.serve request context world =
        ((dispatcher.dispatch request.whole context world).1.sentTo request.verb,
          (dispatcher.dispatch request.whole context world).2)) ∧
    (dispatcher.Agree request.whole (dispatcher.serve request context world).1
        (dispatcher.dispatch request.whole context world).1 ↔
      request.whole.body.length ≤ dispatcher.config.maxBodyBytes ∨
        request.verb = .post ∧
          dispatcher.refusalType? request.headers (dispatcher.piecesTooLarge request) =
            dispatcher.refusalType? request.headers (dispatcher.wholeTooLarge request)) ∧
    ((∀ codec ∈ dispatcher.codecs.codecs, BuiltIn codec) →
      dispatcher.refusalType? request.headers (dispatcher.piecesTooLarge request) =
        dispatcher.refusalType? request.headers (dispatcher.wholeTooLarge request)) ∧
    (dispatcher.config.maxBodyBytes < request.whole.body.length → request.verb ≠ .post →
      (dispatcher.serve request context world).1.status = ⟨413⟩ ∧
        (dispatcher.serve request context world).1.headers.get? Headers.allow = none ∧
        (dispatcher.dispatch request.whole context world).1.status = ⟨405⟩ ∧
        (dispatcher.dispatch request.whole context world).1.headers.get? Headers.allow =
          some postAllowed) := by
  refine ⟨fun hsize => serve_of_fits hread hsize context world, ⟨fun hagree => ?_, ?_⟩,
    fun hcodecs => ?_, fun hsize hother => ?_⟩
  · refine or_iff_not_imp_left.2 fun hsize => ?_
    have hsize := Nat.not_le.1 hsize
    obtain ⟨hstatus, -, htype⟩ := serve_tells hread hsize context world
    -- With another verb the statuses differ already.
    have hpost : request.verb = .post := by
      by_contra hother
      have hstatuses := hstatus.symm.trans
        (hagree.status_eq.trans (dispatch_tells hother context world).1)
      cases hstatuses
    refine ⟨hpost, ?_⟩
    rw [← htype, hagree.contentType_eq, dispatch_of_tooLong hpost hsize, contentType_errorResponse]
  · intro h
    by_cases hsize : request.whole.body.length ≤ dispatcher.config.maxBodyBytes
    · rw [serve_of_fits hread hsize]
      exact agree_sentTo dispatcher request.whole _
    · obtain ⟨hpost, htypes⟩ := h.resolve_left hsize
      exact agree_of_tooLong hread hpost (Nat.not_le.1 hsize) htypes context world
  · rw [refusalType?_eq hcodecs, refusalType?_eq hcodecs]
  · obtain ⟨hstatus, hallow, -⟩ := serve_tells hread hsize context world
    exact ⟨hstatus, hallow, dispatch_tells hother context world⟩

/-- Too long a `POST` in two pieces is answered like the whole. -/
theorem serve_decided_post :
    let dispatcher : HttpDispatcher := ⟨⟨[]⟩, .default, ⟨"method", 4⟩⟩
    let request : StreamedRequest := ⟨.post, ⟨"/echo", none⟩,
      ⟨[(Headers.contentType, [⟨Text.Utf8.encodeString "application/json"⟩])]⟩,
      [[49, 50, 51], [52, 53, 54]], none⟩
    request.failure = none ∧
      dispatcher.Agree request.whole (dispatcher.serve request none .initial).1
        (dispatcher.dispatch request.whole none .initial).1 := by
  intro dispatcher request
  have hcodecs : ∀ codec ∈ dispatcher.codecs.codecs, BuiltIn codec :=
    List.forall_mem_cons.2 ⟨.json false, List.forall_mem_singleton.2 .text⟩
  obtain ⟨-, hagree, hbuiltIn, -⟩ :=
    @serve_decided dispatcher request rfl none .initial
  exact ⟨rfl, hagree.2 (.inr ⟨rfl, hbuiltIn hcodecs⟩)⟩

/-- Too long a `GET` under a vector is refused for its size if it arrives in pieces, and for its
verb if it is whole. -/
theorem serve_disagrees_get :
    let dispatcher : HttpDispatcher := ⟨⟨[]⟩, .default, ⟨"method", 4⟩⟩
    let request : StreamedRequest := ⟨.get, ⟨"/echo", none⟩,
      ⟨[(Headers.contentType, [⟨Text.Utf8.encodeString "application/json"⟩]),
        (Headers.requestVector, [⟨Text.Utf8.encodeString "r"⟩])]⟩,
      [[49, 50, 51], [52, 53, 54]], none⟩
    request.failure = none ∧ (carriedVector? request.headers).isSome ∧
      (dispatcher.serve request none .initial).1.status = ⟨413⟩ ∧
      (dispatcher.dispatch request.whole none .initial).1.status = ⟨405⟩ ∧
      ¬ dispatcher.Agree request.whole (dispatcher.serve request none .initial).1
        (dispatcher.dispatch request.whole none .initial).1 := by
  intro dispatcher request
  have hserve : (dispatcher.serve request none .initial).1.status = ⟨413⟩ := by decide +kernel
  have hdispatch : (dispatcher.dispatch request.whole none .initial).1.status = ⟨405⟩ := by
    decide
  refine ⟨rfl, by decide, hserve, hdispatch, fun hagree => ?_⟩
  have hstatuses := hserve.symm.trans (hagree.status_eq.trans hdispatch)
  cases hstatuses

end

end HttpDispatcher

end HttpRpc
