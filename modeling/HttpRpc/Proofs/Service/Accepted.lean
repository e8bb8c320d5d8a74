import HttpRpc.Proofs.Codec.BuiltIn
import HttpRpc.Proofs.Media.Joined
import HttpRpc.Proofs.Service.Content
import HttpRpc.Proofs.Service.Payload

/-!
# What a caller accepts on several lines

A list of accepted media types may be sent on several lines, which stand for the one line that they
are joined to. A dispatcher looks at the first line only (`acceptedTypes_withAccept`). So the
response to the joined line is the same for every dispatcher and every request exactly if the other
lines add nothing to the first one: a dispatcher without a codec for a result tells the caller which
media types it looked at (`renderList_eq_of_dispatch_eq`).
-/

namespace HttpRpc

open HttpRpc.Text

/-! ## Lines -/

namespace HeaderValue

/-- The value that the lines of a header stand for together: a comma and a space stand between
neighbours. -/
def join (lines : List HeaderValue) : HeaderValue :=
  ⟨[44, 32].intercalate (lines.map HeaderValue.octets)⟩

/-- The text of a value of visible octets. -/
def visible (value : HeaderValue) : String :=
  String.ofList (value.octets.map fun octet => Char.ofNat octet.toNat)

/-- The visible octets of a value are its text. -/
theorem text?_of_visible {value : HeaderValue} (h : value.octets.all isVisible = true) :
    value.text? = some value.visible :=
  if_pos h

/-- Joined lines are visible if the lines are, and their text is that of the lines between commas
and spaces. -/
theorem visible_join {first : HeaderValue} {rest : List HeaderValue}
    (h : ∀ line ∈ first :: rest, line.octets.all isVisible = true) :
    (join (first :: rest)).octets.all isVisible = true ∧
      (join (first :: rest)).visible = String.intercalate ", " ((first :: rest).map visible) := by
  induction rest generalizing first with
  | nil =>
      have hjoin : join [first] = first := congrArg mk (List.intercalate_singleton)
      rw [hjoin, List.map_singleton, String.intercalate_singleton]
      exact ⟨h first List.mem_cons_self, rfl⟩
  | cons second rest ih =>
      obtain ⟨hfirst, hrest⟩ := List.forall_mem_cons.1 h
      obtain ⟨hall, htext⟩ := ih hrest
      have hjoin : (join (first :: second :: rest)).octets =
          first.octets ++ [44, 32] ++ (join (second :: rest)).octets :=
        List.intercalate_cons_cons
      have hseparator : [(44 : UInt8), 32].all isVisible = true := by decide
      constructor
      · rw [hjoin, List.all_append, List.all_append, hfirst, hseparator, hall]
        rfl
      · rw [List.map_cons, List.map_cons, String.intercalate_cons_cons, ← List.map_cons, ← htext]
        simp only [visible, hjoin, List.map_append, String.ofList_append]
        rfl

end HeaderValue

namespace Request

/-- The request with lines that list the media types that the caller accepts. -/
def withAccept (request : Request) (lines : List HeaderValue) : Request :=
  { request with headers := ⟨Headers.setEntry Headers.accept lines request.headers.entries⟩ }

variable {request : Request} {lines : List HeaderValue}

/-- The first line is the one that is found. -/
theorem get?_withAccept (line : HeaderValue) (lines : List HeaderValue) :
    (request.withAccept (line :: lines)).headers.get? Headers.accept = some line := by
  unfold Headers.get? Headers.values withAccept
  rw [Headers.lookup_setEntry_self]
  rfl

/-- The other headers are left alone. -/
theorem get?_withAccept_of_ne {name : String} (h : name ≠ Headers.accept) :
    (request.withAccept lines).headers.get? name = request.headers.get? name := by
  unfold Headers.get? Headers.values withAccept
  rw [Headers.lookup_setEntry_of_ne h]

end Request

/-- The message that there is no writer tells the list of the media types that were looked at. -/
theorem MediaError.eq_of_message_eq {typeName first second : String}
    (h : (noWriter typeName first).message = (noWriter typeName second).message) :
    first = second := by
  have hmessage (accepted : String) : (noWriter typeName accepted).message =
      "no codec can write \x60" ++ typeName ++ "\x60 as any of \x60" ++ accepted ++ "\x60" := rfl
  rw [hmessage, hmessage, String.append_left_inj, String.append_right_inj] at h
  exact h

namespace HttpDispatcher

variable {first : HeaderValue} {rest : List HeaderValue}

/-- Of several lines the first one is looked at. -/
theorem acceptedTypes_withAccept (request : Request) {line : HeaderValue}
    (h : line.octets.all HeaderValue.isVisible = true) (lines : List HeaderValue) :
    acceptedTypes (request.withAccept (line :: lines)).headers =
      MediaType.parseAccept line.visible := by
  have htext : (request.withAccept (line :: lines)).headers.text? Headers.accept =
      some line.visible := by
    rw [Headers.text?, Request.get?_withAccept, Option.bind_some, HeaderValue.text?_of_visible h]
  unfold acceptedTypes
  rw [htext]

/-- The lines do not matter before a method is called. -/
theorem prepare_withAccept (dispatcher : HttpDispatcher) (request : Request)
    (lines : List HeaderValue) :
    dispatcher.prepare (request.withAccept lines) = dispatcher.prepare request := by
  have hcontent : contentType? (request.withAccept lines).headers =
      contentType? request.headers := by
    unfold contentType?
    rw [Request.get?_withAccept_of_ne (by decide)]
  unfold prepare
  rw [hcontent]
  rfl

/-- The lines do not matter to the vector of a request. -/
theorem carriedVector?_withAccept (request : Request) (lines : List HeaderValue) :
    carriedVector? (request.withAccept lines).headers = carriedVector? request.headers := by
  unfold carriedVector? Headers.text?
  rw [Request.get?_withAccept_of_ne (by decide)]

/-- Of the lines only the media types matter that are looked at. -/
theorem dispatch_eq_of_accepted (dispatcher : HttpDispatcher) (request : Request)
    {lines others : List HeaderValue}
    (h : acceptedTypes (request.withAccept lines).headers =
      acceptedTypes (request.withAccept others).headers) :
    dispatcher.dispatch (request.withAccept lines) =
      dispatcher.dispatch (request.withAccept others) := by
  unfold dispatch handle requestVector
  rw [prepare_withAccept, prepare_withAccept, carriedVector?_withAccept,
    carriedVector?_withAccept, h]

/-! ## Dispatchers that tell what they looked at -/

/-- A method that takes a text and gives nothing back. -/
def silent : RpcMethod := ⟨"silent", 1, "str", "()", some fun _ => return .value .null⟩

/-- A dispatcher with that method. -/
def silentDispatcher (codecs : CodecRegistry) : HttpDispatcher := ⟨⟨[silent]⟩, codecs, .default⟩

/-- A request for the method, under a vector. -/
def silentRequest : Request :=
  ⟨.post, ⟨"/silent", none⟩,
    ⟨[(Headers.contentType, [⟨Utf8.encodeString "text/plain"⟩]),
      (Headers.requestVector, [⟨Utf8.encodeString "r"⟩])]⟩, []⟩

/-- The response to the request where some media types are accepted. -/
def silentResponse (codecs : CodecRegistry) (accepted : List MediaType) : Response :=
  match (silentDispatcher codecs).encode silent accepted .null with
  | .ok (media, body) => respond ⟨"r", []⟩ .ok media body
  | .error e => (silentDispatcher codecs).errorResponse ⟨"r", []⟩ accepted e

/-- With built-in codecs, among them the one for texts, the request calls the method, and the media
types that are looked at decide the response. -/
theorem dispatch_silent {codecs : CodecRegistry} (hcodecs : ∀ codec ∈ codecs.codecs, BuiltIn codec)
    (htext : .text ∈ codecs.codecs) (lines : List HeaderValue) :
    ((silentDispatcher codecs).dispatch (silentRequest.withAccept lines) none .initial).1 =
      silentResponse codecs (acceptedTypes (silentRequest.withAccept lines).headers) := by
  have hcontent : contentType? silentRequest.headers = some (.ok .plainText) := by decide +kernel
  have hsupports : codecs.supports .plainText = true :=
    List.any_eq_true.2 ⟨.text, htext, MediaType.accepts_self .plainText⟩
  have hreader : codecs.readerFor? silent.inputType .plainText = some .text :=
    CodecRegistry.readerFor?_plainText hcodecs htext (by decide)
  -- Methods are functions and cannot be compared, so only the name is evaluated.
  have hname : methodName .default silentRequest.target = "silent" := by decide
  have hmethod : (silentDispatcher codecs).method? silentRequest = some silent := by
    show RpcRegistry.get? ⟨[silent]⟩ (methodName .default silentRequest.target) = some silent
    rw [hname]
    rfl
  have hprepare : (silentDispatcher codecs).prepare (silentRequest.withAccept lines) =
      .ok (silent, .null) := by
    rw [prepare_withAccept]
    exact prepare_of_decode rfl (Nat.zero_le _) (media?_of_contentType? hcontent hsupports) hmethod
      (decode_of_empty hreader)
  have hvector : vectorOf (silentRequest.withAccept lines) .initial = ⟨"r", []⟩ := by
    have hcarried : carriedVector? silentRequest.headers = some ⟨"r", []⟩ := by decide
    rw [vectorOf, carriedVector?_withAccept, hcarried, Option.getD_some]
  have hanswer : (silentDispatcher codecs).answer (silentRequest.withAccept lines) silent
      (.value .null) = (silentDispatcher codecs).encode silent
        (acceptedTypes (silentRequest.withAccept lines).headers) .null := rfl
  rw [dispatch_of_prepare_ok hprepare rfl none rfl, hvector, hanswer]
  unfold finished silentResponse
  cases (silentDispatcher codecs).encode silent
    (acceptedTypes (silentRequest.withAccept lines).headers) .null with
  | ok found => rfl
  | error e => rfl

/-- The codec for texts alone writes no types but those of texts and scalars. -/
theorem negotiate_text {typeName : String} (hstring : typeName ∉ Codec.stringTypes)
    (hscalar : typeName ∉ Codec.scalarTypes) (accepted : List MediaType) :
    CodecRegistry.negotiate ⟨[.text]⟩ typeName accepted =
      .error (.noWriter typeName (MediaType.renderList accepted)) := by
  rcases CodecRegistry.negotiate_cases ⟨[.text]⟩ typeName accepted with
    ⟨-, hnegotiate⟩ | ⟨entry, codec, hchosen, -⟩
  · exact hnegotiate
  · obtain rfl : codec = .text := List.mem_singleton.1 hchosen.codec_mem
    exact ((Codec.canWrite_text_iff.1 hchosen.writes).2.elim hstring hscalar).elim

/-- With the codec for texts alone the request is refused with the list of the media types that are
looked at. -/
theorem body_silentResponse (accepted : List MediaType) :
    (silentResponse ⟨[.text]⟩ accepted).body =
      Utf8.encodeString (ErrorPayload.mk "NotAcceptable"
        (MediaError.noWriter "()" (MediaType.renderList accepted)).message
        [⟨"method", some "silent"⟩] []).toJson.compact := by
  have hresult : (silentDispatcher ⟨[.text]⟩).codecs.negotiate silent.outputType accepted =
      .error (.noWriter "()" (MediaType.renderList accepted)) :=
    negotiate_text (by decide) (by decide) accepted
  have hpayload : (silentDispatcher ⟨[.text]⟩).codecs.negotiate ErrorPayload.typeName accepted =
      .error (.noWriter ErrorPayload.typeName (MediaType.renderList accepted)) :=
    negotiate_text (by decide) (by decide) accepted
  have hencode : (silentDispatcher ⟨[.text]⟩).encode silent accepted .null =
      .error (.notAcceptable "silent" (.noWriter "()" (MediaType.renderList accepted))) := by
    rw [encode, hresult]
    rfl
  have htold : (DispatchError.notAcceptable "silent"
      (.noWriter "()" (MediaType.renderList accepted))).toPayload =
        ErrorPayload.mk "NotAcceptable" (MediaError.noWriter "()"
          (MediaType.renderList accepted)).message [⟨"method", some "silent"⟩] [] := rfl
  rw [silentResponse, hencode]
  simp only
  rw [body_errorResponse, encodePayload, hpayload, htold]

/-- A dispatcher with the codec for texts alone answers alike only where it looks at lists with the
same text. -/
theorem renderList_eq_of_dispatch_eq {lines others : List HeaderValue}
    (h : ((silentDispatcher ⟨[.text]⟩).dispatch (silentRequest.withAccept lines) none .initial).1 =
      ((silentDispatcher ⟨[.text]⟩).dispatch (silentRequest.withAccept others) none .initial).1) :
    MediaType.renderList (acceptedTypes (silentRequest.withAccept lines).headers) =
      MediaType.renderList (acceptedTypes (silentRequest.withAccept others).headers) := by
  have hcodecs : ∀ codec ∈ [Codec.text], BuiltIn codec := List.forall_mem_singleton.2 .text
  rw [dispatch_silent hcodecs List.mem_cons_self, dispatch_silent hcodecs List.mem_cons_self] at h
  have hbody := congrArg Response.body h
  rw [body_silentResponse, body_silentResponse] at hbody
  have hdecoded := congrArg Utf8.decode? hbody
  rw [Utf8.decode?_encodeString, Utf8.decode?_encodeString] at hdecoded
  have htext := String.toList_inj.1 (Option.some.inj hdecoded)
  exact MediaError.eq_of_message_eq (ErrorPayload.eq_of_compact_toJson_eq htext)

/-! ## Split lines -/

/-- A dispatcher answers to several lines as to the first one alone. It answers to the one line that
visible lines are joined to in the same way, whatever it is made of and whatever is asked under a
vector, exactly if the other lines add nothing to the first one. -/
theorem split_accept_decided
    (hvisible : ∀ line ∈ first :: rest, line.octets.all HeaderValue.isVisible = true) :
    (∀ (dispatcher : HttpDispatcher) (request : Request),
      dispatcher.dispatch (request.withAccept (first :: rest)) =
        dispatcher.dispatch (request.withAccept [first])) ∧
    ((∀ (dispatcher : HttpDispatcher) (request : Request) (context : Option RequestVector)
        (world : World), (carriedVector? request.headers).isSome →
      (dispatcher.dispatch (request.withAccept (first :: rest)) context world).1 =
        (dispatcher.dispatch (request.withAccept [HeaderValue.join (first :: rest)])
          context world).1) ↔
      MediaType.AddsNothing first.visible (rest.map HeaderValue.visible)) := by
  have hfirst := hvisible first List.mem_cons_self
  obtain ⟨hjoined, htext⟩ := HeaderValue.visible_join hvisible
  rw [List.map_cons] at htext
  have hsplit (request : Request) :
      acceptedTypes (request.withAccept (first :: rest)).headers =
        MediaType.parseAccept first.visible :=
    acceptedTypes_withAccept request hfirst rest
  have hjoin (request : Request) :
      acceptedTypes (request.withAccept [HeaderValue.join (first :: rest)]).headers =
        MediaType.parseAccept
          (String.intercalate ", " (first.visible :: rest.map HeaderValue.visible)) := by
    rw [acceptedTypes_withAccept request hjoined, htext]
  refine ⟨fun dispatcher request => ?_, fun h => ?_, fun h dispatcher request context world _ => ?_⟩
  · refine dispatch_eq_of_accepted dispatcher request ?_
    rw [hsplit, acceptedTypes_withAccept request hfirst]
  · -- One dispatcher and one request are enough to tell the lists apart.
    have hlists := renderList_eq_of_dispatch_eq
      (h (silentDispatcher ⟨[.text]⟩) silentRequest none .initial (by decide))
    rw [hsplit, hjoin] at hlists
    exact MediaType.addsNothing_of_renderList_eq hlists.symm
  · rw [dispatch_eq_of_accepted dispatcher request]
    rw [hsplit, hjoin, MediaType.parseAccept_join_eq h]

/-- A second line that only refuses a media type adds nothing to a first one. -/
theorem split_accept_decided_refused :
    let first : HeaderValue := ⟨Utf8.encodeString "application/json"⟩
    let second : HeaderValue := ⟨Utf8.encodeString "text/plain;q=0"⟩
    (∀ line ∈ [first, second], line.octets.all HeaderValue.isVisible = true) ∧
      ∀ (dispatcher : HttpDispatcher) (request : Request) (context : Option RequestVector)
        (world : World), (carriedVector? request.headers).isSome →
        (dispatcher.dispatch (request.withAccept [first, second]) context world).1 =
          (dispatcher.dispatch (request.withAccept [HeaderValue.join [first, second]])
            context world).1 := by
  intro first second
  have hvisible : ∀ line ∈ [first, second], line.octets.all HeaderValue.isVisible = true := by
    decide
  have hnothing : MediaType.AddsNothing first.visible ([second].map HeaderValue.visible) :=
    .inl ⟨by decide +kernel, .inr (by decide +kernel)⟩
  exact ⟨hvisible, (split_accept_decided hvisible).2.2 hnothing⟩

/-- A caller that accepts JSON on a second line is refused, and is answered if the two lines are
joined. -/
theorem split_accept_refused :
    let dispatcher : HttpDispatcher := silentDispatcher .default
    let first : HeaderValue := ⟨Utf8.encodeString "image/png"⟩
    let second : HeaderValue := ⟨Utf8.encodeString "application/json"⟩
    (∀ line ∈ [first, second], line.octets.all HeaderValue.isVisible = true) ∧
      (carriedVector? silentRequest.headers).isSome ∧
      (dispatcher.dispatch (silentRequest.withAccept [first, second]) none .initial).1.status =
        ⟨406⟩ ∧
      (dispatcher.dispatch (silentRequest.withAccept [HeaderValue.join [first, second]])
        none .initial).1.status = ⟨200⟩ := by
  intro dispatcher first second
  let png : MediaType := ⟨"image", "png", []⟩
  have hpng : png.IsPlain := by
    have hnew : .new "image" "png" = png := MediaType.new_eq (by decide) (by decide)
    exact ⟨hnew ▸ .new "image" "png", ⟨by decide, by decide⟩, by decide, rfl⟩
  have hvisible : ∀ line ∈ [first, second], line.octets.all HeaderValue.isVisible = true := by
    decide
  have hsplit : acceptedTypes (silentRequest.withAccept [first, second]).headers = [png] := by
    have htext : first.visible = MediaType.renderList [png] := by decide
    rw [acceptedTypes_withAccept _ (hvisible first List.mem_cons_self), htext]
    exact MediaType.parseAccept_renderList (List.cons_ne_nil _ _) (by simpa using hpng)
  have hjoin : acceptedTypes (silentRequest.withAccept
      [HeaderValue.join [first, second]]).headers = [png, .json] := by
    have htext : (HeaderValue.join [first, second]).visible =
        MediaType.renderList [png, .json] := by
      rw [MediaType.json_eq]
      decide
    rw [acceptedTypes_withAccept _ (HeaderValue.visible_join hvisible).1, htext]
    exact MediaType.parseAccept_renderList (List.cons_ne_nil _ _)
      (by simpa using ⟨hpng, MediaType.isPlain_json⟩)
  have hcodecs : ∀ codec ∈ CodecRegistry.default.codecs, BuiltIn codec :=
    List.forall_mem_cons.2 ⟨.json false, List.forall_mem_singleton.2 .text⟩
  have htext : .text ∈ CodecRegistry.default.codecs := List.mem_cons_of_mem _ List.mem_cons_self
  refine ⟨hvisible, by decide, ?_, ?_⟩
  · rw [dispatch_silent hcodecs htext, hsplit]
    decide +kernel
  · rw [dispatch_silent hcodecs htext, hjoin]
    decide +kernel

end HttpDispatcher

end HttpRpc
