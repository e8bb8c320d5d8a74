import HttpRpc.Proofs.Client.Delivery
import HttpRpc.Proofs.Client.Outgoing

/-!
# What a response means

A call that is exchanged ends with what its response means to a caller who takes any value. Every
response means one thing (`Means`, `means_iff`): one with a success what its body is read as, any
other a failure with its status, and with a payload exactly if its body can be read as one
(`invoke_means`).
-/

namespace HttpRpc.ClientProxy

open HttpRpc.Text

/-! ## Bodies -/

/-- The media type that the body of a response is taken for: the one that the response states, or
that of requests if it states no text. A text that is no media type is refused. -/
inductive Labelled (factory : ClientFactory) (response : Response) :
    Except MediaError MediaType → Prop where
  | unstated (h : ∀ value, response.headers.get? Headers.contentType = some value →
      value.text? = none) : Labelled factory response (.ok factory.requestMediaType)
  | stated {value : HeaderValue} {text : String} {media : MediaType}
      (hvalue : response.headers.get? Headers.contentType = some value)
      (htext : value.text? = some text) (hmedia : MediaType.parse text = .ok media) :
      Labelled factory response (.ok media)
  | malformed {value : HeaderValue} {text : String}
      (hvalue : response.headers.get? Headers.contentType = some value)
      (htext : value.text? = some text) (hmedia : ∀ media, MediaType.parse text ≠ .ok media) :
      Labelled factory response (.error (.invalidMediaType text))

/-- What a body that is not empty is read as by the first codec that reads values of the named type
from its media type. -/
inductive Reads (factory : ClientFactory) (typeName : String) (response : Response) :
    Except ClientError Json → Prop where
  | mislabelled {e : MediaError} (h : Labelled factory response (.error e)) :
      Reads factory typeName response (.error (.media e))
  | unread {media : MediaType} (h : Labelled factory response (.ok media))
      (hcodecs : ∀ codec ∈ factory.codecs.codecs, codec.canRead typeName media = false) :
      Reads factory typeName response (.error (.media (.noReader typeName media.render)))
  | refused {media : MediaType} {codec : Codec} {e : DeserializationError}
      (h : Labelled factory response (.ok media))
      (hreader : factory.codecs.readerFor? typeName media = some codec)
      (hread : codec.read response.body = .error e) :
      Reads factory typeName response (.error (.deserialization e))
  | read {media : MediaType} {codec : Codec} {value : Json}
      (h : Labelled factory response (.ok media))
      (hreader : factory.codecs.readerFor? typeName media = some codec)
      (hread : codec.read response.body = .ok value) :
      Reads factory typeName response (.ok value)

section

variable {factory : ClientFactory} {response : Response} {typeName : String}

/-- The body of a response is taken for one media type, or refused. -/
theorem labelled_iff {label : Except MediaError MediaType} :
    Labelled factory response label ↔ responseMediaType factory response = label := by
  unfold responseMediaType
  constructor
  · intro h
    cases h with
    | unstated h =>
        have hcontent : response.contentType? = none := Option.bind_eq_none_iff.2 h
        rw [hcontent]
    | stated hvalue htext hmedia =>
        have hcontent := Option.bind_eq_some_iff.2 ⟨_, hvalue, htext⟩
        rw [Response.contentType?, Headers.text?, hcontent]
        exact hmedia
    | malformed hvalue htext hmedia =>
        have hcontent := Option.bind_eq_some_iff.2 ⟨_, hvalue, htext⟩
        rw [Response.contentType?, Headers.text?, hcontent]
        exact MediaType.parse_eq_error_iff.2 ⟨rfl, hmedia⟩
  · intro h
    split at h
    · next text hcontent =>
        obtain ⟨value, hvalue, htext⟩ := Option.bind_eq_some_iff.1 hcontent
        cases label with
        | ok media => exact .stated hvalue htext h
        | error e =>
            obtain ⟨rfl, hmedia⟩ := MediaType.parse_eq_error_iff.1 h
            exact .malformed hvalue htext hmedia
    · next hcontent =>
        cases h
        exact .unstated (Option.bind_eq_none_iff.1 hcontent)

/-- A body whose media type is refused is not read. -/
theorem decode_of_mislabelled {e : MediaError} (hbody : response.body ≠ [])
    (hmedia : responseMediaType factory response = .error e) :
    decode factory typeName response = .error (.media e) := by
  simp only [decode, List.isEmpty_eq_false_iff.2 hbody, hmedia, Bool.false_eq_true, if_false,
    Except.mapError]
  rfl

/-- A body that is not empty is read as one thing. -/
theorem reads_iff (hbody : response.body ≠ []) {result : Except ClientError Json} :
    Reads factory typeName response result ↔ decode factory typeName response = result := by
  constructor
  · intro h
    cases h with
    | mislabelled h => exact decode_of_mislabelled hbody (labelled_iff.1 h)
    | unread h hcodecs =>
        exact decode_of_reader_none hbody (labelled_iff.1 h)
          (CodecRegistry.readerFor?_none_iff.2 hcodecs)
    | refused h hreader hread =>
        rw [decode_of_reader_some hbody (labelled_iff.1 h) hreader, hread]
        rfl
    | read h hreader hread =>
        rw [decode_of_reader_some hbody (labelled_iff.1 h) hreader, hread]
        rfl
  · rintro rfl
    cases hmedia : responseMediaType factory response with
    | error e =>
        rw [decode_of_mislabelled hbody hmedia]
        exact .mislabelled (labelled_iff.2 hmedia)
    | ok media =>
        cases hreader : factory.codecs.readerFor? typeName media with
        | none =>
            rw [decode_of_reader_none hbody hmedia hreader]
            exact .unread (labelled_iff.2 hmedia) (CodecRegistry.readerFor?_none_iff.1 hreader)
        | some codec =>
            rw [decode_of_reader_some hbody hmedia hreader]
            cases hread : codec.read response.body with
            | error e => exact .refused (labelled_iff.2 hmedia) hreader hread
            | ok value => exact .read (labelled_iff.2 hmedia) hreader hread

end

/-! ## Responses -/

/-- What a response means to a caller who takes any value. A response that fails is a failure with
its payload, if its body is not empty and can be read as one, and else with the text of its body, in
which every malformed part is replaced. -/
inductive Means (factory : ClientFactory) (response : Response) :
    Except ClientError Json → Prop where
  | empty (hstatus : 200 ≤ response.status.code ∧ response.status.code < 300)
      (hbody : response.body = []) : Means factory response (.ok .null)
  | result {result : Except ClientError Json}
      (hstatus : 200 ≤ response.status.code ∧ response.status.code < 300)
      (hbody : response.body ≠ [])
      (h : Reads factory "serde_json::value::Value" response result) :
      Means factory response result
  | remote {value : Json} {payload : ErrorPayload}
      (hstatus : ¬(200 ≤ response.status.code ∧ response.status.code < 300))
      (hbody : response.body ≠ []) (h : Reads factory ErrorPayload.typeName response (.ok value))
      (hpayload : ErrorPayload.ofJson? value = some payload) :
      Means factory response (.error (.remote response.status payload))
  | unexplained (hstatus : ¬(200 ≤ response.status.code ∧ response.status.code < 300))
      (hnone : response.body ≠ [] →
        ∀ value, Reads factory ErrorPayload.typeName response (.ok value) →
          ErrorPayload.ofJson? value = none) :
      Means factory response
        (.error (.unexplained response.status (Utf8.decodeStringLossy response.body)))

section

variable {factory : ClientFactory} {response : Response} {result : Except ClientError Json}

/-- A response that fails has a payload exactly if its body is not empty and is read as one. -/
theorem payload_eq_some_iff {payload : ErrorPayload} :
    (decode factory ErrorPayload.typeName response).toOption.bind ErrorPayload.ofJson? =
        some payload ↔
      response.body ≠ [] ∧ ∃ value, Reads factory ErrorPayload.typeName response (.ok value) ∧
        ErrorPayload.ofJson? value = some payload := by
  by_cases hbody : response.body = []
  · rw [decode_of_empty hbody]
    exact ⟨nofun, fun h => absurd hbody h.1⟩
  · rw [Option.bind_eq_some_iff, and_iff_right hbody]
    refine exists_congr fun value => and_congr_left fun _ => ?_
    rw [reads_iff hbody]
    cases decode factory ErrorPayload.typeName response <;> simp [Except.toOption]

/-- A response that fails has no payload exactly if its body is empty or is not read as one. -/
theorem payload_eq_none_iff :
    (decode factory ErrorPayload.typeName response).toOption.bind ErrorPayload.ofJson? = none ↔
      (response.body ≠ [] → ∀ value, Reads factory ErrorPayload.typeName response (.ok value) →
        ErrorPayload.ofJson? value = none) := by
  rw [Option.eq_none_iff_forall_ne_some]
  constructor
  · intro h hbody value hvalue
    exact Option.eq_none_iff_forall_ne_some.2 fun payload hpayload =>
      h payload (payload_eq_some_iff.2 ⟨hbody, value, hvalue, hpayload⟩)
  · intro h payload hpayload
    obtain ⟨hbody, value, hvalue, hpayload⟩ := payload_eq_some_iff.1 hpayload
    cases (h hbody value hvalue).symm.trans hpayload

/-- A response that succeeds is interpreted as what is read, if any value is taken. -/
theorem interpret_any {typeName : String} (hstatus : response.status.isSuccess = true) :
    interpret factory typeName .any response = decode factory typeName response := by
  cases hdecode : decode factory typeName response with
  | ok value => exact interpret_of_decode_ok hstatus hdecode .any
  | error e => exact interpret_of_decode_error hstatus hdecode .any

/-- A status tells of success exactly from two hundred to below three hundred. -/
theorem isSuccess_iff :
    response.status.isSuccess = true ↔
      200 ≤ response.status.code ∧ response.status.code < 300 := by
  simp only [Status.isSuccess, Bool.and_eq_true, decide_eq_true_eq]

/-- A status tells of failure exactly outside of that. -/
theorem isSuccess_eq_false_iff :
    response.status.isSuccess = false ↔
      ¬(200 ≤ response.status.code ∧ response.status.code < 300) := by
  rw [← isSuccess_iff, Bool.not_eq_true]

/-- Every response means one thing, which is what it is interpreted as. -/
theorem means_iff :
    Means factory response result ↔
      interpret factory "serde_json::value::Value" .any response = result := by
  constructor
  · intro h
    cases h with
    | empty hstatus hbody =>
        rw [interpret_any (isSuccess_iff.2 hstatus), decode_of_empty hbody]
    | result hstatus hbody h =>
        rw [interpret_any (isSuccess_iff.2 hstatus)]
        exact (reads_iff hbody).1 h
    | remote hstatus hbody h hpayload =>
        rw [interpret_of_failure (isSuccess_eq_false_iff.2 hstatus), decodeError,
          payload_eq_some_iff.2 ⟨hbody, _, h, hpayload⟩]
    | unexplained hstatus hnone =>
        rw [interpret_of_failure (isSuccess_eq_false_iff.2 hstatus), decodeError,
          payload_eq_none_iff.2 hnone]
  · rintro rfl
    by_cases hstatus : 200 ≤ response.status.code ∧ response.status.code < 300
    · rw [interpret_any (isSuccess_iff.2 hstatus)]
      by_cases hbody : response.body = []
      · rw [decode_of_empty hbody]
        exact .empty hstatus hbody
      · exact .result hstatus hbody ((reads_iff hbody).2 rfl)
    · rw [interpret_of_failure (isSuccess_eq_false_iff.2 hstatus), decodeError]
      split
      · next payload hpayload =>
          obtain ⟨hbody, value, hvalue, hpayload⟩ := payload_eq_some_iff.1 hpayload
          exact .remote hstatus hbody hvalue hpayload
      · next hnone => exact .unexplained hstatus (payload_eq_none_iff.1 hnone)

/-- What is read of a body is no failure that a server reports. -/
theorem Reads.status?_eq {typeName : String} {e : ClientError}
    (h : Reads factory typeName response (.error e)) : e.status? = none := by
  cases h <;> rfl

/-- A response means a value only if it succeeds. -/
theorem Means.of_ok {value : Json} (h : Means factory response (.ok value)) :
    200 ≤ response.status.code ∧ response.status.code < 300 := by
  cases h with
  | empty hstatus hbody => exact hstatus
  | result hstatus hbody h => exact hstatus

/-- A response means a failure with a status exactly if it fails, and then with its own. -/
theorem Means.status?_eq {e : ClientError} (h : Means factory response (.error e)) :
    e.status? = if 200 ≤ response.status.code ∧ response.status.code < 300 then none
      else some response.status := by
  cases h with
  | result hstatus hbody h => rw [if_pos hstatus, h.status?_eq]
  | remote hstatus => rw [if_neg hstatus]; rfl
  | unexplained hstatus => rw [if_neg hstatus]; rfl

end

/-! ## Calls -/

/-- The request of a call is exchanged for the response, which leaves the world as given. -/
def Obtains (proxy : ClientProxy) (method : String) (args : List Json)
    (context : Option RequestVector) (world : World) (response : Response) (after : World) : Prop :=
  ∃ request sent, proxy.requestFor method args context world = (.ok request, sent) ∧
    exchangeWithRetry proxy.factory request context sent = (.ok response, after)

section

variable {proxy : ClientProxy} {typeName : String} {shape : Shape} {method : String}
  {args : List Json} {context : Option RequestVector} {world after : World}

/-- A call whose request is exchanged for a response ends as the response says. -/
theorem Obtains.invoke_eq {response : Response}
    (h : proxy.Obtains method args context world response after) :
    proxy.invoke typeName shape method args context world =
      (interpret proxy.factory typeName shape response, after) := by
  obtain ⟨request, sent, hrequest, hexchange⟩ := h
  exact invoke_of_response hrequest hexchange

/-- What keeps a call from being made into a request is no failure that a server reports. -/
theorem Prepares.status?_eq {e : ClientError} (h : Prepares proxy method args (.error e)) :
    e.status? = none := by
  cases h <;> rfl

/-- A call is exchanged for a response, or ends with an error that no server reports. -/
theorem obtains_or_error {result : Except ClientError Json}
    (h : proxy.invoke typeName shape method args context world = (result, after)) :
    (∃ response, proxy.Obtains method args context world response after) ∨
      ∃ e, result = .error e ∧ e.status? = none := by
  rcases hrequest : proxy.requestFor method args context world with ⟨e | request, sent⟩
  · cases (invoke_of_requestFor_error hrequest typeName shape).symm.trans h
    exact Or.inr ⟨e, rfl, (requestFor_eq_error_iff.1 hrequest).1.status?_eq⟩
  · rcases hexchange : exchangeWithRetry proxy.factory request context sent with
      ⟨e | response, left⟩
    · cases (invoke_of_failure hrequest hexchange).symm.trans h
      exact Or.inr ⟨.transport e, rfl, rfl⟩
    · cases (invoke_of_response hrequest hexchange).symm.trans h
      exact Or.inl ⟨response, request, sent, hrequest, hexchange⟩

/-- A call that is exchanged for a response ends with the one thing that the response means. It ends
with a value only behind a response that succeeds, and with a failure that a server reports only
behind one that fails, with its status; every response that fails ends so. -/
theorem invoke_means :
    (∀ factory response, ∃! result, Means factory response result) ∧
    ∀ proxy method args context world,
      (∀ response after, Obtains proxy method args context world response after →
        (∀ result left, proxy.invoke "serde_json::value::Value" .any method args context world =
          (result, left) ↔ Means proxy.factory response result ∧ left = after) ∧
        (¬(200 ≤ response.status.code ∧ response.status.code < 300) →
          ∃ e, proxy.invoke "serde_json::value::Value" .any method args context world =
            (.error e, after) ∧ e.status? = some response.status)) ∧
      (∀ value after, proxy.invoke "serde_json::value::Value" .any method args context world =
        (.ok value, after) → ∃ response, Obtains proxy method args context world response after ∧
          200 ≤ response.status.code ∧ response.status.code < 300) ∧
      ∀ e after status, proxy.invoke "serde_json::value::Value" .any method args context world =
        (.error e, after) → e.status? = some status →
          ∃ response, Obtains proxy method args context world response after ∧
            response.status = status ∧ ¬(200 ≤ status.code ∧ status.code < 300) := by
  refine ⟨fun factory response => ⟨_, means_iff.2 rfl, fun result h => (means_iff.1 h).symm⟩,
    fun proxy method args context world => ⟨fun response after hobtains => ⟨fun result left => ?_,
      fun hstatus => ?_⟩, fun value after h => ?_, fun e after status h herror => ?_⟩⟩
  · rw [hobtains.invoke_eq, Prod.mk.injEq, means_iff, eq_comm (a := after)]
  · obtain ⟨e, hinterpret, herror⟩ := interpret_failure proxy.factory "serde_json::value::Value"
      .any (isSuccess_eq_false_iff.2 hstatus)
    exact ⟨e, by rw [hobtains.invoke_eq, hinterpret], herror⟩
  · rcases obtains_or_error h with ⟨response, hobtains⟩ | ⟨e, hresult, -⟩
    · rw [hobtains.invoke_eq] at h
      exact ⟨response, hobtains, (means_iff.2 (congrArg Prod.fst h)).of_ok⟩
    · cases hresult
  · rcases obtains_or_error h with ⟨response, hobtains⟩ | ⟨e, hresult, hnone⟩
    · rw [hobtains.invoke_eq] at h
      have hmeans := (means_iff.2 (congrArg Prod.fst h)).status?_eq
      rw [herror] at hmeans
      split at hmeans
      · cases hmeans
      · next hstatus =>
          cases hmeans
          exact ⟨response, hobtains, rfl, hstatus⟩
    · cases hresult
      cases herror.symm.trans hnone

/-- A response that fails with a malformed body under a text that is no media type. -/
theorem invoke_means_malformed :
    let headers := Headers.empty.insert Headers.contentType ⟨Utf8.encodeString "text"⟩
    let world : World := { World.initial with scripts := [⟨[.ok ⟨⟨503⟩, headers, [255]⟩], []⟩] }
    ∃ make table after, ClientFactory.assemble ⟨.default, none, some (.scripted 0)⟩ = .ok make ∧
      RouteTable.bind "http://host/api" [.submit "echo" "value"] = .ok table ∧
      invoke ⟨"Echo", table, make 0⟩ "serde_json::value::Value" .any "echo" [.bool true] none
        world = (.error (.unexplained ⟨503⟩ "\uFFFD"), after) := by
  intro headers world
  obtain ⟨make, hassemble⟩ := ClientFactory.exists_assemble_default (.scripted 0)
  obtain ⟨table, hbind, -⟩ := RouteTable.exists_bind_echo
  let proxy : ClientProxy := ⟨"Echo", table, make 0⟩
  let response : Response := ⟨⟨503⟩, headers, [255]⟩
  have htransport : proxy.factory.transport = .scripted 0 :=
    (ClientFactory.assemble_default hassemble 0).1
  have hrequest : proxy.requestFor "echo" [.bool true] none world = (.ok _, world) :=
    requestFor_submit hassemble rfl (by decide) hbind List.mem_cons_self (.bool true) none world
  have hexchange : ∃ after, proxy.factory.transport.exchange
      (proxy.submitted (table.base.url.appendSegments ["echo"] false) (.bool true)) none world =
        (.ok response, after) := by
    rw [htransport]
    exact ⟨_, rfl⟩
  obtain ⟨after, hexchange⟩ := hexchange
  have hobtains : Obtains proxy "echo" [.bool true] none world response _ :=
    ⟨_, _, hrequest, exchangeWithRetry_of_response hexchange⟩
  have hlabel (media : MediaType) : ¬Labelled proxy.factory response (.ok media) := by
    have htype : response.contentType? = some "text" := by decide
    have hparse : MediaType.parse "text" = .error (.invalidMediaType "text") := by decide
    intro h
    have hmedia := labelled_iff.1 h
    rw [responseMediaType, htype] at hmedia
    cases hparse.symm.trans hmedia
  have hmeans : Means proxy.factory response
      (.error (.unexplained ⟨503⟩ (Utf8.decodeStringLossy [255]))) := by
    refine .unexplained (by decide) fun _ value hvalue => ?_
    cases hvalue with
    | read h => exact absurd h (hlabel _)
  have hlossy : Utf8.decodeStringLossy [255] = "\uFFFD" := by decide
  rw [hlossy] at hmeans
  exact ⟨make, table, _, hassemble, hbind,
    ((invoke_means.2 _ _ _ _ _).1 response _ hobtains).1 _ _ |>.2 ⟨hmeans, rfl⟩⟩

end

end HttpRpc.ClientProxy
