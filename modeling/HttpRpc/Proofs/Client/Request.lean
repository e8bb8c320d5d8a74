import HttpRpc.Proofs.Binding.Table
import HttpRpc.Proofs.Binding.Word
import HttpRpc.Proofs.Client.Call
import HttpRpc.Proofs.Codec.Default

/-!
# What a client sends

A call is made into a request, or there is one of four reasons why it is not (`Prepares`,
`prepares_iff`). Every request lists the media types that its client accepts
(`accept_of_requestFor`). A client with the default settings that submits an argument to a path of
one word sends it as JSON to the base with the word as its last segment, but null without a body and
without a media type (`requestFor_submit`).
-/

namespace HttpRpc

open HttpRpc.Text

/-! ## Factories -/

namespace ClientFactory

/-- Settings that fit together give all parts of a factory but its source. -/
theorem exists_eq_of_assemble {settings : FactorySettings} {make : Nat → ClientFactory}
    (h : assemble settings = .ok make) :
    ∃ transport contentType accept, settings.transport = some transport ∧
      headerValue settings.config.requestMediaType.render = .ok contentType ∧
      headerValue (settings.codecs.getD .default).acceptHeader = .ok accept ∧
      make = fun source => ⟨transport, settings.codecs.getD .default, settings.config.backoff,
        settings.config.requestMediaType, contentType, accept, settings.config.defaultHeaders,
        source⟩ := by
  have hok {value : Except MediaError HeaderValue} {header : HeaderValue}
      (h : value.mapError Error.media = .ok header) : value = .ok header := by
    cases value with
    | error e => cases h
    | ok found => exact congrArg Except.ok (Except.ok.inj h)
  unfold assemble at h
  obtain ⟨-, -, h⟩ := bind_eq_ok.1 h
  obtain ⟨-, -, h⟩ := bind_eq_ok.1 h
  cases hsupports : (settings.codecs.getD CodecRegistry.default).supports
      settings.config.requestMediaType with
  | false =>
      simp only [hsupports, Bool.not_false, if_true] at h
      cases h
  | true =>
      simp only [hsupports, Bool.not_true, Bool.false_eq_true, if_false] at h
      obtain ⟨contentType, hcontent, h⟩ := bind_eq_ok.1 h
      obtain ⟨accept, haccept, h⟩ := bind_eq_ok.1 h
      split at h
      · cases h
      · next transport htransport =>
          cases h
          exact ⟨transport, contentType, accept, htransport, hok hcontent, hok haccept, rfl⟩

/-- A header that lists media types is the value of its text. -/
theorem ofString?_of_headerValue {text : String} {value : HeaderValue}
    (h : headerValue text = .ok value) : HeaderValue.ofString? text = some value := by
  unfold headerValue at h
  split at h
  · next hvalue =>
      cases h
      exact hvalue
  · cases h

/-- The parts of a factory are those of its settings, and its headers state its media type and those
of its codecs. -/
theorem assemble_eq_ok {settings : FactorySettings} {make : Nat → ClientFactory}
    (h : assemble settings = .ok make) (source : Nat) :
    settings.transport = some (make source).transport ∧
      (make source).codecs = settings.codecs.getD .default ∧
      (make source).requestMediaType = settings.config.requestMediaType ∧
      (make source).defaultHeaders = settings.config.defaultHeaders ∧
      HeaderValue.ofString? (make source).requestMediaType.render =
        some (make source).contentType ∧
      HeaderValue.ofString? (make source).codecs.acceptHeader = some (make source).accept := by
  obtain ⟨transport, contentType, accept, htransport, hcontent, haccept, rfl⟩ :=
    exists_eq_of_assemble h
  exact ⟨htransport, rfl, rfl, rfl, ofString?_of_headerValue hcontent,
    ofString?_of_headerValue haccept⟩

/-- A factory has the source that it is given. -/
theorem source_of_assemble {settings : FactorySettings} {make : Nat → ClientFactory}
    (h : assemble settings = .ok make) (source : Nat) : (make source).source = source := by
  obtain ⟨_, _, _, -, -, -, rfl⟩ := exists_eq_of_assemble h
  rfl

/-- A client with the default settings sends requests as JSON with no headers of its own. -/
theorem assemble_default {transport : Transport} {make : Nat → ClientFactory}
    (h : assemble ⟨.default, none, some transport⟩ = .ok make) (source : Nat) :
    (make source).transport = transport ∧ (make source).codecs = .default ∧
      (make source).requestMediaType = .json ∧ (make source).defaultHeaders = .empty ∧
      (make source).contentType = ⟨Utf8.encodeString "application/json"⟩ ∧
      HeaderValue.ofString? CodecRegistry.default.acceptHeader = some (make source).accept := by
  obtain ⟨htransport, hcodecs, hmedia, hheaders, hcontent, haccept⟩ := assemble_eq_ok h source
  have hjson : (make source).requestMediaType = .json := hmedia
  rw [hjson, MediaType.ofString?_json] at hcontent
  rw [hcodecs] at haccept
  exact ⟨(Option.some.inj htransport).symm, hcodecs, hjson, hheaders,
    (Option.some.inj hcontent).symm, haccept⟩

/-- Settings fit together if the media type of requests is a single one that some codec is for, the
limits of the transport are in order, and both media types may be the values of headers. -/
theorem exists_assemble {settings : FactorySettings} {transport : Transport}
    (htransport : settings.transport = some transport)
    (hsingle : settings.config.requestMediaType.isWildcard = false)
    (hlimits : settings.config.transport.validate = .ok ())
    (hsupports : (settings.codecs.getD .default).supports settings.config.requestMediaType = true)
    {contentType accept : HeaderValue}
    (hcontent : HeaderValue.ofString? settings.config.requestMediaType.render = some contentType)
    (haccept : HeaderValue.ofString? (settings.codecs.getD .default).acceptHeader = some accept) :
    ∃ make, assemble settings = .ok make := by
  refine ⟨fun source => ⟨transport, settings.codecs.getD .default, settings.config.backoff,
    settings.config.requestMediaType, contentType, accept, settings.config.defaultHeaders, source⟩,
    ?_⟩
  unfold assemble ClientConfig.validate headerValue
  simp only [hsingle, hlimits, hsupports, hcontent, haccept, htransport, Bool.false_eq_true,
    if_false, Bool.not_true]
  rfl

/-- The default settings fit together. -/
theorem exists_assemble_default (transport : Transport) :
    ∃ make, assemble ⟨.default, none, some transport⟩ = .ok make := by
  have haccept : (HeaderValue.ofString? CodecRegistry.default.acceptHeader).isSome = true := by
    decide +kernel
  obtain ⟨accept, haccept⟩ := Option.isSome_iff_exists.1 haccept
  exact exists_assemble rfl MediaType.isWildcard_json rfl CodecRegistry.supports_json
    MediaType.ofString?_json haccept

end ClientFactory

namespace ClientProxy

/-! ## Preparation -/

/-- What a call is made into but for its vector: a request, with a body or without, or the reason
why there is none. -/
inductive Prepares (proxy : ClientProxy) (method : String) (args : List Json) :
    Except ClientError ExchangeRequest → Prop where
  | unsupported (hget : proxy.routes.get? method = none) :
      Prepares proxy method args (.error (.unsupportedMethod proxy.interface method))
  | refused {bound : BoundMethod} {e : ArgumentError} (hget : proxy.routes.get? method = some bound)
      (hresolve : bound.resolve args = .error e) : Prepares proxy method args (.error (.argument e))
  | noWriter {bound : BoundMethod} {url : Url} {value : Json}
      (hget : proxy.routes.get? method = some bound)
      (hresolve : bound.resolve args = .ok (url, some value))
      (hcodecs : ∀ codec ∈ proxy.factory.codecs.codecs,
        codec.canWrite (valueTypeName value) proxy.factory.requestMediaType = false) :
      Prepares proxy method args (.error (.media (.noWriter (valueTypeName value)
        proxy.factory.requestMediaType.render)))
  | unwritten {bound : BoundMethod} {url : Url} {value : Json} {codec : Codec}
      {e : SerializationError} (hget : proxy.routes.get? method = some bound)
      (hresolve : bound.resolve args = .ok (url, some value))
      (hwriter : proxy.factory.codecs.writerFor? (valueTypeName value)
        proxy.factory.requestMediaType = some codec)
      (hwrite : codec.write value = .error e) :
      Prepares proxy method args (.error (.serialization e))
  | bare {bound : BoundMethod} {url : Url} (hget : proxy.routes.get? method = some bound)
      (hresolve : bound.resolve args = .ok (url, none)) :
      Prepares proxy method args (.ok ⟨bound.verb, url,
        proxy.factory.defaultHeaders.insert Headers.accept proxy.factory.accept, none⟩)
  | written {bound : BoundMethod} {url : Url} {value : Json} {codec : Codec} {body : Body}
      (hget : proxy.routes.get? method = some bound)
      (hresolve : bound.resolve args = .ok (url, some value))
      (hwriter : proxy.factory.codecs.writerFor? (valueTypeName value)
        proxy.factory.requestMediaType = some codec)
      (hwrite : codec.write value = .ok body) :
      Prepares proxy method args (.ok ⟨bound.verb, url,
        (proxy.factory.defaultHeaders.insert Headers.accept proxy.factory.accept).insert
          Headers.contentType proxy.factory.contentType, some body⟩)

section

variable {proxy : ClientProxy} {method : String} {args : List Json} {context : Option RequestVector}
  {world after : World} {request : ExchangeRequest} {e : ClientError}

/-- An argument is not written without a writer. -/
theorem encodeBody_of_writer_none {factory : ClientFactory} {value : Json}
    (h : factory.codecs.writerFor? (valueTypeName value) factory.requestMediaType = none) :
    encodeBody factory value = .error (.media (.noWriter (valueTypeName value)
      factory.requestMediaType.render)) := by
  simp only [encodeBody, h]

/-- An argument is written by the writer. -/
theorem encodeBody_of_writer_some {factory : ClientFactory} {value : Json} {codec : Codec}
    (h : factory.codecs.writerFor? (valueTypeName value) factory.requestMediaType = some codec) :
    encodeBody factory value = (codec.write value).mapError ClientError.serialization := by
  simp only [encodeBody, h]

/-- A call whose arguments are refused is not made into a request. -/
theorem prepare_of_resolve_error {bound : BoundMethod} {cause : ArgumentError}
    (hget : proxy.routes.get? method = some bound) (hresolve : bound.resolve args = .error cause) :
    proxy.prepare method args = .error (.argument cause) := by
  simp only [prepare, hget, hresolve]
  rfl

/-- A call without an argument for the body is made into a request without one. -/
theorem prepare_of_resolve_none {bound : BoundMethod} {url : Url}
    (hget : proxy.routes.get? method = some bound)
    (hresolve : bound.resolve args = .ok (url, none)) :
    proxy.prepare method args = .ok ⟨bound.verb, url,
      proxy.factory.defaultHeaders.insert Headers.accept proxy.factory.accept, none⟩ := by
  simp only [prepare, hget, hresolve]
  rfl

/-- A call with an argument for the body is made into a request if the argument is written. -/
theorem prepare_of_resolve_some {bound : BoundMethod} {url : Url} {value : Json}
    (hget : proxy.routes.get? method = some bound)
    (hresolve : bound.resolve args = .ok (url, some value)) :
    proxy.prepare method args = (encodeBody proxy.factory value).map fun body =>
      ⟨bound.verb, url,
        (proxy.factory.defaultHeaders.insert Headers.accept proxy.factory.accept).insert
          Headers.contentType proxy.factory.contentType, some body⟩ := by
  simp only [prepare, hget, hresolve, Except.mapError, ok_bind]
  cases encodeBody proxy.factory value <;> rfl

/-- Every call is made into one thing. -/
theorem prepares_iff {result : Except ClientError ExchangeRequest} :
    Prepares proxy method args result ↔ proxy.prepare method args = result := by
  constructor
  · intro h
    cases h with
    | unsupported hget =>
        rw [prepare, hget]
        rfl
    | refused hget hresolve => exact prepare_of_resolve_error hget hresolve
    | noWriter hget hresolve hcodecs =>
        rw [prepare_of_resolve_some hget hresolve,
          encodeBody_of_writer_none (CodecRegistry.writerFor?_none_iff.2 hcodecs)]
        rfl
    | unwritten hget hresolve hwriter hwrite =>
        rw [prepare_of_resolve_some hget hresolve, encodeBody_of_writer_some hwriter, hwrite]
        rfl
    | bare hget hresolve => exact prepare_of_resolve_none hget hresolve
    | written hget hresolve hwriter hwrite =>
        rw [prepare_of_resolve_some hget hresolve, encodeBody_of_writer_some hwriter, hwrite]
        rfl
  · rintro rfl
    cases hget : proxy.routes.get? method with
    | none =>
        rw [prepare, hget]
        exact .unsupported hget
    | some bound =>
        rcases hresolve : bound.resolve args with cause | ⟨url, _ | value⟩
        · rw [prepare_of_resolve_error hget hresolve]
          exact .refused hget hresolve
        · rw [prepare_of_resolve_none hget hresolve]
          exact .bare hget hresolve
        · rw [prepare_of_resolve_some hget hresolve]
          cases hwriter : proxy.factory.codecs.writerFor? (valueTypeName value)
              proxy.factory.requestMediaType with
          | none =>
              rw [encodeBody_of_writer_none hwriter]
              exact .noWriter hget hresolve (CodecRegistry.writerFor?_none_iff.1 hwriter)
          | some codec =>
              rw [encodeBody_of_writer_some hwriter]
              cases hwrite : codec.write value with
              | error cause => exact .unwritten hget hresolve hwriter hwrite
              | ok body => exact .written hget hresolve hwriter hwrite

/-- A call has no request exactly if it cannot be made into one, and then nothing happens. -/
theorem requestFor_eq_error_iff :
    proxy.requestFor method args context world = (.error e, after) ↔
      Prepares proxy method args (.error e) ∧ after = world := by
  rw [prepares_iff]
  cases hprepare : proxy.prepare method args with
  | error cause =>
      rw [requestFor_of_prepare_error hprepare, Prod.mk.injEq, Except.error.injEq,
        eq_comm (a := world)]
  | ok prepared =>
      rw [requestFor_of_prepare hprepare]
      exact ⟨nofun, nofun⟩

/-- Every request lists the media types that the client accepts. -/
theorem accept_of_prepare (h : proxy.prepare method args = .ok request) :
    request.headers.get? Headers.accept = some proxy.factory.accept := by
  cases prepares_iff.2 h with
  | bare hget hresolve => exact Headers.get?_insert_self ..
  | written hget hresolve hwriter hwrite =>
      rw [Headers.get?_insert_of_ne _ (by decide)]
      exact Headers.get?_insert_self ..

/-- A request that is sent lists the media types that the client accepts, and sending it leaves the
transports alone. -/
theorem accept_of_requestFor
    (h : proxy.requestFor method args context world = (.ok request, after)) :
    request.headers.get? Headers.accept = some proxy.factory.accept ∧
      after.links = world.links := by
  cases hprepare : proxy.prepare method args with
  | error e =>
      rw [requestFor_of_prepare_error hprepare] at h
      cases h
  | ok prepared =>
      obtain ⟨headers, sources, haddressed, hheaders⟩ := addressed_eq proxy prepared context world
      rw [requestFor_of_prepare hprepare, haddressed] at h
      cases h
      exact ⟨(hheaders _ (by decide)).trans (accept_of_prepare hprepare), rfl⟩

end

/-! ## Arguments that are submitted -/

variable {proxy : ClientProxy} {name : String} {value : Json}

/-- The request that submits an argument: null has no body, and then no media type. -/
def submitted (proxy : ClientProxy) (url : Url) (value : Json) : ExchangeRequest :=
  let headers := Headers.empty.insert Headers.accept proxy.factory.accept
  if value.isNull then ⟨.post, url, headers, none⟩
  else ⟨.post, url, headers.insert Headers.contentType ⟨Utf8.encodeString "application/json"⟩,
    some (Utf8.encodeString value.compact)⟩

/-- What is not null is submitted as JSON. -/
theorem submitted_of_ne_null (proxy : ClientProxy) (url : Url) (h : value ≠ .null) :
    ∃ headers, proxy.submitted url value =
        ⟨.post, url, headers, some (Utf8.encodeString value.compact)⟩ ∧
      headers.get? Headers.contentType = some ⟨Utf8.encodeString "application/json"⟩ := by
  have hnull : value.isNull = false := by
    cases value with
    | null => exact absurd rfl h
    | _ => rfl
  unfold submitted
  rw [hnull]
  exact ⟨_, rfl, Headers.get?_insert_self ..⟩

/-- A body is written in JSON by a client that sends JSON. -/
theorem encodeBody_json {factory : ClientFactory} (hcodecs : factory.codecs = .default)
    (hmedia : factory.requestMediaType = .json) (value : Json) :
    encodeBody factory value = .ok (Utf8.encodeString value.compact) := by
  have hwriter : factory.codecs.writerFor? (valueTypeName value) factory.requestMediaType =
      some (.json false) := by
    rw [hcodecs, hmedia, CodecRegistry.writerFor?_json]
  rw [encodeBody_of_writer_some hwriter]
  rfl

/-- The only argument of a method with a fixed URL is its body, unless it is null. -/
theorem resolve_submit {url : Url} {extractor : UriExtractor}
    (hcached : extractor.cached = some url) (name : String) (value : Json) :
    BoundMethod.resolve ⟨name, .post, 1, extractor, some 0⟩ [value] =
      .ok (url, if value.isNull then none else some value) := by
  unfold BoundMethod.resolve UriExtractor.extract
  rw [hcached]
  cases value <;> rfl

/-- A method with a fixed URL and its only argument in the body submits the argument. -/
theorem prepare_submit {url : Url} {extractor : UriExtractor}
    (hcodecs : proxy.factory.codecs = .default) (hmedia : proxy.factory.requestMediaType = .json)
    (hheaders : proxy.factory.defaultHeaders = .empty)
    (hcontent : proxy.factory.contentType = ⟨Utf8.encodeString "application/json"⟩)
    (hget : proxy.routes.get? name = some ⟨name, .post, 1, extractor, some 0⟩)
    (hcached : extractor.cached = some url) (value : Json) :
    proxy.prepare name [value] = .ok (proxy.submitted url value) := by
  have hresolve := resolve_submit hcached name value
  unfold submitted
  cases hnull : value.isNull with
  | true =>
      rw [hnull] at hresolve
      rw [prepare_of_resolve_none hget hresolve, hheaders]
      rfl
  | false =>
      rw [hnull] at hresolve
      rw [prepare_of_resolve_some hget hresolve, encodeBody_json hcodecs hmedia, hheaders, hcontent]
      rfl

/-- A client with the default settings that is bound to a path of one word submits an argument to
the base with the word as its last segment. -/
theorem requestFor_submit {transport : Transport} {make : Nat → ClientFactory} {source : Nat}
    (hassemble : ClientFactory.assemble ⟨.default, none, some transport⟩ = .ok make)
    (hfactory : proxy.factory = make source) (hword : IsWord name) {baseUri param : String}
    {rows : List RouteDecl} (hbind : RouteTable.bind baseUri rows = .ok proxy.routes)
    (hrow : RouteDecl.submit name param ∈ rows) (value : Json) (context : Option RequestVector)
    (world : World) :
    let (request, sent) := proxy.addressed
      (proxy.submitted (proxy.routes.base.url.appendSegments [name] false) value) context world
    proxy.requestFor name [value] context world = (.ok request, sent) := by
  obtain ⟨-, hcodecs, hmedia, hheaders, hcontent, -⟩ :=
    ClientFactory.assemble_default hassemble source
  rw [← hfactory] at hcodecs hmedia hheaders hcontent
  obtain ⟨-, bound, hbound, hget⟩ := RouteTable.get?_of_bind hbind hrow
  cases (BoundMethod.bind_submit hword _ param).symm.trans hbound
  exact requestFor_of_prepare (prepare_submit hcodecs hmedia hheaders hcontent hget rfl value)
    context world

end ClientProxy

/-- A method that is submitted to behind a base with a path has a URL that is a target. -/
theorem RouteTable.exists_bind_echo :
    ∃ table, bind "http://host/api" [.submit "echo" "value"] = .ok table ∧
      table.base.url.scheme = "http" ∧ table.base.url.query = none ∧
      Target.parse (table.base.url.appendSegments ["echo"] false).render =
        .ok ⟨"/api/echo", none⟩ := by
  let base : BaseUri :=
    ⟨⟨"http", "", some (.name "host"), none, false, .segments ["api"], none, none⟩, rfl, ⟨_, rfl⟩⟩
  have hbase : BaseUri.parse "http://host/api" = .ok base := by rfl
  have hrender : (base.url.appendSegments ["echo"] false).render = "http://host/api/echo" := by
    rfl
  obtain ⟨table, hbind, hsame⟩ := exists_bind_submit (by decide : IsWord "echo") hbase "value"
  refine ⟨table, hbind, ?_⟩
  rw [hsame, hrender]
  exact ⟨rfl, rfl, by rfl⟩

/-- That target states a method `echo`. -/
theorem RpcRegistry.get?_echo {method : RpcMethod} (h : method.name = "echo") :
    get? ⟨[method]⟩ (HttpDispatcher.methodName .default ⟨"/api/echo", none⟩) = some method := by
  have hname : HttpDispatcher.methodName .default ⟨"/api/echo", none⟩ = "echo" := by
    decide
  rw [hname]
  exact List.find?_cons_of_pos (beq_iff_eq.2 h)

end HttpRpc
