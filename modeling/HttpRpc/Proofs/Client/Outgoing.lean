import HttpRpc.Proofs.Client.Request
import HttpRpc.Proofs.Codec.BuiltIn
import HttpRpc.Proofs.Trace.Reachable

/-!
# Requests as they go out

A call that is made into a request has the headers of the settings, but for those that tell its
vector and the media types of its body and of responses, and takes one number if it is made in a
context. A call that is not made into a request changes nothing and exchanges nothing
(`requestFor_decided`).
-/

namespace HttpRpc

open HttpRpc.Text
open HttpDispatcher (BuiltIn)

/-! ## Arguments -/

namespace BoundMethod

variable {bound : BoundMethod} {args : List Json}

/-- A call that is resolved has the URL of the method and its argument for the body. -/
theorem eq_of_resolve {url : Url} {argument : Option Json}
    (h : bound.resolve args = .ok (url, argument)) :
    bound.uri.extract args = .ok url ∧ argument = bound.body? args := by
  unfold resolve at h
  split at h
  · cases h
  · obtain ⟨found, hextract, h⟩ := bind_eq_ok.1 h
    cases h
    exact ⟨hextract, rfl⟩

/-- The body is the argument with that role, unless it is null. -/
theorem body?_eq_some_iff {value : Json} :
    bound.body? args = some value ↔
      ∃ position, bound.bodyPosition = some position ∧ args[position]? = some value ∧
        value ≠ .null := by
  have hnull : (!value.isNull) = true ↔ value ≠ .null := by
    cases value <;> simp [Json.isNull]
  simp only [body?, argument?, Option.bind_eq_some_iff, Option.filter_eq_some_iff, hnull]

end BoundMethod

/-! ## Bodies -/

namespace ClientProxy

/-- The built-in codecs write every value under the name of its type, if they write that type. -/
theorem exists_write_of_builtIn {codec : Codec} (h : BuiltIn codec) {value : Json}
    {media : MediaType} (hwrites : codec.canWrite (valueTypeName value) media = true) :
    ∃ body, codec.write value = .ok body := by
  cases h with
  | json pretty => exact ⟨_, rfl⟩
  | text =>
      have hserved := (Codec.canWrite_text_iff.1 hwrites).2
      have hstructured : ¬("serde_json::value::Value" ∈ Codec.stringTypes ∨
          "serde_json::value::Value" ∈ Codec.scalarTypes) := by decide
      cases value with
      | null => exact absurd hserved hstructured
      | bool value => exact ⟨_, rfl⟩
      | number value => exact ⟨_, rfl⟩
      | string text => exact ⟨_, rfl⟩
      | array items => exact absurd hserved hstructured
      | object fields => exact absurd hserved hstructured

/-- A writer among built-in codecs writes the value that it was found for. -/
theorem exists_write_of_writerFor? {codecs : CodecRegistry}
    (hbuiltIn : ∀ codec ∈ codecs.codecs, BuiltIn codec) {value : Json} {media : MediaType}
    {codec : Codec} (h : codecs.writerFor? (valueTypeName value) media = some codec) :
    ∃ body, codec.write value = .ok body := by
  have hwrites := List.find?_some h
  exact exists_write_of_builtIn (hbuiltIn codec (List.mem_of_find?_eq_some h)) hwrites

end ClientProxy

/-! ## Requests -/

/-- The header has one value, which is the text. -/
def Headers.Single (headers : Headers) (name text : String) : Prop :=
  ∃ value, HeaderValue.ofString? text = some value ∧ headers.values name = [value]

/-- The request of a call to a method by a client with the settings: made in the context, and with
the number that the client gives next. -/
structure Outgoing (settings : FactorySettings) (bound : BoundMethod) (args : List Json)
    (context : Option RequestVector) (number : UInt64) (request : ExchangeRequest) : Prop where
  verb_eq : request.verb = bound.verb
  extract_eq : bound.uri.extract args = .ok request.url
  body_iff : request.body.isSome = true ↔ ∃ position value,
    bound.bodyPosition = some position ∧ args[position]? = some value ∧ value ≠ .null
  written {value : Json} : bound.body? args = some value → ∃ codec body,
    (settings.codecs.getD .default).writerFor? (ClientProxy.valueTypeName value)
      settings.config.requestMediaType = some codec ∧
    codec.write value = .ok body ∧ request.body = some body
  accept : request.headers.Single Headers.accept (settings.codecs.getD .default).acceptHeader
  contentType : request.body.isSome = true →
    request.headers.Single Headers.contentType settings.config.requestMediaType.render
  vector {parent : RequestVector} : context = some parent →
    request.headers.Single Headers.requestVector (parent.child number).render
  kept {name : String} : name ≠ Headers.accept →
    (request.body.isSome = true → name ≠ Headers.contentType) →
    (context.isSome = true → name ≠ Headers.requestVector) →
    request.headers.values name = settings.config.defaultHeaders.values name

namespace ClientProxy

section

variable {settings : FactorySettings} {make : Nat → ClientFactory} {proxy : ClientProxy}
  {source : Nat} {method : String} {args : List Json} {context : Option RequestVector}
  {world after : World} {request : ExchangeRequest}

/-- What a call is made into goes out as it is without a context. -/
theorem exists_outgoing_of_prepares (hassemble : ClientFactory.assemble settings = .ok make)
    (hfactory : proxy.factory = make source) (h : Prepares proxy method args (.ok request))
    (number : UInt64) :
    ∃ bound, proxy.routes.get? method = some bound ∧
      Outgoing settings bound args none number request := by
  obtain ⟨-, hcodecs, hmedia, hheaders, hcontent, haccept⟩ :=
    ClientFactory.assemble_eq_ok hassemble source
  rw [← hfactory] at hcodecs hmedia hheaders hcontent haccept
  rw [hcodecs] at haccept
  rw [hmedia] at hcontent
  cases h with
  | @bare bound url hget hresolve =>
      obtain ⟨hextract, hbody⟩ := BoundMethod.eq_of_resolve hresolve
      refine ⟨bound, hget, rfl, hextract, ⟨nofun, ?_⟩, fun hvalue => ?_, ⟨_, haccept, ?_⟩, nofun,
        nofun, fun hname _ _ => ?_⟩
      · rintro ⟨position, value, hvalue⟩
        cases hbody.trans (BoundMethod.body?_eq_some_iff.2 ⟨position, hvalue⟩)
      · cases hbody.trans hvalue
      · exact Headers.values_insert_self ..
      · rw [Headers.values_insert_of_ne _ hname, hheaders]
  | @written bound url value codec body hget hresolve hwriter hwrite =>
      obtain ⟨hextract, hbody⟩ := BoundMethod.eq_of_resolve hresolve
      rw [hcodecs, hmedia] at hwriter
      have hargument : bound.body? args = some value := hbody.symm
      refine ⟨bound, hget, rfl, hextract, ⟨fun _ => ?_, fun _ => rfl⟩, fun hvalue => ?_,
        ⟨_, haccept, ?_⟩, fun _ => ⟨_, hcontent, ?_⟩, nofun, fun hname htype _ => ?_⟩
      · obtain ⟨position, hvalue⟩ := BoundMethod.body?_eq_some_iff.1 hargument
        exact ⟨position, value, hvalue⟩
      · cases hargument.symm.trans hvalue
        exact ⟨codec, body, hwriter, hwrite, rfl⟩
      · rw [Headers.values_insert_of_ne _ (by decide)]
        exact Headers.values_insert_self ..
      · exact Headers.values_insert_self ..
      · rw [Headers.values_insert_of_ne _ (htype rfl), Headers.values_insert_of_ne _ hname,
          hheaders]

/-- A request that is sent under a vector goes out as one in its context. -/
theorem outgoing_withVector {bound : BoundMethod} {number : UInt64} {parent : RequestVector}
    (hparent : parent.IsValid) (h : Outgoing settings bound args none number request) :
    Outgoing settings bound args (some parent) number
      (withVector request (parent.child number)) := by
  obtain ⟨value, hvalue, -⟩ := (hparent.child number).exists_ofString?_render
  rw [withVector, hvalue]
  refine ⟨h.verb_eq, h.extract_eq, h.body_iff, h.written, ?_, fun hbody => ?_, ?_,
    fun hname htype hvector => ?_⟩
  · obtain ⟨found, hfound, hvalues⟩ := h.accept
    exact ⟨found, hfound, (Headers.values_insert_of_ne _ (by decide)).trans hvalues⟩
  · obtain ⟨found, hfound, hvalues⟩ := h.contentType hbody
    exact ⟨found, hfound, (Headers.values_insert_of_ne _ (by decide)).trans hvalues⟩
  · rintro _ ⟨⟩
    exact ⟨value, hvalue, Headers.values_insert_self ..⟩
  · exact (Headers.values_insert_of_ne _ (hvector rfl)).trans (h.kept hname htype nofun)

/-- A call that is made into a request sends it as one of its method in its context, under the next
number of the client if there is a context. -/
theorem exists_outgoing_of_requestFor (hassemble : ClientFactory.assemble settings = .ok make)
    (hfactory : proxy.factory = make source) {number : UInt64}
    (hsource : world.sources[source]? = some ⟨number⟩)
    (hcontext : ∀ parent, context = some parent → RequestVector.Reachable parent)
    (h : proxy.requestFor method args context world = (.ok request, after)) :
    ∃ bound, proxy.routes.get? method = some bound ∧
      Outgoing settings bound args context number request ∧
      (context = none → after = world) ∧
      (context.isSome = true →
        after = { world with sources := world.sources.set source ⟨number + 1⟩ }) := by
  cases hprepare : proxy.prepare method args with
  | error cause =>
      rw [requestFor_of_prepare_error hprepare] at h
      cases h
  | ok prepared =>
      obtain ⟨bound, hget, houtgoing⟩ :=
        exists_outgoing_of_prepares hassemble hfactory (prepares_iff.2 hprepare) number
      have hnumbers : proxy.factory.source = source :=
        hfactory ▸ ClientFactory.source_of_assemble hassemble source
      have hnext : world.sources.getD source .new = ⟨number⟩ := by
        rw [List.getD_eq_getElem?_getD, hsource, Option.getD_some]
      rw [requestFor_of_prepare hprepare] at h
      cases context with
      | none =>
          cases h
          exact ⟨bound, hget, houtgoing, fun _ => rfl, nofun⟩
      | some parent =>
          simp only [addressed, hnumbers, hnext] at h
          cases h
          exact ⟨bound, hget, outgoing_withVector (hcontext parent rfl).isValid houtgoing, nofun,
            fun _ => rfl⟩

/-- A call is not made into a request exactly if its method is unknown, its arguments are refused,
or its body has no writer or is not written; then nothing happens, and nothing is exchanged through
any transport. Otherwise the request is that of the method, it takes the next number if there is a
context, and nothing else happens. A client with the built-in codecs writes whatever it has a writer
for. -/
theorem requestFor_decided (hassemble : ClientFactory.assemble settings = .ok make)
    (hfactory : proxy.factory = make source) {number : UInt64}
    (hsource : world.sources[source]? = some ⟨number⟩)
    (hcontext : ∀ parent, context = some parent → RequestVector.Reachable parent) (method : String)
    (args : List Json) :
    (∀ e after, proxy.requestFor method args context world = (.error e, after) ↔
      Prepares proxy method args (.error e) ∧ after = world) ∧
    (∀ e after, proxy.requestFor method args context world = (.error e, after) →
      ∀ transport typeName shape,
        invoke { proxy with factory := { proxy.factory with transport } } typeName shape method args
          context world = (.error e, world)) ∧
    (∀ request after, proxy.requestFor method args context world = (.ok request, after) →
      ∃ bound, proxy.routes.get? method = some bound ∧
        Outgoing settings bound args context number request ∧
        (context = none → after = world) ∧
        (context.isSome = true →
          after = { world with sources := world.sources.set source ⟨number + 1⟩ })) ∧
    ((∀ codec ∈ (settings.codecs.getD .default).codecs, BuiltIn codec) →
      (∀ value media codec, (settings.codecs.getD .default).writerFor? (valueTypeName value) media =
        some codec → ∃ body, codec.write value = .ok body) ∧
      ∀ cause after, proxy.requestFor method args context world ≠
        (.error (.serialization cause), after)) := by
  obtain ⟨-, hcodecs, -⟩ := ClientFactory.assemble_eq_ok hassemble source
  rw [← hfactory] at hcodecs
  refine ⟨fun e after => requestFor_eq_error_iff, fun e after h transport typeName shape => ?_,
    fun request after => exists_outgoing_of_requestFor hassemble hfactory hsource hcontext,
    fun hbuiltIn => ⟨fun value media codec hwriter => ?_, fun cause after h => ?_⟩⟩
  · obtain ⟨-, rfl⟩ := requestFor_eq_error_iff.1 h
    -- The transport plays no part in the making of a request.
    let other : ClientProxy := { proxy with factory := { proxy.factory with transport } }
    have hother : other.requestFor method args context after = (.error e, after) := h
    exact invoke_of_requestFor_error hother typeName shape
  · exact exists_write_of_writerFor? hbuiltIn hwriter
  · obtain ⟨hcause, -⟩ := requestFor_eq_error_iff.1 h
    cases hcause with
    | unwritten hget hresolve hwriter hwrite =>
        rw [hcodecs] at hwriter
        obtain ⟨body, hbody⟩ := exists_write_of_writerFor? hbuiltIn hwriter
        cases hwrite.symm.trans hbody

/-- A call in a context by a client with the default settings that has given four numbers before,
and one without its argument. -/
theorem requestFor_decided_echo :
    let world : World := { World.initial with sources := [⟨5⟩] }
    ∃ make table request, ClientFactory.assemble ⟨.default, none, some (.scripted 0)⟩ = .ok make ∧
      RouteTable.bind "http://host/api" [.submit "echo" "value"] = .ok table ∧
      requestFor ⟨"Echo", table, make 0⟩ "echo" [.bool true] (some ⟨"r", []⟩) world =
        (.ok request, { World.initial with sources := [⟨6⟩] }) ∧
      request.headers.Single Headers.requestVector "r.5" ∧
      request.headers.values Headers.contentType = [⟨Utf8.encodeString "application/json"⟩] ∧
      invoke ⟨"Echo", table, make 0⟩ "T" .any "echo" [] (some ⟨"r", []⟩) world =
        (.error (.argument (.arityMismatch "echo" 1 0)), world) := by
  intro world
  obtain ⟨make, hassemble⟩ := ClientFactory.exists_assemble_default (.scripted 0)
  obtain ⟨table, hbind, -⟩ := RouteTable.exists_bind_echo
  let proxy : ClientProxy := ⟨"Echo", table, make 0⟩
  let submitted := proxy.submitted (table.base.url.appendSegments ["echo"] false) (.bool true)
  obtain ⟨-, bound, hbound, hget⟩ := RouteTable.get?_of_bind hbind List.mem_cons_self
  cases (BoundMethod.bind_submit (by decide) table.base "value").symm.trans hbound
  have hfactory : proxy.factory = make 0 := rfl
  have hsource : world.sources[0]? = some ⟨5⟩ := rfl
  have hreachable : RequestVector.Reachable ⟨"r", []⟩ :=
    .parse (by decide : RequestVector.parse "r" = .ok ⟨"r", []⟩)
  have hcontext (parent : RequestVector) (h : some ⟨"r", []⟩ = some parent) :
      RequestVector.Reachable parent := Option.some.inj h ▸ hreachable
  have hdecided := requestFor_decided hassemble hfactory hsource hcontext "echo"
  have hrequest : proxy.requestFor "echo" [.bool true] (some ⟨"r", []⟩) world =
      (.ok (proxy.addressed submitted (some ⟨"r", []⟩) world).1,
        (proxy.addressed submitted (some ⟨"r", []⟩) world).2) :=
    requestFor_submit hassemble rfl (by decide) hbind List.mem_cons_self (.bool true) _ world
  obtain ⟨found, hfound, houtgoing, -, hafter⟩ := (hdecided [.bool true]).2.2.1 _ _ hrequest
  cases hget.symm.trans hfound
  have hvector : (RequestVector.child ⟨"r", []⟩ 5).render = "r.5" := by decide
  have hsingle := houtgoing.vector rfl
  rw [hvector] at hsingle
  have hbody := houtgoing.body_iff.2 ⟨0, .bool true, rfl, rfl, nofun⟩
  obtain ⟨value, hvalue, hvalues⟩ := houtgoing.contentType hbody
  cases MediaType.ofString?_json.symm.trans hvalue
  have hunmade : proxy.requestFor "echo" [] (some ⟨"r", []⟩) world =
      (.error (.argument (.arityMismatch "echo" 1 0)), world) :=
    ((hdecided []).1 _ _).2 ⟨.refused hget rfl, rfl⟩
  exact ⟨make, table, _, hassemble, hbind, hrequest.trans (congrArg _ (hafter rfl)),
    hsingle, hvalues,
    (hdecided []).2.1 _ _ hunmade (make 0).transport "T" .any⟩

end

end ClientProxy

end HttpRpc
