import HttpRpc.Proofs.Client.Delivery
import HttpRpc.Proofs.Http.Target
import HttpRpc.Proofs.Service.Decision
import HttpRpc.Proofs.Service.Naming
import HttpRpc.Proofs.Url.Parsed

/-!
# What becomes of an argument

A client with the default settings submits an argument to a path of one word. A server that receives
the request finds the word and calls the method of that name with the argument, unless that is null:
null is sent without a body and without a media type, and a request without a media type is refused
before its method is looked for (`invoke_submitted`).
-/

namespace HttpRpc

open HttpRpc.Text

/-! ## The way to a word -/

/-- A word is appended to a URL as its last segment, behind segments that were there before. -/
theorem Url.appendSegments_word {url : Url} {segments : List String} {name : String}
    (hword : IsWord name) (hscheme : url.scheme = "http") (hpath : url.path = .segments segments) :
    ∃ front, (∀ segment ∈ front, segment ∈ segments) ∧
      url.appendSegments [name] false = { url with path := .segments (front ++ [name]) } := by
  have hfile : (url.scheme == "file") = false := by
    rw [hscheme]
    decide
  refine ⟨entered (dropFinalEmpty segments), fun segment hsegment => ?_, ?_⟩
  · unfold entered at hsegment
    split at hsegment
    · cases hsegment
    · unfold dropFinalEmpty at hsegment
      split at hsegment
      · exact (List.dropLast_sublist segments).subset hsegment
      · exact hsegment
  · simp only [appendSegments, hpath, hfile, List.foldl_cons, List.foldl_nil,
      pushSegment_of_isPlace _ hword.isPlace, hword.segmentOf_eq, Bool.false_eq_true, if_false]

/-- The last segment of a path that is a word states the method. -/
theorem HttpDispatcher.methodName_word {name : String} (hword : IsWord name)
    (config : DispatcherConfig) (front : List String) :
    methodName config ⟨Url.renderPath (.segments (front ++ [name])), none⟩ = name := by
  have hpath : Url.renderPath (.segments (front ++ [name])) =
      Url.renderPath (.segments front) ++ "/" ++ name := by
    rw [Url.renderPath_append, String.append_assoc]
    simp [Url.renderPath]
  exact methodName_of_path rfl hpath (hword.not_mem (by decide)) hword.1

/-- A server that receives a request for a word behind a base finds the word. -/
theorem methodName_of_target {baseUri name : String} {base : BaseUri} {target : Target}
    (hbase : BaseUri.parse baseUri = .ok base) (hscheme : base.url.scheme = "http")
    (hquery : base.url.query = none) (hword : IsWord name)
    (htarget : Target.parse (base.url.appendSegments [name] false).render = .ok target)
    (config : DispatcherConfig) : HttpDispatcher.methodName config target = name := by
  obtain ⟨⟨server, hauthority, hserver⟩, segments, hpath, hsegments⟩ :=
    Url.parse_http (BaseUri.url_of_parse hbase) hscheme
  obtain ⟨front, hfront, hurl⟩ := Url.appendSegments_word hword hscheme hpath
  have hrender : (base.url.appendSegments [name] false).render =
      "http:" ++ "//" ++ server ++ Url.renderPath (.segments (front ++ [name])) := by
    have hsame : ({ base.url with path := .segments (front ++ [name]) } : Url).renderAuthority =
        "//" ++ server := hauthority
    rw [hurl, Url.render, hsame]
    simp only [hscheme, hquery, base.fragment_eq_none, String.append_empty]
    rw [← String.append_assoc]
    rfl
  have hinPath : Url.InPath (Url.renderPath (.segments (front ++ [name]))) := by
    refine Url.inPath_renderPath fun segment hsegment => ?_
    rcases List.mem_append.1 hsegment with hsegment | hsegment
    · exact hsegments segment (hfront segment hsegment)
    · rw [List.mem_singleton.1 hsegment]
      intro c hc
      constructor
      · rintro rfl
        exact hword.not_mem (by decide) hc
      · rintro rfl
        exact hword.not_mem (by decide) hc
  rw [hrender] at htarget
  rw [Target.parse_http hserver hinPath (Url.head?_renderPath (by simp)) htarget]
  exact HttpDispatcher.methodName_word hword config front

/-! ## Calls -/

namespace ClientProxy

section

variable {proxy : ClientProxy} {registry : RpcRegistry} {link : Nat} {name : String}
  {args : List Json} {context : Option RequestVector} {world sent : World}
  {request : ExchangeRequest} {target : Target} {headers : Headers}

/-- A request without a media type and without a body comes back as refused. -/
theorem invoke_untyped
    (htransport : proxy.factory.transport = .memory link (HttpDispatcher.new registry).dispatch)
    (hopen : sent.IsOpen link)
    (hrequest : proxy.requestFor name args context world = (.ok request, sent))
    (hreceived : request.toRequest = .ok ⟨.post, target, headers, []⟩)
    (hcontent : headers.get? Headers.contentType = none) (typeName : String) (shape : Shape) :
    let received : Request := ⟨.post, target, headers, []⟩
    ∃ e, e.status? = some ⟨415⟩ ∧
      proxy.invoke typeName shape name args context world =
        (.error e, ((HttpDispatcher.entered received sent).logged ((Error.dispatch
          (.unsupportedMediaType .missingContentType)).event
            (some (HttpDispatcher.vectorOf received sent)))).answered link ⟨415⟩) := by
  intro received
  let response := (HttpDispatcher.new registry).errorResponse
    (HttpDispatcher.vectorOf received sent) (HttpDispatcher.acceptedTypes headers)
    (.unsupportedMediaType .missingContentType)
  have hstatus : response.status = ⟨415⟩ := (HttpDispatcher.errorResponse_tells ..).1
  have hfails : response.status.isSuccess = false := by
    rw [hstatus]
    rfl
  obtain ⟨e, he, hsays⟩ := interpret_failure proxy.factory typeName shape hfails
  have hdispatch := HttpDispatcher.dispatch_of_prepare_error
    (HttpDispatcher.prepare_untyped registry target hcontent) context sent
  refine ⟨e, hsays.trans (congrArg some hstatus), ?_⟩
  rw [invoke_of_handler htransport hopen hrequest hreceived hdispatch]
  exact Prod.ext he (congrArg (World.answered _ link) hstatus)

/-- A value that is sent as JSON to a method is what its invoker is run with. -/
theorem invoke_json {method : RpcMethod} {invoker : Invoker} {value : Json}
    (htransport : proxy.factory.transport = .memory link (HttpDispatcher.new registry).dispatch)
    (hopen : sent.IsOpen link)
    (hrequest : proxy.requestFor name args context world = (.ok request, sent))
    (hreceived : request.toRequest =
      .ok ⟨.post, target, headers, Utf8.encodeString value.compact⟩)
    (hcontent : headers.get? Headers.contentType = some ⟨Utf8.encodeString "application/json"⟩)
    (hmethod : registry.get? (HttpDispatcher.methodName .default target) = some method)
    (hinvoker : method.invoker = some invoker) (hreadable : value.Readable)
    (hsize : (Utf8.encodeString value.compact).length ≤ DispatcherConfig.default.maxBodyBytes)
    (typeName : String) (shape : Shape) {outcome : Outcome} {after : World} :
    let received : Request := ⟨.post, target, headers, Utf8.encodeString value.compact⟩
    let vector := HttpDispatcher.vectorOf received sent
    let (response, final) := (HttpDispatcher.new registry).finished received vector
      ((HttpDispatcher.new registry).answer received method outcome) after
    invoker value (some vector) (HttpDispatcher.entered received sent) = (outcome, after) →
      proxy.invoke typeName shape name args context world =
        (interpret proxy.factory typeName shape response,
          final.answered link response.status) := by
  intro received vector hrun
  have hprepare := HttpDispatcher.prepare_json hmethod hcontent hreadable hsize
  have hdispatch := HttpDispatcher.dispatch_of_prepare_ok hprepare hinvoker context hrun
  exact invoke_of_handler htransport hopen hrequest hreceived hdispatch

end

/-- A method that is submitted to under its name is called once with the argument exactly if the
argument is not null and the URL can be received. Null is sent without a media type, and the request
is refused; a URL that is no target is not received. -/
theorem invoke_submitted {strict : Bool} {decls : List RpcMethod} {registry : RpcRegistry}
    (hbuild : RpcRegistry.build strict decls = .ok registry) {name : String} {method : RpcMethod}
    (hmethod : registry.get? name = some method) (hword : IsWord name) {link source : Nat}
    {make : Nat → ClientFactory} {proxy : ClientProxy}
    (hassemble : ClientFactory.assemble
      ⟨.default, none, some (.memory link (HttpDispatcher.new registry).dispatch)⟩ = .ok make)
    (hfactory : proxy.factory = make source) {baseUri param : String} {rows : List RouteDecl}
    (hbind : RouteTable.bind baseUri rows = .ok proxy.routes)
    (hrow : RouteDecl.submit name param ∈ rows)
    (hscheme : proxy.routes.base.url.scheme = "http")
    (hquery : proxy.routes.base.url.query = none) {value : Json} (hreadable : value.Readable)
    (hsize : (Utf8.encodeString value.compact).length ≤ DispatcherConfig.default.maxBodyBytes)
    {world : World} (hopen : world.IsOpen link) (typeName : String) (shape : Shape)
    (context : Option RequestVector) :
    let dispatcher := HttpDispatcher.new registry
    let url := proxy.routes.base.url.appendSegments [name] false
    let (request, sent) := proxy.addressed (proxy.submitted url value) context world
    (∀ e, Target.parse url.render = .error e →
      proxy.invoke typeName shape name [value] context world =
        (.error (.transport (.invalidRequest e.message)), sent)) ∧
    ∀ target, Target.parse url.render = .ok target →
      let received : Request := ⟨.post, target, request.headers, request.body.getD []⟩
      let vector := HttpDispatcher.vectorOf received sent
      let start := HttpDispatcher.entered received sent
      (value = .null → ∃ e, e.status? = some ⟨415⟩ ∧
        proxy.invoke typeName shape name [value] context world =
          (.error e, (start.logged ((Error.dispatch
            (.unsupportedMediaType .missingContentType)).event (some vector))).answered link
              ⟨415⟩)) ∧
      (value ≠ .null → ∃ invoker, method.invoker = some invoker ∧
        ∀ outcome after, invoker value (some vector) start = (outcome, after) →
          let (response, final) := dispatcher.finished received vector
            (dispatcher.answer received method outcome) after
          proxy.invoke typeName shape name [value] context world =
            (interpret proxy.factory typeName shape response,
              final.answered link response.status)) := by
  intro dispatcher url
  have hrequest := requestFor_submit hassemble hfactory hword hbind hrow value context world
  obtain ⟨headers, sources, haddressed, hsame⟩ :=
    addressed_eq proxy (proxy.submitted url value) context world
  rw [haddressed] at hrequest ⊢
  have htransport := (ClientFactory.assemble_default hassemble source).1
  rw [← hfactory] at htransport
  -- Sending takes a number from a source at most, so the transport is still open.
  have hlink : ({ world with sources } : World).IsOpen link := hopen
  have hurl : (proxy.submitted url value).url = url := by
    unfold submitted
    cases value.isNull <;> rfl
  refine ⟨fun e htarget => ?unreceived, fun target htarget =>
    ⟨fun hnull => ?refused, fun hvalue => ?called⟩⟩
  case unreceived =>
    refine invoke_of_target_error htransport hlink hrequest ?_
    rw [ExchangeRequest.toRequest, hurl, htarget]
    rfl
  case refused =>
    subst hnull
    have hreceived : ExchangeRequest.toRequest
        { proxy.submitted url .null with headers } = .ok ⟨.post, target, headers, []⟩ := by
      rw [ExchangeRequest.toRequest, hurl, htarget]
      rfl
    have hcontent : headers.get? Headers.contentType = none :=
      (hsame _ (by decide)).trans (Headers.get?_insert_of_ne _ (by decide))
    exact invoke_untyped htransport hlink hrequest hreceived hcontent typeName shape
  case called =>
    obtain ⟨stated, hsubmitted, hcontent⟩ := submitted_of_ne_null proxy url hvalue
    rw [hsubmitted] at hrequest hsame ⊢
    have hreceived : ExchangeRequest.toRequest
        ⟨.post, url, headers, some (Utf8.encodeString value.compact)⟩ =
          .ok ⟨.post, target, headers, Utf8.encodeString value.compact⟩ := by
      rw [ExchangeRequest.toRequest, htarget]
      rfl
    have hfound : registry.get? (HttpDispatcher.methodName .default target) = some method := by
      rw [methodName_of_target (RouteTable.get?_of_bind hbind hrow).1 hscheme hquery hword htarget]
      exact hmethod
    obtain ⟨invoker, hinvoker⟩ := RpcRegistry.invoker_of_get? hbuild hmethod
    refine ⟨invoker, hinvoker, fun outcome after hrun => ?_⟩
    exact invoke_json htransport hlink hrequest hreceived ((hsame _ (by decide)).trans hcontent)
      hfound hinvoker hreadable hsize typeName shape hrun

/-- A method that reports its calls is called once with what is not null. -/
theorem invoke_submitted_true :
    let echo : RpcMethod := ⟨"echo", 1, "T", "T", some fun input => do
      Run.log ⟨.info, "called", []⟩
      return .value input⟩
    ∃ make table, ClientFactory.assemble ⟨.default, none,
        some (.memory 0 (HttpDispatcher.new ⟨[echo]⟩).dispatch)⟩ = .ok make ∧
      RouteTable.bind "http://host/api" [.submit "echo" "value"] = .ok table ∧
      (invoke ⟨"Echo", table, make 0⟩ "serde_json::value::Value" .any "echo" [.bool true] none
          { World.initial with links := [⟨0, false⟩] }).2.log.map LogEvent.message =
        ["dispatching", "called", "memory exchange complete", "exchange complete"] := by
  intro echo
  have hbuild : RpcRegistry.build true [echo] = .ok ⟨[echo]⟩ := by rfl
  obtain ⟨make, hassemble⟩ := ClientFactory.exists_assemble_default
    (.memory 0 (HttpDispatcher.new ⟨[echo]⟩).dispatch)
  obtain ⟨table, hbind, hscheme, hquery, htarget⟩ := RouteTable.exists_bind_echo
  refine ⟨make, table, hassemble, hbind, ?_⟩
  let proxy : ClientProxy := ⟨"Echo", table, make 0⟩
  let world : World := { World.initial with links := [⟨0, false⟩] }
  let url := table.base.url.appendSegments ["echo"] false
  have hopen : world.IsOpen 0 := rfl
  have hvalue : Json.bool true ≠ .null := by
    rintro ⟨⟩
  have hword : IsWord "echo" := by decide
  have hfactory : proxy.factory = make 0 := rfl
  have hmethod : RpcRegistry.get? ⟨[echo]⟩ "echo" = some echo := rfl
  obtain ⟨invoker, hinvoker, hcalled⟩ := ((invoke_submitted hbuild hmethod hword hassemble hfactory
    hbind List.mem_cons_self hscheme hquery Json.readable_true (by decide) hopen
    "serde_json::value::Value" .any none).2 _ htarget).2 hvalue
  cases hinvoker
  have hinvoke := hcalled (.value (.bool true)) _ rfl
  have haccepted : HttpDispatcher.acceptedTypes
      (proxy.addressed (proxy.submitted url (.bool true)) none world).1.headers =
        [.json, .plainText] :=
    HttpDispatcher.acceptedTypes_of_accept
      (ClientFactory.assemble_default hassemble 0).2.2.2.2.2 (by rfl)
  rw [HttpDispatcher.answer_json rfl haccepted] at hinvoke
  rw [hinvoke]
  rfl

/-- A method that reports its calls is not called with null. -/
theorem invoke_null_refused :
    let echo : RpcMethod := ⟨"echo", 1, "T", "T", some fun input => do
      Run.log ⟨.info, "called", []⟩
      return .value input⟩
    ∃ make table, ClientFactory.assemble ⟨.default, none,
        some (.memory 0 (HttpDispatcher.new ⟨[echo]⟩).dispatch)⟩ = .ok make ∧
      RouteTable.bind "http://host/api" [.submit "echo" "value"] = .ok table ∧
      let (result, after) := invoke ⟨"Echo", table, make 0⟩ "serde_json::value::Value" .any "echo"
        [.null] none { World.initial with links := [⟨0, false⟩] }
      (∃ e, result = .error e ∧ e.status? = some ⟨415⟩) ∧
        after.log.map LogEvent.message =
          ["dispatching", "Request rejected", "memory exchange complete", "exchange complete"] := by
  intro echo
  obtain ⟨make, hassemble⟩ := ClientFactory.exists_assemble_default
    (.memory 0 (HttpDispatcher.new ⟨[echo]⟩).dispatch)
  obtain ⟨table, hbind, -, -, htarget⟩ := RouteTable.exists_bind_echo
  refine ⟨make, table, hassemble, hbind, ?_⟩
  let proxy : ClientProxy := ⟨"Echo", table, make 0⟩
  let world : World := { World.initial with links := [⟨0, false⟩] }
  let url := table.base.url.appendSegments ["echo"] false
  have hopen : world.IsOpen 0 := rfl
  have hrequest : proxy.requestFor "echo" [.null] none world =
      (.ok (proxy.submitted url .null), world) :=
    requestFor_submit hassemble rfl (by decide) hbind List.mem_cons_self .null none world
  have htransport : proxy.factory.transport =
      .memory 0 (HttpDispatcher.new ⟨[echo]⟩).dispatch :=
    (ClientFactory.assemble_default hassemble 0).1
  obtain ⟨e, hstatus, hinvoke⟩ := invoke_untyped htransport hopen hrequest
    (ExchangeRequest.toRequest_of_parse htarget) (by rfl) "serde_json::value::Value" .any
  rw [hinvoke]
  exact ⟨⟨e, rfl, hstatus⟩, by rfl⟩

end ClientProxy

end HttpRpc
