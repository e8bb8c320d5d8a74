import HttpRpc.Proofs.Binding.Containment
import HttpRpc.Proofs.Service.Admission
import HttpRpc.Proofs.Service.Registry
import HttpRpc.Proofs.Url.Appended
import HttpRpc.Proofs.Url.Query

/-!
# Two ways to name a method

A request names its method in its query, where the name is decoded, or as the last segment of its
path, which is taken as it stands. A client that fills a name into a path escapes it. So the two
ways lead to the same method exactly if no character of the name is escaped in a segment
(`method?_named_iff`).
-/

namespace HttpRpc

open HttpRpc.Text

/-! ## Names in requests -/

namespace HttpDispatcher

variable {config : DispatcherConfig} {target : Target} {name : String}

/-- A name in the query is the name of the method. -/
theorem methodName_of_queried (h : queriedName? config target = some name) :
    methodName config target = name := by
  rw [methodName, h]
  rfl

/-- A query that is the form of a name states it. -/
theorem queriedName?_encodePair (h : target.query =
    some (String.ofList (Url.Form.encodePair (config.methodParameter, name)))) :
    queriedName? config target = some name := by
  have hfound : [(config.methodParameter, name)].find? (fun pair =>
      pair.1 == config.methodParameter) = some (config.methodParameter, name) :=
    List.find?_cons_of_pos (beq_self_eq_true config.methodParameter)
  simp only [queriedName?, h, Option.bind_eq_bind, Option.bind_some, String.toList_ofList,
    Url.Form.decodePairs_encodePair, hfound]

/-- Without a name in the query, the last segment of the path is the name of the method. -/
theorem methodName_of_path (hquery : queriedName? config target = none) {front : String}
    (hpath : target.path = front ++ "/" ++ name) (hslash : '/' ∉ name.toList)
    (hname : name ≠ "") : methodName config target = name := by
  have hchars : target.path.toList = front.toList ++ '/' :: name.toList := by
    rw [hpath]
    simp [String.toList_append]
  have hfind (others : List String) :
      (name :: others).find? (fun segment => !segment.isEmpty) = some name :=
    List.find?_cons_of_pos (by simpa using hname)
  rw [methodName, hquery, splitString, hchars, splitOn_append, splitOn_eq_self hslash,
    List.map_append, List.reverse_append, List.map_singleton, List.reverse_singleton,
    List.singleton_append, String.ofList_toList]
  show ((name :: _).find? fun segment => !segment.isEmpty).getD "" = name
  rw [hfind]
  rfl

/-- Only the name that its target states matters to what becomes of a request. -/
theorem dispatch_congr_target {dispatcher : HttpDispatcher} {request : Request}
    (hname : methodName dispatcher.config target =
      methodName dispatcher.config request.target) :
    dispatcher.dispatch { request with target } = dispatcher.dispatch request := by
  have hprepare : dispatcher.prepare { request with target } = dispatcher.prepare request := by
    simp only [prepare, hname]
  unfold dispatch handle
  rw [hprepare]

end HttpDispatcher

/-! ## Names in paths -/

namespace UriTemplate

/-- The template of a path that is a name. -/
def named : UriTemplate := ⟨[[.placeholder "name"]], false, []⟩

/-- The text of the template. -/
theorem parse_named : parse "/{name}" = .ok named := by rfl

/-- A name that is clean and names a place is appended to the base as its last segment. -/
theorem exists_expand_named {base : BaseUri} (hscheme : base.url.scheme ≠ "file")
    {values : PlaceholderValues} {name : String} (hvalue : values "name" = some [name])
    (hclean : Url.IsClean name) (hempty : name ≠ "") (hdot : name ≠ ".") (hdots : name ≠ "..") :
    ∃ url, named.expand base values = .ok url ∧ url.path = .segments
      (Url.entered (Url.dropFinalEmpty base.segments) ++
        [Url.segmentOf base.url.isSpecial name]) := by
  have hrender : Piece.renderSegment values [.placeholder "name"] = .ok name := by
    simp only [Piece.renderSegment, hvalue]
    exact congrArg Except.ok String.append_empty
  have hsegment : Piece.expandSegment values [.placeholder "name"] = .ok name := by
    unfold Piece.expandSegment
    rw [hrender, ok_bind]
    exact if_neg (by simp [hempty, hdot, hdots])
  have hlasting : Url.lasting [name] = [name] := by
    simp [Url.lasting, Url.isDots, hdot, hdots]
  have hbehind : Url.behind base.url.isSpecial [name] false =
      [Url.segmentOf base.url.isSpecial name] := by
    rw [Url.behind, hlasting]
    rfl
  refine ⟨appendTo base.url [name] false [], ?_, ?_⟩
  · unfold expand named
    rw [List.mapM_cons, hsegment]
    rfl
  · rw [appendTo_path, if_neg (by simp), Url.appendSegments_path_eq base.path_eq hscheme, hbehind,
      if_neg (by simp)]
    rw [hlasting]
    exact fun text htext => List.mem_singleton.1 htext ▸ hclean.isPlace hempty hdot hdots

end UriTemplate

/-! ## Both ways -/

namespace HttpDispatcher

/-- A method that is registered is found under its name in the query. It is found under the segment
that a template makes of its name exactly if no character of the name is escaped there, and then
requests of both kinds are answered in the same way. -/
theorem method?_named_iff {dispatcher : HttpDispatcher} {name : String} {method : RpcMethod}
    (hmethod : dispatcher.registry.get? name = some method) (hclean : Url.IsClean name)
    (hempty : name ≠ "") (hdot : name ≠ ".") (hdots : name ≠ "..") {template : UriTemplate}
    (hparse : UriTemplate.parse "/{name}" = .ok template) {base : BaseUri}
    (hscheme : base.url.scheme ≠ "file") {values : PlaceholderValues}
    (hvalue : values "name" = some [name]) :
    ∃ url front segment, template.expand base values = .ok url ∧
      url.path = .segments (front ++ [segment]) ∧
      ∀ (request : Request) (above : String) (byQuery : Target),
        request.target.path = above ++ "/" ++ segment →
        queriedName? dispatcher.config request.target = none →
        byQuery.query = some (String.ofList
          (Url.Form.encodePair (dispatcher.config.methodParameter, name))) →
        dispatcher.method? { request with target := byQuery } = some method ∧
          (dispatcher.method? request = some method ↔ Url.IsPlain base.url.isSpecial name) ∧
          (Url.IsPlain base.url.isSpecial name →
            dispatcher.dispatch { request with target := byQuery } =
              dispatcher.dispatch request) := by
  cases UriTemplate.parse_named.symm.trans hparse
  obtain ⟨url, hexpand, hpath⟩ :=
    UriTemplate.exists_expand_named hscheme hvalue hclean hempty hdot hdots
  refine ⟨url, _, _, hexpand, hpath, fun request above byQuery habove hunqueried hqueried => ?_⟩
  have hnonempty : Url.segmentOf base.url.isSpecial name ≠ "" := by
    intro hnone
    have hsame : Url.segmentOf base.url.isSpecial name = Url.segmentOf base.url.isSpecial "" := by
      rw [hnone]
      cases base.url.isSpecial <;> rfl
    exact hempty (hclean.eq_of_segmentOf Url.isClean_empty hsame)
  have hsegment : methodName dispatcher.config request.target =
      Url.segmentOf base.url.isSpecial name :=
    methodName_of_path hunqueried habove (Url.slash_not_mem_segmentOf _ name) hnonempty
  have hname : methodName dispatcher.config byQuery = name :=
    methodName_of_queried (queriedName?_encodePair hqueried)
  rw [method?, method?, hname, hsegment, ← hclean.segmentOf_eq_self_iff]
  refine ⟨hmethod, ⟨fun hfound => ?_, fun hsame => by rw [hsame, hmethod]⟩, fun hsame => ?_⟩
  · exact (RpcRegistry.name_of_get? hfound).symm.trans (RpcRegistry.name_of_get? hmethod)
  · exact dispatch_congr_target (hname.trans (hsame.symm.trans hsegment.symm))

/-- A name of letters and signs that stand as they are is found both ways. -/
theorem method?_named_plain :
    let method : RpcMethod := ⟨"say-hello.v2", 1, "T", "T", some fun input => return .value input⟩
    let dispatcher := HttpDispatcher.new ⟨[method]⟩
    let request : Request := ⟨.post, ⟨"/api/say-hello.v2", none⟩, .empty, []⟩
    dispatcher.method? { request with target := ⟨"/", some "method=say-hello.v2"⟩ } = some method ∧
      dispatcher.method? request = some method := by
  intro method dispatcher request
  let base : BaseUri :=
    ⟨⟨"http", "", some (.name "host"), none, false, .segments ["api"], none, none⟩, rfl, ⟨_, rfl⟩⟩
  let values : PlaceholderValues := fun _ => some ["say-hello.v2"]
  have hexpand : UriTemplate.named.expand base values =
      .ok { base.url with path := .segments (["api"] ++ ["say-hello.v2"]) } := by rfl
  have hscheme : base.url.scheme ≠ "file" := by decide
  have hvalue : values "name" = some ["say-hello.v2"] := rfl
  have hmethod : dispatcher.registry.get? "say-hello.v2" = some method := rfl
  obtain ⟨url, front, segment, hurl, hpath, hboth⟩ := method?_named_iff hmethod (by decide)
    (by decide) (by decide) (by decide) UriTemplate.parse_named hscheme hvalue
  cases hexpand.symm.trans hurl
  obtain ⟨-, hsegment⟩ := List.append_inj' (UrlPath.segments.inj hpath) rfl
  cases hsegment
  have hform : some "method=say-hello.v2" = some (String.ofList
      (Url.Form.encodePair (dispatcher.config.methodParameter, "say-hello.v2"))) := by
    decide
  obtain ⟨hquery, hpath, -⟩ :=
    hboth request "/api" ⟨"/", some "method=say-hello.v2"⟩ (by decide) rfl hform
  exact ⟨hquery, hpath.2 (by decide)⟩

/-- A name with a space is found in the query, but not where a template puts it. -/
theorem method?_named_escaped :
    let method : RpcMethod := ⟨"a b", 1, "T", "T", some fun input => return .value input⟩
    let dispatcher := HttpDispatcher.new ⟨[method]⟩
    let request : Request := ⟨.post, ⟨"/a%20b", none⟩, .empty, []⟩
    ∃ base url, BaseUri.parse "http://host" = .ok base ∧
      UriTemplate.named.expand base (fun _ => some ["a b"]) = .ok url ∧
      Target.parse url.render = .ok request.target ∧
      Url.Form.encodePair ("method", "a b") = "method=a+b".toList ∧
      dispatcher.method? { request with target := ⟨"/", some "method=a+b"⟩ } = some method ∧
      dispatcher.method? request = none := by
  intro method dispatcher request
  let base : BaseUri :=
    ⟨⟨"http", "", some (.name "host"), none, false, .segments [""], none, none⟩, rfl, ⟨_, rfl⟩⟩
  let url : Url := { base.url with path := .segments ["a%20b"] }
  have hrender : url.render = "http://host/a%20b" := by rfl
  have htarget : Target.parse url.render = .ok request.target := by
    rw [hrender]
    rfl
  refine ⟨base, url, by rfl, by rfl, htarget, by decide, ?_, ?_⟩
  · have hname : methodName .default ⟨"/", some "method=a+b"⟩ = "a b" := by decide
    show dispatcher.registry.get? (methodName .default _) = some method
    rw [hname]
    rfl
  · have hname : methodName .default ⟨"/a%20b", none⟩ = "a%20b" := by decide
    show dispatcher.registry.get? (methodName .default _) = none
    rw [hname]
    rfl

end HttpDispatcher

end HttpRpc
