import HttpRpc.Proofs.Binding.Resolution

/-!
# URLs that are computed once

The URL of a bound method is computed when the method is bound exactly if nothing in it depends on
the arguments (`isSome_cached_iff`): no placeholder stands in its path and its query is empty, or,
which is the same, no parameter is declared for either. It is then the URL that every call would
compute. The main statement is `cached_decided`.
-/

namespace HttpRpc

namespace ParamDecl

/-- A parameter stands in the query if that is its role. -/
theorem queryKey?_eq_some {param : ParamDecl} {key : String} :
    param.queryKey? = some key ↔ param.roles = [.query key] := by
  obtain ⟨_, roles⟩ := param
  rcases roles with _ | ⟨role | key | _, _ | ⟨second, others⟩⟩ <;> simp [queryKey?]

/-- A parameter with one role has no other. -/
theorem roles_eq_of_mem {param : ParamDecl} {role : ParamRole} (hone : param.roles.length = 1)
    (h : role ∈ param.roles) : param.roles = [role] := by
  obtain ⟨only, honly⟩ := List.length_eq_one_iff.1 hone
  rw [honly, List.mem_singleton] at h
  rw [honly, h]

end ParamDecl

namespace BoundMethod

variable {decl : RouteDecl} {base : BaseUri} {parsed : UriTemplate}

/-! ## Parameters for the URL -/

/-- No parameter fills a placeholder of the path exactly if the path has none. -/
theorem pathParams_eq_nil_iff (h : decl.IsBindable parsed) :
    (decl.bound base parsed).uri.pathParams = [] ↔
      ∀ name, (decl.bound base parsed).uri.template.hasPathVariable name = false := by
  constructor
  · intro hnone name
    rw [RouteDecl.hasPathVariable_bound, ← Bool.not_eq_true, ← UriTemplate.mem_pathVariables,
      pathVariables_eq_nil h hnone]
    exact List.not_mem_nil
  · intro hnone
    rw [List.eq_nil_iff_forall_not_mem]
    intro entry hentry
    obtain ⟨param, hparam, hroles, -⟩ := Roles.mem_pathParams.1 hentry
    have hknown := h.known param (List.mem_of_getElem? hparam) entry.placeholder hroles
    have hfree := hnone entry.placeholder
    rw [RouteDecl.hasPathVariable_bound, hknown] at hfree
    cases hfree

/-- No parameter stands in the query exactly if the query is empty. -/
theorem queryParams_eq_nil_iff (h : decl.IsBindable parsed) :
    (decl.bound base parsed).uri.queryParams = [] ↔
      (decl.bound base parsed).uri.template.query = [] := by
  have hsame : (decl.bound base parsed).uri.queryParams.map QueryParam.placeholder =
      (decl.bound base parsed).uri.template.query.map QueryParameter.placeholder := by
    rw [RouteDecl.map_placeholder_queryParams, RouteDecl.map_placeholder_query h.parses]
  rw [← List.map_eq_nil_iff, hsame, List.map_eq_nil_iff]

/-- No parameter fills a placeholder of the path exactly if none is declared for one. -/
theorem pathParams_eq_nil_iff_roles (h : decl.IsBindable parsed) :
    (decl.bound base parsed).uri.pathParams = [] ↔
      ∀ param ∈ decl.params, ∀ name, .path name ∉ param.roles := by
  show (Roles.ofParams decl.params).pathParams = [] ↔ _
  rw [List.eq_nil_iff_forall_not_mem]
  constructor
  · intro hnone param hparam name hrole
    obtain ⟨position, hposition⟩ := List.mem_iff_getElem?.1 hparam
    have hroles := ParamDecl.roles_eq_of_mem (h.roles param hparam) hrole
    exact hnone ⟨position, param.name, name⟩
      (Roles.mem_pathParams.2 ⟨param, hposition, hroles, rfl⟩)
  · intro hnone entry hentry
    obtain ⟨param, hparam, hroles, -⟩ := Roles.mem_pathParams.1 hentry
    refine hnone param (List.mem_of_getElem? hparam) entry.placeholder ?_
    rw [hroles]
    exact List.mem_singleton_self _

/-- No parameter stands in the query exactly if none is declared for it. -/
theorem queryParams_eq_nil_iff_roles (h : decl.IsBindable parsed) :
    (decl.bound base parsed).uri.queryParams = [] ↔
      ∀ param ∈ decl.params, ∀ key, .query key ∉ param.roles := by
  have hkeys : (decl.bound base parsed).uri.queryParams = [] ↔ decl.queryKeys = [] := by
    rw [← List.map_eq_nil_iff, RouteDecl.map_placeholder_queryParams,
      ← List.length_eq_zero_iff, UriTemplate.length_freshNames, List.length_eq_zero_iff]
  rw [hkeys, List.eq_nil_iff_forall_not_mem]
  constructor
  · intro hnone param hparam key hrole
    have hroles := ParamDecl.roles_eq_of_mem (h.roles param hparam) hrole
    exact hnone key (List.mem_filterMap.2 ⟨param, hparam, ParamDecl.queryKey?_eq_some.2 hroles⟩)
  · intro hnone key hkey
    obtain ⟨param, hparam, hroles⟩ := List.mem_filterMap.1 hkey
    refine hnone param hparam key ?_
    rw [ParamDecl.queryKey?_eq_some.1 hroles]
    exact List.mem_singleton_self _

/-! ## Computing in advance -/

/-- A URL is computed in advance exactly if there are no parameters for it. -/
theorem isSome_cached_iff (h : decl.IsBindable parsed) :
    (decl.bound base parsed).uri.cached.isSome = true ↔
      (decl.bound base parsed).uri.pathParams = [] ∧
        (decl.bound base parsed).uri.queryParams = [] := by
  by_cases hfixed : (decl.bound base parsed).uri.pathParams = [] ∧
      (decl.bound base parsed).uri.queryParams = []
  · obtain ⟨url, hcached, -⟩ := cached_of_fixed h hfixed.1 hfixed.2
    rw [hcached]
    exact iff_of_true rfl hfixed
  · rw [cached_eq_none hfixed]
    exact iff_of_false Bool.false_ne_true hfixed

/-- A URL is computed in advance exactly if its template has neither a placeholder in the path nor a
query, and this is so exactly if no parameter has a role in the path or the query. For arguments of
any number and kind it is then the URL of the call, and that which the template is expanded to with
the values that these arguments give. -/
theorem cached_decided {bound : BoundMethod} (hbind : bind base decl = .ok bound) :
    (bound.uri.cached.isSome = true ↔
      (∀ name, bound.uri.template.hasPathVariable name = false) ∧
        bound.uri.template.query = []) ∧
    (bound.uri.cached.isSome = true ↔
      (∀ param ∈ decl.params, ∀ name, .path name ∉ param.roles) ∧
        ∀ param ∈ decl.params, ∀ key, .query key ∉ param.roles) ∧
    ∀ url, bound.uri.cached = some url → ∀ args : List Json,
      bound.uri.extract args = .ok url ∧ bound.uri.compute args = .ok url ∧
        ∃ values, bound.uri.values args = .ok values ∧
          bound.uri.template.expand base values = .ok url := by
  obtain ⟨parsed, hbindable, rfl⟩ := bind_eq_ok_iff.1 hbind
  refine ⟨?_, ?_, fun url hcached args => ?_⟩
  · rw [isSome_cached_iff hbindable, pathParams_eq_nil_iff hbindable,
      queryParams_eq_nil_iff hbindable]
  · rw [isSome_cached_iff hbindable, pathParams_eq_nil_iff_roles hbindable,
      queryParams_eq_nil_iff_roles hbindable]
  · have hextract : (decl.bound base parsed).uri.extract args = .ok url := by
      rw [UriExtractor.extract, hcached]
    have hcompute := (extract_eq_compute hbindable args).symm.trans hextract
    obtain ⟨values, hvalues, hexpand⟩ := bind_eq_ok.1 hcompute
    exact ⟨hextract, hcompute, values, hvalues, hexpand⟩

/-- A method whose only parameter is the body, called with none and with too many arguments. -/
theorem cached_decided_create :
    ∃ base decl bound url, BaseUri.parse "http://host/api" = .ok base ∧
      decl = ⟨"create", [.post], ["/items"], [⟨"item", [.body]⟩], []⟩ ∧
      bind base decl = .ok bound ∧ bound.uri.cached = some url ∧
      url.render = "http://host/api/items" ∧ bound.uri.extract [] = .ok url ∧
      bound.uri.compute [.null, .array [.object []], .bool true] = .ok url := by
  let base : BaseUri :=
    ⟨⟨"http", "", some (.name "host"), none, false, .segments ["api"], none, none⟩, rfl, ⟨_, rfl⟩⟩
  let decl : RouteDecl := ⟨"create", [.post], ["/items"], [⟨"item", [.body]⟩], []⟩
  let url : Url := { base.url with path := .segments ["api", "items"] }
  let bound : BoundMethod :=
    { method := "create"
      verb := .post
      arity := 1
      uri :=
        { base
          template := ⟨[[.literal "items"]], false, []⟩
          pathParams := []
          queryParams := []
          cached := some url }
      bodyPosition := some 0 }
  have hbind : bind base decl = .ok bound := by rfl
  obtain ⟨-, -, hall⟩ := cached_decided hbind
  exact ⟨base, decl, bound, url, by rfl, rfl, hbind, rfl, by rfl, (hall url rfl _).1,
    (hall url rfl _).2.1⟩

end BoundMethod

end HttpRpc
