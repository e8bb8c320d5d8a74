import HttpRpc.Proofs.Binding.Values
import HttpRpc.Proofs.Binding.WellFormed

/-!
# Calls of bound methods

A call is made exactly if its arguments have a place in the URL (`RouteDecl.Accepts`): one argument
for each parameter, scalar values in the path, scalar values or lists of them in the query, and no
segment with a placeholder that would name no place of its own. The URL is then the template with
the texts of the arguments in place of its placeholders (`RouteDecl.Gives`). The main statement is
`resolve_decided`.
-/

namespace HttpRpc

/-! ## What a call says -/

namespace ParamDecl

/-- The placeholder of the path that the parameter fills, if that is its role. -/
def pathName? (param : ParamDecl) : Option String :=
  match param.roles with
  | [.path name] => some name
  | _ => none

/-- A parameter fills a placeholder of the path if that is its role. -/
theorem pathName?_eq_some {param : ParamDecl} {name : String} :
    param.pathName? = some name ↔ param.roles = [.path name] := by
  obtain ⟨_, roles⟩ := param
  rcases roles with _ | ⟨role | key | _, _ | ⟨second, others⟩⟩ <;> simp [pathName?]

end ParamDecl

namespace RouteDecl

variable (decl : RouteDecl) (args : List Json)

/-- The arguments for placeholders of the path, with the names of these, in the order of the
parameters. -/
def pathArguments : List (String × Json) :=
  (decl.params.zip args).filterMap fun item => item.1.pathName?.map fun name => (name, item.2)

/-- The arguments for the query, with their keys, in the order of the parameters. -/
def queryArguments : List (String × Json) :=
  (decl.params.zip args).filterMap fun item => item.1.queryKey?.map fun key => (key, item.2)

/-- The text of the last argument for a placeholder of the path. -/
def pathText (name : String) : String :=
  (((decl.pathArguments args).reverse.lookup name).bind Json.uriText?).getD ""

/-- The argument for the body, unless that is null. -/
def bodyArgument? : Option Json :=
  (((decl.params.zip args).find? fun item => item.1.isBody).map Prod.snd).filter
    fun value => !value.isNull

/-- The arguments have a place in a URL that is made of the template. -/
structure Accepts (template : UriTemplate) : Prop where
  arity : args.length = decl.params.length
  path : ∀ entry ∈ decl.pathArguments args, entry.2.IsScalar
  query : ∀ entry ∈ decl.queryArguments args, entry.2.IsQueryValue
  places : ∀ segment ∈ template.segments, ∀ name, .placeholder name ∈ segment →
    Piece.fill (decl.pathText args) segment ∉ ["", ".", ".."]

/-- The arguments give each placeholder of the path the text of the last argument for it, and the
placeholders of the query the texts of the arguments for their keys. -/
structure Gives (template : UriTemplate) (values : PlaceholderValues) : Prop where
  path : ∀ name, template.hasPathVariable name = true → values name = some [decl.pathText args name]
  query : template.query.map (fun q => values q.placeholder) =
    (decl.queryArguments args).map fun entry => some entry.2.uriTexts

variable {decl args}

/-- Entries of a row of parameters meet the arguments of the parameters. -/
theorem map_filterMap_zipIdx {α β : Type} (hlength : args.length = decl.params.length)
    (read : ParamDecl → Option Json → Option β) {select? : ParamDecl × Nat → Option α}
    {meet : α → β}
    (h : ∀ param position, (select? (param, position)).map meet = read param args[position]?) :
    (decl.params.zipIdx.filterMap select?).map meet =
      (decl.params.zip args).filterMap fun item => read item.1 (some item.2) := by
  have hitems : decl.params.zipIdx.map (fun item => (item.1, args[item.2]?)) =
      (decl.params.zip args).map fun item => (item.1, some item.2) := by
    refine List.ext_getElem (by simp [hlength]) fun i hleft hright => ?_
    have hi : i < args.length := by simp at hright; omega
    simp [List.getElem?_eq_getElem hi]
  calc (decl.params.zipIdx.filterMap select?).map meet
      = (decl.params.zipIdx.map fun item => (item.1, args[item.2]?)).filterMap
          fun item => read item.1 item.2 := by
        rw [List.map_filterMap, List.filterMap_map]
        exact congrArg (List.filterMap · decl.params.zipIdx) (funext fun item => h item.1 item.2)
    _ = (decl.params.zip args).filterMap fun item => read item.1 (some item.2) := by
        rw [hitems, List.filterMap_map]
        rfl

/-- The parameters for the path meet the arguments for it. -/
theorem map_pathParams (hlength : args.length = decl.params.length) :
    (BoundMethod.Roles.ofParams decl.params).pathParams.map
        (fun param => (param.placeholder, args[param.position]?)) =
      (decl.pathArguments args).map fun entry => (entry.1, some entry.2) := by
  rw [pathArguments, List.map_filterMap]
  refine (map_filterMap_zipIdx hlength (fun param value? => param.pathName?.map (·, value?))
    fun param position => ?_).trans ?_
  · obtain ⟨name, roles⟩ := param
    rcases roles with _ | ⟨role | key | _, _ | ⟨second, others⟩⟩ <;> rfl
  · simp only [Option.map_map]
    rfl

/-- The parameters for the query meet the arguments for it. -/
theorem map_queryKeys_position (hlength : args.length = decl.params.length) :
    (BoundMethod.Roles.ofParams decl.params).queryKeys.map (fun entry => args[entry.1]?) =
      (decl.queryArguments args).map fun entry => some entry.2 := by
  rw [queryArguments, List.map_filterMap]
  refine (map_filterMap_zipIdx hlength (fun param value? => param.queryKey?.map fun _ => value?)
    fun param position => ?_).trans ?_
  · obtain ⟨name, roles⟩ := param
    rcases roles with _ | ⟨role | key | _, _ | ⟨second, others⟩⟩ <;> rfl
  · simp only [Option.map_map]
    rfl

/-- The body of a call is the argument for it. -/
theorem body?_bound {base : BaseUri} {parsed : UriTemplate}
    (hlength : args.length = decl.params.length) :
    (decl.bound base parsed).body? args = decl.bodyArgument? args := by
  have hfind (params : List ParamDecl) (args : List Json) (h : args.length = params.length) :
      (params.findIdx? ParamDecl.isBody).bind (fun position => args[position]?) =
        ((params.zip args).find? fun item => item.1.isBody).map Prod.snd := by
    induction params generalizing args with
    | nil => rfl
    | cons param rest ih =>
        cases args with
        | nil => cases h
        | cons value others =>
            rw [List.findIdx?_cons, List.zip_cons_cons, List.find?_cons]
            cases param.isBody with
            | true => rfl
            | false =>
                rw [← ih others (Nat.succ.inj h), if_neg Bool.false_ne_true, Option.bind_map]
                rfl
  show (decl.params.findIdx? ParamDecl.isBody).bind
    (fun position => (args[position]?).filter fun value => !value.isNull) = _
  rw [bodyArgument?, ← hfind decl.params args hlength]
  cases decl.params.findIdx? ParamDecl.isBody <;> rfl

/-! ## The placeholders of a bound method -/

variable {base : BaseUri} {parsed : UriTemplate}

/-- A bound method has the template of its path with the keys of the query. -/
theorem bound_template :
    (decl.bound base parsed).uri.template = parsed.withQuery decl.queryKeys := by
  show (BoundMethod.addQueryKeys parsed _).1 = _
  rw [BoundMethod.addQueryKeys_eq, BoundMethod.map_queryKeys]

/-- The path of a bound method has the placeholders of the path that was declared. -/
theorem hasPathVariable_bound (name : String) :
    (decl.bound base parsed).uri.template.hasPathVariable name = parsed.hasPathVariable name := by
  rw [bound_template, UriTemplate.hasPathVariable, UriTemplate.withQuery_segments]
  rfl

/-- A bound method has the fresh placeholders of the keys for its query. -/
theorem bound_queryParams : (decl.bound base parsed).uri.queryParams =
    ((BoundMethod.Roles.ofParams decl.params).queryKeys.zip
      (parsed.freshNames decl.queryKeys)).map fun entry => ⟨entry.1.1, entry.1.2.1, entry.2⟩ := by
  show (BoundMethod.addQueryKeys parsed _).2 = _
  rw [BoundMethod.addQueryKeys_eq, BoundMethod.map_queryKeys]

/-- There is a fresh placeholder for each entry of the query. -/
theorem length_freshNames_eq : (parsed.freshNames decl.queryKeys).length =
    (BoundMethod.Roles.ofParams decl.params).queryKeys.length := by
  rw [UriTemplate.length_freshNames, ← BoundMethod.map_queryKeys, List.length_map]

/-- The placeholders of the query are the fresh ones. -/
theorem map_placeholder_queryParams :
    (decl.bound base parsed).uri.queryParams.map QueryParam.placeholder =
      parsed.freshNames decl.queryKeys := by
  rw [bound_queryParams, List.map_map]
  exact List.map_snd_zip (Nat.le_of_eq length_freshNames_eq)

/-- The parameters for the query meet the arguments for it. -/
theorem map_queryParams (hlength : args.length = decl.params.length) :
    (decl.bound base parsed).uri.queryParams.map (fun param => args[param.position]?) =
      (decl.queryArguments args).map fun entry => some entry.2 := by
  rw [bound_queryParams, List.map_map, ← map_queryKeys_position hlength]
  have hfst : ((BoundMethod.Roles.ofParams decl.params).queryKeys.zip
      (parsed.freshNames decl.queryKeys)).map Prod.fst =
        (BoundMethod.Roles.ofParams decl.params).queryKeys :=
    List.map_fst_zip (Nat.le_of_eq length_freshNames_eq.symm)
  conv_rhs => rw [← hfst, List.map_map]
  rfl

/-- The query of a bound method has the fresh placeholders. -/
theorem map_placeholder_query (hparse : UriTemplate.parse decl.path = .ok parsed) :
    (decl.bound base parsed).uri.template.query.map QueryParameter.placeholder =
      parsed.freshNames decl.queryKeys := by
  rw [bound_template, UriTemplate.withQuery_query, (UriTemplate.isSolid_of_parse hparse).2,
    List.nil_append, List.map_map]
  exact List.map_snd_zip (by simp)

/-- A placeholder of the path is none of the query. -/
theorem not_mem_freshNames {name : String}
    (h : (decl.bound base parsed).uri.template.hasPathVariable name = true) :
    name ∉ parsed.freshNames decl.queryKeys := by
  intro hfresh
  refine UriTemplate.not_mem_of_mem_freshNames hfresh (UriTemplate.hasPlaceholder_iff.1 ?_)
  rw [UriTemplate.hasPlaceholder, ← hasPathVariable_bound, h, Bool.true_or]

/-- The argument at the position of a parameter for the path is an argument for it. -/
theorem exists_argument (hlength : args.length = decl.params.length) {param : PathParam}
    (hparam : param ∈ (BoundMethod.Roles.ofParams decl.params).pathParams) :
    ∃ value, (param.placeholder, value) ∈ decl.pathArguments args ∧
      args[param.position]? = some value := by
  have hmem := List.mem_map_of_mem (f := fun param : PathParam =>
    (param.placeholder, args[param.position]?)) hparam
  rw [map_pathParams hlength, List.mem_map] at hmem
  obtain ⟨⟨name, value⟩, hentry, heq⟩ := hmem
  obtain ⟨rfl, hvalue⟩ := Prod.mk.inj heq
  exact ⟨value, hentry, hvalue.symm⟩

/-- Each placeholder of the path has an argument. -/
theorem exists_pathArgument (hbindable : decl.IsBindable parsed)
    (hlength : args.length = decl.params.length) {name : String}
    (h : (decl.bound base parsed).uri.template.hasPathVariable name = true) :
    ∃ value, (name, value) ∈ decl.pathArguments args := by
  have hname : name ∈ parsed.pathVariables := by
    rw [hasPathVariable_bound] at h
    exact UriTemplate.mem_pathVariables.2 h
  obtain ⟨param, hparam, rfl⟩ : ∃ param ∈ (BoundMethod.Roles.ofParams decl.params).pathParams,
      param.placeholder = name := by
    simpa [List.any_eq_true] using fills_iff.1 (hbindable.filled name hname)
  obtain ⟨value, hvalue, -⟩ := exists_argument hlength hparam
  exact ⟨value, hvalue⟩

/-- The values of a bound method are the texts of the arguments. -/
theorem gives_of_values {values : PlaceholderValues} (hbindable : decl.IsBindable parsed)
    (hlength : args.length = decl.params.length)
    (hvalues : (decl.bound base parsed).uri.values args = .ok values) :
    decl.Gives args (decl.bound base parsed).uri.template values := by
  obtain ⟨-, -, rfl⟩ := UriExtractor.values_eq_ok_iff.1 hvalues
  refine ⟨fun name hname => ?_, ?_⟩
  · have hfresh : name ∉ (decl.bound base parsed).uri.queryParams.map QueryParam.placeholder := by
      rw [map_placeholder_queryParams]
      exact not_mem_freshNames hname
    have hpath : (decl.bound base parsed).uri.pathParams.map (fun param =>
        (param.placeholder, [((args[param.position]?).bind Json.uriText?).getD ""])) =
        (decl.pathArguments args).map fun entry => (entry.1, [entry.2.uriText?.getD ""]) := by
      have hmap := congrArg (List.map fun entry : String × Option Json =>
        (entry.1, [(entry.2.bind Json.uriText?).getD ""])) (map_pathParams hlength)
      rwa [List.map_map, List.map_map] at hmap
    obtain ⟨value, hvalue⟩ := exists_pathArgument hbindable hlength hname
    obtain ⟨last, hlast⟩ : ∃ last, (decl.pathArguments args).reverse.lookup name = some last := by
      rw [← Option.isSome_iff_exists, List.lookup_isSome_iff]
      exact ⟨_, List.mem_reverse.2 hvalue, beq_self_eq_true name⟩
    rw [UriExtractor.foldl_setValue_of_not_mem _ _ hfresh, UriExtractor.foldl_setValue, hpath,
      ← List.map_reverse, UriExtractor.lookup_map fun value : Json => [value.uriText?.getD ""],
      hlast, pathText, hlast]
    rfl
  · have hplaces : (decl.bound base parsed).uri.template.query.map QueryParameter.placeholder =
        (decl.bound base parsed).uri.queryParams.map QueryParam.placeholder := by
      rw [map_placeholder_query hbindable.parses, map_placeholder_queryParams]
    have hnodup : ((decl.bound base parsed).uri.queryParams.map QueryParam.placeholder).Nodup := by
      rw [map_placeholder_queryParams]
      exact UriTemplate.nodup_freshNames
    have hmap : (decl.bound base parsed).uri.queryParams.map
        (fun param => some (((args[param.position]?).map Json.uriTexts).getD [])) =
        (decl.queryArguments args).map fun entry => some entry.2.uriTexts := by
      have hmeet : (decl.bound base parsed).uri.queryParams.map
          (fun param => args[param.position]?) = _ := map_queryParams hlength
      have hmap := congrArg (List.map fun value? : Option Json =>
        some ((value?.map Json.uriTexts).getD [])) hmeet
      rwa [List.map_map, List.map_map] at hmap
    rw [← hmap, ← UriExtractor.map_foldl_setValue _ _ hnodup, ← hplaces, List.map_map]
    rfl

/-- The arguments for the path are scalars if those at the positions of its parameters are. -/
theorem forall_pathParams_iff (hlength : args.length = decl.params.length) :
    (∀ param ∈ (decl.bound base parsed).uri.pathParams,
      ∃ value, args[param.position]? = some value ∧ value.IsScalar) ↔
      ∀ entry ∈ decl.pathArguments args, entry.2.IsScalar := by
  show (∀ param ∈ (BoundMethod.Roles.ofParams decl.params).pathParams,
    ∃ value, args[param.position]? = some value ∧ value.IsScalar) ↔ _
  have hmeet := map_pathParams hlength
  have hparams : (∀ entry ∈ (BoundMethod.Roles.ofParams decl.params).pathParams.map
      (fun param => (param.placeholder, args[param.position]?)),
        ∃ value, entry.2 = some value ∧ value.IsScalar) ↔ _ := List.forall_mem_map
  rw [hmeet, List.forall_mem_map] at hparams
  simpa using hparams.symm

/-- The arguments for the query have texts if those at the positions of its parameters do. -/
theorem forall_queryParams_iff (hlength : args.length = decl.params.length) :
    (∀ param ∈ (decl.bound base parsed).uri.queryParams,
      ∀ value, args[param.position]? = some value → value.IsQueryValue) ↔
      ∀ entry ∈ decl.queryArguments args, entry.2.IsQueryValue := by
  have hmeet : (decl.bound base parsed).uri.queryParams.map
    (fun param => args[param.position]?) = _ := map_queryParams hlength
  have hparams : (∀ value? ∈ (decl.bound base parsed).uri.queryParams.map
      (fun param => args[param.position]?),
        ∀ value, value? = some value → value.IsQueryValue) ↔ _ := List.forall_mem_map
  rw [hmeet, List.forall_mem_map] at hparams
  simpa using hparams.symm

/-- Arguments give values to the placeholders of a bound method if those for the path are scalars
and those for the query have texts. -/
theorem exists_values_eq_ok_iff (hlength : args.length = decl.params.length) :
    (∃ values, (decl.bound base parsed).uri.values args = .ok values) ↔
      (∀ entry ∈ decl.pathArguments args, entry.2.IsScalar) ∧
        ∀ entry ∈ decl.queryArguments args, entry.2.IsQueryValue := by
  simp only [UriExtractor.values_eq_ok_iff, forall_pathParams_iff hlength,
    forall_queryParams_iff hlength]
  exact ⟨fun ⟨_, hpath, hquery, _⟩ => ⟨hpath, hquery⟩,
    fun ⟨hpath, hquery⟩ => ⟨_, hpath, hquery, rfl⟩⟩

/-- The first value of a placeholder in a segment is its text. -/
theorem Gives.head {template : UriTemplate} {values : PlaceholderValues} {segment : List Piece}
    (h : decl.Gives args template values) (hsegment : segment ∈ template.segments) :
    ∀ name, .placeholder name ∈ segment →
      (values name).bind List.head? = some (decl.pathText args name) := by
  intro name hname
  rw [h.path name (UriTemplate.hasPathVariable_iff.2 ⟨segment, hsegment, hname⟩)]
  rfl

end RouteDecl

namespace BoundMethod

variable {decl : RouteDecl} {args : List Json} {base : BaseUri} {parsed : UriTemplate}

/-- A method without parameters for its URL has it computed in advance, as every call would compute
it. -/
theorem cached_of_fixed (hbindable : decl.IsBindable parsed)
    (hpath : (decl.bound base parsed).uri.pathParams = [])
    (hquery : (decl.bound base parsed).uri.queryParams = []) :
    ∃ url, (decl.bound base parsed).uri.cached = some url ∧
      ∀ args, (decl.bound base parsed).uri.compute args = .ok url := by
  have hfixed : ((decl.bound base parsed).uri.pathParams.isEmpty &&
      (decl.bound base parsed).uri.queryParams.isEmpty) = true := by
    rw [hpath, hquery]
    rfl
  obtain ⟨url, hurl⟩ := exists_expand_bound base hbindable hpath fun _ => none
  refine ⟨url, (if_pos hfixed).trans (congrArg Except.toOption hurl), fun args => ?_⟩
  have hvalues : (decl.bound base parsed).uri.values args = .ok fun _ => none := by
    rw [UriExtractor.values, hpath, hquery]
    rfl
  rw [UriExtractor.compute, hvalues]
  exact hurl

/-- A method with parameters for its URL has none in advance. -/
theorem cached_eq_none (h : ¬((decl.bound base parsed).uri.pathParams = [] ∧
    (decl.bound base parsed).uri.queryParams = [])) :
    (decl.bound base parsed).uri.cached = none := by
  refine if_neg fun hfixed => h ?_
  obtain ⟨hpath, hquery⟩ := Bool.and_eq_true_iff.1 hfixed
  exact ⟨List.isEmpty_iff.1 hpath, List.isEmpty_iff.1 hquery⟩

/-- A URL that was computed while the method was bound is that of every call. -/
theorem extract_eq_compute (hbindable : decl.IsBindable parsed) (args : List Json) :
    (decl.bound base parsed).uri.extract args = (decl.bound base parsed).uri.compute args := by
  by_cases hfixed : (decl.bound base parsed).uri.pathParams = [] ∧
      (decl.bound base parsed).uri.queryParams = []
  · obtain ⟨url, hcached, hurl⟩ := cached_of_fixed hbindable hfixed.1 hfixed.2
    rw [UriExtractor.extract, hcached, hurl]
  · rw [UriExtractor.extract, cached_eq_none hfixed]

/-- A call of the right number of arguments has the URL that is computed from them. -/
theorem resolve_eq (hbindable : decl.IsBindable parsed)
    (hlength : args.length = decl.params.length) :
    (decl.bound base parsed).resolve args =
      ((decl.bound base parsed).uri.compute args).map (·, decl.bodyArgument? args) := by
  have harity : ¬args.length ≠ (decl.bound base parsed).arity := not_not.2 hlength
  unfold resolve
  rw [if_neg harity, extract_eq_compute hbindable, RouteDecl.body?_bound hlength]
  cases (decl.bound base parsed).uri.compute args <;> rfl

/-- A call of another number of arguments is refused. -/
theorem resolve_of_length_ne (hlength : args.length ≠ decl.params.length) :
    (decl.bound base parsed).resolve args =
      .error (.arityMismatch decl.method decl.params.length args.length) := by
  have harity : args.length ≠ (decl.bound base parsed).arity := hlength
  unfold resolve
  rw [if_pos harity]
  rfl

/-- A call has a result if it has the right number of arguments and a URL is computed from them. -/
theorem resolve_eq_ok_iff (hbindable : decl.IsBindable parsed) {result : Url × Option Json} :
    (decl.bound base parsed).resolve args = .ok result ↔
      args.length = decl.params.length ∧
        (decl.bound base parsed).uri.compute args = .ok result.1 ∧
        result.2 = decl.bodyArgument? args := by
  by_cases hlength : args.length = decl.params.length
  · rw [resolve_eq hbindable hlength]
    cases (decl.bound base parsed).uri.compute args <;>
      simp [hlength, Except.map, Prod.ext_iff, eq_comm]
  · simp [resolve_of_length_ne hlength, hlength]

/-- A URL is computed exactly from arguments that have a place in it. -/
theorem exists_compute_eq_ok_iff (hbindable : decl.IsBindable parsed)
    (hlength : args.length = decl.params.length) :
    (∃ url, (decl.bound base parsed).uri.compute args = .ok url) ↔
      decl.Accepts args (decl.bound base parsed).uri.template := by
  constructor
  · rintro ⟨url, hurl⟩
    obtain ⟨values, hvalues, hexpand⟩ := bind_eq_ok.1 hurl
    obtain ⟨hpath, hquery⟩ := (RouteDecl.exists_values_eq_ok_iff hlength).1 ⟨values, hvalues⟩
    have hgives := RouteDecl.gives_of_values hbindable hlength hvalues
    refine ⟨hlength, hpath, hquery, fun segment hsegment => ?_⟩
    rw [← Piece.exists_expandSegment_eq_ok_iff (hgives.head hsegment)]
    exact UriTemplate.exists_expand_eq_ok_iff.1 ⟨url, hexpand⟩ segment hsegment
  · rintro ⟨-, hpath, hquery, hplaces⟩
    obtain ⟨values, hvalues⟩ := (RouteDecl.exists_values_eq_ok_iff hlength).2 ⟨hpath, hquery⟩
    have hgives := RouteDecl.gives_of_values hbindable hlength hvalues
    obtain ⟨url, hurl⟩ := UriTemplate.exists_expand_eq_ok_iff.2 fun segment hsegment =>
      (Piece.exists_expandSegment_eq_ok_iff (hgives.head hsegment)).2 (hplaces segment hsegment)
    exact ⟨url, bind_eq_ok.2 ⟨_, hvalues, hurl⟩⟩

/-- A computed URL is the template with the texts of the arguments. -/
theorem exists_gives (hbindable : decl.IsBindable parsed)
    (hlength : args.length = decl.params.length) {url : Url}
    (h : (decl.bound base parsed).uri.compute args = .ok url) :
    ∃ values, decl.Gives args (decl.bound base parsed).uri.template values ∧
      (decl.bound base parsed).uri.template.expand base values = .ok url := by
  obtain ⟨values, hvalues, hexpand⟩ := bind_eq_ok.1 h
  exact ⟨values, RouteDecl.gives_of_values hbindable hlength hvalues, hexpand⟩

/-- The arguments of a call have a place in its URL, which is the template with their texts. -/
theorem of_resolve (hbindable : decl.IsBindable parsed) {url : Url} {body? : Option Json}
    (h : (decl.bound base parsed).resolve args = .ok (url, body?)) :
    decl.Accepts args (decl.bound base parsed).uri.template ∧
      (∃ values, decl.Gives args (decl.bound base parsed).uri.template values ∧
        (decl.bound base parsed).uri.template.expand base values = .ok url) ∧
      body? = decl.bodyArgument? args := by
  obtain ⟨hlength, hurl, hbody⟩ := (resolve_eq_ok_iff hbindable).1 h
  exact ⟨(exists_compute_eq_ok_iff hbindable hlength).1 ⟨url, hurl⟩,
    exists_gives hbindable hlength hurl, hbody⟩

/-- No URL is computed from arguments of which one is refused for its kind or its place, or is null
where a placeholder of the path needs a value. -/
theorem compute_eq_error (hbindable : decl.IsBindable parsed)
    (hlength : args.length = decl.params.length) {e : ArgumentError}
    (h : (decl.bound base parsed).uri.compute args = .error e) :
    (∃ name, e = .missingPathVariable name ∧ (name, .null) ∈ decl.pathArguments args) ∨
      ∃ name reason, e = .invalidArgument name reason := by
  rcases bind_eq_error.1 h with h | ⟨values, hvalues, h⟩
  · rcases bind_eq_error.1 h with h | ⟨_, -, h⟩
    · obtain ⟨param, hparam, _, h⟩ := exists_of_foldlM_eq_error h
      obtain ⟨rfl, hnull⟩ | ⟨reason, rfl⟩ := UriExtractor.addPathValue_eq_error h
      · obtain ⟨value, hentry, hvalue⟩ := RouteDecl.exists_argument hlength hparam
        rw [hnull value hvalue] at hentry
        exact .inl ⟨_, rfl, hentry⟩
      · exact .inr ⟨_, reason, rfl⟩
    · obtain ⟨param, -, _, h⟩ := exists_of_foldlM_eq_error h
      exact .inr ⟨_, UriExtractor.addQueryValue_eq_error h⟩
  · have hgives := RouteDecl.gives_of_values hbindable hlength hvalues
    rcases bind_eq_error.1 h with h | ⟨_, -, h⟩
    · obtain ⟨segment, hsegment, h⟩ := exists_of_mapM_eq_error h
      exact .inr (Piece.expandSegment_eq_error (hgives.head hsegment) h)
    · cases h

/-- A placeholder of the path lacks a value only if its argument is null. -/
theorem null_of_compute (hbindable : decl.IsBindable parsed)
    (hlength : args.length = decl.params.length) {name : String}
    (h : (decl.bound base parsed).uri.compute args = .error (.missingPathVariable name)) :
    (name, .null) ∈ decl.pathArguments args := by
  obtain ⟨_, he, hentry⟩ | ⟨_, _, he⟩ := compute_eq_error hbindable hlength h
  · cases he
    exact hentry
  · cases he

/-- A bound method is called exactly with arguments that have a place in its URL. The URL is then
the template with the texts of the arguments, and the body is the argument for it. A placeholder of
the path lacks a value only if its argument is null. -/
theorem resolve_decided {bound : BoundMethod} (hbind : bind base decl = .ok bound)
    (args : List Json) :
    ((∃ url body?, bound.resolve args = .ok (url, body?)) ↔
      decl.Accepts args bound.uri.template) ∧
    (∀ url body?, bound.resolve args = .ok (url, body?) →
      (∃ values, decl.Gives args bound.uri.template values ∧
        bound.uri.template.expand base values = .ok url) ∧
      body? = decl.bodyArgument? args) ∧
    ∀ name, bound.resolve args = .error (.missingPathVariable name) →
      (name, .null) ∈ decl.pathArguments args := by
  obtain ⟨parsed, hbindable, rfl⟩ := bind_eq_ok_iff.1 hbind
  refine ⟨⟨?_, fun h => ?_⟩, fun url body? h => ?_, fun name h => ?_⟩
  · rintro ⟨url, body?, h⟩
    exact (of_resolve hbindable h).1
  · obtain ⟨url, hurl⟩ := (exists_compute_eq_ok_iff hbindable h.arity).2 h
    exact ⟨url, _, (resolve_eq_ok_iff hbindable).2 ⟨h.arity, hurl, rfl⟩⟩
  · exact (of_resolve hbindable h).2
  · by_cases hlength : args.length = decl.params.length
    · rw [resolve_eq hbindable hlength] at h
      cases hurl : (decl.bound base parsed).uri.compute args with
      | ok url =>
          rw [hurl] at h
          cases h
      | error e =>
          rw [hurl] at h
          cases h
          exact null_of_compute hbindable hlength hurl
    · rw [resolve_of_length_ne hlength] at h
      cases h

/-- A route with a placeholder that two parameters fill, a list in the query, and a body. -/
theorem resolve_decided_items :
    ∃ base decl bound url, BaseUri.parse "http://host/api" = .ok base ∧
      bind base decl = .ok bound ∧ decl.paths = ["/items/{id}.json"] ∧
      decl.Accepts [.bool true, .string "a/b", .array [.string "x", .null, .string "y"], .object []]
        bound.uri.template ∧
      bound.resolve [.bool true, .string "a/b", .array [.string "x", .null, .string "y"],
        .object []] = .ok (url, some (.object [])) ∧
      url.render = "http://host/api/items/a%2Fb.json?id=x&id=y" := by
  let base : BaseUri :=
    ⟨⟨"http", "", some (.name "host"), none, false, .segments ["api"], none, none⟩, rfl, ⟨_, rfl⟩⟩
  let decl : RouteDecl :=
    ⟨"save", [.post], ["/items/{id}.json"], [⟨"first", [.path "id"]⟩, ⟨"second", [.path "id"]⟩,
      ⟨"tags", [.query "id"]⟩, ⟨"item", [.body]⟩], []⟩
  let bound : BoundMethod :=
    { method := "save"
      verb := .post
      arity := 4
      uri :=
        { base
          template := ⟨[[.literal "items"], [.placeholder "id", .literal ".json"]], false,
            [⟨"id", "id1"⟩]⟩
          pathParams := [⟨0, "first", "id"⟩, ⟨1, "second", "id"⟩]
          queryParams := [⟨2, "tags", "id1"⟩]
          cached := none }
      bodyPosition := some 3 }
  have hbind : bind base decl = .ok bound := by rfl
  have hresolve : bound.resolve [.bool true, .string "a/b",
      .array [.string "x", .null, .string "y"], .object []] = .ok ({ base.url with
        path := .segments ["api", "items", "a%2Fb.json"], query := some "id=x&id=y" },
          some (.object [])) := by rfl
  exact ⟨base, decl, bound, _, by rfl, hbind, rfl,
    (resolve_decided hbind _).1.1 ⟨_, _, hresolve⟩, hresolve, by rfl⟩

end BoundMethod

end HttpRpc
