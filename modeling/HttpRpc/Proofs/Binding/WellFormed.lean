import HttpRpc.Proofs.Binding.Expansion
import HttpRpc.Proofs.Binding.Placeholder
import HttpRpc.Proofs.Binding.Rendering
import HttpRpc.Proofs.Binding.Roles

/-!
# Well-formed routes

A declaration can be bound exactly if it is well formed (`RouteDecl.IsBindable`), and to what it
says (`RouteDecl.bound`); otherwise the error is that of the first rule it breaks
(`RouteDecl.FirstFault`). The main statement is `bind_decided`. A URL that is computed while a
method is bound has no placeholders to fill, so computing it never fails.
-/

namespace HttpRpc

/-! ## What a declaration says -/

namespace ParamDecl

/-- The key under which the parameter stands in the query, if that is its role. -/
def queryKey? (param : ParamDecl) : Option String :=
  match param.roles with
  | [.query key] => some key
  | _ => none

end ParamDecl

namespace RouteDecl

variable (decl : RouteDecl)

/-- The verb of a declaration that names at most one; fetching if it names none. -/
def verb : Verb := decl.verbs.head?.getD .get

/-- The path of a declaration that names at most one; empty if it names none. -/
def path : String := decl.paths.head?.getD ""

/-- The keys of the query in the order of the parameters. -/
def queryKeys : List String := decl.params.filterMap ParamDecl.queryKey?

/-- Some parameter fills the placeholder of the path. -/
def Fills (name : String) : Prop :=
  ∃ param ∈ decl.params, param.roles = [.path name]

/-- The declaration names no qualifier, and neither two verbs nor two paths. -/
structure IsUnambiguous : Prop where
  qualifiers : decl.qualifiers = []
  verbs : decl.verbs.length ≤ 1
  paths : decl.paths.length ≤ 1

/-- The declaration keeps all rules, and the template is that of its path. -/
structure IsBindable (template : UriTemplate) : Prop extends decl.IsUnambiguous where
  parses : UriTemplate.parse decl.path = .ok template
  roles : ∀ param ∈ decl.params, param.roles.length = 1
  body : (decl.params.filter ParamDecl.isBody).length ≤ 1
  known : ∀ param ∈ decl.params, ∀ name, param.roles = [.path name] →
    template.hasPathVariable name = true
  filled : ∀ name ∈ template.pathVariables, decl.Fills name

/-- The first rule that the declaration breaks is the one that the error is about. -/
inductive FirstFault : BindingError → Prop where
  | qualifier {first rest} : decl.qualifiers = first :: rest →
      FirstFault (.unsupportedQualifier decl.method first.render)
  | verbs : decl.qualifiers = [] → 2 ≤ decl.verbs.length →
      FirstFault (.ambiguousVerb decl.method (decl.verbs.map Verb.name))
  | paths : decl.qualifiers = [] → decl.verbs.length ≤ 1 → 2 ≤ decl.paths.length →
      FirstFault (.ambiguousPath decl.method decl.paths)
  | template {e} : decl.IsUnambiguous → UriTemplate.parse decl.path = .error e → FirstFault e
  | parameter {template before param behind e} : decl.IsUnambiguous →
      UriTemplate.parse decl.path = .ok template → decl.params = before ++ param :: behind →
      SoundParams decl.method template before →
      ParamFault decl.method template before param e → FirstFault e
  | unfilled {template front name behind} : decl.IsUnambiguous →
      UriTemplate.parse decl.path = .ok template → SoundParams decl.method template decl.params →
      template.pathVariables = front ++ name :: behind → (∀ other ∈ front, decl.Fills other) →
      ¬decl.Fills name → FirstFault (.unboundPathVariable decl.method name)

/-- What a declaration is bound to, given the template of its path. -/
def bound (base : BaseUri) (parsed : UriTemplate) : BoundMethod :=
  let roles := BoundMethod.Roles.ofParams decl.params
  let (template, queryParams) := BoundMethod.addQueryKeys parsed roles.queryKeys
  { method := decl.method
    verb := decl.verb
    arity := decl.params.length
    uri :=
      { base, template
        pathParams := roles.pathParams
        queryParams
        cached := if roles.pathParams.isEmpty && queryParams.isEmpty then
          (template.expand base fun _ => none).toOption else none }
    bodyPosition := roles.bodyPosition }

end RouteDecl

/-! ## Rules for parameters -/

section

variable {method : String} {template : UriTemplate}

/-- A parameter breaks no rule if it has one role, known to the template and not given before if it
has to be unique. -/
theorem not_paramFault_iff {before : List ParamDecl} {param : ParamDecl} :
    (∀ e, ¬ParamFault method template before param e) ↔
      param.roles.length = 1 ∧
      (∀ name, param.roles = [.path name] → template.hasPathVariable name = true) ∧
      (param.isBody = true → ∀ other ∈ before, other.isBody = false) := by
  constructor
  · intro h
    refine ⟨?_, fun name hroles => ?_, fun hbody other hother => ?_⟩
    · have hsome : param.roles ≠ [] := fun hroles => h _ (.unrecognized hroles)
      have hfew : ¬2 ≤ param.roles.length := fun hroles => h _ (.conflicting hroles)
      have := List.length_pos_iff.2 hsome
      omega
    · rw [← Bool.not_eq_false]
      exact fun hunknown => h _ (.unknown name hroles hunknown)
    · rw [← Bool.not_eq_true]
      exact fun hbefore => h _ (.duplicateBody hbody ⟨other, hother, hbefore⟩)
  · rintro ⟨hroles, hknown, hbody⟩ e hfault
    cases hfault with
    | unrecognized h => simp [h] at hroles
    | conflicting h => omega
    | unknown name h hunknown => exact absurd ((hknown name h).symm.trans hunknown) (by decide)
    | duplicateBody h hother =>
        obtain ⟨other, hmem, hother⟩ := hother
        exact absurd (hother.symm.trans (hbody h other hmem)) (by decide)

/-- A row of parameters is sound if each has one role, at most one is the body, and the template
knows all that fill a placeholder. -/
theorem soundParams_iff {params : List ParamDecl} :
    SoundParams method template params ↔
      (∀ param ∈ params, param.roles.length = 1) ∧
      (params.filter ParamDecl.isBody).length ≤ 1 ∧
      ∀ param ∈ params, ∀ name, param.roles = [.path name] →
        template.hasPathVariable name = true := by
  induction params using List.reverseRecOn with
  | nil =>
      simp only [List.not_mem_nil, false_implies, implies_true, List.filter_nil, List.length_nil,
        Nat.zero_le, and_self, iff_true]
      intro before param behind heq
      simp at heq
  | append_singleton front last ih =>
      rw [soundParams_concat, ih, not_paramFault_iff]
      simp only [List.forall_mem_append, List.forall_mem_singleton, List.filter_append,
        List.length_append]
      cases hbody : last.isBody with
      | false =>
          simp only [hbody, List.filter_cons_of_neg, Bool.false_eq_true, not_false_eq_true,
            List.filter_nil, List.length_nil, Nat.add_zero, false_implies, and_true]
          tauto
      | true =>
          have hnone : (front.filter ParamDecl.isBody).length + 1 ≤ 1 ↔
              ∀ other ∈ front, other.isBody = false := by
            have hzero (n : Nat) : n + 1 ≤ 1 ↔ n = 0 := by omega
            rw [hzero, List.length_eq_zero_iff, List.filter_eq_nil_iff]
            simp only [Bool.not_eq_true]
          have hlast : ([last].filter ParamDecl.isBody).length = 1 := by simp [hbody]
          rw [hlast, hnone]
          have hfew : (∀ other ∈ front, other.isBody = false) →
              (front.filter ParamDecl.isBody).length ≤ 1 := fun h => by
            have := hnone.2 h
            omega
          tauto

end

/-! ## Binding -/

namespace RouteDecl

variable {decl : RouteDecl} {template : UriTemplate}

/-- The parameters of a bindable declaration are sound. -/
theorem IsBindable.soundParams (h : decl.IsBindable template) :
    SoundParams decl.method template decl.params :=
  soundParams_iff.2 ⟨h.roles, h.body, h.known⟩

/-- A placeholder is filled if there is an entry for it. -/
theorem fills_iff {name : String} :
    decl.Fills name ↔
      ((BoundMethod.Roles.ofParams decl.params).pathParams.any fun param =>
        param.placeholder == name) = true := by
  simp only [List.any_eq_true, beq_iff_eq, BoundMethod.Roles.mem_pathParams]
  constructor
  · rintro ⟨param, hparam, hroles⟩
    obtain ⟨position, hposition⟩ := List.mem_iff_getElem?.1 hparam
    exact ⟨⟨position, param.name, name⟩, ⟨param, hposition, hroles, rfl⟩, rfl⟩
  · rintro ⟨entry, ⟨param, hposition, hroles, -⟩, rfl⟩
    exact ⟨param, List.mem_of_getElem? hposition, hroles⟩

/-- The search for a placeholder that is not filled ends at the first one. -/
theorem find?_unfilled_eq_some_iff {names : List String} {name : String} :
    (names.find? fun name => !(BoundMethod.Roles.ofParams decl.params).pathParams.any fun param =>
      param.placeholder == name) = some name ↔
      ∃ front behind, names = front ++ name :: behind ∧ (∀ other ∈ front, decl.Fills other) ∧
        ¬decl.Fills name := by
  rw [List.find?_eq_some_iff_append]
  simp only [Bool.not_not, fills_iff, Bool.not_eq_true', Bool.not_eq_true]
  exact ⟨fun ⟨hname, front, behind, heq, hfront⟩ => ⟨front, behind, heq, hfront, hname⟩,
    fun ⟨front, behind, heq, hfront, hname⟩ => ⟨hname, front, behind, heq, hfront⟩⟩

/-- The search for a placeholder that is not filled ends without one if all are. -/
theorem find?_unfilled_eq_none_iff {names : List String} :
    (names.find? fun name => !(BoundMethod.Roles.ofParams decl.params).pathParams.any fun param =>
      param.placeholder == name) = none ↔ ∀ name ∈ names, decl.Fills name := by
  simp only [List.find?_eq_none, Bool.not_eq_true', Bool.not_eq_false, fills_iff]

/-- A declaration is well formed, or there is a first rule that it breaks. -/
theorem isBindable_or_firstFault (decl : RouteDecl) :
    (∃ template, decl.IsBindable template) ∨ ∃ e, decl.FirstFault e := by
  cases hqualifiers : decl.qualifiers with
  | cons first rest => exact Or.inr ⟨_, .qualifier hqualifiers⟩
  | nil =>
      by_cases hverbs : 2 ≤ decl.verbs.length
      · exact Or.inr ⟨_, .verbs hqualifiers hverbs⟩
      by_cases hpaths : 2 ≤ decl.paths.length
      · exact Or.inr ⟨_, .paths hqualifiers (by omega) hpaths⟩
      have hclear : decl.IsUnambiguous := ⟨hqualifiers, by omega, by omega⟩
      cases hparse : UriTemplate.parse decl.path with
      | error e => exact Or.inr ⟨e, .template hclear hparse⟩
      | ok template =>
          rcases soundParams_or_fault decl.method template decl.params with
            hsound | ⟨before, param, behind, e, hparams, hbefore, hfault⟩
          · cases hfind : template.pathVariables.find? fun name =>
              !(BoundMethod.Roles.ofParams decl.params).pathParams.any fun param =>
                param.placeholder == name with
            | some name =>
                obtain ⟨front, behind, hnames, hfront, hname⟩ := find?_unfilled_eq_some_iff.1 hfind
                exact Or.inr ⟨_, .unfilled hclear hparse hsound hnames hfront hname⟩
            | none =>
                obtain ⟨hroles, hbody, hknown⟩ := soundParams_iff.1 hsound
                exact Or.inl ⟨template, hclear, hparse, hroles, hbody, hknown,
                  find?_unfilled_eq_none_iff.1 hfind⟩
          · exact Or.inr ⟨e, .parameter hclear hparse hparams hbefore hfault⟩

end RouteDecl

namespace BoundMethod

variable {decl : RouteDecl} {template : UriTemplate} (base : BaseUri)

/-- A declaration of at most one verb has that verb. -/
theorem verbOf_eq (h : decl.verbs.length ≤ 1) : verbOf decl = .ok decl.verb := by
  obtain ⟨method, verbs, paths, params, qualifiers⟩ := decl
  rcases verbs with _ | ⟨verb, _ | ⟨second, others⟩⟩
  · rfl
  · rfl
  · simp at h

/-- A declaration of several verbs is refused. -/
theorem verbOf_of_length (h : 2 ≤ decl.verbs.length) :
    verbOf decl = .error (.ambiguousVerb decl.method (decl.verbs.map Verb.name)) := by
  obtain ⟨method, verbs, paths, params, qualifiers⟩ := decl
  rcases verbs with _ | ⟨verb, _ | ⟨second, others⟩⟩
  · simp at h
  · simp at h
  · rfl

/-- A declaration of at most one path has that path. -/
theorem pathOf_eq (h : decl.paths.length ≤ 1) : pathOf decl = .ok decl.path := by
  obtain ⟨method, verbs, paths, params, qualifiers⟩ := decl
  rcases paths with _ | ⟨path, _ | ⟨second, others⟩⟩
  · rfl
  · rfl
  · simp at h

/-- A declaration of several paths is refused. -/
theorem pathOf_of_length (h : 2 ≤ decl.paths.length) :
    pathOf decl = .error (.ambiguousPath decl.method decl.paths) := by
  obtain ⟨method, verbs, paths, params, qualifiers⟩ := decl
  rcases paths with _ | ⟨path, _ | ⟨second, others⟩⟩
  · simp at h
  · simp at h
  · rfl

/-- A template without placeholders in its path is expanded, whatever the values. -/
theorem exists_expand_eq (h : template.pathVariables = []) (values : PlaceholderValues) :
    ∃ url, template.expand base values = .ok url := by
  refine UriTemplate.exists_expand_eq_ok_iff.2 fun segment hsegment => ?_
  have hnone (name : String) : Piece.placeholder name ∉ segment := by
    intro hname
    have hmem : name ∈ template.pathVariables := UriTemplate.mem_pathVariables.2
      (UriTemplate.hasPathVariable_iff.2 ⟨segment, hsegment, hname⟩)
    rw [h] at hmem
    cases hmem
  have hvalues (name : String) (hname : Piece.placeholder name ∈ segment) :
      (values name).bind List.head? = some "" := absurd hname (hnone name)
  exact (Piece.exists_expandSegment_eq_ok_iff hvalues).2
    fun name hname => absurd hname (hnone name)

/-- A declaration whose parameters fill no placeholder has a path without placeholders. -/
theorem pathVariables_eq_nil (h : decl.IsBindable template)
    (hnone : (Roles.ofParams decl.params).pathParams = []) : template.pathVariables = [] := by
  rw [List.eq_nil_iff_forall_not_mem]
  intro name hname
  have hfills := RouteDecl.fills_iff.1 (h.filled name hname)
  rw [hnone] at hfills
  cases hfills

/-- A URL without arguments can be computed when a method is bound. -/
theorem exists_expand_bound (h : decl.IsBindable template)
    (hnone : (Roles.ofParams decl.params).pathParams = []) (values : PlaceholderValues) :
    ∃ url, (decl.bound base template).uri.template.expand base values = .ok url := by
  refine exists_expand_eq base ?_ values
  show (addQueryKeys template _).1.pathVariables = []
  rw [addQueryKeys_eq, UriTemplate.withQuery_pathVariables, pathVariables_eq_nil h hnone]

/-- A well-formed declaration is bound to what it says. -/
theorem bind_of_isBindable (h : decl.IsBindable template) :
    bind base decl = .ok (decl.bound base template) := by
  have hfind := RouteDecl.find?_unfilled_eq_none_iff.2 h.filled
  unfold bind
  simp only [h.qualifiers, verbOf_eq h.verbs, pathOf_eq h.paths, ok_bind, h.parses,
    foldlM_addParam h.soundParams, hfind]
  by_cases hfixed : ((Roles.ofParams decl.params).pathParams.isEmpty &&
      (addQueryKeys template (Roles.ofParams decl.params).queryKeys).2.isEmpty) = true
  · have hnone := List.isEmpty_iff.1 (Bool.and_eq_true_iff.1 hfixed).1
    obtain ⟨url, hurl⟩ := exists_expand_bound base h hnone fun _ => none
    simp only [RouteDecl.bound] at hurl
    simp only [RouteDecl.bound, if_pos hfixed, hurl]
    rfl
  · simp only [RouteDecl.bound, if_neg hfixed]
    rfl

/-- The first fault of a declaration is the error of binding it. -/
theorem bind_of_firstFault {e : BindingError} (h : decl.FirstFault e) :
    bind base decl = .error e := by
  cases h with
  | qualifier hqualifiers =>
      unfold bind
      simp only [hqualifiers]
      rfl
  | verbs hqualifiers hverbs =>
      unfold bind
      simp only [hqualifiers, verbOf_of_length hverbs]
      rfl
  | paths hqualifiers hverbs hpaths =>
      unfold bind
      simp only [hqualifiers, verbOf_eq hverbs, pathOf_of_length hpaths]
      rfl
  | template h hparse =>
      unfold bind
      simp only [h.qualifiers, verbOf_eq h.verbs, pathOf_eq h.paths, ok_bind, hparse]
      rfl
  | parameter h hparse hparams hbefore hfault =>
      unfold bind
      simp only [h.qualifiers, verbOf_eq h.verbs, pathOf_eq h.paths, ok_bind, hparse, hparams,
        foldlM_addParam_of_fault hbefore hfault]
      rfl
  | unfilled h hparse hsound hnames hfront hname =>
      have hfind := RouteDecl.find?_unfilled_eq_some_iff.2 ⟨_, _, hnames, hfront, hname⟩
      unfold bind
      simp only [h.qualifiers, verbOf_eq h.verbs, pathOf_eq h.paths, ok_bind, hparse,
        foldlM_addParam hsound, hfind]
      rfl

variable {base} {bound : BoundMethod}

/-- A declaration is bound to what it says if it is well formed, and not otherwise. -/
theorem bind_eq_ok_iff :
    bind base decl = .ok bound ↔
      ∃ template, decl.IsBindable template ∧ bound = decl.bound base template := by
  constructor
  · intro h
    rcases decl.isBindable_or_firstFault with ⟨template, hbindable⟩ | ⟨e, hfault⟩
    · rw [bind_of_isBindable base hbindable] at h
      cases h
      exact ⟨template, hbindable, rfl⟩
    · rw [bind_of_firstFault base hfault] at h
      cases h
  · rintro ⟨template, hbindable, rfl⟩
    exact bind_of_isBindable base hbindable

/-- The keys of the query are collected in the order of the parameters. -/
theorem map_queryKeys : (Roles.ofParams decl.params).queryKeys.map (·.2.2) = decl.queryKeys := by
  have hkey : (fun item : ParamDecl × Nat => (ParamDecl.queryParam? item).map (·.2.2)) =
      ParamDecl.queryKey? ∘ Prod.fst := by
    funext ⟨param, position⟩
    obtain ⟨name, roles⟩ := param
    rcases roles with _ | ⟨role | key | _, _ | ⟨second, others⟩⟩ <;> rfl
  show (decl.params.zipIdx.filterMap ParamDecl.queryParam?).map _ = _
  rw [List.map_filterMap, hkey, ← List.filterMap_map, List.zipIdx_map_fst]
  rfl

/-- The query of a bound method has the keys of the declaration. -/
theorem map_key_query (h : decl.IsBindable template) :
    (decl.bound base template).uri.template.query.map QueryParameter.key = decl.queryKeys := by
  show (addQueryKeys template _).1.query.map _ = _
  rw [addQueryKeys_eq, UriTemplate.withQuery_query, (UriTemplate.isSolid_of_parse h.parses).2,
    map_queryKeys, List.nil_append, List.map_map]
  exact List.map_fst_zip (by simp)

/-- A declaration is bound exactly if it is well formed. Otherwise the error is that of the first
rule it breaks. The bound method has the verb, the number of parameters, the position of the body
and the keys of the query that were declared. Computing a URL while a method is bound never
fails. -/
theorem bind_decided (base : BaseUri) (decl : RouteDecl) :
    ((∃ bound, bind base decl = .ok bound) ↔ ∃ template, decl.IsBindable template) ∧
    (∀ e, bind base decl = .error e ↔ decl.FirstFault e) ∧
    (∀ bound, bind base decl = .ok bound →
      bound.method = decl.method ∧ bound.verb = decl.verb ∧ bound.arity = decl.params.length ∧
      bound.bodyPosition = decl.params.findIdx? ParamDecl.isBody ∧
      bound.uri.template.query.map QueryParameter.key = decl.queryKeys) ∧
    ∀ template, UriTemplate.parse decl.path = .ok template →
      ∀ text reason, bind base decl ≠ .error (.invalidTemplate text reason) := by
  have hfault (e : BindingError) : bind base decl = .error e ↔ decl.FirstFault e := by
    refine ⟨fun h => ?_, bind_of_firstFault base⟩
    rcases decl.isBindable_or_firstFault with ⟨template, hbindable⟩ | ⟨other, hother⟩
    · rw [bind_of_isBindable base hbindable] at h
      cases h
    · rw [bind_of_firstFault base hother] at h
      cases h
      exact hother
  refine ⟨?_, hfault, fun bound h => ?_, fun template hparse text reason h => ?_⟩
  · simp only [bind_eq_ok_iff]
    exact ⟨fun ⟨_, template, hbindable, _⟩ => ⟨template, hbindable⟩,
      fun ⟨template, hbindable⟩ => ⟨_, template, hbindable, rfl⟩⟩
  · obtain ⟨template, hbindable, rfl⟩ := bind_eq_ok_iff.1 h
    exact ⟨rfl, rfl, rfl, rfl, map_key_query hbindable⟩
  · cases (hfault _).1 h with
    | template _ hfail => rw [hparse] at hfail; cases hfail
    | parameter _ _ _ _ hparam => cases hparam

end BoundMethod

end HttpRpc
