import HttpRpc.Binding.Method
import HttpRpc.Proofs.Checks
import Mathlib.Data.List.Induction

/-!
# The parameters of a declaration

Each parameter of a route has to have exactly one role, a path role has to name a placeholder of the
template, and only one parameter is the body. `ParamFault` says which of these rules a parameter
breaks behind others. If none is broken, binding collects the entries of the parameters in their
order (`foldlM_addParam`); otherwise it ends with the first fault (`foldlM_addParam_of_fault`).
-/

namespace HttpRpc

namespace ParamDecl

/-- The entry of a parameter that fills a placeholder of the path. -/
def pathParam? : ParamDecl × Nat → Option PathParam
  | (⟨name, [.path placeholder]⟩, position) => some ⟨position, name, placeholder⟩
  | _ => none

/-- The entry of a parameter that stands under a key of the query: position, name and key. -/
def queryParam? : ParamDecl × Nat → Option (Nat × String × String)
  | (⟨name, [.query key]⟩, position) => some (position, name, key)
  | _ => none

/-- Whether the parameter is the body. -/
def isBody (param : ParamDecl) : Bool :=
  param.roles == [.body]

/-- A parameter has an entry for the path if that is its role. -/
theorem pathParam?_eq_some {param : ParamDecl} {position : Nat} {entry : PathParam} :
    pathParam? (param, position) = some entry ↔
      param.roles = [.path entry.placeholder] ∧ entry.position = position ∧
        entry.name = param.name := by
  obtain ⟨name, roles⟩ := param
  rcases roles with _ | ⟨role | key | _, _ | ⟨second, others⟩⟩ <;> simp [pathParam?]
  constructor
  · rintro rfl
    exact ⟨rfl, rfl, rfl⟩
  · rintro ⟨rfl, rfl, rfl⟩
    rfl

end ParamDecl

/-- The rule of a route that a parameter breaks behind others. -/
inductive ParamFault (method : String) (template : UriTemplate) (before : List ParamDecl)
    (param : ParamDecl) : BindingError → Prop where
  | unrecognized : param.roles = [] →
      ParamFault method template before param (.unrecognizedParameter method param.name)
  | conflicting : 2 ≤ param.roles.length →
      ParamFault method template before param (.conflictingParameterRoles method param.name)
  | unknown (name) : param.roles = [.path name] → template.hasPathVariable name = false →
      ParamFault method template before param (.unknownPathVariable method name)
  | duplicateBody : param.isBody = true → (∃ other ∈ before, other.isBody = true) →
      ParamFault method template before param (.duplicateBody method)

/-- No parameter of a row breaks a rule behind those before it. -/
def SoundParams (method : String) (template : UriTemplate) (params : List ParamDecl) : Prop :=
  ∀ before param behind, params = before ++ param :: behind →
    ∀ e, ¬ParamFault method template before param e

variable {method : String} {template : UriTemplate}

/-! ## Rows of parameters -/

/-- A row is sound if its front is and its last parameter breaks no rule. -/
theorem soundParams_concat {front : List ParamDecl} {last : ParamDecl} :
    SoundParams method template (front ++ [last]) ↔
      SoundParams method template front ∧ ∀ e, ¬ParamFault method template front last e := by
  constructor
  · intro h
    refine ⟨fun before param behind heq => h before param (behind ++ [last]) ?_,
      h front last [] rfl⟩
    rw [heq, List.append_assoc, List.cons_append]
  · rintro ⟨hfront, hlast⟩ before param behind heq
    -- The parameter is the last one or stands in the front.
    cases behind using List.reverseRecOn with
    | nil =>
        obtain ⟨rfl, hparam⟩ := List.append_inj' heq rfl
        cases hparam
        exact hlast
    | append_singleton others final =>
        rw [← List.cons_append, ← List.append_assoc] at heq
        exact hfront before param others (List.append_inj' heq rfl).1

/-- A row of parameters is sound, or it has a first fault. -/
theorem soundParams_or_fault (method : String) (template : UriTemplate)
    (params : List ParamDecl) :
    SoundParams method template params ∨
      ∃ before param behind e, params = before ++ param :: behind ∧
        SoundParams method template before ∧ ParamFault method template before param e := by
  have hnone : SoundParams method template [] := fun before param behind heq => by simp at heq
  exact sound_or_fault hnone
    (fun front last hfront hlast => soundParams_concat.2 ⟨hfront, hlast⟩) params

/-! ## Binding parameters -/

namespace BoundMethod

/-- What is known about the parameters of a row: the entries for the path, those for the query, and
the position of the body. -/
def Roles.ofParams (params : List ParamDecl) : Roles where
  pathParams := params.zipIdx.filterMap ParamDecl.pathParam?
  queryKeys := params.zipIdx.filterMap ParamDecl.queryParam?
  bodyPosition := params.findIdx? ParamDecl.isBody

/-- The entries for the path are those of the parameters that fill a placeholder. -/
theorem Roles.mem_pathParams {params : List ParamDecl} {entry : PathParam} :
    entry ∈ (ofParams params).pathParams ↔ ∃ param, params[entry.position]? = some param ∧
      param.roles = [.path entry.placeholder] ∧ entry.name = param.name := by
  show entry ∈ params.zipIdx.filterMap ParamDecl.pathParam? ↔ _
  rw [List.mem_filterMap]
  constructor
  · rintro ⟨⟨param, position⟩, hmem, hentry⟩
    obtain ⟨hroles, rfl, hname⟩ := ParamDecl.pathParam?_eq_some.1 hentry
    exact ⟨param, List.mem_zipIdx_iff_getElem?.1 hmem, hroles, hname⟩
  · rintro ⟨param, hparam, hroles, hname⟩
    exact ⟨(param, entry.position), List.mem_zipIdx_iff_getElem?.2 hparam,
      ParamDecl.pathParam?_eq_some.2 ⟨hroles, rfl, hname⟩⟩

/-- What is known after one more parameter. -/
def Roles.add (roles : Roles) (item : ParamDecl × Nat) : Roles where
  pathParams := roles.pathParams ++ (ParamDecl.pathParam? item).toList
  queryKeys := roles.queryKeys ++ (ParamDecl.queryParam? item).toList
  bodyPosition := roles.bodyPosition.or (if item.1.isBody then some item.2 else none)

/-- One more parameter at the end of a row. -/
theorem Roles.ofParams_concat (front : List ParamDecl) (last : ParamDecl) :
    Roles.ofParams (front ++ [last]) = (Roles.ofParams front).add (last, front.length) := by
  have hentry {α : Type} (select? : ParamDecl × Nat → Option α) :
      (front ++ [last]).zipIdx.filterMap select? =
        front.zipIdx.filterMap select? ++ (select? (last, front.length)).toList := by
    rw [List.zipIdx_append, List.filterMap_append, Nat.zero_add]
    cases hlast : select? (last, front.length) <;> simp [hlast]
  have hbody : (front ++ [last]).findIdx? ParamDecl.isBody =
      (front.findIdx? ParamDecl.isBody).or (if last.isBody then some front.length else none) := by
    cases hlast : last.isBody <;> simp [List.findIdx?_append, hlast]
  simp only [ofParams, add, hentry, hbody]

/-- The body is known once a parameter is the body. -/
theorem Roles.isSome_bodyPosition (params : List ParamDecl) :
    (Roles.ofParams params).bodyPosition.isSome = true ↔ ∃ param ∈ params, param.isBody = true := by
  show (params.findIdx? ParamDecl.isBody).isSome = true ↔ _
  rw [List.findIdx?_isSome, List.any_eq_true]

/-- A parameter without a fault is added to what is known. -/
theorem addParam_eq {before : List ParamDecl} {param : ParamDecl}
    (h : ∀ e, ¬ParamFault method template before param e) :
    addParam method template (Roles.ofParams before) (param, before.length) =
      .ok ((Roles.ofParams before).add (param, before.length)) := by
  obtain ⟨name, roles⟩ := param
  rcases roles with _ | ⟨role, _ | ⟨second, others⟩⟩
  · exact absurd (.unrecognized rfl) (h _)
  · cases role with
    | path placeholder =>
        have hknown : template.hasPathVariable placeholder = true := by
          rw [← Bool.not_eq_false]
          exact fun hunknown => h _ (.unknown placeholder rfl hunknown)
        simp only [addParam, roleOf, ok_bind, hknown, if_true]
        simp [Roles.add, ParamDecl.pathParam?, ParamDecl.queryParam?, ParamDecl.isBody, pure,
          Except.pure]
    | query key =>
        simp only [addParam, roleOf, ok_bind]
        simp [Roles.add, ParamDecl.pathParam?, ParamDecl.queryParam?, ParamDecl.isBody, pure,
          Except.pure]
    | body =>
        have hfirst : (Roles.ofParams before).bodyPosition = none := by
          rw [← Option.not_isSome_iff_eq_none, Roles.isSome_bodyPosition]
          exact fun hother => h _ (.duplicateBody rfl hother)
        simp only [addParam, roleOf, ok_bind, hfirst]
        simp [Roles.add, hfirst, ParamDecl.pathParam?, ParamDecl.queryParam?, ParamDecl.isBody,
          pure, Except.pure]
  · exact absurd (.conflicting (by simp)) (h _)

/-- The fault of a parameter is the error of binding it. -/
theorem addParam_of_fault {before : List ParamDecl} {param : ParamDecl} {e : BindingError}
    (h : ParamFault method template before param e) :
    addParam method template (Roles.ofParams before) (param, before.length) = .error e := by
  obtain ⟨name, roles⟩ := param
  cases h with
  | unrecognized hroles =>
      cases hroles
      rfl
  | conflicting hroles =>
      rcases roles with _ | ⟨role, _ | ⟨second, others⟩⟩
      · simp at hroles
      · simp at hroles
      · rfl
  | unknown placeholder hroles hunknown =>
      cases hroles
      simp only [addParam, roleOf, ok_bind, hunknown]
      rfl
  | duplicateBody hbody hother =>
      have hroles : roles = [.body] := beq_iff_eq.1 hbody
      subst hroles
      simp only [addParam, roleOf, ok_bind, (Roles.isSome_bodyPosition before).2 hother]
      rfl

/-- Binding a sound row collects what its parameters say. -/
theorem foldlM_addParam {params : List ParamDecl} (h : SoundParams method template params) :
    params.zipIdx.foldlM (addParam method template) ⟨[], [], none⟩ =
      .ok (Roles.ofParams params) := by
  induction params using List.reverseRecOn with
  | nil => rfl
  | append_singleton front last ih =>
      obtain ⟨hfront, hlast⟩ := soundParams_concat.1 h
      rw [List.zipIdx_append, List.foldlM_append, ih hfront, ok_bind, Roles.ofParams_concat,
        ← addParam_eq hlast]
      simp

/-- Binding ends with the first fault of a row. -/
theorem foldlM_addParam_of_fault {before behind : List ParamDecl} {param : ParamDecl}
    {e : BindingError} (hbefore : SoundParams method template before)
    (h : ParamFault method template before param e) :
    (before ++ param :: behind).zipIdx.foldlM (addParam method template) ⟨[], [], none⟩ =
      .error e := by
  rw [List.zipIdx_append, List.foldlM_append, foldlM_addParam hbefore, ok_bind,
    List.zipIdx_cons, List.foldlM_cons, Nat.zero_add, addParam_of_fault h]
  rfl

end BoundMethod

end HttpRpc
