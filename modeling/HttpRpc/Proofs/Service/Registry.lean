import HttpRpc.Proofs.Checks
import HttpRpc.Proofs.Lists
import HttpRpc.Service.Registry
import Mathlib.Data.List.Dedup

/-!
# What a registry holds

A registry is built exactly if the declarations are sound (`SoundDecls`): each takes one parameter
and has an invoker, and if the registry is strict, no two have one name. It then holds under each
name the last declaration of that name (`get?_eq_some_iff_of_build`), so every method that is found
in it can be called (`invoker_of_get?`). Otherwise the error is that of the first declaration that
breaks a rule (`DeclFault`, `build_eq_error_iff`).
-/

namespace HttpRpc

namespace RpcRegistry

/-- Each declaration takes one parameter and has an invoker, and their names differ if the registry
is strict. -/
structure SoundDecls (strict : Bool) (decls : List RpcMethod) : Prop where
  callable : ∀ decl ∈ decls, decl.arity = 1 ∧ ∃ invoker, decl.invoker = some invoker
  names : strict = true → (decls.map RpcMethod.name).Nodup

/-- The rule that a declaration breaks behind others: it cannot be called, or it can but repeats a
name in a strict registry. -/
inductive DeclFault (strict : Bool) (before : List RpcMethod) (decl : RpcMethod) :
    BindingError → Prop where
  | signature (hdecl : ¬(decl.arity = 1 ∧ ∃ invoker, decl.invoker = some invoker)) :
      DeclFault strict before decl (.onlyOneParameterSupported decl.name decl.arity)
  | repeated (hdecl : decl.arity = 1 ∧ ∃ invoker, decl.invoker = some invoker)
      (hstrict : strict = true) (hname : decl.name ∈ before.map RpcMethod.name) :
      DeclFault strict before decl (.duplicateMethod decl.name)

variable {strict : Bool} {decls before : List RpcMethod} {decl method : RpcMethod} {name : String}
  {registry : RpcRegistry} {e : BindingError}

/-! ## Sound declarations -/

/-- A method can be called if it takes one parameter and has an invoker. -/
theorem isCallable_iff :
    isCallable method = true ↔ method.arity = 1 ∧ ∃ invoker, method.invoker = some invoker := by
  rw [isCallable, Bool.and_eq_true, beq_iff_eq, Option.isSome_iff_exists]

/-- A declaration that breaks no rule can be called. -/
theorem callable_of_not_fault (h : ∀ e, ¬DeclFault strict before decl e) :
    decl.arity = 1 ∧ ∃ invoker, decl.invoker = some invoker :=
  not_not.1 fun hdecl => h _ (.signature hdecl)

/-- Declarations are sound if those in front are and the last one breaks no rule. -/
theorem soundDecls_concat (hbefore : SoundDecls strict before)
    (hdecl : ∀ e, ¬DeclFault strict before decl e) : SoundDecls strict (before ++ [decl]) := by
  have hcallable := callable_of_not_fault hdecl
  constructor
  · rw [List.forall_mem_append, List.forall_mem_singleton]
    exact ⟨hbefore.callable, hcallable⟩
  · intro hstrict
    rw [List.map_append, List.map_singleton, List.nodup_append]
    refine ⟨hbefore.names hstrict, List.nodup_singleton _, fun name hname other hother heq => ?_⟩
    rw [heq, List.mem_singleton.1 hother] at hname
    exact hdecl _ (.repeated hcallable hstrict hname)

/-- Of sound declarations those in front are sound and the last one breaks no rule. -/
theorem SoundDecls.of_concat (h : SoundDecls strict (before ++ [decl])) :
    SoundDecls strict before ∧ ∀ e, ¬DeclFault strict before decl e := by
  have hcallable := h.callable
  rw [List.forall_mem_append, List.forall_mem_singleton] at hcallable
  have hnames (hstrict : strict = true) := h.names hstrict
  simp only [List.map_append, List.map_singleton, List.nodup_append] at hnames
  refine ⟨⟨hcallable.1, fun hstrict => (hnames hstrict).1⟩, fun e hfault => ?_⟩
  cases hfault with
  | signature hdecl => exact hdecl hcallable.2
  | repeated _ hstrict hname =>
      exact (hnames hstrict).2.2 _ hname _ List.mem_cons_self rfl

/-- Declarations are sound, or there is a first one that breaks a rule. -/
theorem soundDecls_or_fault (strict : Bool) (decls : List RpcMethod) :
    SoundDecls strict decls ∨ ∃ before decl behind e, decls = before ++ decl :: behind ∧
      SoundDecls strict before ∧ DeclFault strict before decl e := by
  have hnone : SoundDecls strict [] := ⟨nofun, fun _ => List.nodup_nil⟩
  exact sound_or_fault hnone (fun _ _ => soundDecls_concat) decls

/-! ## What is held -/

/-- The methods that are held once each of the declarations is put among those before it. -/
def held (decls : List RpcMethod) : List RpcMethod :=
  decls.foldl (fun methods decl => put decl methods) []

/-- The last declaration is put among the methods that are held before. -/
theorem held_concat (before : List RpcMethod) (decl : RpcMethod) :
    held (before ++ [decl]) = put decl (held before) := by
  rw [held, List.foldl_append]
  rfl

/-- A method that is put is found under its own name, and what is found under other names stays. -/
theorem find?_put (method : RpcMethod) (methods : List RpcMethod) (name : String) :
    (put method methods).find? (fun other => other.name == name) =
      if method.name = name then some method
      else methods.find? fun other => other.name == name := by
  induction methods with
  | nil =>
      rw [put, List.find?_singleton]
      simp
  | cons first rest ih =>
      rw [put]
      by_cases hname : method.name = name
      · by_cases hfirst : first.name = method.name
        · simp [hfirst, hname]
        · simp [hname, ih, hname ▸ hfirst]
      · by_cases hfirst : first.name = method.name
        · simp [hfirst, hname]
        · simp [hfirst, hname, ih, List.find?_cons]

/-- A name that is new is put behind the others, and one that is not leaves them as they are. -/
theorem names_put (method : RpcMethod) (methods : List RpcMethod) :
    (put method methods).map RpcMethod.name =
      if method.name ∈ methods.map RpcMethod.name then methods.map RpcMethod.name
      else methods.map RpcMethod.name ++ [method.name] := by
  induction methods with
  | nil => simp [put]
  | cons first rest ih =>
      rw [put]
      by_cases hfirst : first.name = method.name
      · simp [hfirst]
      · by_cases hrest : method.name ∈ rest.map RpcMethod.name
        · simp [hfirst, ih, hrest]
        · simp [hfirst, ih, hrest, Ne.symm hfirst]

/-- What is held under a name is the last declaration of the name. -/
theorem find?_held (decls : List RpcMethod) (name : String) :
    (held decls).find? (fun method => method.name == name) =
      decls.reverse.find? fun method => method.name == name := by
  induction decls using List.reverseRecOn with
  | nil => rfl
  | append_singleton before last ih =>
      rw [held_concat, find?_put, ih, List.reverse_concat]
      by_cases h : last.name = name
      · rw [if_pos h, List.find?_cons_of_pos (by simpa using h)]
      · rw [if_neg h, List.find?_cons_of_neg (by simpa using h)]

/-- The methods that are held have the names of the declarations, each once. -/
theorem names_held (decls : List RpcMethod) :
    ((held decls).map RpcMethod.name).Nodup ∧
      ∀ name, name ∈ (held decls).map RpcMethod.name ↔ name ∈ decls.map RpcMethod.name := by
  induction decls using List.reverseRecOn with
  | nil => exact ⟨List.nodup_nil, fun name => Iff.rfl⟩
  | append_singleton before last ih =>
      obtain ⟨hnodup, hmem⟩ := ih
      rw [held_concat, names_put]
      simp only [hmem, List.map_append, List.map_singleton, List.mem_append, List.mem_singleton]
      split
      · next hlast =>
          refine ⟨hnodup, fun name => ?_⟩
          rw [hmem, or_iff_left_of_imp]
          rintro rfl
          exact hlast
      · next hlast =>
          constructor
          · rw [List.nodup_append]
            refine ⟨hnodup, List.nodup_singleton _, fun name hname other hother heq => hlast ?_⟩
            rwa [← List.mem_singleton.1 hother, ← heq, ← hmem]
          · intro name
            rw [List.mem_append, hmem, List.mem_singleton]

/-- As many methods are held as there are different names. -/
theorem length_held (decls : List RpcMethod) :
    (held decls).length = (decls.map RpcMethod.name).dedup.length := by
  obtain ⟨hnodup, hmem⟩ := names_held decls
  have hperm : ((held decls).map RpcMethod.name).Perm (decls.map RpcMethod.name).dedup := by
    rw [List.perm_ext_iff_of_nodup hnodup (List.nodup_dedup _)]
    intro name
    rw [hmem, List.mem_dedup]
  rw [← hperm.length_eq, List.length_map]

/-! ## Adding declarations -/

/-- A name is repeated if it is that of a declaration before. -/
theorem any_held_eq_true_iff (before : List RpcMethod) (name : String) :
    ((held before).any fun other => other.name == name) = true ↔
      name ∈ before.map RpcMethod.name := by
  rw [← (names_held before).2, List.any_eq_true, List.mem_map]
  simp only [beq_iff_eq]

/-- A declaration that breaks no rule is put among the methods that are held. -/
theorem exists_addAll_cons_eq (h : ∀ e, ¬DeclFault strict before decl e)
    (repeated : List String) (behind : List RpcMethod) :
    ∃ more, addAll strict (held before) repeated (decl :: behind) =
      addAll strict (held (before ++ [decl])) more behind := by
  have hcallable := callable_of_not_fault h
  rw [addAll, held_concat, isCallable_iff.2 hcallable]
  by_cases hname : decl.name ∈ before.map RpcMethod.name
  · have hstrict : strict = false := by
      cases strict with
      | false => rfl
      | true => exact absurd (.repeated hcallable rfl hname) (h _)
    rw [(any_held_eq_true_iff before decl.name).2 hname, hstrict]
    exact ⟨_, rfl⟩
  · rw [if_neg (by simp), if_neg (by rwa [any_held_eq_true_iff])]
    exact ⟨_, rfl⟩

/-- Sound declarations are held when those behind them are added. -/
theorem exists_addAll_append_eq (h : SoundDecls strict decls) (behind : List RpcMethod) :
    ∃ repeated, addAll strict [] [] (decls ++ behind) =
      addAll strict (held decls) repeated behind := by
  induction decls using List.reverseRecOn generalizing behind with
  | nil => exact ⟨[], rfl⟩
  | append_singleton before last ih =>
      obtain ⟨hbefore, hlast⟩ := h.of_concat
      obtain ⟨repeated, hadd⟩ := ih hbefore (last :: behind)
      rw [List.append_assoc, List.singleton_append, hadd]
      exact exists_addAll_cons_eq hlast repeated behind

/-- A declaration that breaks a rule ends the adding. -/
theorem failure_addAll_of_fault (h : DeclFault strict before decl e) (repeated : List String)
    (behind : List RpcMethod) :
    (addAll strict (held before) repeated (decl :: behind)).failure = some e := by
  rw [addAll]
  cases h with
  | signature hdecl =>
      rw [if_pos (by rwa [Bool.not_eq_true', ← Bool.not_eq_true, isCallable_iff])]
  | repeated hdecl hstrict hname =>
      rw [isCallable_iff.2 hdecl, (any_held_eq_true_iff before decl.name).2 hname, hstrict]
      rfl

/-- A registry is built of sound declarations, and it holds them. -/
theorem build_of_sound (h : SoundDecls strict decls) : build strict decls = .ok ⟨held decls⟩ := by
  obtain ⟨repeated, hadd⟩ := exists_addAll_append_eq h []
  rw [List.append_nil] at hadd
  rw [build, hadd]
  rfl

/-- The first declaration that breaks a rule is the one that the error is about. -/
theorem build_of_fault {behind : List RpcMethod} (hbefore : SoundDecls strict before)
    (hfault : DeclFault strict before decl e) :
    build strict (before ++ decl :: behind) = .error e := by
  obtain ⟨repeated, hadd⟩ := exists_addAll_append_eq hbefore (decl :: behind)
  rw [build, hadd]
  simp only [failure_addAll_of_fault hfault]

/-- A registry that was built holds declarations that are sound. -/
theorem sound_of_build (h : build strict decls = .ok registry) :
    SoundDecls strict decls ∧ registry = ⟨held decls⟩ := by
  rcases soundDecls_or_fault strict decls with hsound | ⟨before, decl, behind, e, rfl, hb, hfault⟩
  · rw [build_of_sound hsound] at h
    cases h
    exact ⟨hsound, rfl⟩
  · rw [build_of_fault hb hfault] at h
    cases h

/-- A registry that was built holds under a name the last declaration that was added under it. -/
theorem get?_eq_some_iff_of_build (h : build strict decls = .ok registry) :
    registry.get? name = some method ↔
      ∃ before behind, decls = before ++ method :: behind ∧ method.name = name ∧
        ∀ later ∈ behind, later.name ≠ name := by
  rw [(sound_of_build h).2, get?, find?_held, find?_reverse_eq_some_iff]
  simp only [beq_iff_eq, beq_eq_false_iff_ne]

/-- Something is held under a name exactly if a declaration was added under it. -/
theorem exists_get?_iff_of_build (h : build strict decls = .ok registry) :
    (∃ method, registry.get? name = some method) ↔ name ∈ decls.map RpcMethod.name := by
  rw [(sound_of_build h).2, get?, find?_held, ← Option.isSome_iff_exists, List.find?_isSome,
    List.mem_map]
  simp only [List.mem_reverse, beq_iff_eq]

/-- A registry that was built has as many names as the declarations. -/
theorem size_of_build (h : build strict decls = .ok registry) :
    registry.size = (decls.map RpcMethod.name).dedup.length := by
  rw [(sound_of_build h).2]
  exact length_held decls

/-- A registry that was built has as many methods as there are declarations exactly if their names
differ. -/
theorem size_eq_length_iff_of_build (h : build strict decls = .ok registry) :
    registry.size = decls.length ↔ (decls.map RpcMethod.name).Nodup := by
  rw [size_of_build h, ← List.length_map RpcMethod.name, ← List.dedup_eq_self]
  exact ⟨(List.dedup_sublist _).eq_of_length, congrArg List.length⟩

/-- A registry that was built of declarations whose names differ holds each under its own name. -/
theorem get?_of_nodup (h : build strict decls = .ok registry)
    (hnames : (decls.map RpcMethod.name).Nodup) (hdecl : decl ∈ decls) :
    registry.get? decl.name = some decl := by
  obtain ⟨before, behind, rfl⟩ := List.append_of_mem hdecl
  refine (get?_eq_some_iff_of_build h).2 ⟨before, behind, rfl, rfl, fun later hlater heq => ?_⟩
  rw [List.map_append, List.map_cons] at hnames
  have hbehind := (List.nodup_cons.1 hnames.of_append_right).1
  exact hbehind (List.mem_map.2 ⟨later, hlater, heq⟩)

/-- A method that is found in a registry that was built has an invoker. -/
theorem invoker_of_get? (hbuild : build strict decls = .ok registry)
    (hget : registry.get? name = some method) : ∃ invoker, method.invoker = some invoker := by
  obtain ⟨before, behind, rfl, -, -⟩ := (get?_eq_some_iff_of_build hbuild).1 hget
  exact ((sound_of_build hbuild).1.callable method (by simp)).2

/-- The error of a registry that is not built is that of the first declaration that breaks a rule.
-/
theorem build_eq_error_iff :
    build strict decls = .error e ↔ ∃ before decl behind, decls = before ++ decl :: behind ∧
      SoundDecls strict before ∧ DeclFault strict before decl e := by
  constructor
  · intro h
    rcases soundDecls_or_fault strict decls with
      hsound | ⟨before, decl, behind, other, hdecls, hbefore, hfault⟩
    · rw [build_of_sound hsound] at h
      cases h
    · rw [hdecls, build_of_fault hbefore hfault] at h
      cases h
      exact ⟨before, decl, behind, hdecls, hbefore, hfault⟩
  · rintro ⟨before, decl, behind, rfl, hbefore, hfault⟩
    exact build_of_fault hbefore hfault

/-- A method is found under its own name. -/
theorem name_of_get? (h : registry.get? name = some method) : method.name = name := by
  have hname := List.find?_some h
  exact beq_iff_eq.1 hname

end RpcRegistry

end HttpRpc
