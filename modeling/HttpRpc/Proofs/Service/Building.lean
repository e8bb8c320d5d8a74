import HttpRpc.Proofs.Service.Admission
import HttpRpc.Proofs.Service.Registry

/-!
# Building registries

What is done with a builder is a row of steps: methods and services are added, and it is set whether
names must differ. Whatever the steps are, the builder has the declarations of all of them in their
order and what was set last (`foldl_apply`). Which registry is built of these, and when none is, is
`build_decided`.
-/

namespace HttpRpc

/-! ## Calling what is held -/

/-- A dispatcher whose registry was built calls the invoker of every method that it calls. -/
theorem HttpDispatcher.exists_invoke_eq_of_build {strict : Bool} {decls : List RpcMethod}
    {dispatcher : HttpDispatcher}
    (hbuild : RpcRegistry.build strict decls = .ok dispatcher.registry) {request : Request}
    {method : RpcMethod} {input : Json}
    (h : dispatcher.prepare request = .ok (method, input)) :
    ∃ invoker, method.invoker = some invoker ∧
      invoke method input = do return result method.name (← invoker input) := by
  obtain ⟨invoker, hinvoker⟩ := RpcRegistry.invoker_of_get? hbuild (method?_of_prepare h)
  refine ⟨invoker, hinvoker, ?_⟩
  rw [invoke, hinvoker]

namespace RpcRegistryBuilder

/-! ## Additions and settings -/

/-- What is done with a builder: a method or a service is added, or it is set whether names must
differ. -/
inductive Step where
  | method (decl : RpcMethod)
  | service (added : RpcService)
  | strictOverloads (strict : Bool)

namespace Step

/-- The builder after a step. -/
def apply (builder : RpcRegistryBuilder) : Step → RpcRegistryBuilder
  | method decl => builder.method decl
  | service added => builder.service added
  | strictOverloads strict => builder.strictOverloads strict

/-- The declarations that a step adds. -/
def decls : Step → List RpcMethod
  | method decl => [decl]
  | service added => added.methods
  | strictOverloads _ => []

/-- What a step sets. -/
def strict? : Step → Option Bool
  | strictOverloads strict => some strict
  | _ => none

end Step

/-- What was set last; without a setting a builder is not strict. -/
def lastStrict (steps : List Step) : Bool :=
  ((steps.filterMap Step.strict?).getLast?).getD false

/-- What the last step sets counts, and otherwise what was set before it. -/
theorem lastStrict_concat (before : List Step) (last : Step) :
    lastStrict (before ++ [last]) = last.strict?.getD (lastStrict before) := by
  rw [lastStrict, List.filterMap_append]
  cases h : last.strict? with
  | none => simp [h, lastStrict]
  | some strict => simp [h]

/-- After steps a builder has the declarations of all of them, in their order, and the last setting.
-/
theorem foldl_apply (steps : List Step) :
    steps.foldl Step.apply new = ⟨steps.flatMap Step.decls, lastStrict steps⟩ := by
  induction steps using List.reverseRecOn with
  | nil => rfl
  | append_singleton before last ih =>
      rw [List.foldl_append, ih, List.flatMap_append, lastStrict_concat, List.flatMap_singleton]
      cases last with
      | method decl => rfl
      | service added => rfl
      | strictOverloads strict =>
          rw [Step.decls, List.append_nil]
          rfl

/-- Whatever is added to a builder, and whenever it is set whether names must differ, a registry is
built exactly if each declaration takes one parameter and has an invoker and, if the last setting
asks for it, no two have one name. The registry then holds under each name the last declaration that
was added under it and nothing else, it has as many methods as there are names, and each method that
a dispatcher calls from it is called through its invoker. Otherwise the error is that of the first
declaration that cannot be called or that repeats a name in a strict registry; one that does both is
one that cannot be called. -/
theorem build_decided (steps : List Step) :
    let decls := steps.flatMap Step.decls
    let built := (steps.foldl Step.apply new).build
    ((∃ registry, built = .ok registry) ↔
      (∀ decl ∈ decls, decl.arity = 1 ∧ ∃ invoker, decl.invoker = some invoker) ∧
      (lastStrict steps = true → (decls.map RpcMethod.name).Nodup)) ∧
    (∀ registry, built = .ok registry →
      (∀ name method, registry.get? name = some method ↔
        ∃ before behind, decls = before ++ method :: behind ∧ method.name = name ∧
          ∀ later ∈ behind, later.name ≠ name) ∧
      (∀ name, (∃ method, registry.get? name = some method) ↔ name ∈ decls.map RpcMethod.name) ∧
      registry.size = (decls.map RpcMethod.name).dedup.length ∧
      ∀ (dispatcher : HttpDispatcher) (request : Request) (method : RpcMethod) (input : Json),
        dispatcher.registry = registry → dispatcher.prepare request = .ok (method, input) →
        ∃ invoker, method.invoker = some invoker ∧
          HttpDispatcher.invoke method input =
            do return HttpDispatcher.result method.name (← invoker input)) ∧
    ∀ e, built = .error e ↔ ∃ before decl behind, decls = before ++ decl :: behind ∧
      RpcRegistry.SoundDecls (lastStrict steps) before ∧
      RpcRegistry.DeclFault (lastStrict steps) before decl e := by
  intro decls built
  have hbuilt : built = RpcRegistry.build (lastStrict steps) decls := by
    show build (steps.foldl Step.apply new) = _
    rw [foldl_apply]
    rfl
  rw [hbuilt]
  refine ⟨⟨?_, ?_⟩, fun registry h => ⟨fun name method => RpcRegistry.get?_eq_some_iff_of_build h,
    fun name => RpcRegistry.exists_get?_iff_of_build h, RpcRegistry.size_of_build h, ?_⟩,
    fun e => RpcRegistry.build_eq_error_iff⟩
  · rintro ⟨registry, h⟩
    have hsound := (RpcRegistry.sound_of_build h).1
    exact ⟨hsound.callable, hsound.names⟩
  · rintro ⟨hcallable, hnames⟩
    exact ⟨_, RpcRegistry.build_of_sound ⟨hcallable, hnames⟩⟩
  · intro dispatcher request method input hregistry hprepare
    exact HttpDispatcher.exists_invoke_eq_of_build (hregistry ▸ h) hprepare

/-- A name that is repeated by a service, in a builder that is first strict and then not, and in one
that is strict in the end; and a method without an invoker that repeats the name. -/
theorem build_decided_repeated :
    let method (name output : String) : RpcMethod :=
      ⟨name, 1, "T", output, some fun input => return .value input⟩
    let steps : List Step := [.strictOverloads true, .method (method "a" "first"),
      .service ⟨"Later", [method "b" "only", method "a" "last"]⟩, .strictOverloads false]
    let strictSteps : List Step := steps ++ [.strictOverloads true]
    let faultySteps : List Step := .method (method "a" "zeroth") :: .method (.unsupported "a" 1) ::
      strictSteps
    let request : Request := ⟨.post, ⟨"/a", none⟩,
      ⟨[(Headers.contentType, [⟨Text.Utf8.encodeString "application/json"⟩])]⟩, []⟩
    (∃ registry input, (steps.foldl Step.apply new).build = .ok registry ∧
      registry.get? "a" = some (method "a" "last") ∧ registry.size = 2 ∧
      (HttpDispatcher.new registry).prepare request = .ok (method "a" "last", input) ∧
      ∃ invoker, (method "a" "last").invoker = some invoker ∧
        HttpDispatcher.invoke (method "a" "last") input =
          do return HttpDispatcher.result "a" (← invoker input)) ∧
    (strictSteps.foldl Step.apply new).build = .error (.duplicateMethod "a") ∧
    (faultySteps.foldl Step.apply new).build = .error (.onlyOneParameterSupported "a" 1) := by
  intro method steps strictSteps faultySteps request
  have hcallable (name output : String) :
      (method name output).arity = 1 ∧ ∃ invoker, (method name output).invoker = some invoker :=
    ⟨rfl, _, rfl⟩
  refine ⟨?_, ?_, ?_⟩
  · let registry : RpcRegistry := ⟨[method "a" "last", method "b" "only"]⟩
    have hbuild : (steps.foldl Step.apply new).build = .ok registry := rfl
    obtain ⟨hget, -, hsize, hcalled⟩ := (build_decided steps).2.1 registry hbuild
    have hlast : registry.get? "a" = some (method "a" "last") :=
      (hget _ _).2 ⟨[method "a" "first", method "b" "only"], [], rfl, rfl, nofun⟩
    have hpassed : HttpDispatcher.Admission.failed? (.new registry) request = none := by
      decide +kernel
    have hmethod : (HttpDispatcher.new registry).method? request = some (method "a" "last") := by
      have hname : HttpDispatcher.methodName .default request.target = "a" := by decide
      show registry.get? (HttpDispatcher.methodName .default request.target) = _
      rw [hname, hlast]
    obtain ⟨input, hprepare⟩ := HttpDispatcher.exists_prepare_eq hpassed hmethod
    exact ⟨registry, input, hbuild, hlast, hsize, hprepare, hcalled _ request _ _ rfl hprepare⟩
  · refine ((build_decided strictSteps).2.2 _).2 ⟨[method "a" "first", method "b" "only"],
      method "a" "last", [], rfl, ⟨?_, fun _ => ?_⟩, .repeated (hcallable _ _) rfl ?_⟩
    · rw [List.forall_mem_cons, List.forall_mem_singleton]
      exact ⟨hcallable _ _, hcallable _ _⟩
    · show ["a", "b"].Nodup
      decide
    · exact List.mem_cons_self
  · refine ((build_decided faultySteps).2.2 _).2 ⟨[method "a" "zeroth"], .unsupported "a" 1,
      _, rfl, ⟨?_, fun _ => List.nodup_singleton _⟩, .signature ?_⟩
    · rw [List.forall_mem_singleton]
      exact hcallable _ _
    · rintro ⟨-, invoker, hinvoker⟩
      cases hinvoker

end RpcRegistryBuilder

end HttpRpc
