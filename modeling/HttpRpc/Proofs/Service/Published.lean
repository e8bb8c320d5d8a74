import HttpRpc.Interface.Service
import HttpRpc.Proofs.Interface.Items
import HttpRpc.Proofs.Interface.WireName
import HttpRpc.Proofs.Service.Registry

/-!
# Published services

A service publishes each method of its trait under a wire name, which is made of the name of the
method unless an attribute gives another (`ServiceMethod.ReadFrom`). A registry keeps all methods of
a service exactly if their wire names differ. The main statement is `ServiceInterface.kept_iff`.
-/

namespace HttpRpc

open Source Interface

/-- The method has a conventional name, under which it is published, and can be called. -/
structure Source.Method.IsConventional (method : Method) : Prop where
  name : IsSnakeCase method.signature.name.toList
  param : method.params.length = 1
  unnamed : ∀ attr ∈ method.attributes, attr.isNamed "rpc" = false

/-- The method without the attributes that give it another name. -/
def Source.Method.withoutNames (method : Method) : Method :=
  { method with attributes := method.attributes.filter fun attr => !attr.isNamed "rpc" }

/-! ## Methods -/

namespace ServiceMethod

/-- The method has as many parameters as its declaration, and its wire name is made of its name
unless an attribute gives another. -/
structure ReadFrom (declared : Method) (method : ServiceMethod) : Prop where
  wireName : (∀ attr ∈ declared.attributes, attr.isNamed "rpc" = false) →
    method.wireName = lowerCamelCase declared.signature.name
  params : method.params.length = declared.params.length

/-- The declaration publishes the method with types, a shape of its input and a body. -/
def IsPublished (method : ServiceMethod) (decl : RpcMethod) : Prop :=
  ∃ inputType outputType shape body, decl = method.publish inputType outputType shape body

/-- Attributes of other names give no name and are kept, in their order. -/
theorem givenName_eq_ok {attrs kept : List Attribute} {given : Option String}
    (h : givenName attrs = .ok (given, kept)) :
    ((∀ attr ∈ attrs, attr.isNamed "rpc" = false) → given = none) ∧
      kept = attrs.filter fun attr => !attr.isNamed "rpc" := by
  induction attrs generalizing given kept with
  | nil =>
      cases h
      exact ⟨fun _ => rfl, rfl⟩
  | cons attr rest ih =>
      rw [givenName] at h
      rw [List.forall_mem_cons, List.filter_cons]
      split at h
      · next hnamed =>
          obtain ⟨name, -, h⟩ := bind_eq_ok.1 h
          obtain ⟨⟨later, left⟩, hrest, h⟩ := bind_eq_ok.1 h
          cases h
          obtain ⟨-, rfl⟩ := ih hrest
          refine ⟨fun hunnamed => ?_, ?_⟩
          · rw [hunnamed.1] at hnamed
            cases hnamed
          · rw [hnamed]
            rfl
      · next hother =>
          obtain ⟨⟨later, left⟩, hrest, h⟩ := bind_eq_ok.1 h
          cases h
          obtain ⟨hnone, rfl⟩ := ih hrest
          rw [Bool.not_eq_true] at hother
          refine ⟨fun hunnamed => hnone hunnamed.2, ?_⟩
          rw [hother]
          rfl

/-- Each parameter is read. -/
theorem length_of_readParams {params : List Param} {rows : List (String × List Token)}
    (h : readParams params = .ok rows) : rows.length = params.length := by
  induction params generalizing rows with
  | nil =>
      cases h
      rfl
  | cons param rest ih =>
      rw [readParams, bind_eq_ok] at h
      obtain ⟨name, -, h⟩ := h
      obtain ⟨others, hrest, h⟩ := bind_eq_ok.1 h
      cases h
      rw [List.length_cons, List.length_cons, ih hrest]

/-- A method that is accepted is read from its declaration, which is left without other names. -/
theorem readFrom_of_read (declared left : Method) (method : ServiceMethod)
    (h : ServiceMethod.read declared = .ok (method, left)) :
    ReadFrom declared method ∧ left = declared.withoutNames := by
  rw [ServiceMethod.read, bind_eq_ok] at h
  obtain ⟨-, -, h⟩ := h
  obtain ⟨⟨given, kept⟩, hgiven, h⟩ := bind_eq_ok.1 h
  obtain ⟨params, hparams, h⟩ := bind_eq_ok.1 h
  cases h
  obtain ⟨hnone, rfl⟩ := givenName_eq_ok hgiven
  refine ⟨⟨fun hunnamed => ?_, length_of_readParams hparams⟩, rfl⟩
  rw [hnone hunnamed]
  rfl

/-- A conventional method is published under the wire name of its name and can be called. -/
theorem ReadFrom.published {declared : Method} {method : ServiceMethod} {decl : RpcMethod}
    (h : ReadFrom declared method) (hconventional : declared.IsConventional)
    (hdecl : method.IsPublished decl) :
    decl.name = lowerCamelCase declared.signature.name ∧ decl.arity = 1 ∧
      ∃ invoker, decl.invoker = some invoker := by
  obtain ⟨inputType, outputType, shape, body, rfl⟩ := hdecl
  rw [publish, if_pos (h.params.trans hconventional.param)]
  exact ⟨h.wireName hconventional.unnamed, rfl, _, rfl⟩

end ServiceMethod

/-! ## Services -/

namespace ServiceInterface

variable {name : Option String} {declaration : Trait} {interface : ServiceInterface}
  {decls : List RpcMethod}

/-- The methods of a trait that is accepted are read from their declarations, in their order. -/
theorem readFrom_of_read (h : ServiceInterface.read name declaration = .ok interface) :
    List.Forall₂ ServiceMethod.ReadFrom declaration.methods interface.methods := by
  rw [ServiceInterface.read, bind_eq_ok] at h
  obtain ⟨⟨methods, items⟩, hitems, h⟩ := h
  dsimp only at h
  split at h
  · cases h
  · cases h
    exact (Interface.readItems_eq_ok ServiceMethod.readFrom_of_read rfl (fun _ _ => rfl)
      (fun _ _ => rfl) hitems).1

/-- A trait of conventional methods is published as declarations that can be called, under the wire
names of the methods. -/
theorem published_of_read {methods : List Method} {read : List ServiceMethod}
    (hread : List.Forall₂ ServiceMethod.ReadFrom methods read)
    (hmethods : ∀ method ∈ methods, method.IsConventional)
    (hdecls : List.Forall₂ ServiceMethod.IsPublished read decls) :
    decls.map RpcMethod.name =
        methods.map (fun method => lowerCamelCase method.signature.name) ∧
      ∀ decl ∈ decls, decl.arity = 1 ∧ ∃ invoker, decl.invoker = some invoker := by
  induction hread generalizing decls with
  | nil =>
      cases hdecls
      exact ⟨rfl, List.forall_mem_nil _⟩
  | cons hfirst _ ih =>
      cases hdecls with
      | cons hdecl hrest =>
          rw [List.forall_mem_cons] at hmethods
          obtain ⟨hname, hcallable⟩ := hfirst.published hmethods.1 hdecl
          obtain ⟨hnames, hall⟩ := ih hmethods.2 hrest
          rw [List.map_cons, List.map_cons, hname, hnames, List.forall_mem_cons]
          exact ⟨rfl, hcallable, hall⟩

/-- The wire names of conventional methods differ exactly if their names still do without the
underscores in front of digits. -/
theorem nodup_wireNames_iff {methods : List Method}
    (hmethods : ∀ method ∈ methods, method.IsConventional) :
    (methods.map fun method => lowerCamelCase method.signature.name).Nodup ↔
      (methods.map fun method => joinDigits method.signature.name.toList).Nodup := by
  rw [List.Nodup, List.Nodup, List.pairwise_map, List.pairwise_map]
  refine List.Pairwise.iff_of_mem fun hfirst hsecond => not_congr ?_
  exact lowerCamelCase_eq_iff (hmethods _ hfirst).name (hmethods _ hsecond).name

/-- Two conventional names have one wire name exactly if they are the same without the underscores
in front of digits, of which there are none if all words start with letters. So a registry that is
built of a service with conventional methods has as many methods as these exactly if their names
differ without such underscores. Then each is found under its wire name. -/
theorem kept_iff :
    (∀ first second : String, IsSnakeCase first.toList → IsSnakeCase second.toList →
      (lowerCamelCase first = lowerCamelCase second ↔
        joinDigits first.toList = joinDigits second.toList)) ∧
    (∀ name, IsSnakeCase name →
      (∀ word ∈ Text.splitOn '_' name, word.head?.any Char.isDigit = false) →
      joinDigits name = name) ∧
    ∀ (name : Option String) (declaration : Trait) (interface : ServiceInterface)
      (decls : List RpcMethod),
      ServiceInterface.read name declaration = .ok interface →
      (∀ method ∈ declaration.methods, method.IsConventional) →
      List.Forall₂ ServiceMethod.IsPublished interface.methods decls →
      ∃ registry, (RpcRegistryBuilder.new.service ⟨interface.name, decls⟩).build = .ok registry ∧
        (registry.size = declaration.methods.length ↔
          (declaration.methods.map fun method => joinDigits method.signature.name.toList).Nodup) ∧
        ((declaration.methods.map fun method =>
            joinDigits method.signature.name.toList).Nodup →
          List.Forall₂ (fun (method : Method) decl =>
            registry.get? (lowerCamelCase method.signature.name) = some decl)
            declaration.methods decls) := by
  refine ⟨fun _ _ => lowerCamelCase_eq_iff, fun _ h => h.joinDigits_eq_self,
    fun name declaration interface decls hread hmethods hdecls => ?_⟩
  have hfrom := readFrom_of_read hread
  obtain ⟨hnames, hcallable⟩ := published_of_read hfrom hmethods hdecls
  have hbuild : RpcRegistry.build false decls = .ok ⟨RpcRegistry.held decls⟩ :=
    RpcRegistry.build_of_sound ⟨hcallable, nofun⟩
  have hlength : decls.length = declaration.methods.length := by
    rw [← hdecls.length_eq, hfrom.length_eq]
  refine ⟨_, hbuild, ?_, fun hnodup => ?_⟩
  · rw [← hlength, RpcRegistry.size_eq_length_iff_of_build hbuild, hnames,
      nodup_wireNames_iff hmethods]
  · rw [← nodup_wireNames_iff hmethods, ← hnames] at hnodup
    have hfound : List.Forall₂
        (fun wireName decl => (RpcRegistry.mk (RpcRegistry.held decls)).get? wireName = some decl)
        (decls.map RpcMethod.name) decls :=
      List.forall₂_map_left_iff.2 (List.forall₂_same.2 fun decl hdecl =>
        RpcRegistry.get?_of_nodup hbuild hnodup hdecl)
    rw [hnames] at hfound
    exact List.forall₂_map_left_iff.1 hfound

/-- A method of one parameter that gives nothing. -/
def noting (name : String) : Method where
  attributes := []
  signature :=
    { qualifiers := [.name "async"]
      name
      generics := []
      inputs := [.receiver [] true [.mark '&' false, .name "self"],
        .param ⟨[], [.name "text"], [.name "String"]⟩]
      trailingComma := false
      output := none
      conditions := [] }
  body := none

/-- A trait with two methods of one parameter. -/
def notes (first second : String) : Trait :=
  ⟨[], [], [], "Notes", [], [], [], [], [.method (noting first), .method (noting second)]⟩

/-- The trait is accepted, whatever the names of its methods are. -/
theorem read_notes (first second : String) :
    ServiceInterface.read none (notes first second) = .ok ⟨"Notes", notes first second,
      [⟨first, lowerCamelCase first, [("text", [.name "String"])], .unit⟩,
        ⟨second, lowerCamelCase second, [("text", [.name "String"])], .unit⟩]⟩ := rfl

/-- Two methods of which the names differ by an underscore in front of a digit and by a letter. -/
theorem kept_iff_notes :
    let decl (name : String) : RpcMethod :=
      .new name "String" "()" .text fun _ => return .returned .unit
    ∃ interface registry, ServiceInterface.read none (notes "add_2" "add_b") = .ok interface ∧
      (RpcRegistryBuilder.new.service ⟨interface.name, [decl "add2", decl "addB"]⟩).build =
        .ok registry ∧ registry.size = 2 ∧ registry.get? "add2" = some (decl "add2") := by
  intro decl
  have hmethods : ∀ method ∈ (notes "add_2" "add_b").methods, method.IsConventional := by
    show ∀ method ∈ [noting "add_2", noting "add_b"], method.IsConventional
    rw [List.forall_mem_cons, List.forall_mem_singleton]
    exact ⟨⟨by decide, rfl, nofun⟩, ⟨by decide, rfl, nofun⟩⟩
  have hdecls : List.Forall₂ ServiceMethod.IsPublished
      [⟨"add_2", lowerCamelCase "add_2", [("text", [.name "String"])], .unit⟩,
        ⟨"add_b", lowerCamelCase "add_b", [("text", [.name "String"])], .unit⟩]
      [decl "add2", decl "addB"] :=
    .cons ⟨_, _, _, _, rfl⟩ (.cons ⟨_, _, _, _, rfl⟩ .nil)
  obtain ⟨registry, hbuild, hsize, hkept⟩ :=
    kept_iff.2.2 none _ _ _ (read_notes "add_2" "add_b") hmethods hdecls
  have hnames : ((notes "add_2" "add_b").methods.map
      fun method => joinDigits method.signature.name.toList).Nodup := by
    decide
  cases hkept hnames with
  | cons hfirst _ => exact ⟨_, registry, read_notes _ _, hbuild, hsize.2 hnames, hfirst⟩

/-- Two methods of which the names differ by an underscore in front of a digit alone: they have one
wire name, and one of them is lost. -/
theorem lost_digit :
    let decl : RpcMethod := .new "a1" "String" "()" .text fun _ => return .returned .unit
    (∀ method ∈ (notes "a_1" "a1").methods, method.IsConventional) ∧
      lowerCamelCase "a_1" = "a1" ∧ lowerCamelCase "a1" = "a1" ∧
      ∃ interface registry, ServiceInterface.read none (notes "a_1" "a1") = .ok interface ∧
        List.Forall₂ ServiceMethod.IsPublished interface.methods [decl, decl] ∧
        (RpcRegistryBuilder.new.service ⟨interface.name, [decl, decl]⟩).build = .ok registry ∧
        registry.size = 1 := by
  intro decl
  refine ⟨?_, by decide, by decide, _, _, read_notes _ _, ?_, rfl, rfl⟩
  · show ∀ method ∈ [noting "a_1", noting "a1"], method.IsConventional
    rw [List.forall_mem_cons, List.forall_mem_singleton]
    exact ⟨⟨by decide, rfl, nofun⟩, ⟨by decide, rfl, nofun⟩⟩
  · exact .cons ⟨_, _, _, _, rfl⟩ (.cons ⟨_, _, _, _, rfl⟩ .nil)

end ServiceInterface

end HttpRpc
