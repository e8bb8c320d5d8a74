import HttpRpc.Proofs.Binding.Resolution
import HttpRpc.Proofs.Binding.Table
import HttpRpc.Proofs.Interface.Items
import HttpRpc.Proofs.Interface.Verbatim

/-!
# Arguments in their positions

The generated code of a client has three parts that are made from the same parameters: the rows of a
route (`RowOf`), the variables that a call hands on, and the signature that is left. They are
aligned for every method (`ClientMethod.Aligned`), whatever else the trait holds. So a call that is
handed on meets its bound method with as many arguments as that has parameters, each in the place of
its own parameter. The main statement is `ClientInterface.read_aligned`.
-/

namespace HttpRpc

open Source Interface

/-! ## What is declared -/

namespace ClientParam

/-- Whether the attribute gives a parameter a role. -/
def isRole (attr : Attribute) : Bool :=
  attr.isNamed "path" || attr.isNamed "query" || attr.isNamed "body"

/-- The role that an attribute declares for a parameter with a name: one for the path or the query
has the name of the parameter if it gives none. -/
inductive Declares (param : String) (attr : Attribute) : ParamRole → Prop where
  | path (hnamed : attr.isNamed "path" = true) (harguments : attr.clause.arguments = .none) :
      Declares param attr (.path param)
  | pathGiven {d : Delimiter} {token : Token} {name : String} (hnamed : attr.isNamed "path" = true)
      (harguments : attr.clause.arguments = .list d [token]) (htext : token.text? = some name) :
      Declares param attr (.path name)
  | query (hnamed : attr.isNamed "query" = true) (harguments : attr.clause.arguments = .none) :
      Declares param attr (.query param)
  | queryGiven {d : Delimiter} {token : Token} {key : String} (hnamed : attr.isNamed "query" = true)
      (harguments : attr.clause.arguments = .list d [token]) (htext : token.text? = some key) :
      Declares param attr (.query key)
  | body (hnamed : attr.isNamed "body" = true) (harguments : attr.clause.arguments = .none) :
      Declares param attr .body

/-- The row of a parameter: it has the name that the pattern binds and the roles that the attributes
declare, in their order. -/
structure RowOf (param : Param) (row : ParamDecl) : Prop where
  name : boundName param.pattern = .ok row.name
  roles : List.Forall₂ (Declares row.name) (param.attributes.filter isRole) row.roles

end ClientParam

/-- The parameter without the attributes that give it roles. -/
def Source.Param.withoutRoles (param : Param) : Param :=
  { param with attributes := param.attributes.filter fun attr => !ClientParam.isRole attr }

/-- The parameter that an input is, if it is one. -/
def Source.Input.param? : Input → Option Param
  | param p => some p
  | _ => none

/-- The input without the attributes that give it roles, if it is a parameter. -/
def Source.Input.withoutRoles : Input → Input
  | param p => param p.withoutRoles
  | other => other

/-- The method without the attributes that are about its route or the roles of its parameters. -/
def Source.Method.withoutRouting (method : Method) : Method :=
  { method with
    attributes := method.attributes.filter fun attr => !RouteParts.isRouting attr
    signature :=
      { method.signature with inputs := method.signature.inputs.map Input.withoutRoles } }

/-- The route of a method, the call that its body makes and its declaration are about the same
parameters: there is a row for each parameter, and each is handed on, in the order of the
declaration. -/
structure ClientMethod.Aligned (declared : Method) (method : ClientMethod) : Prop where
  route : RouteDecl.ofTokens? method.route.tokens = some method.route
  name : method.route.method = declared.signature.name
  rows : List.Forall₂ ClientParam.RowOf declared.params method.route.params
  call : ForwardedCall.ofTokens? method.body =
    some ⟨declared.signature.name, method.route.params.map ParamDecl.name⟩

/-! ## Parameters -/

namespace ClientParam

variable {param : String} {attr : Attribute} {attrs kept : List Attribute} {roles : List ParamRole}

/-- The name of a role is the one that its attribute gives, or that of the parameter. -/
theorem roleName_eq_ok {arguments : Arguments} {name : String}
    (h : roleName param arguments = .ok name) :
    (arguments = .none ∧ name = param) ∨
      ∃ d token, arguments = .list d [token] ∧ token.text? = some name := by
  cases arguments with
  | none =>
      cases h
      exact .inl ⟨rfl, rfl⟩
  | list d tokens =>
      obtain ⟨token, rfl, htext⟩ := onlyText_eq_ok_iff.1 h
      exact .inr ⟨d, token, rfl, htext⟩
  | assigned value => cases h

/-- An attribute gives the role that it declares, or it is about something else. -/
theorem role?_eq_ok {found : Option ParamRole} (h : role? param attr = .ok found) :
    (∃ role, found = some role ∧ isRole attr = true ∧ Declares param attr role) ∨
      (found = none ∧ isRole attr = false) := by
  unfold role? at h
  unfold isRole
  dsimp only at h
  split at h
  · next hnamed =>
      obtain ⟨name, hname, rfl⟩ := map_eq_ok.1 h
      refine .inl ⟨_, rfl, by simp [hnamed], ?_⟩
      rcases roleName_eq_ok hname with ⟨harguments, rfl⟩ | ⟨d, token, harguments, htext⟩
      · exact .path hnamed harguments
      · exact .pathGiven hnamed harguments htext
  split at h
  · next hnamed =>
      obtain ⟨key, hkey, rfl⟩ := map_eq_ok.1 h
      refine .inl ⟨_, rfl, by simp [hnamed], ?_⟩
      rcases roleName_eq_ok hkey with ⟨harguments, rfl⟩ | ⟨d, token, harguments, htext⟩
      · exact .query hnamed harguments
      · exact .queryGiven hnamed harguments htext
  split at h
  · next hnamed =>
      split at h
      · next harguments =>
          cases h
          exact .inl ⟨_, rfl, by simp [hnamed], .body hnamed harguments⟩
      · cases h
  · next hpath hquery hbody =>
      cases h
      exact .inr ⟨rfl, by simp [hpath, hquery, hbody]⟩

/-- The attributes of a parameter give the roles that they declare, in their order, and those that
are about something else are kept in theirs. -/
theorem readRoles_eq_ok (h : readRoles param attrs = .ok (roles, kept)) :
    List.Forall₂ (Declares param) (attrs.filter isRole) roles ∧
      kept = attrs.filter fun attr => !isRole attr := by
  induction attrs generalizing roles kept with
  | nil =>
      cases h
      exact ⟨.nil, rfl⟩
  | cons attr rest ih =>
      rw [readRoles, bind_eq_ok] at h
      obtain ⟨found, hfound, h⟩ := h
      obtain ⟨⟨others, left⟩, hrest, h⟩ := bind_eq_ok.1 h
      obtain ⟨hroles, rfl⟩ := ih hrest
      rcases role?_eq_ok hfound with ⟨role, rfl, hrole, hdeclares⟩ | ⟨rfl, hother⟩
      · cases h
        rw [List.filter_cons, List.filter_cons, hrole]
        exact ⟨.cons hdeclares hroles, rfl⟩
      · cases h
        rw [List.filter_cons, List.filter_cons, hother]
        exact ⟨hroles, rfl⟩

/-- A parameter is read as its row, and it is left without the attributes that give it roles. -/
theorem read_eq_ok {param left : Param} {row : ClientParam} (h : read param = .ok (row, left)) :
    RowOf param ⟨row.name, row.roles⟩ ∧ left = param.withoutRoles := by
  rw [read, bind_eq_ok] at h
  obtain ⟨name, hname, h⟩ := h
  obtain ⟨⟨roles, kept⟩, hroles, h⟩ := bind_eq_ok.1 h
  cases h
  obtain ⟨hdeclares, rfl⟩ := readRoles_eq_ok hroles
  exact ⟨⟨hname, hdeclares⟩, rfl⟩

/-- Inputs are read as the rows of the parameters among them, in their order, and each is left in
its place. -/
theorem readAll_eq_ok {inputs left : List Input} {rows : List ClientParam}
    (h : readAll inputs = .ok (rows, left)) :
    List.Forall₂ RowOf (inputs.filterMap Input.param?)
        (rows.map fun row => ⟨row.name, row.roles⟩) ∧
      left = inputs.map Input.withoutRoles := by
  induction inputs generalizing rows left with
  | nil =>
      cases h
      exact ⟨.nil, rfl⟩
  | cons input rest ih =>
      cases input with
      | param declared =>
          rw [readAll, bind_eq_ok] at h
          obtain ⟨⟨row, stripped⟩, hread, h⟩ := h
          obtain ⟨⟨others, inputs⟩, hrest, h⟩ := bind_eq_ok.1 h
          cases h
          obtain ⟨hrows, rfl⟩ := ih hrest
          obtain ⟨hrow, rfl⟩ := read_eq_ok hread
          exact ⟨.cons hrow hrows, rfl⟩
      | receiver | further =>
          rw [readAll, bind_eq_ok] at h
          · obtain ⟨⟨others, inputs⟩, hrest, h⟩ := h
            cases h
            obtain ⟨hrows, rfl⟩ := ih hrest
            exact ⟨hrows, rfl⟩
          · simp

end ClientParam

/-! ## Methods -/

namespace ClientMethod

variable {declared left : Method} {method : ClientMethod}

/-- A method that is accepted is aligned with its declaration, and it is left without the attributes
that are about routes and roles. -/
theorem aligned_of_read (h : ClientMethod.read declared = .ok (method, left)) :
    method.Aligned declared ∧ left = declared.withoutRouting := by
  obtain ⟨hname, hparts, hparams, hleft⟩ := read_eq_ok h
  obtain ⟨hrows, hinputs⟩ := ClientParam.readAll_eq_ok hparams
  obtain ⟨-, hkept, -⟩ := RouteParts.ofAttributes_eq_ok hparts
  refine ⟨⟨ofTokens?_route h, hname, hrows, ?_⟩, ?_⟩
  · rw [ForwardedCall.ofTokens?_body, hname]
    show _ = some (ForwardedCall.mk _ (List.map _ (List.map _ _)))
    rw [List.map_map]
    rfl
  · rw [hleft, hkept, hinputs]
    rfl

end ClientMethod

/-! ## Traits -/

namespace RouteDecl

/-- Each argument is in the place of its parameter, where the variables have the values. -/
structure Receives (route : RouteDecl) (args : List Json) (value : String → Json) : Prop where
  path : route.pathArguments args = route.params.filterMap fun param =>
    param.pathName?.map fun name => (name, value param.name)
  query : route.queryArguments args = route.params.filterMap fun param =>
    param.queryKey?.map fun key => (key, value param.name)
  body : route.bodyArgument? args =
    ((route.params.find? ParamDecl.isBody).map fun param => value param.name).filter
      fun value => !value.isNull

/-- The values of the variables that are named for the parameters are in the places of these. -/
theorem receives_map (route : RouteDecl) (value : String → Json) :
    route.Receives ((route.params.map ParamDecl.name).map value) value := by
  have hzip : route.params.zip ((route.params.map ParamDecl.name).map value) =
      route.params.map fun param => (param, value param.name) := by
    rw [List.map_map]
    exact List.map_prod_left_eq_zip.symm
  constructor
  · rw [pathArguments, hzip, List.filterMap_map]
    rfl
  · rw [queryArguments, hzip, List.filterMap_map]
    rfl
  · rw [bodyArgument?, hzip, List.find?_map, Option.map_map]
    rfl

end RouteDecl

/-- The arguments that a call hands on where the variables have the values. -/
def ForwardedCall.values (call : ForwardedCall) (value : String → Json) : List Json :=
  call.arguments.map value

/-- A call meets a bound method of a route, whatever the values of its variables: it has the right
number of arguments, and each is in the place of its parameter in what it is resolved to. -/
structure ForwardedCall.Meets (call : ForwardedCall) (route : RouteDecl) (bound : BoundMethod) :
    Prop where
  arity : ∀ value method expected actual,
    bound.resolve (call.values value) ≠ .error (.arityMismatch method expected actual)
  receives : ∀ value, route.Receives (call.values value) value
  resolved : ∀ value url body?, bound.resolve (call.values value) = .ok (url, body?) →
    (∃ texts, route.Gives (call.values value) bound.uri.template texts ∧
      bound.uri.template.expand bound.uri.base texts = .ok url) ∧
    body? = route.bodyArgument? (call.values value)

/-- A call with the parameters of a route as its arguments meets what the route is bound to. -/
theorem ForwardedCall.meets_of_bind {base : BaseUri} {route : RouteDecl} {bound : BoundMethod}
    (h : BoundMethod.bind base route = .ok bound) :
    ForwardedCall.Meets ⟨route.method, route.params.map ParamDecl.name⟩ route bound := by
  obtain ⟨parsed, hbindable, rfl⟩ := BoundMethod.bind_eq_ok_iff.1 h
  refine ⟨fun value method expected actual h => ?_, route.receives_map, fun value url body? h => ?_⟩
  · have hlength : ((route.params.map ParamDecl.name).map value).length = route.params.length := by
      rw [List.length_map, List.length_map]
    rw [ForwardedCall.values, BoundMethod.resolve_eq hbindable hlength] at h
    rcases BoundMethod.compute_eq_error hbindable hlength (map_eq_error.1 h) with
      ⟨_, he, -⟩ | ⟨_, _, he⟩ <;> cases he
  · obtain ⟨-, hgives, hbody⟩ := BoundMethod.of_resolve hbindable h
    exact ⟨hgives, hbody⟩

namespace ClientInterface

variable {name : Option String} {declaration : Trait} {interface : ClientInterface}

/-- The methods of a trait that is accepted are aligned with their declarations, in whatever order
other items stand between them. The trait and the methods of the client are left with all attributes
but those about routes and roles. A call that a method hands on meets its own route once that is
bound. -/
theorem read_aligned (h : ClientInterface.read name declaration = .ok interface) :
    interface.declaration = { declaration with
        items := declaration.items.map (Item.mapMethod Method.withoutRouting) } ∧
    List.Forall₂ (fun declared (method : ClientMethod) => method.Aligned declared)
        declaration.methods interface.methods ∧
    interface.forwards = (declaration.methods.zip interface.methods).flatMap
        (fun (declared, method) =>
          declared.withoutRouting.signature.tokens ++ brace method.body) ∧
    ∀ baseUri table, RouteTable.bind baseUri interface.routes = .ok table →
      ∀ method ∈ interface.methods, ∃ call bound,
        ForwardedCall.ofTokens? method.body = some call ∧
        table.get? call.method = some bound ∧ call.Meets method.route bound := by
  rw [ClientInterface.read, bind_eq_ok] at h
  obtain ⟨⟨methods, items⟩, hitems, h⟩ := h
  cases h
  have hread : ∀ declared left method, ClientMethod.read declared = .ok (method, left) →
      method.Aligned declared ∧ left = declared.withoutRouting :=
    fun _ _ _ => ClientMethod.aligned_of_read
  obtain ⟨haligned, rfl⟩ :=
    Interface.readItems_eq_ok hread rfl (fun _ _ => rfl) (fun _ _ => rfl) hitems
  refine ⟨rfl, haligned, ?_, fun baseUri table htable method hmethod => ?_⟩
  · have hleft : Trait.methods { declaration with
        items := declaration.items.map (Item.mapMethod Method.withoutRouting) } =
          declaration.methods.map Method.withoutRouting :=
      Item.filterMap_method?_map Method.withoutRouting declaration.items
    rw [forwards, hleft, List.zip_map_left, List.flatMap_map]
    rfl
  · obtain ⟨-, bound, hbound, hget⟩ :=
      RouteTable.get?_of_bind htable (List.mem_map_of_mem hmethod)
    refine ⟨_, bound, ForwardedCall.ofTokens?_body method, hget, ?_⟩
    have hnames : method.route.params.map ParamDecl.name = method.params.map ClientParam.name := by
      rw [ClientMethod.route, List.map_map]
      rfl
    rw [← hnames]
    exact ForwardedCall.meets_of_bind hbound

/-- A trait with a constant in front of its method, which has a parameter for the path and, with a
further attribute, one for the query. -/
theorem read_aligned_items :
    let unused : Attribute := ⟨false, ⟨[.name "unused"], .none⟩⟩
    let id : Param := ⟨[⟨false, ⟨[.name "path"], .none⟩⟩], [.name "id"], [.name "u8"]⟩
    let text : Param :=
      ⟨[unused, ⟨false, ⟨[.name "query"], .list .paren [Literal.ofText "q"]⟩⟩], [.name "text"],
        [.name "u8"]⟩
    let method := ClientMethod.fetching
      [⟨false, ⟨[.name "get"], .list .paren [Literal.ofText "/items/{id}"]⟩⟩] [id, text]
    let declaration : Trait :=
      ⟨[], [], [], "Items", [], [], [], [], [.other (Token.words "const LIMIT : u8 ;"),
        .method method]⟩
    let route : RouteDecl :=
      ⟨"fetch", [.get], ["/items/{id}"], [⟨"id", [.path "id"]⟩, ⟨"text", [.query "q"]⟩], []⟩
    ∃ interface table bound, ClientInterface.read none declaration = .ok interface ∧
      RouteTable.bind "http://host/api" interface.routes = .ok table ∧
      table.get? "fetch" = some bound ∧ ForwardedCall.Meets ⟨"fetch", ["id", "text"]⟩ route bound ∧
      interface.declaration.methods = [ClientMethod.fetching [] [{ id with attributes := [] },
        { text with attributes := [unused] }]] := by
  intro unused id text method declaration route
  have hparts : RouteParts.ofAttributes method.attributes =
      .ok (⟨[.get], ["/items/{id}"], []⟩, []) := by rfl
  have hparams : ClientParam.readAll ([id, text].map .param) =
      .ok ([⟨"id", id.type, [.path "id"]⟩, ⟨"text", text.type, [.query "q"]⟩],
        [{ id with attributes := [] }, { text with attributes := [unused] }].map .param) := by
    rfl
  obtain ⟨output, failure, hmethod⟩ := ClientMethod.read_fetching hparts hparams
  have hread : ClientInterface.read none declaration = _ :=
    bind_eq_ok.2 ⟨_, bind_eq_ok.2 ⟨_, bind_eq_ok.2 ⟨_, hmethod, rfl⟩, rfl⟩, rfl⟩
  obtain ⟨table, htable⟩ :
      ∃ table, RouteTable.bind "http://host/api" [route] = .ok table := ⟨_, rfl⟩
  obtain ⟨hdeclaration, -, -, hcalls⟩ := read_aligned hread
  obtain ⟨call, bound, hcall, hget, hmeets⟩ := hcalls _ _ htable _ List.mem_cons_self
  rw [ForwardedCall.ofTokens?_body] at hcall
  cases hcall
  exact ⟨_, table, bound, hread, htable, hget, hmeets, congrArg Trait.methods hdeclaration⟩

end ClientInterface

end HttpRpc
