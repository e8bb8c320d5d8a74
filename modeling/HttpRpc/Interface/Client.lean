import HttpRpc.Binding.Route
import HttpRpc.Interface.Arguments

/-!
# Client interfaces

A trait declares the interface of a client: its attributes give each method verbs, paths and
qualifiers, and each parameter its roles. They are collected as they are written; whether they form
a route is decided when the client is bound. What is left of the trait keeps all other attributes.
-/

namespace HttpRpc

open Source Interface

/-- A parameter with the roles declared for it. -/
structure ClientParam where
  name : String
  type : List Token
  roles : List ParamRole
deriving Repr

/-- What the attributes of a method say about its route. -/
structure RouteParts where
  verbs : List Verb
  paths : List String
  qualifiers : List RouteQualifier
deriving DecidableEq, Repr

/-- A method of a client. -/
structure ClientMethod where
  name : String
  parts : RouteParts
  params : List ClientParam
  /-- The type of the result. -/
  output : List Token
  /-- The type of the error. -/
  failure : List Token
deriving Repr

/-- The interface of a client with the trait that is left without its routing attributes. -/
structure ClientInterface where
  name : String
  declaration : Trait
  methods : List ClientMethod
deriving Repr

/-- The declaration of the route of a method. -/
def ClientMethod.route (method : ClientMethod) : RouteDecl :=
  ⟨method.name, method.parts.verbs, method.parts.paths,
    method.params.map fun param => ⟨param.name, param.roles⟩, method.parts.qualifiers⟩

/-- The declarations of the routes of an interface. -/
def ClientInterface.routes (interface : ClientInterface) : List RouteDecl :=
  interface.methods.map ClientMethod.route

/-! ## Routes -/

namespace RouteParts

/-- Nothing said about a route. -/
def empty : RouteParts := ⟨[], [], []⟩

/-- What is said first and what is said after. -/
def append (first second : RouteParts) : RouteParts :=
  ⟨first.verbs ++ second.verbs, first.paths ++ second.paths,
    first.qualifiers ++ second.qualifiers⟩

/-- The verbs that have an attribute of their own. -/
def shortVerbs : List (String × Verb) :=
  [("get", ⟨"GET"⟩), ("post", ⟨"POST"⟩), ("put", ⟨"PUT"⟩), ("delete", ⟨"DELETE"⟩),
    ("patch", ⟨"PATCH"⟩), ("head", ⟨"HEAD"⟩)]

/-- The verbs that a route may name. -/
def knownVerbs : List String :=
  ["GET", "POST", "PUT", "DELETE", "PATCH", "HEAD", "OPTIONS", "TRACE", "CONNECT"]

/-- The verb that an attribute is named for. -/
def shortVerb? (attr : Attribute) : Option Verb :=
  (shortVerbs.find? fun (name, _) => attr.isNamed name).map Prod.snd

/-- What an assignment in a route says. -/
def ofAssignment (assignment : Assignment) : Except InterfaceError RouteParts := do
  let value ← textOf assignment.value
  let isKey (name : String) : Bool := isPath assignment.path name
  if isKey "method" then
    let verb := value.toUpper
    if knownVerbs.contains verb then return ⟨[⟨verb⟩], [], []⟩ else throw (.unknownVerb value)
  else if isKey "path" then return ⟨[], [value], []⟩
  else if isKey "consumes" then return ⟨[], [], [⟨.consumes, value⟩]⟩
  else if isKey "produces" then return ⟨[], [], [⟨.produces, value⟩]⟩
  else if isKey "headers" then return ⟨[], [], [⟨.headers, value⟩]⟩
  else if isKey "params" then return ⟨[], [], [⟨.params, value⟩]⟩
  else throw .unknownRouteKey

/-- What assignments in a route say, in order. -/
def ofAssignments : List Assignment → Except InterfaceError RouteParts
  | [] => .ok empty
  | first :: rest => do
    let parts ← ofAssignment first
    let more ← ofAssignments rest
    return parts.append more

/-- What the arguments of a route attribute say. -/
def ofRoute : Arguments → Except InterfaceError RouteParts
  | .list _ tokens => do ofAssignments (← assignments tokens)
  | .none => .error (.expected "attribute arguments in parentheses: \x60route(...)\x60")
  | .assigned _ => .error (.expected "\x60(\x60")

/-- What the arguments of an attribute named for a verb say: a path in parentheses, if anything. -/
def ofShort (verb : Verb) : Arguments → Except InterfaceError RouteParts
  | .list _ tokens => (onlyText tokens).map fun path => ⟨[verb], [path], []⟩
  | _ => .ok ⟨[verb], [], []⟩

/-- What an attribute says about a route, if it is about one. -/
def ofAttribute? (attr : Attribute) : Except InterfaceError (Option RouteParts) :=
  match shortVerb? attr with
  | some verb => (ofShort verb attr.clause.arguments).map some
  | none =>
    if attr.isNamed "route" then (ofRoute attr.clause.arguments).map some else .ok none

/-- What attributes say about a route, in order, and the attributes that are about something else.
-/
def ofAttributes : List Attribute → Except InterfaceError (RouteParts × List Attribute)
  | [] => .ok (empty, [])
  | attr :: rest => do
    let found ← ofAttribute? attr
    let (parts, kept) ← ofAttributes rest
    match found with
    | some first => return (first.append parts, kept)
    | none => return (parts, attr :: kept)

end RouteParts

/-! ## Roles -/

namespace ClientParam

/-- The name that a path or query attribute gives, which is that of the parameter if it gives none.
-/
def roleName (param : String) : Arguments → Except InterfaceError String
  | .none => .ok param
  | .list _ tokens => onlyText tokens
  | .assigned _ => .error .assignedRole

/-- The role that an attribute gives a parameter, if it gives one. -/
def role? (param : String) (attr : Attribute) : Except InterfaceError (Option ParamRole) :=
  let arguments := attr.clause.arguments
  if attr.isNamed "path" then (roleName param arguments).map fun name => some (.path name)
  else if attr.isNamed "query" then (roleName param arguments).map fun key => some (.query key)
  else if attr.isNamed "body" then
    match arguments with
    | .none => .ok (some .body)
    | _ => .error .needlessArguments
  else .ok none

/-- The roles that attributes give a parameter, in order, and the attributes that give none. -/
def readRoles (param : String) :
    List Attribute → Except InterfaceError (List ParamRole × List Attribute)
  | [] => .ok ([], [])
  | attr :: rest => do
    let found ← role? param attr
    let (roles, kept) ← readRoles param rest
    match found with
    | some role => return (role :: roles, kept)
    | none => return (roles, attr :: kept)

/-- A parameter with its roles, and what is left of it. -/
def read (param : Param) : Except InterfaceError (ClientParam × Param) := do
  let name ← boundName param.pattern
  let (roles, kept) ← readRoles name param.attributes
  return (⟨name, param.type, roles⟩, { param with attributes := kept })

/-- The parameters among inputs, and what is left of the inputs. -/
def readAll : List Input → Except InterfaceError (List ClientParam × List Input)
  | [] => .ok ([], [])
  | .param param :: rest => do
    let (first, stripped) ← read param
    let (params, inputs) ← readAll rest
    return (first :: params, .param stripped :: inputs)
  | other :: rest => do
    let (params, inputs) ← readAll rest
    return (params, other :: inputs)

end ClientParam

/-! ## Interfaces -/

/-- A method of a client, and what is left of it. -/
def ClientMethod.read (method : Method) : Except InterfaceError (ClientMethod × Method) := do
  checkReceiver method
  let (parts, kept) ← RouteParts.ofAttributes method.attributes
  let (params, inputs) ← ClientParam.readAll method.signature.inputs
  match method.signature.output.bind resultTypes? with
  | none => throw .infallibleMethod
  | some (output, failure) =>
    return (⟨method.signature.name, parts, params, output, failure⟩,
      { method with attributes := kept, signature := { method.signature with inputs := inputs } })

/-- The methods among items, and what is left of the items. -/
def ClientInterface.readItems : List Item → Except InterfaceError (List ClientMethod × List Item)
  | [] => .ok ([], [])
  | .other tokens :: rest => do
    let (methods, items) ← readItems rest
    return (methods, .other tokens :: items)
  | .method method :: rest => do
    let (first, stripped) ← ClientMethod.read method
    let (methods, items) ← readItems rest
    return (first :: methods, .method stripped :: items)

/-- The interface that a trait declares under a name, which is that of the trait if none is given.
-/
def ClientInterface.read (name : Option String) (declaration : Trait) :
    Except InterfaceError ClientInterface := do
  let (methods, items) ← readItems declaration.items
  return ⟨name.getD declaration.name, { declaration with items := items }, methods⟩

/-- The interface that a source text declares, with the arguments of its attribute. -/
def ClientInterface.ofSource (arguments source : String) :
    Except InterfaceError ClientInterface := do
  let (name, declaration) ← readDeclaration arguments source
  ClientInterface.read name declaration

end HttpRpc
