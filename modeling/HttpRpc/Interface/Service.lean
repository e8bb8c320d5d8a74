import HttpRpc.Interface.Arguments
import HttpRpc.Interface.Name
import HttpRpc.Service.Method

/-!
# Service interfaces

A trait declares the interface of a service: each method is published under its name in lower camel
case, or under the name that an attribute gives it. A method of one parameter can be called.
-/

namespace HttpRpc

open Source Interface

/-- What a method ends with. -/
inductive ServiceOutput where
  | unit
  | plain (type : List Token)
  | fallible (output failure : List Token)
deriving Repr

/-- A method of a service. -/
structure ServiceMethod where
  name : String
  wireName : String
  params : List (String × List Token)
  output : ServiceOutput
deriving Repr

/-- The interface of a service with the trait that is left without names for its methods. -/
structure ServiceInterface where
  name : String
  declaration : Trait
  methods : List ServiceMethod
deriving Repr

namespace ServiceMethod

/-! ## Reading -/

/-- The name that the arguments of a renaming give. -/
def renamed : Arguments → Except InterfaceError String
  | .list _ tokens => do
    let assignment ← onlyAssignment tokens
    if isPath assignment.path "name" then textOf assignment.value else throw .expectedRename
  | .none => .error (.expected "attribute arguments in parentheses: #[rpc(...)]")
  | .assigned _ => .error (.expected "parentheses: #[rpc(...)]")

/-- The last name that attributes give, and the attributes that give none. -/
def givenName : List Attribute → Except InterfaceError (Option String × List Attribute)
  | [] => .ok (none, [])
  | attr :: rest =>
    if attr.isNamed "rpc" then do
      let name ← renamed attr.clause.arguments
      let (later, kept) ← givenName rest
      return (some (later.getD name), kept)
    else do
      let (later, kept) ← givenName rest
      return (later, attr :: kept)

/-- The names of parameters with their types. -/
def readParams : List Param → Except InterfaceError (List (String × List Token))
  | [] => .ok []
  | param :: rest => do
    let name ← boundName param.pattern
    let others ← readParams rest
    return (name, param.type) :: others

/-- What a method with the type ends with. -/
def outputOf : Option (List Token) → ServiceOutput
  | none => .unit
  | some type =>
    match resultTypes? type with
    | some (output, failure) => .fallible output failure
    | none => .plain type

/-- A method of a service, and what is left of it. -/
def read (method : Method) : Except InterfaceError (ServiceMethod × Method) := do
  checkReceiver method
  let (given, kept) ← givenName method.attributes
  let params ← readParams method.params
  let name := method.signature.name
  return (⟨name, given.getD (lowerCamelCase name), params, outputOf method.signature.output⟩,
    { method with attributes := kept })

/-! ## Publishing -/

/-- The declaration under which a method is published with a body. Only a method of one parameter
can be called. -/
def publish (method : ServiceMethod) (inputType outputType : String) (shape : Shape)
    (body : Json → Run Completion) : RpcMethod :=
  if method.params.length = 1 then .new method.wireName inputType outputType shape body
  else .unsupported method.wireName method.params.length

end ServiceMethod

namespace ServiceInterface

/-- The methods among items, and what is left of the items. -/
def readItems : List Item → Except InterfaceError (List ServiceMethod × List Item)
  | [] => .ok ([], [])
  | .other tokens :: rest => do
    let (methods, items) ← readItems rest
    return (methods, .other tokens :: items)
  | .method method :: rest => do
    let (first, stripped) ← ServiceMethod.read method
    let (methods, items) ← readItems rest
    return (first :: methods, .method stripped :: items)

/-- The interface that a trait declares under a name, which is that of the trait if none is given.
-/
def read (name : Option String) (declaration : Trait) :
    Except InterfaceError ServiceInterface := do
  let (methods, items) ← readItems declaration.items
  if methods.isEmpty then throw .noMethods
  return ⟨name.getD declaration.name, { declaration with items := items }, methods⟩

/-- The interface that a source text declares, with the arguments of its attribute. -/
def ofSource (arguments source : String) : Except InterfaceError ServiceInterface := do
  let (name, declaration) ← readDeclaration arguments source
  read name declaration

end ServiceInterface

end HttpRpc
