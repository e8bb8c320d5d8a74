import HttpRpc.Binding.Route
import HttpRpc.Binding.Template
import HttpRpc.Json.Basic

/-!
# Bound methods

`BoundMethod.bind` turns the declaration of a method into a recipe for its URL and body, or says
which rule the declaration breaks. `resolve` follows the recipe for a list of arguments. A URL that
depends on no argument is computed once, when the method is bound.
-/

namespace HttpRpc

/-- A parameter whose argument fills a placeholder of the path. -/
structure PathParam where
  position : Nat
  name : String
  placeholder : String
deriving DecidableEq, Repr

/-- A parameter whose argument gives the values of a query placeholder. -/
structure QueryParam where
  position : Nat
  name : String
  placeholder : String
deriving DecidableEq, Repr

/-- How the URL of a call is made. -/
structure UriExtractor where
  base : BaseUri
  template : UriTemplate
  pathParams : List PathParam
  queryParams : List QueryParam
  cached : Option Url

/-- A method with the recipe for its requests. -/
structure BoundMethod where
  method : String
  verb : Verb
  arity : Nat
  uri : UriExtractor
  bodyPosition : Option Nat

/-! ## Arguments -/

/-- The argument at a position, unless it is null. -/
def argument? (args : List Json) (position : Nat) : Option Json :=
  (args[position]?).filter fun value => !value.isNull

/-- The text of an argument: strings as they are, booleans and numbers as they are written, nothing
for null. -/
def scalarText (name : String) : Json → Except ArgumentError (Option String)
  | .null => .ok none
  | .string text => .ok (some text)
  | .bool value => .ok (some (if value then "true" else "false"))
  | .number value => .ok (some value.render)
  | .array _ => .error (.invalidArgument name "sequences are only allowed in query parameters")
  | .object _ => .error (.invalidArgument name "structured values have no uri form")

/-- The text of an item of a sequence. -/
def itemText (name : String) : Json → Except ArgumentError (Option String)
  | .array _ => .error (.invalidArgument name "nested sequences have no uri form")
  | item => scalarText name item

/-- The texts of an argument: those of its items for a sequence, else its own. -/
def queryTexts (name : String) : Json → Except ArgumentError (List String)
  | .array items => do
    let texts ← items.mapM (itemText name)
    return texts.filterMap id
  | value => do
    let text ← scalarText name value
    return text.toList

namespace UriExtractor

/-- The values with those of one placeholder replaced. -/
def setValue (values : PlaceholderValues) (placeholder : String) (texts : List String) :
    PlaceholderValues :=
  fun name => if name = placeholder then some texts else values name

/-- The values with the argument of a path parameter added. -/
def addPathValue (args : List Json) (values : PlaceholderValues) (param : PathParam) :
    Except ArgumentError PlaceholderValues :=
  match argument? args param.position with
  | none => .error (.missingPathVariable param.placeholder)
  | some value => do
    match ← scalarText param.name value with
    | none => throw (.missingPathVariable param.placeholder)
    | some text => return setValue values param.placeholder [text]

/-- The values with the argument of a query parameter added. -/
def addQueryValue (args : List Json) (values : PlaceholderValues) (param : QueryParam) :
    Except ArgumentError PlaceholderValues := do
  let texts ← match argument? args param.position with
    | some value => queryTexts param.name value
    | none => .ok []
  return setValue values param.placeholder texts

/-- The values that arguments give to the placeholders. -/
def values (extractor : UriExtractor) (args : List Json) :
    Except ArgumentError PlaceholderValues := do
  let fromPath ← extractor.pathParams.foldlM (addPathValue args) (fun _ => none)
  extractor.queryParams.foldlM (addQueryValue args) fromPath

/-- The URL of a call, computed from its arguments. -/
def compute (extractor : UriExtractor) (args : List Json) : Except ArgumentError Url := do
  let values ← extractor.values args
  extractor.template.expand extractor.base values

/-- The URL of a call. -/
def extract (extractor : UriExtractor) (args : List Json) : Except ArgumentError Url :=
  match extractor.cached with
  | some url => .ok url
  | none => extractor.compute args

end UriExtractor

namespace BoundMethod

/-! ## Binding -/

/-- What has been learnt about the parameters so far. -/
structure Roles where
  pathParams : List PathParam
  queryKeys : List (Nat × String × String)
  bodyPosition : Option Nat

/-- The single role of a parameter. -/
def roleOf (method : String) (param : ParamDecl) : Except BindingError ParamRole :=
  match param.roles with
  | [] => .error (.unrecognizedParameter method param.name)
  | [role] => .ok role
  | _ => .error (.conflictingParameterRoles method param.name)

/-- What is known about the parameters after one more of them. -/
def addParam (method : String) (template : UriTemplate) (roles : Roles)
    (item : ParamDecl × Nat) : Except BindingError Roles := do
  let (param, position) := item
  match ← roleOf method param with
  | .path name =>
    if template.hasPathVariable name then
      return { roles with pathParams := roles.pathParams ++ [⟨position, param.name, name⟩] }
    else throw (.unknownPathVariable method name)
  | .query key =>
    return { roles with queryKeys := roles.queryKeys ++ [(position, param.name, key)] }
  | .body =>
    if roles.bodyPosition.isSome then throw (.duplicateBody method)
    else return { roles with bodyPosition := some position }

/-- The verb of a declaration; fetching if it names none. -/
def verbOf (decl : RouteDecl) : Except BindingError Verb :=
  match decl.verbs with
  | [] => .ok .get
  | [verb] => .ok verb
  | verbs => .error (.ambiguousVerb decl.method (verbs.map Verb.name))

/-- The path of a declaration; empty if it names none. -/
def pathOf (decl : RouteDecl) : Except BindingError String :=
  match decl.paths with
  | [] => .ok ""
  | [path] => .ok path
  | paths => .error (.ambiguousPath decl.method paths)

/-- The template with a query parameter for each key, and the placeholders under which they
stand. -/
def addQueryKeys (template : UriTemplate) :
    List (Nat × String × String) → UriTemplate × List QueryParam
  | [] => (template, [])
  | (position, name, key) :: rest =>
    let (extended, placeholder) := template.addQueryParameter key
    let (final, params) := addQueryKeys extended rest
    (final, ⟨position, name, placeholder⟩ :: params)

/-- Binds a declaration to a base URL. The rules are checked in this order: qualifiers, verbs,
paths, the template, the parameters from left to right, the placeholders of the path. -/
def bind (base : BaseUri) (decl : RouteDecl) : Except BindingError BoundMethod := do
  let method := decl.method
  if let qualifier :: _ := decl.qualifiers then
    throw (.unsupportedQualifier method qualifier.render)
  let verb ← verbOf decl
  let path ← pathOf decl
  let parsed ← UriTemplate.parse path
  let roles ← decl.params.zipIdx.foldlM (addParam method parsed) ⟨[], [], none⟩
  let isBound (name : String) := roles.pathParams.any fun param => param.placeholder == name
  if let some name := parsed.pathVariables.find? fun name => !isBound name then
    throw (.unboundPathVariable method name)
  let (template, queryParams) := addQueryKeys parsed roles.queryKeys
  let cached ←
    if roles.pathParams.isEmpty && queryParams.isEmpty then
      match template.expand base fun _ => none with
      | .ok url => pure (some url)
      | .error e => throw (.invalidTemplate path e.message)
    else pure none
  return {
    method, verb
    arity := decl.arity
    uri := { base, template, pathParams := roles.pathParams, queryParams, cached }
    bodyPosition := roles.bodyPosition }

/-! ## Calls -/

/-- The argument that is sent as the body: the one with that role, unless it is null. -/
def body? (bound : BoundMethod) (args : List Json) : Option Json :=
  bound.bodyPosition.bind (argument? args)

/-- The URL and the body of a call, for the right number of arguments. -/
def resolve (bound : BoundMethod) (args : List Json) :
    Except ArgumentError (Url × Option Json) := do
  if args.length ≠ bound.arity then
    throw (.arityMismatch bound.method bound.arity args.length)
  let url ← bound.uri.extract args
  return (url, bound.body? args)

end BoundMethod

end HttpRpc
