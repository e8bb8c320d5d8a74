import HttpRpc.Source.Pattern

/-!
# Signatures

A method says in its signature by what words it is qualified, what it takes and what it gives. It
may have a body.
-/

namespace HttpRpc.Source

open Token Reader

/-- A parameter of a method. -/
structure Param where
  attributes : List Attribute
  pattern : List Token
  type : List Token
deriving Repr

/-- What stands between the parentheses of a method: the receiver, which may be borrowed, a
parameter, or dots for further arguments. -/
inductive Input where
  | receiver (attributes : List Attribute) (borrowed : Bool) (tokens : List Token)
  | param (param : Param)
  | further (tokens : List Token)
deriving Repr

/-- What a method says before its body. -/
structure Signature where
  /-- The words before `fn`. -/
  qualifiers : List Token
  name : String
  generics : List Token
  inputs : List Input
  /-- Whether a comma follows the last input. -/
  trailingComma : Bool
  output : Option (List Token)
  conditions : List Token
deriving Repr

/-- A method, with a body if it has a default one. -/
structure Method where
  attributes : List Attribute
  signature : Signature
  body : Option (List Token)
deriving Repr

/-! ## Reading -/

/-- Reads a receiver, and says whether it is borrowed. Only one that is not borrowed has a type. -/
def receiverAt (g : Grammar) : Reader (Bool × List Token) := do
  let reference ← provided (atSign "&") (inTurn [sign "&", lifetime?])
  let self ← inTurn [word? "mut", word "self"]
  let type ← provided (fun tokens => reference.isEmpty && atSign ":" tokens)
    (inTurn [sign ":", g.types true])
  return (!reference.isEmpty, reference ++ self ++ type)

/-- Reads the dots for further arguments, which may have a name. -/
def furtherArguments (g : Grammar) : Reader (List Token) :=
  inTurn [provided (!atSign "..." ·) (inTurn [g.pattern, sign ":"]), sign "..."]

/-- Reads a parameter, which may be a type alone if that has arguments. -/
def Param.read (g : Grammar) (attributes : List Attribute) : Reader Param := do
  let tokens ← get
  if atName tokens && atSign "<" (tokens.drop 1) then
    return ⟨attributes, [.name "_"], ← g.types true⟩
  let pattern ← g.pattern
  let _ ← sign ":"
  return ⟨attributes, pattern, ← g.types true⟩

/-- Reads an input. -/
def Input.read (g : Grammar) : Reader Input := do
  let attributes ← Attribute.readAll false g
  let tokens ← get
  match receiverAt g tokens, furtherArguments g tokens with
  | .ok ((borrowed, found), rest), _ =>
    set rest
    return receiver attributes borrowed found
  | _, .ok (found, rest) =>
    set rest
    return further (attributes.flatMap Attribute.tokens ++ found)
  | _, _ => return param (← Param.read g attributes)

/-- Whether tokens start with a signature. -/
def atSignature (tokens : List Token) : Bool :=
  match inTurn [words? ["const", "async", "unsafe"], convention?, word "fn"] tokens with
  | .ok _ => true
  | .error _ => false

/-- Reads the name that something is given. -/
def newName : Reader String := do
  match ← identifier with
  | [.name text] => return text
  | _ => expected "identifier"

/-- Reads a signature. -/
def Signature.read (g : Grammar) : Reader Signature := do
  let qualifiers ← inTurn [words? ["const", "async", "unsafe"], convention?]
  let _ ← word "fn"
  let name ← newName
  let generics ← generics? g
  let inputs ← within .paren (terminated List.isEmpty "," (Input.read g))
  let trailingComma := (inputs.getLast?.map fun (_, after) => !after.isEmpty).getD false
  let arrow ← sign? "->"
  let output ← if arrow.isEmpty then pure none else some <$> g.types true
  let conditions ← conditions? g
  return ⟨qualifiers, name, generics, inputs.map Prod.fst, trailingComma, output, conditions⟩

/-- Reads a method behind its attributes. Those at the start of its body are attributes of the
method too. -/
def Method.read (g : Grammar) (attributes : List Attribute) : Reader Method := do
  let signature ← Signature.read g
  if atSign ";" (← get) then
    let _ ← sign ";"
    return ⟨attributes, signature, none⟩
  let (inner, body) ← within .brace do
    let inner ← Attribute.readAll true g
    return (inner, ← g.statements)
  return ⟨attributes ++ inner, signature, some body⟩

/-! ## Writing -/

/-- The tokens of a parameter. -/
def Param.tokens (param : Param) : List Token :=
  param.attributes.flatMap Attribute.tokens ++ param.pattern ++ .mark ':' false :: param.type

/-- The tokens of an input. -/
def Input.tokens : Input → List Token
  | receiver attributes _ tokens => attributes.flatMap Attribute.tokens ++ tokens
  | param p => p.tokens
  | further tokens => tokens

/-- The tokens of a signature. -/
def Signature.tokens (signature : Signature) : List Token :=
  signature.qualifiers ++ [.name "fn", .name signature.name] ++ signature.generics ++
    [.group .paren (separated ',' (signature.inputs.map Input.tokens) ++
      if signature.trailingComma then [.mark ',' false] else [])] ++
    (match signature.output with
    | some type => .mark '-' true :: .mark '>' false :: type
    | none => []) ++ signature.conditions

/-- The tokens of a method with others between its attributes and its signature. -/
def Method.tokensWith (between : List Token) (method : Method) : List Token :=
  let (inner, outer) := method.attributes.partition Attribute.inner
  outer.flatMap Attribute.tokens ++ between ++ method.signature.tokens ++
    match method.body with
    | some body => [.group .brace (inner.flatMap Attribute.tokens ++ body)]
    | none => [.mark ';' false]

/-- The tokens of a method. -/
def Method.tokens (method : Method) : List Token := method.tokensWith []

/-! ## Parts -/

/-- Whether the method runs as a task. -/
def Method.isAsync (method : Method) : Bool :=
  method.signature.qualifiers.any (isName "async")

/-- Whether the first input of the method is a borrowed receiver. -/
def Method.borrowsSelf (method : Method) : Bool :=
  match method.signature.inputs with
  | .receiver _ borrowed _ :: _ => borrowed
  | _ => false

/-- The parameters of a method, without the receiver. -/
def Method.params (method : Method) : List Param :=
  method.signature.inputs.filterMap fun input =>
    match input with
    | .param p => some p
    | _ => none

end HttpRpc.Source
