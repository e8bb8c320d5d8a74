import HttpRpc.Interface.Error
import HttpRpc.Source.Language
import HttpRpc.Source.Lexer

/-!
# Arguments of attributes

An argument is a text, or a path with a value assigned to it. The values that an interface uses are
texts.
-/

namespace HttpRpc.Interface

open HttpRpc.Source

/-- The text that a value stands for, if it is a literal of one. -/
def textOf (value : List Token) : Except InterfaceError String :=
  match value with
  | [.literal literal] =>
    match Literal.text? literal with
    | some text => .ok text
    | none => .error .expectedText
  | _ => .error .expectedText

/-- What a reader takes all of the tokens of an argument for. -/
def reading {α : Type} (content : Grammar → Reader α) (tokens : List Token) :
    Except InterfaceError α :=
  (Reader.whole content tokens).mapError .unreadable

/-- Reads a literal of a text. -/
def textLiteral : Reader String := do
  match ← get with
  | .literal literal :: rest =>
    match Literal.text? literal with
    | some text =>
      set rest
      return text
    | none => Reader.expected "string literal"
  | _ => Reader.expected "string literal"

/-- The text that is the only argument. -/
def onlyText (tokens : List Token) : Except InterfaceError String :=
  reading (fun _ => textLiteral) tokens

/-! ## Assignments -/

/-- A value assigned to a path. -/
structure Assignment where
  path : List Token
  value : List Token
deriving Repr

/-- Reads an assignment. -/
def Assignment.read (g : Grammar) : Reader Assignment := do
  let path ← clausePath
  let _ ← Reader.sign "="
  return ⟨path, ← assignedValue g⟩

/-- Reads items with commas between neighbours; a comma after the last one adds none. -/
def listed {α : Type} (item : Grammar → Reader α) (g : Grammar) : Reader (List α) :=
  return (← Reader.terminated List.isEmpty "," (item g)).map Prod.fst

/-- The assignments among the arguments. -/
def assignments (tokens : List Token) : Except InterfaceError (List Assignment) :=
  reading (listed Assignment.read) tokens

/-- The assignment that is the only argument. -/
def onlyAssignment (tokens : List Token) : Except InterfaceError Assignment :=
  reading Assignment.read tokens

/-! ## Arguments of the interface -/

/-- The clauses among the arguments. -/
def clauses (tokens : List Token) : Except InterfaceError (List Clause) :=
  reading (listed Clause.read) tokens

/-- The name that the arguments of an interface give it: the last one. -/
def givenName : List Clause → Except InterfaceError (Option String)
  | [] => .ok none
  | argument :: rest =>
    match argument.isNamed "name", argument.arguments with
    | true, .assigned value => do
      let name ← textOf value
      let later ← givenName rest
      return some (later.getD name)
    | _, _ => .error .unknownArgument

/-- The name that the arguments give an interface, and the trait that declares it. -/
def readDeclaration (arguments source : String) :
    Except InterfaceError (Option String × Trait) :=
  match Token.read? arguments, (Token.read? source).bind Trait.read? with
  | some tokens, some declaration => do
    let name ← givenName (← clauses tokens)
    return (name, declaration)
  | _, _ => .error .malformed

/-! ## Methods -/

/-- Checks that a method runs as a task of a borrowed receiver. -/
def checkReceiver (method : Method) : Except InterfaceError Unit :=
  if !method.isAsync then .error .notAsync
  else if !method.borrowsSelf then .error .notBorrowing
  else .ok ()

/-- The name that a pattern binds, if it is no more than a name. -/
def boundName (pattern : List Token) : Except InterfaceError String :=
  let rest := if (pattern.head?.map (·.isName "ref")).getD false then pattern.drop 1 else pattern
  let rest := if (rest.head?.map (·.isName "mut")).getD false then rest.drop 1 else rest
  match rest with
  | [.name name] => if Token.keywords.contains name then .error .patternParameter else .ok name
  | .name name :: .mark '@' _ :: _ =>
    if Token.keywords.contains name then .error .patternParameter else .ok name
  | _ => .error .patternParameter

/-! ## Results -/

/-- The two types of a result, if the type is a path that ends in one. -/
def resultTypes? (type : List Token) : Option (List Token × List Token) :=
  match Reader.whole (fun g => Path.read g false) type with
  | .error _ => none
  | .ok path => do
    let segment ← path.segments.getLast?
    match segment.name, segment.typeArguments with
    | [.name "Result"], output :: failure :: _ => some (output, failure)
    | _, _ => none

end HttpRpc.Interface
