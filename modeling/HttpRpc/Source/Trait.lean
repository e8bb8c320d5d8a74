import HttpRpc.Source.Member

/-!
# Traits

A trait is read as far as an interface needs: methods with their attributes, parameters and types.
All else is tokens. Writing a trait (`Trait.tokens`) gives its tokens back.
-/

namespace HttpRpc.Source

open Token Reader

/-- An item of a trait. -/
inductive Item where
  | method (method : Method)
  | other (tokens : List Token)
deriving Repr

/-- A trait. -/
structure Trait where
  attributes : List Attribute
  visibility : List Token
  /-- The words between the visibility and `trait`. -/
  qualifiers : List Token
  name : String
  generics : List Token
  bounds : List Token
  conditions : List Token
  /-- The attributes inside the braces. -/
  innerAttributes : List Attribute
  items : List Item
deriving Repr

/-! ## Reading -/

/-- Reads an item that is no method, behind the words in front of it, with which it is kept as it
was written. -/
def otherItem (g : Grammar) : Reader (List Token) :=
  settled do
    let attributes ← outerAttributes g
    let before ← inTurn [visibility?, word? "default"]
    let tokens ← get
    if atSignature tokens then
      return (attributes ++ before ++ (← Method.read g []).tokens, !before.isEmpty)
    if atWord "const" tokens then
      let (found, kept) ← constantMember g false
      return (attributes ++ before ++ found, kept || !before.isEmpty)
    if atWord "type" tokens then
      return (attributes ++ before ++ (← TypeMember.read g false true).tokens, !before.isEmpty)
    return (attributes ++ before ++ (← invocation), !before.isEmpty)

/-- Reads an item. -/
def Item.read (g : Grammar) : Reader Item := do
  let start ← get
  let attributes ← Attribute.readAll false g
  if atSignature (← get) then return method (← Method.read g attributes)
  set start
  return other (← otherItem g)

/-- Whether tokens start with a trait behind its visibility. -/
def atTrait (tokens : List Token) : Bool :=
  match inTurn [words? ["unsafe", "auto"], word "trait"] tokens with
  | .ok _ => true
  | .error _ => false

/-- Reads a trait behind its attributes and its visibility. -/
def Trait.readBehind (g : Grammar) (attributes : List Attribute) (visibility : List Token) :
    Reader Trait := do
  let qualifiers ← words? ["unsafe", "auto"]
  let _ ← word "trait"
  let name ← newName
  let generics ← generics? g
  let colon ← sign? ":"
  let stop (tokens : List Token) : Bool :=
    colon.isEmpty || atWord "where" tokens || atGroup .brace tokens
  let bounds := joined (← terminated stop "+" (g.bound false))
  let conditions ← conditions? g
  let (inner, items) ← within .brace do
    let inner ← Attribute.readAll true g
    return (inner, ← many (!·.isEmpty) (Item.read g))
  return ⟨attributes, visibility, qualifiers, name, generics, bounds, conditions, inner, items⟩

/-- Reads a trait. -/
def Trait.read (g : Grammar) : Reader Trait := do
  let attributes ← Attribute.readAll false g
  let visibility ← visibility?
  Trait.readBehind g attributes visibility

/-! ## Writing -/

/-- The tokens of an item. -/
def Item.tokens : Item → List Token
  | method m => m.tokens
  | other tokens => tokens

/-- The tokens of a trait. -/
def Trait.tokens (declaration : Trait) : List Token :=
  declaration.attributes.flatMap Attribute.tokens ++ declaration.visibility ++
    declaration.qualifiers ++ [.name "trait", .name declaration.name] ++ declaration.generics ++
    (if declaration.bounds.isEmpty then [] else .mark ':' false :: declaration.bounds) ++
    declaration.conditions ++
    [.group .brace (declaration.innerAttributes.flatMap Attribute.tokens ++
      declaration.items.flatMap Item.tokens)]

/-! ## Parts -/

/-- The methods of a trait. -/
def Trait.methods (declaration : Trait) : List Method :=
  declaration.items.filterMap fun item =>
    match item with
    | .method m => some m
    | .other _ => none

/-- The trait with one more bound. -/
def Trait.withBound (declaration : Trait) (bound : List Token) : Trait :=
  let before := declaration.bounds
  let open_ := before.getLast?.any fun token => !token.isMark '+'
  { declaration with bounds := before ++ (if open_ then [.mark '+' false] else []) ++ bound }

end HttpRpc.Source
