import HttpRpc.Source.Trait

/-!
# Definitions

The body of a method may define anything. A definition that goes beyond what the language settles is
kept as it was written: so every reader here says beside the tokens whether to keep them.
-/

namespace HttpRpc.Source

open Token Reader

/-! ## Functions and names -/

/-- Reads a function behind its attributes and its visibility. One without a body is kept. -/
def functionDefinition (g : Grammar) (attributes : List Attribute) (visibility : List Token) :
    Reader (List Token × Bool) := do
  let method ← Method.read g attributes
  return (method.tokensWith visibility, method.body.isNone)

/-- The tokens of an import with their marks apart, and whether a double colon starts a path between
its braces. -/
def importTokens (starts : Bool) : List Token → List Token × Bool
  | [] => ([], false)
  | .group d body :: rest =>
    let (inner, kept) := importTokens true body
    let (more, alsoKept) := importTokens false rest
    (.group d inner :: more, kept || alsoKept)
  | .mark ':' true :: .mark ':' _ :: rest =>
    let (more, kept) := importTokens false rest
    (ofWord [':', ':'] ++ more, starts || kept)
  | .mark c _ :: rest =>
    let (more, kept) := importTokens (c == ',') rest
    (.mark c false :: more, kept)
  | token :: rest =>
    let (more, kept) := importTokens false rest
    (token :: more, kept)
termination_by tokens => sizeOf tokens

/-- Reads an import. -/
def importDefinition : Reader (List Token × Bool) := do
  let tokens ← get
  let (found, kept) := importTokens false (tokens.takeWhile fun token => !token.isMark ';')
  set (tokens.drop found.length)
  return (found ++ (← sign ";"), kept)

/-- Reads the mention of a package. -/
def packageDefinition : Reader (List Token) :=
  inTurn [word "extern", word "crate", anyWord,
    provided (atWord "as") (inTurn [word "as", anyWord]), sign ";"]

/-- Reads a variable. One without a type or a value is kept. -/
def variableDefinition (g : Grammar) : Reader (List Token × Bool) := do
  let start ← inTurn [word "static", word? "mut", identifier]
  let type ← provided (atSign ":") (inTurn [sign ":", g.types true])
  let value ← provided (atSign "=") (inTurn [sign "=", g.term true])
  return (start ++ type ++ value ++ (← sign ";"), type.isEmpty || value.isEmpty)

/-- Reads a module. -/
def moduleDefinition (g : Grammar) : Reader (List Token) :=
  let content : Reader (List Token) := do
    let attributes ← innerAttributes g
    return attributes ++ (← many (!·.isEmpty) g.definition).flatten
  inTurn [word? "unsafe", word "mod", identifier,
    either (atSign ";") (sign ";") (inside .brace content)]

/-- Reads the name of a type that stands for another. -/
def aliasDefinition (g : Grammar) : Reader (List Token × Bool) := do
  let type ← TypeMember.read g true false
  return (type.tokens, type.bounded || !type.defined)

/-! ## Types -/

/-- Reads a field with its name. -/
def namedField (g : Grammar) : Reader (List Token) :=
  inTurn [outerAttributes g, visibility?, anyWord, sign ":", g.types true]

/-- Reads a field without a name. -/
def plainField (g : Grammar) : Reader (List Token) :=
  inTurn [outerAttributes g, visibility?, g.types true]

/-- Reads the fields between braces. -/
def namedFields (g : Grammar) : Reader (List Token) :=
  inside .brace (commas (namedField g))

/-- Reads the fields between parentheses. -/
def plainFields (g : Grammar) : Reader (List Token) :=
  inside .paren (commas (plainField g))

/-- Reads a structure. -/
def structureDefinition (g : Grammar) : Reader (List Token) := do
  let start ← inTurn [word "struct", identifier, generics? g]
  if atGroup .paren (← get) then
    return start ++ (← inTurn [plainFields g, conditions? g, sign ";"])
  let conditions ← conditions? g
  return start ++ conditions ++ (← either (atGroup .brace) (namedFields g) (sign ";"))

/-- Reads a case of an enumeration. Its visibility is left out. -/
def variant (g : Grammar) : Reader (List Token) := do
  let attributes ← outerAttributes g
  let _ ← visibility?
  let fields := either (atGroup .brace) (namedFields g) (provided (atGroup .paren) (plainFields g))
  let value := provided (atSign "=") (inTurn [sign "=", g.term true])
  return attributes ++ (← inTurn [identifier, fields, value])

/-- Reads an enumeration. -/
def enumerationDefinition (g : Grammar) : Reader (List Token) :=
  inTurn [word "enum", identifier, generics? g, conditions? g, inside .brace (commas (variant g))]

/-- Reads a union of fields. -/
def unionDefinition (g : Grammar) : Reader (List Token) :=
  inTurn [word "union", identifier, generics? g, conditions? g, namedFields g]

/-! ## Traits and blocks of methods -/

/-- Whether tokens start with a trait that stands for bounds. -/
def atTraitAlias (g : Grammar) (tokens : List Token) : Bool :=
  match inTurn [word "trait", identifier, generics? g, sign "="] tokens with
  | .ok _ => true
  | .error _ => false

/-- Reads a trait that stands for bounds. -/
def traitAlias (g : Grammar) : Reader (List Token) :=
  let stop (tokens : List Token) : Bool := atWord "where" tokens || atSign ";" tokens
  let bounds : Reader (List Token) := return joined (← terminated stop "+" (g.bound false))
  inTurn [word "trait", identifier, generics? g, sign "=", bounds, conditions? g, sign ";"]

/-- Reads a trait behind its attributes and its visibility. -/
def traitDefinition (g : Grammar) (attributes : List Attribute) (visibility : List Token) :
    Reader (List Token) := do
  if atTraitAlias g (← get) then
    return attributes.flatMap Attribute.tokens ++ visibility ++ (← traitAlias g)
  return (← Trait.readBehind g attributes visibility).tokens

/-- Reads a type, and says whether it is the path of a trait that something is said to have. -/
def implementedTrait (g : Grammar) : Reader (List Token × Bool) := do
  let isPath := match traitPath g (← get) with
    | .ok (_, rest) => atWord "for" rest
    | .error _ => false
  return (← g.types true, isPath)

/-- Reads a block of methods behind its attributes. It is kept if it is constant, or if it is for
something that is no path. -/
def blockDefinition (g : Grammar) : Reader (List Token × Bool) := do
  let start ← inTurn [words? ["default", "unsafe"], word "impl", provided atGenerics (generics? g)]
  let tokens ← get
  let isConstant := atWord "const" tokens || (atSign "?" tokens && atWord "const" (tokens.drop 1))
  let constancy ← provided (fun _ => isConstant) (inTurn [sign? "?", word "const"])
  let isNegative := atSign "!" (← get) && !atGroup .brace ((← get).drop 1)
  let polarity ← provided (fun _ => isNegative) (sign "!")
  let (first, isPath) ← implementedTrait g
  let isFor := atWord "for" (← get)
  let self ← provided (atWord "for") (inTurn [word "for", g.types true])
  let conditions ← conditions? g
  let content : Reader (List Token) := do
    let attributes ← innerAttributes g
    return attributes ++ (← many (!·.isEmpty) (blockMember g)).flatten
  let body ← inside .brace content
  return (start ++ constancy ++ polarity ++ first ++ self ++ conditions ++ body,
    isConstant || (isFor && !isPath))

/-! ## Definitions from elsewhere -/

/-- Reads the definition of something from elsewhere. One that says more than its name and type is
kept. -/
def foreignDefinition (g : Grammar) : Reader (List Token) :=
  settled do
    let attributes ← Attribute.readAll false g
    let visibility ← visibility?
    let written := attributes.flatMap Attribute.tokens ++ visibility
    let safe ← provided (fun tokens => !atSign "!" (tokens.drop 1)) (word? "safe")
    let tokens ← get
    if atSignature tokens then
      let method ← Method.read g attributes
      return (method.tokensWith visibility, method.body.isSome || !safe.isEmpty)
    let careful ← word? "unsafe"
    if atWord "static" (← get) then
      let start ← inTurn [word "static", word? "mut", identifier, sign ":", g.types true]
      let value ← provided (atSign "=") (inTurn [sign "=", g.term true])
      return (written ++ start ++ value ++ (← sign ";"),
        !safe.isEmpty || !careful.isEmpty || !value.isEmpty)
    if atWord "type" tokens then
      let type ← TypeMember.read g true true
      return (written ++ type.tokens, type.bounded || type.defined)
    return (written ++ (← invocation), false)

/-- Whether tokens start with a block of definitions from elsewhere. -/
def atForeignBlock (tokens : List Token) : Bool :=
  match inTurn [word? "unsafe", convention?] tokens with
  | .ok (found, rest) => found.any (isName "extern") && atGroup .brace rest
  | .error _ => false

/-- Reads a block of definitions from elsewhere. -/
def foreignBlock (g : Grammar) : Reader (List Token) :=
  let content : Reader (List Token) := do
    let attributes ← innerAttributes g
    return attributes ++ (← many (!·.isEmpty) (foreignDefinition g)).flatten
  inTurn [word? "unsafe", convention?, inside .brace content]

/-! ## Definitions -/

/-- Reads a definition by rules, which is always kept. -/
def ruleDefinition : Reader (List Token) :=
  inTurn [word "macro", identifier, provided (atGroup .paren) rawGroup, rawGroup]

/-- Reads a definition behind its attributes and its visibility, but for those that hold their own.
-/
def plainDefinition (g : Grammar) (visibility : List Token) : Reader (List Token × Bool) := do
  let tokens ← get
  let settledAs (content : Reader (List Token)) : Reader (List Token × Bool) :=
    return (← content, false)
  if atForeignBlock tokens then settledAs (foreignBlock g)
  else if atWord "extern" tokens then settledAs packageDefinition
  else if atWord "use" tokens then importDefinition
  else if atWord "static" tokens then variableDefinition g
  else if atWord "const" tokens then constantMember g true
  else if atWord "type" tokens then aliasDefinition g
  else if atWord "struct" tokens then settledAs (structureDefinition g)
  else if atWord "enum" tokens then settledAs (enumerationDefinition g)
  else if atWord "union" tokens && atName (tokens.drop 1) then settledAs (unionDefinition g)
  else if atSomeWord ["impl", "default"] tokens ||
      (atWord "unsafe" tokens && atWord "impl" (tokens.drop 1)) then
    let (found, kept) ← blockDefinition g
    return (found, kept || !visibility.isEmpty)
  else if atSomeWord ["mod", "unsafe"] tokens then settledAs (moduleDefinition g)
  else if atWord "macro" tokens then return (← ruleDefinition, true)
  else settledAs invocation

/-- Reads a definition with its attributes. -/
def definitionAt (g : Grammar) : Reader (List Token) :=
  settled do
    let attributes ← Attribute.readAll false g
    let visibility ← visibility?
    let tokens ← get
    if atSignature tokens then return ← functionDefinition g attributes visibility
    if atTrait tokens then return (← traitDefinition g attributes visibility, false)
    let (found, kept) ← plainDefinition g visibility
    return (attributes.flatMap Attribute.tokens ++ visibility ++ found, kept)

end HttpRpc.Source
