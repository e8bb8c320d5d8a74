import HttpRpc.Source.Attribute

/-!
# Bounds and parameters

A bound on a type is a lifetime or a trait. The parameters of a definition may have bounds, and
conditions on types state more of them. An empty list of parameters, bounds or conditions is left
out, and lifetimes are written before other parameters.
-/

namespace HttpRpc.Source

open Token Reader

/-! ## Parameters -/

/-- A colon with the bounds behind it, or nothing if there is no bound. -/
def boundsTokens (bounds : List (List Token × List Token)) : List Token :=
  if bounds.isEmpty then [] else .mark ':' false :: joined bounds

/-- Reads the bounds behind a colon, if tokens start with one. -/
def bounds? (stop : List Token → Bool) (bound : Reader (List Token)) : Reader (List Token) := do
  if (← sign? ":").isEmpty then return []
  return boundsTokens (← chained stop "+" bound)

/-- A parameter of a definition. -/
structure Generic where
  isLifetime : Bool
  tokens : List Token
deriving Repr

/-- Reads a parameter of a definition. -/
def Generic.read (g : Grammar) : Reader Generic := do
  let attributes ← outerAttributes g
  if atLifetime (← get) then
    let stop (tokens : List Token) : Bool := tokens.isEmpty || atSomeSign [",", ">"] tokens
    return ⟨true, attributes ++ (← inTurn [lifetime, bounds? stop lifetime])⟩
  if atWord "const" (← get) then
    let value := provided (atSign "=") (inTurn [sign "=", constantArgument g])
    return ⟨false, attributes ++
      (← inTurn [word "const", identifier, sign ":", g.types true, value])⟩
  let name := either (atWord "_") anyWord identifier
  let bounds := bounds? (atSomeSign [",", ">", "="]) (g.bound false)
  let value := provided (atSign "=") (inTurn [sign "=", g.types true])
  return ⟨false, attributes ++ (← inTurn [name, bounds, value])⟩

/-- Reads parameters between angle brackets, if tokens start with some. -/
def generics? (g : Grammar) : Reader (List Token) := do
  if !atSign "<" (← get) then return []
  let opening ← sign "<"
  let params ← terminated (atSign ">") "," (Generic.read g)
  let closing ← sign ">"
  if params.isEmpty then return []
  return opening ++ joinedFirst Generic.isLifetime Generic.tokens params ++ closing

/-- Whether tokens start with parameters, and not with a type between angle brackets. -/
def atGenerics (tokens : List Token) : Bool :=
  let first := tokens.drop 1
  let next := first.drop (if atLifetime first then 2 else 1)
  atSign "<" tokens &&
    (atSomeSign [">", "#"] first || atWord "const" first ||
      ((atLifetime first || atName first) && (atSomeSign [">", ",", "="] next || atColon next)))

/-! ## Bounds -/

/-- Reads the lifetimes that something is for, if tokens start with some. -/
def lifetimesFor? (g : Grammar) : Reader (List Token) := do
  if !atWord "for" (← get) then return []
  let start ← word "for"
  let opening ← sign "<"
  let params ← terminated (atSign ">") "," do return (← Generic.read g).tokens
  let closing ← sign ">"
  return start ++ opening ++ joined params ++ closing

/-- Reads the parameters that a type captures. -/
def captured : Reader (List Token) := do
  let start ← word "use"
  let opening ← sign "<"
  let params ← terminated (atSign ">") "," do
    if atLifetime (← get) then return Generic.mk true (← lifetime)
    return Generic.mk false (← either (atWord "Self") anyWord identifier)
  let closing ← sign ">"
  return start ++ opening ++ joinedFirst Generic.isLifetime Generic.tokens params ++ closing

/-- Reads the path of a trait with its arguments. -/
def traitPath (g : Grammar) : Reader (List Token) := do
  let path ← Path.unqualified g false
  return path.tokens ++ (← path.functionTypes? g)

/-- Reads a trait as a bound, and says whether it is one only in constant terms. The question mark
of a trait that may be missing is written before lifetimes. -/
def traitBound (g : Grammar) : Reader (List Token × Bool) := do
  let lifetimes ← lifetimesFor? g
  let constant ← either (atGroup .bracket) rawGroup (inTurn [sign? "~", word? "const"])
  let maybe ← sign? "?"
  let later ← provided (fun _ => lifetimes.isEmpty && !maybe.isEmpty) (lifetimesFor? g)
  let path ← traitPath g
  return (maybe ++ lifetimes ++ later ++ path, !constant.isEmpty)

/-- Reads a bound, which may be a list of captured parameters or not. -/
def boundAt (g : Grammar) (captures : Bool) : Reader (List Token) := do
  if atLifetime (← get) then return ← lifetime
  if captures && atWord "use" (← get) then return ← captured
  settled do
    if !atGroup .paren (← get) then return ← traitBound g
    let (bound, kept) ← within .paren (traitBound g)
    return ([.group .paren bound], kept)

/-- Whether tokens start with a bound. -/
def atBound (tokens : List Token) : Bool :=
  atAnyWord tokens || atSomeSign ["::", "?", "~"] tokens || atLifetime tokens ||
    atGroup .paren tokens || atGroup .bracket tokens

/-- Reads a sum of bounds, or one bound. -/
def boundSum (g : Grammar) (sums captures : Bool) : Reader (List Token) := do
  if !sums then return ← g.bound captures
  return joined (← chained (fun tokens => !atBound tokens) "+" (g.bound captures))

/-! ## Conditions -/

/-- Whether tokens end a condition or a list of conditions. -/
def endsConditions (tokens : List Token) : Bool :=
  tokens.isEmpty || atGroup .brace tokens || atSomeSign [",", ";", "="] tokens || atColon tokens

/-- Reads a condition: a lifetime or a type with its bounds. -/
def condition (g : Grammar) : Reader (List Token) := do
  let tokens ← get
  let bounds (bound : Reader (List Token)) : Reader (List Token) :=
    return joined (← chained endsConditions "+" bound)
  if atLifetime tokens && atSign ":" (tokens.drop 2) then
    inTurn [lifetime, sign ":", bounds lifetime]
  else inTurn [lifetimesFor? g, g.types true, sign ":", bounds (g.bound false)]

/-- Reads the conditions behind the word `where`, if tokens start with it. -/
def conditions? (g : Grammar) : Reader (List Token) := do
  if !atWord "where" (← get) then return []
  let start ← word "where"
  let found ← chained endsConditions "," (condition g)
  if found.isEmpty then return []
  return start ++ joined found

end HttpRpc.Source
