import HttpRpc.Source.Path

/-!
# Attributes

An attribute holds a clause: a path, alone, with a group of arguments, or with a value assigned to
it.
-/

namespace HttpRpc.Source

open Token Reader

/-- What follows the path of a clause. -/
inductive Arguments where
  | none
  | list (delimiter : Delimiter) (tokens : List Token)
  | assigned (value : List Token)
deriving Repr

/-- A path with its arguments. -/
structure Clause where
  path : List Token
  arguments : Arguments
deriving Repr

/-- A clause about what it stands in front of, or about what it stands in. -/
structure Attribute where
  inner : Bool
  clause : Clause
deriving Repr

/-! ## Writing -/

/-- The tokens of a clause. -/
def Clause.tokens (clause : Clause) : List Token :=
  clause.path ++
    match clause.arguments with
    | .none => []
    | .list d body => [.group d body]
    | .assigned value => .mark '=' false :: value

/-- The tokens of an attribute. -/
def Attribute.tokens (self : Attribute) : List Token :=
  .mark '#' false :: (if self.inner then [.mark '!' false] else []) ++
    [.group .bracket self.clause.tokens]

/-! ## Reading -/

/-- Reads the path of a clause, which may be the word `unsafe` alone. -/
def clausePath : Reader (List Token) := do
  if atWord "unsafe" (← get) then word "unsafe" else Path.plain

/-- Reads a value assigned in a clause, which is no attribute. -/
def assignedValue (g : Grammar) : Reader (List Token) := do
  let tokens ← get
  if atSign "#" tokens && atGroup .bracket (tokens.drop 1) then throw .nestedAttribute
  g.term true

/-- Reads a clause. -/
def Clause.read (g : Grammar) : Reader Clause := do
  let path ← clausePath
  match ← get with
  | .group d body :: rest =>
    set rest
    return ⟨path, .list d body⟩
  | tokens =>
    if atSign "=" tokens then
      let _ ← sign "="
      return ⟨path, .assigned (← assignedValue g)⟩
    return ⟨path, .none⟩

/-- Whether tokens start with an attribute of the kind. -/
def Attribute.startsAt (inner : Bool) (tokens : List Token) : Bool :=
  atSign "#" tokens && (!inner || atSign "!" (tokens.drop 1))

/-- Reads an attribute of the kind. -/
def Attribute.read (inner : Bool) (g : Grammar) : Reader Attribute := do
  let _ ← sign "#"
  if inner then
    let _ ← sign "!"
  return ⟨inner, ← within .bracket (Clause.read g)⟩

/-- Reads the attributes of the kind that come next. -/
def Attribute.readAll (inner : Bool) (g : Grammar) : Reader (List Attribute) :=
  many (Attribute.startsAt inner) (Attribute.read inner g)

/-- Reads the attributes in front of something. -/
def outerAttributes (g : Grammar) : Reader (List Token) :=
  return (← Attribute.readAll false g).flatMap Attribute.tokens

/-- Reads the attributes of what is around. -/
def innerAttributes (g : Grammar) : Reader (List Token) :=
  return (← Attribute.readAll true g).flatMap Attribute.tokens

/-! ## Names -/

/-- Whether the path is the one name. -/
def isPath (path : List Token) (name : String) : Bool :=
  match path with
  | [.name text] => text == name
  | _ => false

/-- Whether the path of a clause is the one name. -/
def Clause.isNamed (clause : Clause) (name : String) : Bool :=
  isPath clause.path name

/-- Whether the path of an attribute is the one name. -/
def Attribute.isNamed (self : Attribute) (name : String) : Bool :=
  self.clause.isNamed name

end HttpRpc.Source
