import HttpRpc.Source.Signature
import HttpRpc.Source.Statement

/-!
# Members

Besides methods, a trait or a block of methods has constants, types and invocations. The same may
stand outside of one. A visibility may stand in front. What a plain definition may not say is kept
as it was written: so every reader here says beside the tokens whether to keep them.
-/

namespace HttpRpc.Source

open Token Reader

/-! ## Visibility -/

/-- The tokens between parentheses that limit a visibility, if they do. -/
def visibilityScope? (body : List Token) : Option (List Token) :=
  match body with
  | [.name text] => if ["crate", "self", "super"].contains text then some body else none
  | .name "in" :: rest =>
    match Path.plain rest with
    | .ok (path, []) => some (.name "in" :: path)
    | _ => none
  | _ => none

/-- Reads a visibility, if tokens start with one. -/
def visibility? : Reader (List Token)
  | .name "pub" :: rest =>
    match rest with
    | .group .paren body :: after =>
      match visibilityScope? body with
      | some scope => .ok ([.name "pub", .group .paren scope], after)
      | none => .ok ([.name "pub"], rest)
    | _ => .ok ([.name "pub"], rest)
  | tokens => .ok ([], tokens)

/-! ## Constants, types and invocations -/

/-- Reads a constant. It is kept if it has parameters or conditions, or if it must have a value and
has none. -/
def constantMember (g : Grammar) (needsValue : Bool) : Reader (List Token × Bool) := do
  let start ← inTurn [word "const", anyWord]
  let general := atSign "<" (← get)
  let type ← inTurn [generics? g, sign ":", g.types true]
  let value ← provided (atSign "=") (inTurn [sign "=", g.term true])
  let conditional := atWord "where" (← get)
  let finish ← inTurn [conditions? g, sign ";"]
  return (start ++ type ++ value ++ finish,
    general || conditional || (needsValue && value.isEmpty))

/-- The name of a type with what it has. -/
structure TypeMember where
  /-- Whether a colon follows the name. -/
  bounded : Bool
  /-- Whether a type is assigned to the name. -/
  defined : Bool
  tokens : List Token
deriving Repr

/-- Reads the name of a type. Conditions may stand before the type that is assigned to it or after
it. -/
def TypeMember.read (g : Grammar) (before after : Bool) : Reader TypeMember := do
  let start ← inTurn [word "type", identifier, generics? g]
  let bounded := atSign ":" (← get)
  let stop (tokens : List Token) : Bool := atWord "where" tokens || atSomeSign ["=", ";"] tokens
  let bounds ← bounds? stop (g.bound false)
  let earlier ← provided (fun _ => before) (conditions? g)
  let value ← provided (atSign "=") (inTurn [sign "=", g.types true])
  let finish ← inTurn [provided (fun _ => after) (conditions? g), sign ";"]
  return ⟨bounded, !value.isEmpty, start ++ bounds ++ earlier ++ value ++ finish⟩

/-- Reads an invocation, which may define a name. -/
def invocation : Reader (List Token) :=
  let name := provided (fun tokens => atName tokens || atWord "try" tokens) anyWord
  let arguments := either (atGroup .brace) rawGroup (inTurn [rawGroup, sign ";"])
  inTurn [Path.plain, sign "!", name, arguments]

/-! ## Members of a block -/

/-- Reads a member of a block of methods. -/
def blockMember (g : Grammar) : Reader (List Token) :=
  settled do
    let attributes ← Attribute.readAll false g
    let isDefault (tokens : List Token) : Bool := !atSign "!" (tokens.drop 1)
    let before ← inTurn [visibility?, provided isDefault (word? "default")]
    let written := attributes.flatMap Attribute.tokens ++ before
    let tokens ← get
    if atSignature tokens then
      let method ← Method.read g attributes
      return (method.tokensWith before, method.body.isNone)
    if atWord "const" tokens then
      let (found, kept) ← constantMember g true
      return (written ++ found, kept)
    if atWord "type" tokens then
      let type ← TypeMember.read g false true
      return (written ++ type.tokens, type.bounded || !type.defined)
    return (written ++ (← invocation), false)

end HttpRpc.Source
