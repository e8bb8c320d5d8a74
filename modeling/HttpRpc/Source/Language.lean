import HttpRpc.Source.Definition

/-!
# The language

`Grammar.upTo` ties the readers of all parts together down to a given depth. No more than a few
parts hold each other without taking a token, so that the number of tokens tells what depth suffices
(`Grammar.forTokens`).
-/

namespace HttpRpc.Source

open Token

/-- The grammar of what is nested no more deeply than a number of parts. -/
def Grammar.upTo : Nat → Grammar
  | 0 => none
  | depth + 1 =>
    let g := upTo depth
    { type := typeAt g
      bound := boundAt g
      pattern := patternAt g
      operand := operandAt g
      term := termAt g
      step := stepAt g
      statements := statementsAt g
      definition := definitionAt g }

/-- How many tokens there are, those in groups counted. -/
def Token.count : List Token → Nat
  | [] => 0
  | .group _ body :: rest => count body + count rest + 1
  | _ :: rest => count rest + 1
termination_by tokens => sizeOf tokens

/-- The grammar that suffices for tokens. -/
def Grammar.forTokens (tokens : List Token) : Grammar :=
  upTo (4 * count tokens + 16)

/-- What a reader takes tokens for, if it takes them all. -/
def Reader.whole {α : Type} (content : Grammar → Reader α) (tokens : List Token) :
    Except ReadError α :=
  match content (Grammar.forTokens tokens) tokens with
  | .ok (found, []) => .ok found
  | .ok (_, _ :: _) => .error .unexpected
  | .error e => .error e

/-- The trait that tokens form. -/
def Trait.read? (tokens : List Token) : Option Trait :=
  (Reader.whole Trait.read tokens).toOption

end HttpRpc.Source
