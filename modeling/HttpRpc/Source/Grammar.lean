import HttpRpc.Source.Reader

/-!
# Grammars

The parts of the source language hold each other: a type may hold a term, a term a pattern, and a
pattern a term again. A `Grammar` is a reader for each part that others hold. Every part is read by
means of a grammar for the parts inside it.
-/

namespace HttpRpc.Source

/-- The tokens of a type, and whether it is a name alone, perhaps with arguments between angle
brackets. -/
structure TypeTokens where
  tokens : List Token
  isName : Bool
deriving Repr

/-- Readers of the parts that other parts hold. -/
structure Grammar where
  /-- A type, which may be a sum of bounds or not. -/
  type : Bool → Reader TypeTokens
  /-- A bound on a type, which may capture parameters or not. -/
  bound : Bool → Reader (List Token)
  /-- A pattern without alternatives. -/
  pattern : Reader (List Token)
  /-- A term without binary operators, which may build a record or not. -/
  operand : Bool → Reader (List Token)
  /-- A term, which may build a record or not. -/
  term : Bool → Reader (List Token)
  /-- A term where a statement may end. -/
  step : Reader (List Token)
  /-- What is between the braces of a block. -/
  statements : Reader (List Token)
  /-- A definition with its attributes. -/
  definition : Reader (List Token)

namespace Grammar

open Reader

/-- The grammar of nothing. -/
def none : Grammar where
  type _ := fun _ => .error .tooDeep
  bound _ := fun _ => .error .tooDeep
  pattern := fun _ => .error .tooDeep
  operand _ := fun _ => .error .tooDeep
  term _ := fun _ => .error .tooDeep
  step := fun _ => .error .tooDeep
  statements := fun _ => .error .tooDeep
  definition := fun _ => .error .tooDeep

/-- Reads a type. -/
def types (g : Grammar) (sums : Bool) : Reader (List Token) :=
  return (← g.type sums).tokens

/-- Reads a block. -/
def block (g : Grammar) : Reader (List Token) :=
  inside .brace g.statements

/-- Reads what follows an arrow, if tokens start with one: the type of a result. -/
def result (g : Grammar) (sums : Bool) : Reader (List Token) :=
  provided (Token.atSign "->") (inTurn [sign "->", g.types sums])

end Grammar

end HttpRpc.Source
