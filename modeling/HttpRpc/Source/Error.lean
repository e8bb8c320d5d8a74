/-!
# Reading errors

Where tokens are not what the grammar allows, a reader says what it expected.
-/

namespace HttpRpc.Source

/-- Why tokens cannot be read. -/
inductive ReadError where
  /-- The tokens end, or go on, where something else is expected. -/
  | expected (what : String) (atEnd : Bool)
  /-- The tokens go on where they should end. -/
  | unexpected
  /-- An attribute is assigned to a path inside an attribute. -/
  | nestedAttribute
  /-- The tokens are nested too deeply. -/
  | tooDeep
deriving DecidableEq, Repr

/-- The wording of an error. -/
def ReadError.message : ReadError → String
  | expected what true => "unexpected end of input, expected " ++ what
  | expected what false => "expected " ++ what
  | unexpected => "unexpected token"
  | nestedAttribute => "unexpected attribute inside of attribute"
  | tooDeep => "nested too deeply"

end HttpRpc.Source
