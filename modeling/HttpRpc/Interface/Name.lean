import HttpRpc.Text.Case
import HttpRpc.Text.Split

/-!
# Wire names

A method is published under its name in lower camel case: the words between underscores are joined,
the first letter of the first one in lower case and that of every other one in upper case.
-/

namespace HttpRpc.Interface

/-- The words of a name between underscores. -/
def wordsOf (name : List Char) : List (List Char) :=
  (Text.splitOn '_' name).filter fun word => !word.isEmpty

/-- The word with its first letter in another case. -/
def withFirst (change : Char → List Char) : List Char → List Char
  | [] => []
  | c :: rest => change c ++ rest

/-- The words joined in lower camel case. -/
def joinCamel : List (List Char) → List Char
  | [] => []
  | first :: others => withFirst Text.lower first ++ others.flatMap (withFirst Text.upper)

/-- A name in lower camel case. -/
def lowerCamelCase (name : String) : String :=
  String.ofList (joinCamel (wordsOf name.toList))

end HttpRpc.Interface
