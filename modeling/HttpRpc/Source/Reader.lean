import HttpRpc.Source.Error
import HttpRpc.Source.Token

/-!
# Readers

A reader takes what it reads from the start of tokens and leaves the rest, or fails. The readers of
a grammar give tokens back, with the marks of each operator joined to each other and to nothing
else; `raw` gives tokens back as they were.
-/

namespace HttpRpc.Source

/-- A reader of tokens. -/
abbrev Reader (α : Type) : Type := StateT (List Token) (Except ReadError) α

/-! ## What tokens start with -/

namespace Token

/-- Words that are no names. -/
def keywords : List String :=
  ["_", "abstract", "as", "async", "await", "become", "box", "break", "const", "continue", "crate",
    "do", "dyn", "else", "enum", "extern", "false", "final", "fn", "for", "if", "impl", "in", "let",
    "loop", "macro", "match", "mod", "move", "mut", "override", "priv", "pub", "ref", "return",
    "Self", "self", "static", "struct", "super", "trait", "true", "try", "type", "typeof", "unsafe",
    "unsized", "use", "virtual", "where", "while", "yield"]

/-- Whether tokens start with the marks, all but the last of which are joined. -/
def startsWith : List Char → List Token → Bool
  | [], _ => true
  | [c], tokens => (tokens.head?.map (isMark c)).getD false
  | c :: more, mark d joined :: rest => c == d && joined && startsWith more rest
  | _, _ => false

/-- Whether tokens start with the sign. -/
def atSign (text : String) (tokens : List Token) : Bool :=
  startsWith text.toList tokens

/-- Whether tokens start with one of the signs. -/
def atSomeSign (texts : List String) (tokens : List Token) : Bool :=
  texts.any fun text => atSign text tokens

/-- Whether tokens start with the word. -/
def atWord (text : String) (tokens : List Token) : Bool :=
  (tokens.head?.map (isName text)).getD false

/-- Whether tokens start with one of the words. -/
def atSomeWord (texts : List String) (tokens : List Token) : Bool :=
  texts.any fun text => atWord text tokens

/-- Whether tokens start with any word, be it a name or not. -/
def atAnyWord : List Token → Bool
  | name _ :: _ => true
  | _ => false

/-- Whether tokens start with a name. -/
def atName : List Token → Bool
  | name text :: _ => !keywords.contains text
  | _ => false

/-- Whether tokens start with a lifetime. -/
def atLifetime : List Token → Bool
  | mark '\x27' _ :: name _ :: _ => true
  | _ => false

/-- Whether tokens start with a literal, perhaps a negative one. -/
def atLiteral : List Token → Bool
  | literal _ :: _ => true
  | name text :: _ => text == "true" || text == "false"
  | mark '-' _ :: literal text :: _ => (text.toList.head?.map Char.isDigit).getD false
  | _ => false

/-- Whether tokens start with a group. -/
def atGroup (delimiter : Delimiter) : List Token → Bool
  | group d _ :: _ => d == delimiter
  | _ => false

/-- Whether tokens start with a group of any kind. -/
def atAnyGroup : List Token → Bool
  | group _ _ :: _ => true
  | _ => false

end Token

namespace Reader

open Token

/-! ## Single readers -/

/-- Fails for want of something. -/
def expected {α : Type} (what : String) : Reader α :=
  fun tokens => .error (.expected what tokens.isEmpty)

/-- Reads a sign. -/
def sign (text : String) : Reader (List Token) := fun tokens =>
  if atSign text tokens then .ok (ofWord text.toList, tokens.drop text.length)
  else .error (.expected ("\x60" ++ text ++ "\x60") tokens.isEmpty)

/-- Reads a sign if tokens start with it. -/
def sign? (text : String) : Reader (List Token) := fun tokens =>
  if atSign text tokens then sign text tokens else .ok ([], tokens)

/-- Reads a word. -/
def word (text : String) : Reader (List Token) := fun tokens =>
  if atWord text tokens then .ok ([name text], tokens.drop 1)
  else .error (.expected ("\x60" ++ text ++ "\x60") tokens.isEmpty)

/-- Reads a word if tokens start with it. -/
def word? (text : String) : Reader (List Token) := fun tokens =>
  if atWord text tokens then word text tokens else .ok ([], tokens)

/-- Reads those of the words that come next, in the order given. -/
def words? : List String → Reader (List Token)
  | [] => return []
  | text :: texts => return (← word? text) ++ (← words? texts)

/-- Reads any word, be it a name or not. -/
def anyWord : Reader (List Token)
  | name text :: rest => .ok ([name text], rest)
  | tokens => .error (.expected "identifier" tokens.isEmpty)

/-- Reads a name. -/
def identifier : Reader (List Token)
  | name text :: rest =>
    if keywords.contains text then
      .error (.expected ("identifier, found keyword \x60" ++ text ++ "\x60") false)
    else .ok ([name text], rest)
  | tokens => .error (.expected "identifier" tokens.isEmpty)

/-- Reads a lifetime. -/
def lifetime : Reader (List Token)
  | mark '\x27' _ :: name text :: rest => .ok ([mark '\x27' true, name text], rest)
  | tokens => .error (.expected "lifetime" tokens.isEmpty)

/-- Reads a lifetime if tokens start with one. -/
def lifetime? : Reader (List Token) := fun tokens =>
  if atLifetime tokens then lifetime tokens else .ok ([], tokens)

/-- Reads a literal, perhaps a negative one. -/
def constant : Reader (List Token) := fun tokens =>
  if atLiteral tokens then
    match tokens with
    | mark c _ :: number :: rest => .ok ([mark c false, number], rest)
    | value :: rest => .ok ([value], rest)
    | [] => .ok ([], [])
  else .error (.expected "literal" tokens.isEmpty)

/-! ## Readers of readers -/

/-- Reads one thing after another. -/
def inTurn : List (Reader (List Token)) → Reader (List Token)
  | [] => return []
  | first :: rest => return (← first) ++ (← inTurn rest)

/-- Reads one thing or the other, as a test of the tokens says. -/
def either {α : Type} (test : List Token → Bool) (yes no : Reader α) : Reader α := fun tokens =>
  if test tokens then yes tokens else no tokens

/-- Reads something if a test of the tokens says so. -/
def provided (test : List Token → Bool) (content : Reader (List Token)) : Reader (List Token) :=
  either test content (return [])

/-! ## Groups -/

/-- What a delimiter is called. -/
def title : Delimiter → String
  | .paren => "parentheses"
  | .bracket => "square brackets"
  | .brace => "curly braces"

/-- Reads what is in a group, of which nothing may be left. -/
def within {α : Type} (delimiter : Delimiter) (content : Reader α) : Reader α
  | .group d body :: rest =>
    if d = delimiter then
      match content body with
      | .ok (found, []) => .ok (found, rest)
      | .ok (_, _ :: _) => .error .unexpected
      | .error e => .error e
    else .error (.expected (title delimiter) false)
  | tokens => .error (.expected (title delimiter) tokens.isEmpty)

/-- Reads a group with what is in it. -/
def inside (delimiter : Delimiter) (content : Reader (List Token)) : Reader (List Token) :=
  return [.group delimiter (← within delimiter content)]

/-- Reads a group of any kind as it is. -/
def rawGroup : Reader (List Token)
  | .group d body :: rest => .ok ([.group d body], rest)
  | tokens => .error (.expected "curly braces, square brackets, or parentheses" tokens.isEmpty)

/-- Reads tokens that may have to stay as they are, which the reader says beside them. -/
def settled (content : Reader (List Token × Bool)) : Reader (List Token) := fun tokens =>
  (content tokens).map fun ((found, kept), rest) =>
    (if kept then tokens.take (tokens.length - rest.length) else found, rest)

/-- Reads tokens and gives them back as they were. -/
def raw (content : Reader (List Token)) : Reader (List Token) :=
  settled do return (← content, true)

/-! ## Rows -/

/-- Reads one item after another as long as each says so. -/
def rows {α : Type} (item : Reader (α × Bool)) (tokens : List Token) :
    Except ReadError (List α × List Token) :=
  match item tokens with
  | .error e => .error e
  | .ok ((first, false), rest) => .ok ([first], rest)
  | .ok ((first, true), rest) =>
    if rest.length < tokens.length then
      (rows item rest).map fun (more, after) => (first :: more, after)
    else .error .tooDeep
termination_by tokens.length

/-- Reads items as long as a test of the tokens says so. -/
def many {α : Type} (more : List Token → Bool) (item : Reader α) : Reader (List α) := do
  if more (← get) then
    rows do
      let found ← item
      return (found, more (← get))
  else return []

/-- Reads items with a sign between neighbours up to where a test of the tokens says so. The sign
may follow the last item. Each item is given with the sign after it. -/
def terminated {α : Type} (stop : List Token → Bool) (separator : String) (item : Reader α) :
    Reader (List (α × List Token)) :=
  many (fun tokens => !stop tokens) do
    let found ← item
    if stop (← get) then return (found, [])
    return (found, ← sign separator)

/-- Reads items as long as a sign follows and a test of the tokens does not stop it. Each item is
given with the sign after it. -/
def chained {α : Type} (stop : List Token → Bool) (separator : String) (item : Reader α) :
    Reader (List (α × List Token)) := do
  if stop (← get) then return []
  rows do
    let found ← item
    let after ← sign? separator
    return ((found, after), !after.isEmpty && !stop (← get))

/-- The tokens of items with what follows each. -/
def joined (items : List (List Token × List Token)) : List Token :=
  items.flatMap fun (item, after) => item ++ after

/-- Reads a row of items to the end of the tokens, with commas between neighbours. -/
def commas (item : Reader (List Token)) : Reader (List Token) :=
  return joined (← terminated List.isEmpty "," item)

/-- The tokens of items with what follows each, where those that pass the test come first. -/
def joinedFirst {α : Type} (first : α → Bool) (write : α → List Token)
    (items : List (α × List Token)) : List Token :=
  let tokens (some : List (α × List Token)) : List Token :=
    joined (some.map fun (item, after) => (write item, after))
  let (before, others) := items.partition fun (item, _) => first item
  let open_ := (before.getLast?.any fun (_, after) => after.isEmpty) && !others.isEmpty
  tokens before ++ (if open_ then ofWord [','] else []) ++ tokens others

end Reader

end HttpRpc.Source
