import HttpRpc.Source.Pattern

/-!
# Terms

A term is operands with operators between them. It is read from left to right without regard to how
tightly operators bind, for its tokens are the same whichever of them are grouped. Where a brace
would start the block behind a term, the term may not build a record.
-/

namespace HttpRpc.Source

open Token Reader

/-! ## What tokens start with -/

/-- The signs between two operands; one that starts with another comes before it. -/
def operators : List String :=
  ["<<=", ">>=", "+=", "-=", "*=", "/=", "%=", "^=", "&=", "|=", "&&", "||", "<<", ">>", "==", "<=",
    "!=", ">=", "+", "-", "*", "/", "%", "^", "&", "|", "<", ">"]

/-- The operator that tokens start with. -/
def operator? (tokens : List Token) : Option String :=
  operators.find? fun text => atSign text tokens

/-- Whether tokens start with a point that is no part of a range. -/
def atPoint (tokens : List Token) : Bool :=
  atSign "." tokens && !atSign ".." tokens

/-- Whether tokens go on with a member or a question mark. -/
def atMember (tokens : List Token) : Bool :=
  atPoint tokens || atSign "?" tokens

/-- Whether tokens start with the sign, and with none of the longer ones. -/
def atSignAlone (text : String) (longer : List String) (tokens : List Token) : Bool :=
  atSign text tokens && !atSomeSign longer tokens

/-- Whether tokens start with a term. -/
def startsTerm (tokens : List Token) : Bool :=
  (atAnyWord tokens && !atWord "as" tokens) || atAnyGroup tokens || atLiteral tokens ||
    atLifetime tokens || atSomeSign ["..", "::", "#"] tokens || atSignAlone "!" ["!="] tokens ||
    atSignAlone "-" ["-=", "->"] tokens || atSignAlone "*" ["*="] tokens ||
    atSignAlone "|" ["|="] tokens || atSignAlone "&" ["&="] tokens ||
    atSignAlone "<" ["<=", "<<="] tokens

/-- Whether tokens start with a closure. -/
def atClosure (tokens : List Token) : Bool :=
  let next := tokens.drop 1
  atSign "|" tokens || atSomeWord ["move", "static"] tokens ||
    (atWord "for" tokens && atGenerics next) || (atWord "const" tokens && !atGroup .brace next) ||
    (atWord "async" tokens && (atSign "|" next || atWord "move" next))

/-- Whether tokens start with a block that runs as a task. -/
def atTask (tokens : List Token) : Bool :=
  let next := tokens.drop 1
  atWord "async" tokens && atGroup .brace (if atWord "move" next then next.drop 1 else next)

/-- Whether tokens start with a term that ends with a block, and so may be a statement. -/
def atControl (tokens : List Token) : Bool :=
  let next := tokens.drop 1
  atSomeWord ["if", "while", "loop", "match", "unsafe"] tokens ||
    (atWord "for" tokens && !atGenerics next) ||
    (atSomeWord ["try", "const"] tokens && atGroup .brace next) || atGroup .brace tokens ||
    atLifetime tokens

/-! ## Control -/

/-- Reads a condition with its block, and those behind the word `else`. -/
def conditional (g : Grammar) : Reader (List Token) := do
  let clauses ← rows do
    let first ← inTurn [word "if", g.term false, g.block]
    let otherwise ← word? "else"
    if otherwise.isEmpty then return (first, false)
    if atWord "if" (← get) then return (first ++ otherwise, true)
    return (first ++ otherwise ++ (← g.block), false)
  return clauses.flatten

/-- Reads a case of a match. -/
def matchArm (g : Grammar) : Reader (List Token) :=
  inTurn [outerAttributes g, alternatives g,
    provided (atWord "if") (inTurn [word "if", g.term true]), sign "=>", g.step, sign? ","]

/-- Reads the cases of a match. -/
def matchArms (g : Grammar) : Reader (List Token) := do
  let attributes ← innerAttributes g
  return attributes ++ (← many (!·.isEmpty) (matchArm g)).flatten

/-- Reads a term that ends with a block. -/
def control (g : Grammar) : Reader (List Token) := do
  let label ← provided atLifetime (inTurn [lifetime, sign ":"])
  let tokens ← get
  let body :=
    if atWord "if" tokens then conditional g
    else if atWord "while" tokens then inTurn [word "while", g.term false, g.block]
    else if atWord "for" tokens then
      inTurn [word "for", alternatives g, word "in", g.term false, g.block]
    else if atWord "match" tokens then
      inTurn [word "match", g.term false, inside .brace (matchArms g)]
    else if atSomeWord ["loop", "unsafe", "const", "try"] tokens then inTurn [anyWord, g.block]
    else g.block
  return label ++ (← body)

/-! ## Operands -/

/-- Reads a field of a record, or what the other fields are taken from. -/
def fieldTerm (g : Grammar) : Reader (List Token) :=
  either (atSign "..") (inTurn [sign "..", provided (!·.isEmpty) (g.term true)])
    (inTurn [outerAttributes g, member, provided (atSign ":") (inTurn [sign ":", g.term true])])

/-- Reads a term that starts with a path. -/
def pathTerm (g : Grammar) (records : Bool) : Reader (List Token) := do
  let path ← Path.read g true
  let tokens ← get
  let after :=
    if path.isPlain && atSignAlone "!" ["!="] tokens then inTurn [sign "!", rawGroup]
    else provided (fun tokens => records && atGroup .brace tokens)
      (inside .brace (commas (fieldTerm g)))
  return path.tokens ++ (← after)

/-- Reads a parameter of a closure. -/
def closureParam (g : Grammar) : Reader (List Token) :=
  inTurn [outerAttributes g, g.pattern, provided (atSign ":") (inTurn [sign ":", g.types true])]

/-- Reads a closure. -/
def closure (g : Grammar) (records : Bool) : Reader (List Token) :=
  let params : Reader (List Token) := return joined (← terminated (atSign "|") "," (closureParam g))
  inTurn [lifetimesFor? g, words? ["const", "static", "async", "move"], sign "|", params, sign "|",
    either (atSign "->") (inTurn [sign "->", g.types true, g.block]) (g.term records)]

/-- Reads a term between brackets: items, or one item with the number of times it is repeated. -/
def arrayTerm (g : Grammar) : Reader (List Token) :=
  let others := either (atSign ";") (inTurn [sign ";", g.term true])
    (provided (atSign ",") (inTurn [sign ",", commas (g.term true)]))
  inside .bracket (provided (!·.isEmpty) (inTurn [g.term true, others]))

/-- Reads a term that leaves what is around it, perhaps with a value. -/
def jump (g : Grammar) (records : Bool) : Reader (List Token) := do
  let tokens ← get
  if atWord "break" tokens then
    let value (tokens : List Token) : Bool :=
      startsTerm tokens && (records || !atGroup .brace tokens)
    inTurn [word "break", lifetime?, provided value (g.term true)]
  else if atWord "continue" tokens then inTurn [word "continue", lifetime?]
  else if atWord "become" tokens then raw (inTurn [word "become", g.term true])
  else inTurn [anyWord, provided startsTerm (g.term true)]

/-- Whether tokens start with a half-open range that has no end. -/
def endsRange (records : Bool) (tokens : List Token) : Bool :=
  tokens.isEmpty || atMember tokens || (!records && atGroup .brace tokens) || atWord "as" tokens ||
    atSomeSign [",", ";", "=>", "=", "+", "/", "%", "^", ">", "<=", "!=", "-=", "*=", "&=", "|=",
      "<<="] tokens

/-- Reads the sign of a range with its end. -/
def rangeTerm (g : Grammar) (records : Bool) : Reader (List Token) :=
  either (atSign "..=") (inTurn [sign "..=", g.operand records])
    (inTurn [sign "..", provided (!endsRange records ·) (g.operand records)])

/-- Whether tokens start with a term that starts with a path. -/
def atPathTerm (tokens : List Token) : Bool :=
  atPath tokens || (atWord "try" tokens && atSomeSign ["!", "::"] (tokens.drop 1))

/-- Reads the first part of an operand, which others may follow. -/
def atom (g : Grammar) (records : Bool) : Reader (List Token) := do
  let tokens ← get
  if atLiteral tokens then constant
  else if atTask tokens then inTurn [words? ["async", "move"], g.block]
  else if atClosure tokens then closure g records
  else if atControl tokens then control g
  else if atPathTerm tokens then pathTerm g records
  else if atGroup .paren tokens then inside .paren (commas (g.term true))
  else if atGroup .bracket tokens then arrayTerm g
  else if atSomeWord ["break", "continue", "return", "become", "yield"] tokens then jump g records
  else if atWord "let" tokens then
    inTurn [word "let", alternatives g, sign "=", g.operand false]
  else if atSign ".." tokens then rangeTerm g records
  else if atWord "_" tokens then anyWord
  else expected "an expression"

/-! ## Members -/

/-- The indices that stand with points between them in the text of a number. -/
def indices : List (List Char) → List Token
  | [] => []
  | [part] => if part.isEmpty then [] else [.literal (indexText (String.ofList part))]
  | part :: rest => .literal (indexText (String.ofList part)) :: .mark '.' false :: indices rest

/-- Reads the indices that stand in one number, as the two in `x.0.1` do, and whether a point ends
it. -/
def indices? : Reader (List Token × Bool) := do
  match ← get with
  | .literal text :: rest =>
    if !text.toList.contains '.' then return ([], true)
    set rest
    return (indices (Text.splitOn '.' text.toList), text.toList.getLast? == some '.')
  | _ => return ([], true)

/-- Reads a member behind a point, with the arguments between angle brackets that it takes. -/
def memberTerm (g : Grammar) : Reader (List Token) := do
  let point ← sign "."
  let (found, more) ← indices?
  if !more then return point ++ found
  let arguments : Reader (List Token) :=
    return (← sign "::") ++ (← Argument.readAll g).2
  return point ++ found ++
    (← either (atWord "await") anyWord (inTurn [member, provided (atSign "::") arguments]))

/-- Whether tokens go on with a part of an operand. -/
def atFurtherPart (tokens : List Token) : Bool :=
  atGroup .paren tokens || atGroup .bracket tokens || atMember tokens

/-- Reads a part of an operand behind the first one: arguments, an index, a member or a question
mark. -/
def furtherPart (g : Grammar) : Reader (List Token) := do
  let tokens ← get
  if atGroup .paren tokens then inside .paren (commas (g.term true))
  else if atGroup .bracket tokens then inside .bracket (g.term true)
  else either (atSign "?") (sign "?") (memberTerm g)

/-- Reads the parts of an operand behind the first one. -/
def furtherParts (g : Grammar) : Reader (List Token) :=
  return (← many atFurtherPart (furtherPart g)).flatten

/-! ## Terms -/

/-- Reads an operand, which may be the address or another function of an operand. -/
def operandAt (g : Grammar) (records : Bool) : Reader (List Token) := do
  let attributes ← outerAttributes g
  let tokens ← get
  let next := tokens.drop 1
  let operand :=
    if atSign "&" tokens then
      if atWord "raw" next && atSomeWord ["mut", "const"] (next.drop 1) then
        inTurn [sign "&", anyWord, anyWord, g.operand records]
      else inTurn [sign "&", word? "mut", g.operand records]
    else if atSign "*" tokens then inTurn [sign "*", g.operand records]
    else if atSign "!" tokens then inTurn [sign "!", g.operand records]
    else if atSign "-" tokens then inTurn [sign "-", g.operand records]
    else inTurn [atom g records, furtherParts g]
  return attributes ++ (← operand)

/-- Whether tokens go on with an operator. -/
def atOperator (tokens : List Token) : Bool :=
  (operator? tokens).isSome || atSignAlone "=" ["=>"] tokens || atSign ".." tokens ||
    atWord "as" tokens

/-- Reads an operator with what follows it. -/
def operation (g : Grammar) (records : Bool) : Reader (List Token) := do
  let tokens ← get
  match operator? tokens with
  | some text => inTurn [sign text, g.operand records]
  | none =>
    if atSign ".." tokens then rangeTerm g records
    else if atWord "as" tokens then inTurn [word "as", g.types false]
    else inTurn [sign "=", g.operand records]

/-- Reads the operators behind an operand with what follows each. -/
def operations (g : Grammar) (records : Bool) : Reader (List Token) :=
  return (← many atOperator (operation g records)).flatten

/-- Reads a term, which may build a record or not. -/
def termAt (g : Grammar) (records : Bool) : Reader (List Token) :=
  inTurn [operandAt g records, operations g records]

/-- Reads a term where a statement may end: one that ends with a block goes on only with a member or
a question mark. -/
def stepAt (g : Grammar) : Reader (List Token) := do
  let attributes ← outerAttributes g
  let further := provided atMember (inTurn [furtherParts g, operations g true])
  return attributes ++ (← either atControl (inTurn [control g, further]) (termAt g true))

end HttpRpc.Source
