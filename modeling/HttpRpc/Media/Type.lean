import HttpRpc.Media.Error
import HttpRpc.Number.Binary64
import HttpRpc.Text.Blank
import HttpRpc.Text.Split

/-!
# Media types

A media type is a type and a subtype with parameters behind them. Types, subtypes and parameter
names are kept in small letters, and each parameter name occurs once. `*` as a type or subtype
matches every other one.
-/

namespace HttpRpc

open HttpRpc.Text HttpRpc.Number

/-- A type, a subtype, and parameters in the order in which they were last set. -/
structure MediaType where
  main : String
  sub : String
  params : List (String × String)
deriving DecidableEq, Repr

/-- A preference between zero and one, as the code of a single-precision number. -/
structure Quality where
  code : Nat
deriving DecidableEq, Repr

namespace Quality

/-- The highest preference. -/
def one : Quality := ⟨0x3F800000⟩

/-- Whether the preference is more than zero, of either sign. -/
def isPositive (q : Quality) : Bool :=
  0 < q.code && q.code ≤ one.code

/-- The preference that a text states, if it is a number between zero and one. -/
def parse? (text : String) : Option Quality :=
  match Literal.parse? text.toList with
  | some (.finite negative digits exponent) =>
    match binary32.ofDecimal digits exponent with
    | none => none
    | some x =>
      if x.mantissa = 0 then some ⟨if negative then UInt32.size / 2 else 0⟩
      else if negative || one.code < binary32.code x then none
      else some ⟨binary32.code x⟩
  | _ => none

end Quality

namespace MediaType

/-- The mark that matches every type or subtype. -/
def wildcard : String := "*"

/-- A media type without parameters. -/
def new (main sub : String) : MediaType :=
  ⟨main.toLower, sub.toLower, []⟩

/-- The media type of JSON texts. -/
def json : MediaType := new "application" "json"

/-- The media type of plain texts. -/
def plainText : MediaType := new "text" "plain"

/-- The media type that matches every other one. -/
def any : MediaType := new wildcard wildcard

/-- The media type with a parameter set. A parameter of the same name gives way. -/
def withParam (media : MediaType) (name value : String) : MediaType :=
  let name := name.toLower
  { media with params := (media.params.filter fun param => param.1 != name) ++ [(name, value)] }

/-- Whether the character may occur in a type, a subtype or the name of a parameter. -/
def isTokenChar (c : Char) : Bool :=
  isAlphanumeric c || ['!', '#', '$', '&', '-', '^', '_', '.', '+', '*'].contains c

/-- Whether the text may be a type, a subtype or the name of a parameter. -/
def isToken (text : List Char) : Bool :=
  !text.isEmpty && text.all isTokenChar

/-- The media type without parameters that a text states. -/
def parseEssence? (text : List Char) : Option MediaType :=
  match splitOnce '/' (trim text) with
  | none => none
  | some (main, sub) =>
    if isToken main && isToken sub && (main != ['*'] || sub == ['*']) then
      some (new (String.ofList main) (String.ofList sub))
    else none

/-- The media type with the parameter that a text states; a blank text states none. -/
def addParam? (media : MediaType) (text : List Char) : Option MediaType :=
  let text := trim text
  if text.isEmpty then some media
  else match splitOnce '=' text with
    | none => none
    | some (name, value) =>
      let name := trim name
      if isToken name then
        some (media.withParam (String.ofList name)
          (String.ofList (trimMatches (· == '"') (trim value))))
      else none

/-- The media type that a text states. -/
def parse? (text : List Char) : Option MediaType :=
  match splitOn ';' text with
  | [] => none
  | essence :: params => (parseEssence? essence).bind fun media => params.foldlM addParam? media

/-- Reads a media type. -/
def parse (text : String) : Except MediaError MediaType :=
  match parse? text.toList with
  | some media => .ok media
  | none => .error (.invalidMediaType text)

/-- The type and the subtype. -/
def essence (media : MediaType) : String :=
  media.main ++ "/" ++ media.sub

/-- The text of a media type. -/
def render (media : MediaType) : String :=
  media.essence ++
    String.join (media.params.map fun (name, value) => "; " ++ name ++ "=" ++ value)

/-- The value of a parameter, whose name may be given in letters of any case. -/
def param? (media : MediaType) (name : String) : Option String :=
  (media.params.find? fun param => param.1.toLower == name.toLower).map Prod.snd

/-- Whether the type or the subtype matches every other one. -/
def isWildcard (media : MediaType) : Bool :=
  media.main == wildcard || media.sub == wildcard

/-- The preference that the media type is accepted with: that of the parameter `q`, or else the
highest. -/
def quality (media : MediaType) : Quality :=
  ((media.param? "q").bind Quality.parse?).getD .one

/-- Whether two names are equal or one matches every other. -/
def agrees (a b : String) : Bool :=
  a == wildcard || b == wildcard || a == b

/-- Whether the media types agree, parameters aside. -/
def accepts (media other : MediaType) : Bool :=
  agrees media.main other.main && agrees media.sub other.sub

/-- The media type without its parameters. -/
def withoutParams (media : MediaType) : MediaType :=
  new media.main media.sub

/-- The texts of media types in a list. -/
def renderList (list : List MediaType) : String :=
  String.intercalate ", " (list.map render)

/-- The media types of a list between commas with a preference above zero, the most preferred first,
equally preferred ones in the order of the list. A blank text accepts everything. -/
def parseAccept (header : String) : List MediaType :=
  let entries := ((splitOn ',' header.toList).map trim).filter fun entry => !entry.isEmpty
  let accepted := (entries.filterMap parse?).filter fun media => media.quality.isPositive
  -- A text in which nothing is acceptable accepts nothing, unlike a blank one.
  if accepted.isEmpty && (trim header.toList).isEmpty then [any]
  else accepted.mergeSort fun a b => b.quality.code ≤ a.quality.code

end MediaType

end HttpRpc
