import HttpRpc.Binding.Error
import HttpRpc.Url.Parser

/-!
# URL templates

A template is a path whose segments hold placeholders, followed by query parameters, each with a
placeholder of its own. `UriTemplate.parse` reads the path, `addQueryParameter?` appends a parameter
under a placeholder that no other part of the template uses, and `expand` puts values in place of
the placeholders and appends the result to a base URL.

The search for a placeholder tries numbers, which `addQueryParameter?` counts in 32 bits.
`addQueryParameter`, by which methods are bound, counts without a limit; the two agree as long as
the template has fewer than 2^32 names.
-/

namespace HttpRpc

open HttpRpc.Text

/-- A URL that paths can be appended to: its own path is made of segments, and it has no
fragment. -/
structure BaseUri where
  url : Url
  fragment_eq_none : url.fragment = none
  segments_path : ∃ list, url.path = .segments list

namespace BaseUri

/-- Reads a base URL. -/
def parse (text : String) : Except BindingError BaseUri :=
  match Url.parse text with
  | .error e => .error (.malformedBaseUri text e.message)
  | .ok url =>
    match hpath : url.path with
    | .rootless _ => .error (.malformedBaseUri text "uri cannot carry a path")
    | .segments list =>
      match hfragment : url.fragment with
      | some _ => .error (.malformedBaseUri text "uri must not carry a fragment")
      | none => .ok ⟨url, hfragment, ⟨list, hpath⟩⟩

/-- The text of a base URL. -/
def render (base : BaseUri) : String := base.url.render

end BaseUri

/-- A part of a path segment: text that stands for itself, or a placeholder. -/
inductive Piece where
  | literal (text : String)
  | placeholder (name : String)
deriving DecidableEq, Repr

/-- A query parameter and the placeholder that its values are given under. -/
structure QueryParameter where
  key : String
  placeholder : String
deriving DecidableEq, Repr

/-- A path with placeholders and query parameters. -/
structure UriTemplate where
  segments : List (List Piece)
  trailingSlash : Bool
  query : List QueryParameter
deriving DecidableEq, Repr

/-- Why a text is no template. -/
inductive TemplateError where
  | queryOrFragment
  | nestedBrace
  | unclosedBrace
  | emptyPlaceholder
  | unmatchedBrace
deriving DecidableEq, Repr

/-- The wording of an error. -/
def TemplateError.message : TemplateError → String
  | queryOrFragment => "query and fragment must be declared as parameters"
  | nestedBrace => "nested \x60\x7b\x60 in placeholder"
  | unclosedBrace => "unclosed \x60\x7b\x60"
  | emptyPlaceholder => "empty placeholder"
  | unmatchedBrace => "unmatched \x60\x7d\x60"

/-- The values given for placeholders. -/
abbrev PlaceholderValues := String → Option (List String)

namespace Piece

/-- The name of a placeholder. -/
def name? : Piece → Option String
  | literal _ => none
  | placeholder name => some name

/-- The text of a piece in a template. -/
def render : Piece → String
  | literal text => text
  | placeholder name => "\x7b" ++ name ++ "\x7d"

/-- The pieces of text read so far: one, or none if no text has been read. -/
def ofText (text : List Char) : List Piece :=
  if text.isEmpty then [] else [literal (String.ofList text)]

mutual

/-- The pieces of a segment from within literal text, given the text read so far. -/
def scanText (text : List Char) : List Char → Except TemplateError (List Piece)
  | [] => .ok (ofText text)
  | c :: rest =>
    if c = '\x7b' then (scanName [] rest).map (ofText text ++ ·)
    else if c = '\x7d' then .error .unmatchedBrace
    else scanText (text ++ [c]) rest

/-- The pieces of a segment from within a placeholder, given the name read so far. -/
def scanName (name : List Char) : List Char → Except TemplateError (List Piece)
  | [] => .error .unclosedBrace
  | c :: rest =>
    if c = '\x7d' then
      if (trim name).isEmpty then .error .emptyPlaceholder
      else (scanText [] rest).map (placeholder (String.ofList (trim name)) :: ·)
    else if c = '\x7b' then .error .nestedBrace
    else scanName (name ++ [c]) rest

end

/-- The pieces of a segment. -/
def parseSegment (segment : List Char) : Except TemplateError (List Piece) :=
  scanText [] segment

/-- The text of a segment with values in place of its placeholders. A placeholder takes the first of
its values. -/
def renderSegment (values : PlaceholderValues) : List Piece → Except ArgumentError String
  | [] => .ok ""
  | literal text :: rest => (renderSegment values rest).map (text ++ ·)
  | placeholder name :: rest =>
    match (values name).bind List.head? with
    | none => .error (.missingPathVariable name)
    | some value => (renderSegment values rest).map (value ++ ·)

/-- The name of the last placeholder of a segment. -/
def lastName? (segment : List Piece) : Option String :=
  (segment.filterMap name?).getLast?

/-- The text of a segment with values in place of its placeholders, which must not make it one that
names no place of its own. -/
def expandSegment (values : PlaceholderValues) (segment : List Piece) :
    Except ArgumentError String := do
  let text ← renderSegment values segment
  match lastName? segment with
  | none => return text
  | some name =>
    -- Empty and dot segments would address a different resource.
    if text = "" ∨ text = "." ∨ text = ".." then
      throw (.invalidArgument name
        (BindingError.marked text ++ " is not a valid path segment"))
    else return text

end Piece

namespace UriTemplate

/-- The segments of a path: what stands between slashes and is not empty. -/
def pathSegments (text : List Char) : List (List Char) :=
  (splitOn '/' text).filter fun segment => !segment.isEmpty

/-- Reads a path with placeholders, or says what is wrong with it. -/
def parse? (text : List Char) : Except TemplateError UriTemplate :=
  if text.contains '?' || text.contains '#' then .error .queryOrFragment
  else do
    let segments ← (pathSegments text).mapM Piece.parseSegment
    return ⟨segments, text.getLast? == some '/', []⟩

/-- Reads a path with placeholders. -/
def parse (text : String) : Except BindingError UriTemplate :=
  match parse? text.toList with
  | .ok template => .ok template
  | .error e => .error (.invalidTemplate text e.message)

/-- The placeholders of the path in the order of their first occurrences. -/
def pathVariables (template : UriTemplate) : List String :=
  (template.segments.flatten.filterMap Piece.name?).eraseDups

/-- Whether the path has the placeholder. -/
def hasPathVariable (template : UriTemplate) (name : String) : Bool :=
  template.segments.flatten.contains (.placeholder name)

/-- Whether the path or a query parameter has the placeholder. -/
def hasPlaceholder (template : UriTemplate) (name : String) : Bool :=
  template.hasPathVariable name || template.query.any fun q => q.placeholder == name

/-- The placeholder that a key is tried with: the key itself, then the key with a number. -/
def candidate (key : String) (attempt : Nat) : String :=
  if attempt = 0 then key else key ++ decimal attempt

/-- The first candidate that the template does not use, from an attempt on. -/
def freshFrom (template : UriTemplate) (key : String) : Nat → Nat → String
  | 0, attempt => candidate key attempt
  | fuel + 1, attempt =>
    if template.hasPlaceholder (candidate key attempt) then
      freshFrom template key fuel (attempt + 1)
    else candidate key attempt

/-- The placeholder for a key: the first candidate that the template does not use. A template with
`n` placeholders leaves one of the first `n + 1` candidates free. -/
def freshPlaceholder (template : UriTemplate) (key : String) : String :=
  template.freshFrom key (template.segments.flatten.length + template.query.length) 0

/-- The template with a query parameter under a fresh placeholder, and that placeholder. -/
def addQueryParameter (template : UriTemplate) (key : String) : UriTemplate × String :=
  let placeholder := template.freshPlaceholder key
  ({ template with query := template.query ++ [⟨key, placeholder⟩] }, placeholder)

/-- The first candidate that the template does not use, from a number on that is counted in 32 bits
and leaves room for so many more. There is none if the counter overflows. -/
def countedFrom (template : UriTemplate) (key : String) : Nat → UInt32 → Option String
  | 0, _ => none
  | room + 1, suffix =>
    if template.hasPlaceholder (candidate key suffix.toNat) then
      countedFrom template key room (suffix + 1)
    else some (candidate key suffix.toNat)

/-- `addQueryParameter` with a counter of 32 bits for the numbers that are tried. There is no result
if the counter overflows. -/
def addQueryParameter? (template : UriTemplate) (key : String) : Option (UriTemplate × String) := do
  let placeholder ← template.countedFrom key UInt32.size 0
  return ({ template with query := template.query ++ [⟨key, placeholder⟩] }, placeholder)

/-- The template with a query parameter for each key, and their placeholders in order. There is no
result if a counter overflows. -/
def addQueryParameters? (template : UriTemplate) :
    List String → Option (UriTemplate × List String)
  | [] => some (template, [])
  | key :: rest => do
    let (extended, placeholder) ← template.addQueryParameter? key
    let (final, placeholders) ← extended.addQueryParameters? rest
    return (final, placeholder :: placeholders)

/-- Whether the template stands for a single URL. -/
def isFixed (template : UriTemplate) : Bool :=
  template.query.isEmpty && template.pathVariables.isEmpty

/-- The pairs of the query: for each parameter in order, its key with each of its values. -/
def queryPairs (template : UriTemplate) (values : PlaceholderValues) : List (String × String) :=
  template.query.flatMap fun q =>
    ((values q.placeholder).getD []).map fun value => (q.key, value)

/-- The base URL with path segments and query pairs appended. -/
def appendTo (url : Url) (segments : List String) (trailingSlash : Bool)
    (pairs : List (String × String)) : Url :=
  let withPath :=
    if segments.isEmpty && !trailingSlash then url
    else url.appendSegments segments trailingSlash
  if pairs.isEmpty then withPath else withPath.appendPairs pairs

/-- The base URL with the path and the query of the template appended, values in place of the
placeholders. -/
def expand (template : UriTemplate) (base : BaseUri) (values : PlaceholderValues) :
    Except ArgumentError Url := do
  let segments ← template.segments.mapM (Piece.expandSegment values)
  return appendTo base.url segments template.trailingSlash (template.queryPairs values)

/-- The text of a query parameter behind its separator. -/
def renderParameter (separator : String) (q : QueryParameter) : String :=
  separator ++ q.key ++ "=" ++ (Piece.placeholder q.placeholder).render

/-- The text of the query parameters. -/
def renderQuery : List QueryParameter → String
  | [] => ""
  | first :: rest => renderParameter "?" first ++ String.join (rest.map (renderParameter "&"))

/-- The text of a template. -/
def render (template : UriTemplate) : String :=
  let segment (pieces : List Piece) : String := "/" ++ String.join (pieces.map Piece.render)
  String.join (template.segments.map segment) ++
    (if template.trailingSlash then "/" else "") ++ renderQuery template.query

end UriTemplate

end HttpRpc
