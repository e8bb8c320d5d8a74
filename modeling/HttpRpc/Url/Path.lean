import HttpRpc.Url.Basic

/-!
# Path segments

A relative path names a place step by step: a segment `.` stays, and a segment `..` goes back by
one, but not beyond a drive letter. `resolve` follows the steps of a parsed path. `pushSegment`
appends one step of arbitrary text: it drops the texts `.` and `..`, removes tabs and line ends from
every other text, follows what is left as a step, and escapes it if it is none of the two. A path
in the scheme `file` may start with a drive letter.
-/

namespace HttpRpc.Url

open HttpRpc.Text

/-- Whether the character is a tab or a line end, which URLs ignore. -/
def isIgnored (c : Char) : Bool :=
  c == '\t' || c == '\n' || c == '\r'

/-- The characters of a text with escaped points resolved. -/
def resolvePoints : List Char → List Char
  | '%' :: '2' :: e :: rest =>
    if e = 'e' ∨ e = 'E' then '.' :: resolvePoints rest else '%' :: '2' :: e :: resolvePoints rest
  | c :: rest => c :: resolvePoints rest
  | [] => []

/-- What a segment does to the path before it. -/
inductive Step where
  | stay
  | back
  | enter
deriving DecidableEq

/-- The step of an unescaped segment. -/
def stepOf (segment : List Char) : Step :=
  if segment = ['.'] then .stay
  else if segment = ['.', '.'] then .back
  else .enter

/-- The text without tabs and line ends. -/
def kept (text : List Char) : List Char :=
  text.filter fun c => !isIgnored c

/-! ## Drive letters -/

/-- The drive that a text names: a letter with a colon or a bar behind it. A colon is written. -/
def drive? : List Char → Option String
  | [letter, mark] =>
    if isLetter letter ∧ (mark = ':' ∨ mark = '|') then some (String.ofList [letter, ':'])
    else none
  | _ => none

/-- The drive at the start of a text, and the text behind it, if tabs or line ends stand between the
two. -/
def splitDrive? (text : List Char) : Option (String × List Char) :=
  match text.dropWhile isIgnored with
  | letter :: behind =>
    match behind.dropWhile isIgnored with
    | ':' :: gap :: rest =>
      if isLetter letter ∧ isIgnored gap ∧ kept rest ≠ [] then
        some (String.ofList [letter, ':'], kept rest)
      else none
    | _ => none
  | [] => none

/-- Whether going back leaves the segment: it is a drive letter, or one before a backslash. -/
def isHeld (segment : String) : Bool :=
  match segment.toList with
  | [letter, mark] => isLetter letter && (mark == ':' || mark == '|')
  | letter :: mark :: '\\' :: _ => isLetter letter && (mark == ':' || mark == '|')
  | _ => false

/-! ## Following segments -/

/-- Where segments have led: the segments entered, and whether the first of them is a drive. -/
structure Trail where
  segments : List String
  onDrive : Bool
deriving DecidableEq, Repr

/-- The place that every path starts from. -/
def Trail.root : Trail := ⟨[], false⟩

/-- The path without its last segment, unless that is held. -/
def goBack (path : List String) : List String :=
  if (path.getLast?.map isHeld).getD false then path else path.dropLast

/-- The trail after one more segment. A drive counts only at the start of a file path; a text behind
it is a segment of its own. -/
def Trail.enter (file : Bool) (escaped : Char → Bool) (trail : Trail) (text : List Char) :
    Trail :=
  let escape (part : List Char) := String.ofList (Percent.encode escaped part)
  let further : Trail := { trail with segments := trail.segments ++ [escape (kept text)] }
  if file ∧ trail.segments = [] then
    match splitDrive? text, drive? (kept text) with
    | some (drive, rest), _ => ⟨[drive, escape rest], false⟩
    | none, some drive => ⟨[drive], true⟩
    | none, none => further
  else further

/-- The trail after a step back. -/
def Trail.back (trail : Trail) : Trail :=
  { trail with segments := goBack trail.segments }

/-- The trail that ends in a slash. -/
def Trail.open (trail : Trail) : Trail :=
  { trail with segments := trail.segments ++ [""] }

/-- The trail after a row of segments, of which the last is left open by a step that enters no
segment. -/
def Trail.follow (file : Bool) (trail : Trail) : List (List Char) → Trail
  | [] => trail
  | [last] =>
    -- A dot segment at the end leaves an empty segment behind it.
    match stepOf (resolvePoints (kept last)) with
    | .stay => trail.open
    | .back => trail.back.open
    | .enter => trail.enter file Percent.inPath last
  | segment :: rest =>
    match stepOf (resolvePoints (kept segment)) with
    | .stay => Trail.follow file trail rest
    | .back => Trail.follow file trail.back rest
    | .enter => Trail.follow file (trail.enter file Percent.inPath segment) rest

/-- A file path without the empty segments at its start, but never without any segment. -/
def trimFilePath (file : Bool) (path : List String) : List String :=
  if file then
    match path.dropWhile String.isEmpty with
    | [] => [""]
    | kept => kept
  else path

/-- Where the segments of a parsed path lead. -/
def resolve (file : Bool) (segments : List (List Char)) : Trail :=
  let trail := Trail.root.follow file segments
  { trail with segments := trimFilePath file trail.segments }

/-! ## Appending segments -/

/-- The path without a final empty segment, unless that is its only one. -/
def dropFinalEmpty (path : List String) : List String :=
  if path.length ≠ 1 ∧ path.getLast? = some "" then path.dropLast else path

/-- The segments that a further one is appended to: all of them, or none of an empty path. -/
def entered (path : List String) : List String :=
  if path = [""] then [] else path

/-- The path followed by one step of arbitrary text. -/
def pushSegment (file special : Bool) (path : List String) (text : String) : List String :=
  -- Only these two are skipped: a dot segment that shows once tabs are removed is followed.
  if text = "." ∨ text = ".." then path
  else
    let trail : Trail := ⟨entered path, false⟩
    let after := match stepOf (kept text.toList) with
      | .stay => trail.open
      | .back => trail.back.open
      | .enter => trail.enter file (Percent.inSegment special) text.toList
    trimFilePath file after.segments

/-- The URL with segments appended to its path in place of a final empty one, and with an empty
segment behind them if the path is to end in a slash. A rootless path stays as it is. -/
def appendSegments (url : Url) (texts : List String) (trailingSlash : Bool) : Url :=
  match url.path with
  | .rootless _ => url
  | .segments list =>
    let file := url.scheme == "file"
    let push := pushSegment file url.isSpecial
    let path := texts.foldl push (dropFinalEmpty list)
    { url with path := .segments (if trailingSlash then push path "" else path) }

end HttpRpc.Url
