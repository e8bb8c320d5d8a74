import HttpRpc.Text.Digits
import HttpRpc.Text.Quoted
import HttpRpc.Text.Utf8

/-!
# Headers

A header has a name in small letters and one or more values, which are octets. Names keep the order
in which they came first, and the values of one name keep theirs.
-/

namespace HttpRpc

open HttpRpc.Text

/-- The value of a header. -/
structure HeaderValue where
  octets : List UInt8
deriving DecidableEq, Repr

namespace HeaderValue

/-- Whether the octet is a visible ASCII character, a space or a tab. -/
def isVisible (octet : UInt8) : Bool :=
  (32 ≤ octet.toNat && octet.toNat < 127) || octet.toNat == 9

/-- Whether the octet may occur in a value: anything but control characters, tabs excepted. -/
def isAllowed (octet : UInt8) : Bool :=
  (32 ≤ octet.toNat && octet.toNat != 127) || octet.toNat == 9

/-- The value that is the text, if all its octets may occur in a value. -/
def ofString? (text : String) : Option HeaderValue :=
  let octets := Utf8.encodeString text
  if octets.all isAllowed then some ⟨octets⟩ else none

/-- The text of a value, if it is made of visible ASCII characters, spaces and tabs. -/
def text? (value : HeaderValue) : Option String :=
  if value.octets.all isVisible then
    some (String.ofList (value.octets.map fun octet => Char.ofNat octet.toNat))
  else none

/-- The form of an octet inside quotes. -/
def quoteOctet (octet : UInt8) : List Char :=
  if octet.toNat = 34 then ['\\', '"']
  else if isVisible octet then [Char.ofNat octet.toNat]
  else ['\\', 'x'] ++ Nat.toDigits 16 octet.toNat

/-- The form of a value in descriptions. -/
def describe (value : HeaderValue) : String :=
  String.ofList (['"'] ++ value.octets.flatMap quoteOctet ++ ['"'])

end HeaderValue

/-- Names with their values, each name once. -/
structure Headers where
  entries : List (String × List HeaderValue)
deriving DecidableEq, Repr

namespace Headers

/-- The name under which the type of a body is given. -/
def contentType : String := "content-type"

/-- The name under which the media types are listed that a response may have. -/
def accept : String := "accept"

/-- The name under which the verbs are listed that a resource allows. -/
def allow : String := "allow"

/-- The name under which the length of a body is given. -/
def contentLength : String := "content-length"

/-- The name under which a request vector travels. -/
def requestVector : String := "x-request-vector"

/-- No headers. -/
def empty : Headers := ⟨[]⟩

/-- The values of a name in their order. -/
def values (headers : Headers) (name : String) : List HeaderValue :=
  (headers.entries.lookup name).getD []

/-- The first value of a name. -/
def get? (headers : Headers) (name : String) : Option HeaderValue :=
  (headers.values name).head?

/-- The first value of a name, if it is text. -/
def text? (headers : Headers) (name : String) : Option String :=
  (headers.get? name).bind HeaderValue.text?

/-- The entries with the values of one name replaced, or a new entry behind them. -/
def setEntry (name : String) (values : List HeaderValue) :
    List (String × List HeaderValue) → List (String × List HeaderValue)
  | [] => [(name, values)]
  | (key, old) :: rest =>
    if key = name then (name, values) :: rest else (key, old) :: setEntry name values rest

/-- The headers with one value for a name in place of any others. -/
def insert (headers : Headers) (name : String) (value : HeaderValue) : Headers :=
  ⟨setEntry name [value] headers.entries⟩

/-- The headers with one more value for a name. -/
def append (headers : Headers) (name : String) (value : HeaderValue) : Headers :=
  ⟨setEntry name (headers.values name ++ [value]) headers.entries⟩

/-- The headers of a list of names and values, which are appended in their order. -/
def ofList (list : List (String × HeaderValue)) : Headers :=
  list.foldl (fun headers (name, value) => headers.append name value) empty

/-- All names and values; the values of one name stand together. -/
def toList (headers : Headers) : List (String × HeaderValue) :=
  headers.entries.flatMap fun (name, values) => values.map fun value => (name, value)

/-- The form of headers in descriptions. -/
def describe (headers : Headers) : String :=
  "\x7b" ++ String.intercalate ", "
    (headers.toList.map fun (name, value) => quoted name ++ ": " ++ value.describe) ++ "\x7d"

end Headers

end HttpRpc
