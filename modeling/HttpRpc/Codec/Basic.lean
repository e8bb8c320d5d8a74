import HttpRpc.Json.Parser
import HttpRpc.Json.Printer
import HttpRpc.Media.Type
import HttpRpc.Text.Utf8

/-!
# Codecs

A codec reads bodies of one media type into JSON values and writes values as such bodies. Unless it
says otherwise it is for the media types that agree with its own, and serves values of every type;
types are known by their names. The two built-in codecs are those of JSON, which serves every type,
and of plain text, which reads strings and writes strings and scalars.
-/

namespace HttpRpc

open HttpRpc.Text

/-- Why a value cannot be written, with the cause below it. -/
structure SerializationError where
  message : String
  cause : Option String
deriving DecidableEq, Repr

/-- Why a body or a value cannot be read, with the cause below it. -/
structure DeserializationError where
  message : String
  cause : Option String
deriving DecidableEq, Repr

/-- The text of a message with the cause behind it. -/
def withCause (message : String) (cause : Option String) : String :=
  match cause with
  | none => message
  | some text => message ++ " (caused by: " ++ text ++ ")"

/-- The wording of an error. -/
def SerializationError.describe (e : SerializationError) : String :=
  "Serialization error: " ++ withCause e.message e.cause

/-- The wording of an error. -/
def DeserializationError.describe (e : DeserializationError) : String :=
  "Deserialization error: " ++ withCause e.message e.cause

/-- The error of a value that has no JSON form. -/
def SerializationError.json (cause : String) : SerializationError :=
  ⟨"JSON serialization failed", some cause⟩

/-- The error of a text or value that is not of the form expected. -/
def DeserializationError.json (cause : String) : DeserializationError :=
  ⟨"JSON deserialization failed", some cause⟩

/-- The octets of a body. -/
abbrev Body := List UInt8

/-- A reader and writer of bodies in a media type. -/
structure Codec where
  name : String
  mediaType : MediaType
  /-- Whether the codec is for a media type. -/
  supports : MediaType → Bool := mediaType.accepts
  /-- Whether values of the named type can be read from a media type. -/
  canRead : String → MediaType → Bool := fun _ => supports
  /-- Whether values of the named type can be written as a media type. -/
  canWrite : String → MediaType → Bool := fun _ => supports
  read : Body → Except DeserializationError Json
  write : Json → Except SerializationError Body

namespace Codec

/-- The value that a JSON text in UTF-8 holds. -/
def readJson (body : Body) : Except DeserializationError Json :=
  match (Utf8.decode? body).bind Json.parseCanonical? with
  | some value => .ok value
  | none => .error (.json "malformed text")

/-- The codec of JSON texts. -/
def json (pretty : Bool) : Codec where
  name := "json"
  mediaType := .json
  read := readJson
  write value := .ok (Utf8.encodeString (if pretty then value.pretty else value.compact))

/-- The names of types whose values are texts. -/
def stringTypes : List String :=
  ["alloc::string::String", "str", "&str", "char", "alloc::borrow::Cow<str>"]

/-- The names of types whose values are booleans or numbers. -/
def scalarTypes : List String :=
  ["bool", "u8", "u16", "u32", "u64", "u128", "usize", "i8", "i16", "i32", "i64", "i128", "isize",
    "f32", "f64"]

/-- The text of a value without structure; null has the empty text. -/
def plainText? : Json → Option String
  | .null => some ""
  | .string text => some text
  | .bool value => some (if value then "true" else "false")
  | .number value => some value.render
  | .array _ | .object _ => none

/-- The codec of plain texts. -/
def text : Codec where
  name := "text"
  mediaType := .plainText
  canRead typeName media := MediaType.plainText.accepts media && stringTypes.contains typeName
  canWrite typeName media := MediaType.plainText.accepts media &&
    (stringTypes.contains typeName || scalarTypes.contains typeName)
  read body :=
    match Utf8.decodeString? body with
    | some text => .ok (.string text)
    | none => .error ⟨"text body is not UTF-8", some "malformed octets"⟩
  write value :=
    match plainText? value with
    | some text => .ok (Utf8.encodeString text)
    | none => .error ⟨"structured values cannot be written as text", none⟩

end Codec

end HttpRpc
