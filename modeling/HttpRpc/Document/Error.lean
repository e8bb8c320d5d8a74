import HttpRpc.Document.Settings
import HttpRpc.Error
import HttpRpc.Service.Method

/-!
# Errors as documents

An error read from a JSON object: its kind is under `variant`, its details are under their names,
and the error below it is under `source`. What is missing is empty.
-/

namespace HttpRpc

/-- The object of the error below. -/
def Json.source (document : Json) : Json := (document.at? "source").getD .null

/-- A failure of the system below. -/
def SystemError.ofDocument (document : Json) : SystemError :=
  let kinds := [("Interrupted", SystemErrorKind.interrupted), ("WouldBlock", .wouldBlock),
    ("TimedOut", .timedOut), ("ConnectionReset", .connectionReset),
    ("ConnectionAborted", .connectionAborted)]
  ⟨(kinds.lookup (document.textAt "kind")).getD .other, document.textAt "message"⟩

/-- A transport error. -/
def TransportError.ofDocument (document : Json) : TransportError :=
  let cause := (document.at? "io").map SystemError.ofDocument
  let reason := document.textAt "reason"
  let candidates := [
    connectionFailed (document.textAt "address") (cause.getD ⟨.other, "connection refused"⟩),
    connectionLost reason cause, timeout ((Duration.at? document "duration").getD ⟨0⟩),
    invalidRequest reason, invalidConfiguration reason, protocolViolation reason,
    system (cause.getD ⟨.other, ""⟩)]
  (candidates.find? fun e => e.kind == document.textAt "variant").getD closed

/-- A parameter: the pair of its key and its value, which may be null. -/
def ErrorParameter.ofDocument (document : Json) : ErrorParameter :=
  match document.asList with
  | [key, .string value] => ⟨key.asText, some value⟩
  | [key, _] => ⟨key.asText, none⟩
  | _ => ⟨"", none⟩

namespace ErrorPayload

mutual

/-- A payload. -/
def ofDocument : Json → ErrorPayload
  | .object fields =>
    let document := Json.object fields
    .mk (document.textAt "code") (document.textAt "message")
      ((document.listAt "parameters").map ErrorParameter.ofDocument) (innerOfFields fields)
  | _ => .mk "" "" [] []

/-- The payloads in the field `inner`. -/
def innerOfFields : List (String × Json) → List ErrorPayload
  | [] => []
  | (key, value) :: rest =>
    if key = "inner" then
      match value with
      | .array items => ofDocuments items
      | _ => []
    else innerOfFields rest

/-- Payloads. -/
def ofDocuments : List Json → List ErrorPayload
  | [] => []
  | item :: rest => ofDocument item :: ofDocuments rest

end

end ErrorPayload

/-- A service error: of the kind under `kind`, or that of a method that failed with an error of the
type under `type_name`. -/
def ServiceError.ofDocument (document : Json) : ServiceError :=
  let kinds : List ErrorKind := [.invalidArgument, .unsupported, .accessDenied]
  let kind := (kinds.find? fun k => k.defaultCode == document.textAt "kind").getD .uncategorized
  let start := match document.at? "type_name" with
    | none => new kind (document.textAt "message")
    | some name => uncategorizedFrom name.asText
  { start with
    code := ((document.at? "code").map Json.asText).getD start.code
    parameters := (document.listAt "parameters").map ErrorParameter.ofDocument
    inner := ErrorPayload.ofDocuments (document.listAt "inner") }

/-- The cause of a failed conversion. -/
def Json.conversionCause (document : Json) : Option String :=
  (document.at? "io").map fun cause => cause.textAt "message"

/-- An error of reading a value. -/
def DeserializationError.ofDocument (document : Json) : DeserializationError :=
  ⟨document.textAt "message", document.conversionCause⟩

/-- An error of writing a value. -/
def SerializationError.ofDocument (document : Json) : SerializationError :=
  ⟨document.textAt "message", document.conversionCause⟩

/-- A media error. -/
def MediaError.ofDocument (document : Json) : MediaError :=
  let candidates := [invalidMediaType (document.textAt "value"),
    unsupportedMediaType (document.textAt "media_type"),
    noReader (document.textAt "type_name") (document.textAt "media_type"),
    noWriter (document.textAt "type_name") (document.textAt "accepted")]
  (candidates.find? fun e => e.kind == document.textAt "variant").getD missingContentType

/-- An argument error. -/
def ArgumentError.ofDocument (document : Json) : ArgumentError :=
  let name := document.textAt "name"
  let candidates := [missingPathVariable name, invalidArgument name (document.textAt "reason")]
  (candidates.find? fun e => e.kind == document.textAt "variant").getD
    (arityMismatch (document.textAt "method") (document.natAt "expected")
      (document.natAt "actual"))

/-- A binding error. -/
def BindingError.ofDocument (document : Json) : BindingError :=
  let method := document.textAt "method"
  let candidates := [ambiguousVerb method (document.textsAt "verbs"),
    ambiguousPath method (document.textsAt "paths"), duplicateBody method,
    unrecognizedParameter method (document.textAt "parameter"),
    conflictingParameterRoles method (document.textAt "parameter"),
    unsupportedQualifier method (document.textAt "qualifier"),
    malformedBaseUri (document.textAt "uri") (document.textAt "reason"),
    invalidTemplate (document.textAt "template") (document.textAt "reason"),
    unknownPathVariable method (document.textAt "variable"),
    unboundPathVariable method (document.textAt "variable"), duplicateRoute method,
    onlyOneParameterSupported method (document.natAt "arity")]
  (candidates.find? fun e => e.kind == document.textAt "variant").getD (duplicateMethod method)

/-- A client error. -/
def ClientError.ofDocument (document : Json) : ClientError :=
  let status : Status := ⟨document.natAt "status"⟩
  let candidates := [
    unsupportedMethod (document.textAt "interface") (document.textAt "method"),
    argument (.ofDocument document.source), serialization (.ofDocument document.source),
    deserialization (.ofDocument document.source), media (.ofDocument document.source),
    transport (.ofDocument document.source),
    remote status (.ofDocument ((document.at? "payload").getD .null))]
  (candidates.find? fun e => e.kind == document.textAt "variant").getD
    (unexplained status (document.textAt "body"))

/-- A dispatch error. -/
def DispatchError.ofDocument (document : Json) : DispatchError :=
  let method := document.textAt "method"
  let source := document.source
  match document.textAt "variant" with
  | "MethodNotAllowed" => methodNotAllowed ⟨document.textAt "verb"⟩
  | "PayloadTooLarge" => payloadTooLarge (document.natAt "size") (document.natAt "limit")
  | "UnreadableBody" => unreadableBody (document.textAt "reason")
  | "UnsupportedMediaType" => unsupportedMediaType (.ofDocument source)
  | "NotFound" => notFound method
  | "NoReader" => noReader method (.ofDocument source)
  | "BadRequest" => badRequest method (.ofDocument source)
  | "Service" => service method (.ofDocument source)
  | "Internal" =>
    internalFailure method ((document.at? "source").map SerializationError.ofDocument)
  | _ => notAcceptable method (.ofDocument source)

/-- An error of a request vector. -/
def RequestVectorError.ofDocument (document : Json) : RequestVectorError :=
  let input := document.textAt "input"
  let candidates := [emptyRoot input, emptySegment input, invalidRoot (document.textAt "root"),
    invalidSuffix (document.textAt "segment")]
  (candidates.find? fun e => e.kind == document.textAt "variant").getD empty

/-- A backoff error. -/
def BackoffError.ofDocument (document : Json) : BackoffError :=
  let candidates := [zeroStep, zeroMax,
    invalidMultiplier ((document.at? "multiplier").getD .null).asReal]
  (candidates.find? fun e => e.kind == document.textAt "variant").getD zeroStart

/-- An invocation error. -/
def InvocationError.ofDocument (document : Json) : InvocationError :=
  match document.textAt "variant" with
  | "Input" => input (.ofDocument document.source)
  | "Output" => output (.ofDocument document.source)
  | _ => service (.ofDocument document.source)

/-- An error of the part of the library that is named in small letters. -/
def Error.ofDocument (part : String) (document : Json) : Error :=
  match part with
  | "binding" => binding (.ofDocument document)
  | "client" => client (.ofDocument document)
  | "dispatch" => dispatch (.ofDocument document)
  | "transport" => transport (.ofDocument document)
  | "backoff" => backoff (.ofDocument document)
  | "media" => media (.ofDocument document)
  | _ => requestVector (.ofDocument document)

end HttpRpc
