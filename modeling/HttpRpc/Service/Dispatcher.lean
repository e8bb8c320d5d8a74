import HttpRpc.Codec.Registry
import HttpRpc.Service.Config
import HttpRpc.Service.Registry
import HttpRpc.Url.Form

/-!
# Dispatchers

A dispatcher answers requests by calling methods. A request passes a row of checks before its method
is called (`prepare`), the method is called at most once (`invoke`), and its result is written in a
media type that the caller accepts (`encode`). The first check that fails decides the answer, whose
body is the payload of the error. The whole happens in the context of the request: under the vector
that it carries, or under a new root.
-/

namespace HttpRpc

/-- A server of methods. -/
structure HttpDispatcher where
  registry : RpcRegistry
  codecs : CodecRegistry
  config : DispatcherConfig

namespace HttpDispatcher

/-- A dispatcher with the default codecs and settings. -/
def new (registry : RpcRegistry) : HttpDispatcher := ⟨registry, .default, .default⟩

/-! ## Headers of requests -/

/-- The vector that a request carries. -/
def carriedVector? (headers : Headers) : Option RequestVector := do
  let text ← headers.text? Headers.requestVector
  (RequestVector.parse text).toOption

/-- The vector that a request carries, or else a new root. -/
def requestVector (headers : Headers) : Run RequestVector :=
  match carriedVector? headers with
  | some vector => return vector
  | none => Run.freshRoot

/-- The media type of the body of a request, if it states one. -/
def contentType? (headers : Headers) : Option (Except MediaError MediaType) :=
  (headers.get? Headers.contentType).map fun value =>
    match value.text? with
    | some text => MediaType.parse text
    | none => .error (.invalidMediaType (Text.Utf8.decodeStringLossy value.octets))

/-- The media types that the caller accepts: those listed, or else that of the request, or else
any. -/
def acceptedTypes (headers : Headers) : List MediaType :=
  match headers.text? Headers.accept with
  | some text => MediaType.parseAccept text
  | none =>
    match contentType? headers with
    | some (.ok media) => [media.withoutParams]
    | _ => [.any]

/-! ## Before the call -/

/-- The name of the method that the query states. -/
def queriedName? (config : DispatcherConfig) (target : Target) : Option String := do
  let query ← target.query
  let pair ← (Url.Form.decodePairs query.toList).find? fun pair =>
    pair.1 == config.methodParameter
  some pair.2

/-- The name of the method that a target states: in its query, or else as the last segment of its
path that is not empty. -/
def methodName (config : DispatcherConfig) (target : Target) : String :=
  ((queriedName? config target).orElse fun _ =>
    (Text.splitString '/' target.path).reverse.find? fun segment => !segment.isEmpty).getD ""

/-- The input of a method that a body holds; an empty body counts as null. -/
def decode (dispatcher : HttpDispatcher) (method : RpcMethod) (media : MediaType) (body : Body) :
    Except DispatchError Json :=
  match dispatcher.codecs.readerFor? method.inputType media with
  | none => .error (.noReader method.name (.noReader method.inputType media.render))
  | some codec =>
    -- A reader must be there even for an empty body, but is not asked to read it.
    if body.isEmpty then .ok .null
    else match codec.read body with
      | .ok value => .ok value
      | .error e => .error (.badRequest method.name e)

/-- The method that a request calls and the input for it, or the first reason not to call. -/
def prepare (dispatcher : HttpDispatcher) (request : Request) :
    Except DispatchError (RpcMethod × Json) := do
  if request.verb ≠ .post then throw (.methodNotAllowed request.verb)
  let size := request.body.length
  if dispatcher.config.maxBodyBytes < size then
    throw (.payloadTooLarge size dispatcher.config.maxBodyBytes)
  let media ← match contentType? request.headers with
    | none => throw (.unsupportedMediaType .missingContentType)
    | some (.error e) => throw (.unsupportedMediaType e)
    | some (.ok media) => pure media
  if !dispatcher.codecs.supports media then
    throw (.unsupportedMediaType (.unsupportedMediaType media.render))
  let name := methodName dispatcher.config request.target
  match dispatcher.registry.get? name with
  | none => throw (.notFound name)
  | some method =>
    let input ← dispatcher.decode method media request.body
    return (method, input)

/-! ## The call and after it -/

/-- What an outcome means for the caller. -/
def result (method : String) : Outcome → Except DispatchError Json
  | .value output => .ok output
  | .failed (.input cause) => .error (.badRequest method cause)
  | .failed (.output cause) => .error (.internalFailure method (some cause))
  | .failed (.service cause) => .error (.service method cause)
  | .aborted => .error (.internalFailure method none)

/-- Calls a method. -/
def invoke (method : RpcMethod) (input : Json) : Run (Except DispatchError Json) :=
  match method.invoker with
  | none => return .error (.internalFailure method.name none)
  | some invoker => do return result method.name (← invoker input)

/-- The result of a method as a body in a media type that the caller accepts. -/
def encode (dispatcher : HttpDispatcher) (method : RpcMethod) (accepted : List MediaType)
    (output : Json) : Except DispatchError (MediaType × Body) :=
  match dispatcher.codecs.negotiate method.outputType accepted with
  | .error e => .error (.notAcceptable method.name e)
  | .ok (codec, media) =>
    match codec.write output with
    | .ok body => .ok (media, body)
    | .error e => .error (.internalFailure method.name (some e))

/-- The media type and the body of the answer to a request, or why there is no result. -/
def handle (dispatcher : HttpDispatcher) (request : Request) :
    Run (Except DispatchError (MediaType × Body)) :=
  match dispatcher.prepare request with
  | .error e => return .error e
  | .ok (method, input) => do
    match ← invoke method input with
    | .error e => return .error e
    | .ok output => return dispatcher.encode method (acceptedTypes request.headers) output

/-! ## Responses -/

/-- The headers with a value added, if it may be the value of a header. -/
def setText (headers : Headers) (name text : String) : Headers :=
  match HeaderValue.ofString? text with
  | some value => headers.insert name value
  | none => headers

/-- A response in the context of a vector. -/
def respond (vector : RequestVector) (status : Status) (media : MediaType) (body : Body) :
    Response :=
  let headers := setText Headers.empty Headers.requestVector vector.render
  ⟨status, setText headers Headers.contentType media.render, body⟩

/-- A payload as a body in a media type that the caller accepts, or else as JSON. -/
def encodePayload (codecs : CodecRegistry) (payload : ErrorPayload) (accepted : List MediaType) :
    MediaType × Body :=
  let value := payload.toJson
  -- What goes wrong with the answer must not hide the error that it is about.
  let json := (MediaType.json, Text.Utf8.encodeString value.compact)
  match codecs.negotiate ErrorPayload.typeName accepted with
  | .error _ => json
  | .ok (codec, media) =>
    match codec.write value with
    | .ok body => (media, body)
    | .error _ => json

/-- The response to a request that has no result. -/
def errorResponse (dispatcher : HttpDispatcher) (vector : RequestVector)
    (accepted : List MediaType) (e : DispatchError) : Response :=
  let (media, body) := encodePayload dispatcher.codecs e.toPayload accepted
  let response := respond vector e.status media body
  match e with
  | .methodNotAllowed _ =>
    { response with headers := setText response.headers Headers.allow "POST" }
  | _ => response

/-- Refuses a request whose body could not be read. -/
def reject (dispatcher : HttpDispatcher) (headers : Headers) (e : DispatchError) :
    Run Response := do
  let vector ← requestVector headers
  Run.within vector (Run.report (.dispatch e))
  return dispatcher.errorResponse vector (acceptedTypes headers) e

/-- Answers a request. -/
def dispatch (dispatcher : HttpDispatcher) (request : Request) : Run Response := do
  let vector ← requestVector request.headers
  Run.log ⟨.debug, "dispatching", [("request_vector", vector.render)]⟩
  Run.within vector do
    match ← dispatcher.handle request with
    | .ok (media, body) => return respond vector .ok media body
    | .error e =>
      Run.report (.dispatch e)
      return dispatcher.errorResponse vector (acceptedTypes request.headers) e

end HttpDispatcher

end HttpRpc
