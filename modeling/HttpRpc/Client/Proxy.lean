import HttpRpc.Client.Factory
import HttpRpc.Json.Shape

/-!
# Client proxies

A proxy calls the methods of an interface. A call is made into a request (`requestFor`), the request
is exchanged, again and again as long as the failure is a passing one and the backoff strategy
yields a delay (`exchangeWithRetry`), and the response is read as a value or as an error.
-/

namespace HttpRpc

/-- A client of an interface. -/
structure ClientProxy where
  interface : String
  routes : RouteTable
  factory : ClientFactory

namespace ClientFactory

/-- The event that reports a bound client. -/
def boundEvent (interface : String) (table : RouteTable) : LogEvent :=
  ⟨.info, "bound client", [("interface", interface), ("base", table.base.render),
    ("methods", Text.decimal table.size)]⟩

/-- Binds the routes of an interface to a base URL. -/
def proxy (factory : ClientFactory) (interface baseUri : String) (routes : List RouteDecl) :
    Run (Except BindingError ClientProxy) := do
  Run.logAll (RouteTable.bindEvents baseUri routes)
  match RouteTable.bind baseUri routes with
  | .error e => return .error e
  | .ok table =>
    Run.log (boundEvent interface table)
    return .ok ⟨interface, table, factory⟩

end ClientFactory

namespace ClientProxy

/-! ## Requests -/

/-- The name of the type that a value is written as. -/
def valueTypeName : Json → String
  | .string _ => "alloc::string::String"
  | .bool _ => "bool"
  | .number (.real _) => "f64"
  | .number (.integer _) => "i64"
  | _ => "serde_json::value::Value"

/-- An argument written as a body. -/
def encodeBody (factory : ClientFactory) (value : Json) : Except ClientError Body :=
  let typeName := valueTypeName value
  match factory.codecs.writerFor? typeName factory.requestMediaType with
  | none => .error (.media (.noWriter typeName factory.requestMediaType.render))
  | some codec => (codec.write value).mapError ClientError.serialization

/-- The request of a call, but for its vector. -/
def prepare (proxy : ClientProxy) (method : String) (args : List Json) :
    Except ClientError ExchangeRequest := do
  match proxy.routes.get? method with
  | none => throw (.unsupportedMethod proxy.interface method)
  | some bound =>
    let (url, argument) ← (bound.resolve args).mapError ClientError.argument
    let headers := proxy.factory.defaultHeaders.insert Headers.accept proxy.factory.accept
    match argument with
    | none => return ⟨bound.verb, url, headers, none⟩
    | some value =>
      let body ← encodeBody proxy.factory value
      return ⟨bound.verb, url, headers.insert Headers.contentType proxy.factory.contentType,
        some body⟩

/-- The request with a vector, if its text may be the value of a header. -/
def withVector (request : ExchangeRequest) (vector : RequestVector) : ExchangeRequest :=
  match HeaderValue.ofString? vector.render with
  | some value =>
    { request with headers := request.headers.insert Headers.requestVector value }
  | none => request

/-- The request of a call: under a child of the ambient vector, if there is one. -/
def requestFor (proxy : ClientProxy) (method : String) (args : List Json) :
    Run (Except ClientError ExchangeRequest) :=
  match proxy.prepare method args with
  | .error e => return .error e
  | .ok request => do
    match ← Run.ambient with
    | none => return .ok request
    | some parent =>
      let child ← Run.nextChild proxy.factory.source parent
      return .ok (withVector request child)

/-! ## Exchanges -/

/-- The event that reports a completed exchange. -/
def completeEvent (status : Status) (attempt : Nat) : LogEvent :=
  ⟨.debug, "exchange complete",
    [("status", status.render), ("attempt", Text.decimal attempt)]⟩

/-- The event that reports a failed exchange that is made again after a delay. -/
def retryEvent (e : TransportError) (attempt : Nat) (delay : Duration) : LogEvent :=
  ⟨.warn, "exchange failed, retrying",
    [("error", e.message), ("attempt", Text.decimal attempt),
      ("delay_ms", Text.decimal (delay.millis % UInt64.size))]⟩

/-- Exchanges a request, and again after each delay of the mark as long as the failure is a passing
one. The fuel bounds the number of delays. -/
def exchangeFrom (transport : Transport) (request : ExchangeRequest) (fuel : Nat)
    (mark : BackoffMark) (attempt : Nat) : Run (Except TransportError Response) := do
  match ← transport.exchange request with
  | .ok response =>
    Run.log (completeEvent response.status attempt)
    return .ok response
  | .error e =>
    if e.isRecoverable then
      match fuel, mark.next with
      | fuel + 1, (some delay, after) =>
        Run.log (retryEvent e attempt delay)
        Run.pause delay
        exchangeFrom transport request fuel after (attempt + 1)
      | _, _ => return .error e
    else return .error e

/-- Exchanges a request by the backoff strategy of the factory. -/
def exchangeWithRetry (factory : ClientFactory) (request : ExchangeRequest) :
    Run (Except TransportError Response) :=
  let mark := factory.backoff.newMark
  exchangeFrom factory.transport request mark.bound mark 1

/-! ## Responses -/

/-- The media type of a response: the one it states, or else that of requests. -/
def responseMediaType (factory : ClientFactory) (response : Response) :
    Except MediaError MediaType :=
  match response.contentType? with
  | some text => MediaType.parse text
  | none => .ok factory.requestMediaType

/-- The value that a response holds; an empty body counts as null. -/
def decode (factory : ClientFactory) (typeName : String) (response : Response) :
    Except ClientError Json := do
  if response.body.isEmpty then return .null
  let media ← (responseMediaType factory response).mapError ClientError.media
  match factory.codecs.readerFor? typeName media with
  | none => throw (.media (.noReader typeName media.render))
  | some codec => (codec.read response.body).mapError ClientError.deserialization

/-- The error that a response with a failure reports. -/
def decodeError (factory : ClientFactory) (response : Response) : ClientError :=
  match (decode factory ErrorPayload.typeName response).toOption.bind ErrorPayload.ofJson? with
  | some payload => .remote response.status payload
  | none => .unexplained response.status (Text.Utf8.decodeStringLossy response.body)

/-- The value or the error that a response stands for. -/
def interpret (factory : ClientFactory) (typeName : String) (shape : Shape)
    (response : Response) : Except ClientError Json := do
  if !response.status.isSuccess then throw (decodeError factory response)
  let value ← decode factory typeName response
  match shape.read? value with
  | some result => return result
  | none => throw (.deserialization (.json "value of another shape"))

/-- Calls a method whose result is of the named type and the shape. -/
def invoke (proxy : ClientProxy) (typeName : String) (shape : Shape) (method : String)
    (args : List Json) : Run (Except ClientError Json) := do
  match ← proxy.requestFor method args with
  | .error e => return .error e
  | .ok request =>
    match ← exchangeWithRetry proxy.factory request with
    | .error e => return .error (.transport e)
    | .ok response => return interpret proxy.factory typeName shape response

/-- The form of a proxy in descriptions. -/
def describe (proxy : ClientProxy) : String :=
  Text.record "ClientProxy" [("interface", Text.quoted proxy.interface),
    ("base", Text.quoted proxy.routes.base.render),
    ("methods", Text.decimal proxy.routes.size),
    ("transport", Text.quoted proxy.factory.transport.name),
    ("backoff", Text.quoted proxy.factory.backoff.name)]

end ClientProxy

end HttpRpc
