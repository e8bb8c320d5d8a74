import HttpRpc.Binding.Table
import HttpRpc.Client.Config
import HttpRpc.Transport.Basic

/-!
# Client factories

A factory holds what its clients share: a transport, codecs, settings, and a source of numbers for
request vectors. `ClientFactory.build` checks that the settings fit together.
-/

namespace HttpRpc

/-- What the clients of a factory share. -/
structure ClientFactory where
  transport : Transport
  codecs : CodecRegistry
  backoff : BackoffStrategy
  requestMediaType : MediaType
  contentType : HeaderValue
  accept : HeaderValue
  defaultHeaders : Headers
  /-- The number of the source of numbers for outgoing calls. -/
  source : Nat

/-- What a factory is built from: settings, codecs if they are not the default ones, and a
transport. -/
structure FactorySettings where
  config : ClientConfig
  codecs : Option CodecRegistry
  transport : Option Transport

namespace ClientFactory

/-- A text as the value of a header that lists media types. -/
def headerValue (text : String) : Except MediaError HeaderValue :=
  match HeaderValue.ofString? text with
  | some value => .ok value
  | none => .error (.invalidMediaType text)

/-- The parts of a factory that the settings determine, or the first thing wrong with them. -/
def assemble (settings : FactorySettings) : Except Error (Nat → ClientFactory) := do
  let config := settings.config
  config.validate.mapError Error.media
  config.transport.validate.mapError Error.transport
  let codecs := settings.codecs.getD .default
  let media := config.requestMediaType
  if !codecs.supports media then throw (.media (.unsupportedMediaType media.render))
  let contentType ← (headerValue media.render).mapError Error.media
  let accept ← (headerValue codecs.acceptHeader).mapError Error.media
  match settings.transport with
  | none => throw (.transport (.invalidConfiguration
      "no transport given and the \x60reqwest\x60 feature is disabled"))
  | some transport => return fun source =>
      ⟨transport, codecs, config.backoff, media, contentType, accept, config.defaultHeaders, source⟩

/-- The event that reports a built factory. -/
def builtEvent (factory : ClientFactory) : LogEvent :=
  ⟨.info, "built client factory", [("transport", factory.transport.name),
    ("backoff", factory.backoff.name), ("request_media_type", factory.requestMediaType.render)]⟩

/-- Builds a factory with a source of its own. -/
def build (settings : FactorySettings) : Run (Except Error ClientFactory) :=
  match assemble settings with
  | .error e => return .error e
  | .ok make => do
    let factory := make (← Run.newSource)
    Run.log factory.builtEvent
    return .ok factory

/-- The form of a factory in descriptions. -/
def describe (factory : ClientFactory) : String :=
  Text.record "ClientFactory" [("transport", Text.quoted factory.transport.name),
    ("codecs", factory.codecs.describe), ("backoff", Text.quoted factory.backoff.name),
    ("request_media_type", factory.requestMediaType.describe)]

end ClientFactory

end HttpRpc
