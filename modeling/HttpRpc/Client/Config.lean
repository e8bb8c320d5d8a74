import HttpRpc.Backoff.Strategy
import HttpRpc.Codec.Registry
import HttpRpc.Http.Header
import HttpRpc.Transport.Config

/-!
# Client settings

What a client sends with every request, and how it deals with failures.
-/

namespace HttpRpc

/-- The form of a media type in descriptions. -/
def MediaType.describe (media : MediaType) : String :=
  Text.record "MediaType" [("main", Text.quoted media.main), ("sub", Text.quoted media.sub),
    ("params", Text.bracketed (media.params.map fun (name, value) =>
      "(" ++ Text.quoted name ++ ", " ++ Text.quoted value ++ ")"))]

/-- The settings of a client. -/
structure ClientConfig where
  transport : TransportConfig
  requestMediaType : MediaType
  defaultHeaders : Headers
  backoff : BackoffStrategy

namespace ClientConfig

/-- The settings used where none are given. -/
def default : ClientConfig :=
  ⟨.default, .json, .empty, .exponential .default⟩

/-- Checks that the media type of requests is a single one. -/
def validate (config : ClientConfig) : Except MediaError Unit :=
  if config.requestMediaType.isWildcard then
    .error (.invalidMediaType config.requestMediaType.render)
  else .ok ()

/-- The form of settings in descriptions. -/
def describe (config : ClientConfig) : String :=
  Text.record "ClientConfig" [("transport", config.transport.describe),
    ("request_media_type", config.requestMediaType.describe),
    ("default_headers", config.defaultHeaders.describe),
    ("backoff", Text.quoted config.backoff.name)]

end ClientConfig

end HttpRpc
