import HttpRpc.Transport.Credentials

/-!
# Transport settings

Limits on connections and on the time that they may take, the name under which a client introduces
itself, and the credentials that it uses.
-/

namespace HttpRpc

/-- The settings of a transport. -/
structure TransportConfig where
  connectionTtl : Option Duration
  maxPoolSize : Nat
  connectTimeout : Option Duration
  requestTimeout : Option Duration
  userAgent : Option String
  credentials : CredentialStore
deriving DecidableEq, Repr

namespace TransportConfig

/-- The settings used where none are given. -/
def default : TransportConfig := ⟨none, 20, none, none, none, .empty⟩

/-- Whether the duration is given and zero. -/
def isZero (duration : Option Duration) : Bool :=
  duration.any fun d => d.nanos == 0

/-- The first of the settings that must not be zero and is. -/
def zeroSetting? (config : TransportConfig) : Option String :=
  if config.maxPoolSize = 0 then some "max_pool_size"
  else if isZero config.connectionTtl then some "connection_ttl"
  else if isZero config.connectTimeout then some "connect_timeout"
  else if isZero config.requestTimeout then some "request_timeout"
  else none

/-- Checks the settings. -/
def validate (config : TransportConfig) : Except TransportError Unit :=
  match config.zeroSetting? with
  | some name => .error (.invalidConfiguration (name ++ " must be greater than zero"))
  | none => .ok ()

/-- The form of settings in descriptions. -/
def describe (config : TransportConfig) : String :=
  let duration (d : Option Duration) := Text.optional (d.map Duration.describe)
  Text.record "TransportConfig"
    [("connection_ttl", duration config.connectionTtl),
      ("max_pool_size", Text.decimal config.maxPoolSize),
      ("connect_timeout", duration config.connectTimeout),
      ("request_timeout", duration config.requestTimeout),
      ("user_agent", Text.optional (config.userAgent.map Text.quoted)),
      ("credentials", config.credentials.describe)]

end TransportConfig

end HttpRpc
