import HttpRpc.Backoff.Strategy
import HttpRpc.Json.View
import HttpRpc.Service.Config
import HttpRpc.Transport.Config

/-!
# Settings as documents

Settings read from JSON objects. What is missing is as in the default settings.
-/

namespace HttpRpc

/-- A duration: the pair of its seconds and nanoseconds. -/
def Duration.ofDocument (document : Json) : Duration :=
  match document.asList with
  | [seconds, nanos] => .ofParts seconds.asNat nanos.asNat
  | _ => ⟨0⟩

/-- The duration of a field. -/
def Duration.at? (document : Json) (key : String) : Option Duration :=
  (document.at? key).map Duration.ofDocument

/-- A backoff strategy. -/
def BackoffStrategy.ofDocument (document : Json) : Except BackoffError BackoffStrategy :=
  let default := TruncatedExponential.default
  match document.textAt "kind" with
  | "exponential" =>
    (TruncatedExponential.build ⟨(Duration.at? document "start").getD default.start,
      (Duration.at? document "step").getD default.step,
      ((document.at? "multiplier").map Json.asReal).getD default.multiplier,
      (Duration.at? document "max").getD default.max⟩).map .exponential
  | "fixed" =>
    .ok (.fixed ((Duration.at? document "delay").getD ⟨0⟩) (document.natAt "retries"))
  | "none" => .ok .noRetry
  | _ => .ok (.exponential default)

/-- A store with the credentials of a list of URLs, user names and passwords. -/
def CredentialStore.ofDocument (document : Json) : Except TransportError CredentialStore :=
  document.asList.foldlM (fun (store : CredentialStore) entry =>
    match entry.asList.map Json.asText with
    | [uri, username, password] => (Credentials.new uri username password).map store.insert
    | _ => .ok store) .empty

/-- The settings of a transport. -/
def TransportConfig.ofDocument (document : Json) : Except TransportError TransportConfig := do
  let credentials ← CredentialStore.ofDocument ((document.at? "credentials").getD .null)
  return {
    connectionTtl := Duration.at? document "connection_ttl"
    maxPoolSize := ((document.at? "max_pool_size").map Json.asNat).getD default.maxPoolSize
    connectTimeout := Duration.at? document "connect_timeout"
    requestTimeout := Duration.at? document "request_timeout"
    userAgent := (document.at? "user_agent").map Json.asText
    credentials }

/-- The settings of a dispatcher. -/
def DispatcherConfig.ofDocument (document : Json) : DispatcherConfig :=
  ⟨((document.at? "method_parameter").map Json.asText).getD default.methodParameter,
    ((document.at? "max_body_bytes").map Json.asNat).getD default.maxBodyBytes⟩

end HttpRpc
