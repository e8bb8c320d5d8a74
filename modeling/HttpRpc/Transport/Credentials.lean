import HttpRpc.Text.Quoted
import HttpRpc.Transport.Error
import HttpRpc.Url.Parser

/-!
# Credentials

A user name and a password belong to an authority: a host, a port and a scheme. A store keeps one
pair for each authority, and finds the pair for a URL by the authority of the URL.
-/

namespace HttpRpc

/-- The key of the authority of a URL, if it has a host and a port. -/
def Url.authority? (url : Url) : Option String := do
  let host ← url.hostText?
  let port ← url.effectivePort?
  some (host ++ ":" ++ Text.decimal port ++ ":" ++ url.scheme)

/-- A user name and a password for an authority. -/
structure Credentials where
  authority : String
  username : String
  password : String
deriving DecidableEq, Repr

namespace Credentials

/-- Credentials for the authority of a URL. -/
def new (uri username password : String) : Except TransportError Credentials :=
  match Url.parse uri with
  | .error e => .error (.invalidConfiguration
      ("invalid credentials uri \x60" ++ uri ++ "\x60: " ++ e.message))
  | .ok url =>
    match url.authority? with
    | none => .error (.invalidConfiguration ("credentials uri \x60" ++ uri ++ "\x60 has no host"))
    | some authority => .ok ⟨authority, username, password⟩

/-- The form of credentials in descriptions, which hides the password. -/
def describe (credentials : Credentials) : String :=
  Text.record "Credentials" [("authority", Text.quoted credentials.authority),
    ("username", Text.quoted credentials.username), ("password", Text.quoted "<redacted>")]

end Credentials

/-- Credentials with different authorities. -/
structure CredentialStore where
  entries : List Credentials
deriving DecidableEq, Repr

namespace CredentialStore

/-- A store without credentials. -/
def empty : CredentialStore := ⟨[]⟩

/-- The store with credentials added; others for the same authority give way. -/
def insert (store : CredentialStore) (credentials : Credentials) : CredentialStore :=
  ⟨store.entries.filter (fun other => other.authority != credentials.authority) ++ [credentials]⟩

/-- The credentials for the authority of a URL. -/
def forUrl? (store : CredentialStore) (url : Url) : Option Credentials :=
  url.authority?.bind fun authority =>
    store.entries.find? fun credentials => credentials.authority == authority

/-- The number of authorities that have credentials. -/
def size (store : CredentialStore) : Nat := store.entries.length

/-- The form of a store in descriptions. -/
def describe (store : CredentialStore) : String :=
  Text.record "CredentialStore" [("by_authority",
    "\x7b" ++ String.intercalate ", " (store.entries.map fun credentials =>
      Text.quoted credentials.authority ++ ": " ++ credentials.describe) ++ "\x7d")]

end CredentialStore

end HttpRpc
