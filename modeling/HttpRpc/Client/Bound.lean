import HttpRpc.Client.Proxy
import HttpRpc.Interface.Client

/-!
# Bound clients

A client of an interface that a trait declares. It shows itself as its interface, and it equals its
copies and no client that was bound apart from it.
-/

namespace HttpRpc

/-- A client of a declared interface, and the number that tells it from all others. -/
structure BoundClient where
  number : Nat
  proxy : ClientProxy

namespace BoundClient

instance : BEq BoundClient := ⟨fun a b => a.number == b.number⟩

instance : Hashable BoundClient := ⟨fun client => hash client.number⟩

/-- The form of a client in messages and descriptions. -/
def describe (client : BoundClient) : String := client.proxy.interface

end BoundClient

/-- Binds an interface to a base URL. -/
def ClientFactory.bind (factory : ClientFactory) (interface : ClientInterface) (baseUri : String) :
    Run (Except BindingError BoundClient) := do
  match ← factory.proxy interface.name baseUri interface.routes with
  | .error e => return .error e
  | .ok proxy => return .ok ⟨← Run.newClient, proxy⟩

end HttpRpc
