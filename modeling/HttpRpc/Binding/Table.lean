import HttpRpc.Binding.Method
import HttpRpc.Log

/-!
# Route tables

A table holds the bound methods of an interface under their names. Rows are bound in order, each
before it is compared with the names above it, and the first row that fails decides the outcome.
-/

namespace HttpRpc

/-- The bound methods of an interface, in the order of their declarations. -/
structure RouteTable where
  base : BaseUri
  methods : List BoundMethod

namespace RouteTable

/-- The rows bound before the first failure, and the failure if there is one. -/
structure Progress where
  bound : List BoundMethod
  failure : Option BindingError

/-- Binds rows below those bound already. -/
def bindRows (base : BaseUri) (above : List BoundMethod) : List RouteDecl → Progress
  | [] => ⟨above, none⟩
  | row :: rest =>
    match BoundMethod.bind base row with
    | .error e => ⟨above, some e⟩
    | .ok method =>
      if above.any fun other => other.method == row.method then
        ⟨above, some (.duplicateRoute row.method)⟩
      else bindRows base (above ++ [method]) rest

/-- Binds all rows to a base URL. -/
def bind (baseUri : String) (rows : List RouteDecl) : Except BindingError RouteTable := do
  let base ← BaseUri.parse baseUri
  let progress := bindRows base [] rows
  match progress.failure with
  | some e => throw e
  | none => return ⟨base, progress.bound⟩

/-- The event that reports a bound row. -/
def boundEvent (method : BoundMethod) : LogEvent :=
  ⟨.debug, "bound route", [("method", method.method), ("verb", method.verb.name),
    ("template", method.uri.template.render)]⟩

/-- The events of binding: one for each row bound, even if a later row fails. -/
def bindEvents (baseUri : String) (rows : List RouteDecl) : List LogEvent :=
  match BaseUri.parse baseUri with
  | .error _ => []
  | .ok base => (bindRows base [] rows).bound.map boundEvent

/-- The method bound under a name. -/
def get? (table : RouteTable) (name : String) : Option BoundMethod :=
  table.methods.find? fun method => method.method == name

/-- The names of the bound methods. -/
def names (table : RouteTable) : List String :=
  table.methods.map BoundMethod.method

/-- The number of bound methods. -/
def size (table : RouteTable) : Nat :=
  table.methods.length

end RouteTable

end HttpRpc
