import HttpRpc.Service.Method

/-!
# Registries

A registry holds callable methods under their names. Of several methods with one name the last is
kept, unless the registry is strict, in which case it is not built. The methods are collected in a
builder, one by one or by services, and are looked at when the registry is built.
-/

namespace HttpRpc

/-- Methods with different names. -/
structure RpcRegistry where
  methods : List RpcMethod

namespace RpcRegistry

/-- The method of a name. -/
def get? (registry : RpcRegistry) (name : String) : Option RpcMethod :=
  registry.methods.find? fun method => method.name == name

/-- The number of names. -/
def size (registry : RpcRegistry) : Nat := registry.methods.length

/-- Whether the method takes one parameter and can be called. -/
def isCallable (method : RpcMethod) : Bool :=
  method.arity == 1 && method.invoker.isSome

/-- The methods with one added, in place of one of the same name. -/
def put (method : RpcMethod) : List RpcMethod → List RpcMethod
  | [] => [method]
  | other :: rest =>
    if other.name == method.name then method :: rest else other :: put method rest

/-- The methods added before the first failure, the names added more than once, and the failure if
there is one. -/
structure Progress where
  methods : List RpcMethod
  repeated : List String
  failure : Option BindingError

/-- Adds methods to those added already. -/
def addAll (strict : Bool) (methods : List RpcMethod) (repeated : List String) :
    List RpcMethod → Progress
  | [] => ⟨methods, repeated, none⟩
  | method :: rest =>
    if !isCallable method then
      ⟨methods, repeated, some (.onlyOneParameterSupported method.name method.arity)⟩
    else if methods.any fun other => other.name == method.name then
      if strict then ⟨methods, repeated, some (.duplicateMethod method.name)⟩
      else addAll strict (put method methods) (repeated ++ [method.name]) rest
    else addAll strict (put method methods) repeated rest

/-- Builds a registry. -/
def build (strict : Bool) (decls : List RpcMethod) : Except BindingError RpcRegistry :=
  let progress := addAll strict [] [] decls
  match progress.failure with
  | some e => .error e
  | none => .ok ⟨progress.methods⟩

/-- The events of building: one for each method that takes the place of another. -/
def buildEvents (strict : Bool) (decls : List RpcMethod) : List LogEvent :=
  (addAll strict [] [] decls).repeated.map fun name =>
    ⟨.warn, "method registered more than once, keeping the last", [("method", name)]⟩

/-- The event that reports that the methods of an interface are added. -/
def serviceEvent (interface : String) : LogEvent :=
  ⟨.debug, "registering service", [("interface", interface)]⟩

end RpcRegistry

/-- The methods of an interface. -/
structure RpcService where
  interface : String
  methods : List RpcMethod

/-- The methods to hold, in the order in which they are added, and whether they must differ in their
names. -/
structure RpcRegistryBuilder where
  decls : List RpcMethod
  strict : Bool

namespace RpcRegistryBuilder

/-- A builder without methods that is not strict. -/
def new : RpcRegistryBuilder := ⟨[], false⟩

/-- Adds a method. -/
def method (builder : RpcRegistryBuilder) (decl : RpcMethod) : RpcRegistryBuilder :=
  { builder with decls := builder.decls ++ [decl] }

/-- Adds the methods of a service. -/
def service (builder : RpcRegistryBuilder) (service : RpcService) : RpcRegistryBuilder :=
  { builder with decls := builder.decls ++ service.methods }

/-- Sets whether methods must differ in their names. -/
def strictOverloads (builder : RpcRegistryBuilder) (strict : Bool) : RpcRegistryBuilder :=
  { builder with strict }

/-- The events of building the registry of a builder. -/
def buildEvents (builder : RpcRegistryBuilder) : List LogEvent :=
  RpcRegistry.buildEvents builder.strict builder.decls

/-- Builds the registry of a builder. -/
def build (builder : RpcRegistryBuilder) : Except BindingError RpcRegistry :=
  RpcRegistry.build builder.strict builder.decls

end RpcRegistryBuilder

end HttpRpc
