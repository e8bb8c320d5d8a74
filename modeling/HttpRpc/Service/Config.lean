/-!
# Dispatcher settings

Under which key of the query a request may name its method, and how long its body may be.
-/

namespace HttpRpc

/-- The settings of a dispatcher. -/
structure DispatcherConfig where
  methodParameter : String
  maxBodyBytes : Nat
deriving DecidableEq, Repr

namespace DispatcherConfig

/-- The settings used where none are given. -/
def default : DispatcherConfig := ⟨"method", 4 * 1024 * 1024⟩

/-- What is wrong with settings, if anything is. -/
def problem? (config : DispatcherConfig) : Option String :=
  if config.methodParameter.isEmpty then some "method_parameter must not be empty"
  else if config.maxBodyBytes = 0 then some "max_body_bytes must be greater than 0"
  else none

end DispatcherConfig

end HttpRpc
