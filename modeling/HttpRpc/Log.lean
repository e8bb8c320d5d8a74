/-!
# Log events

What the library reports while it works: a level, a message, and named texts.
-/

namespace HttpRpc

/-- How grave an event is. -/
inductive LogLevel where
  | debug
  | info
  | warn
  | error
deriving DecidableEq, Repr

/-- The name of a level. -/
def LogLevel.name : LogLevel → String
  | .debug => "DEBUG"
  | .info => "INFO"
  | .warn => "WARN"
  | .error => "ERROR"

/-- An event of the log. -/
structure LogEvent where
  level : LogLevel
  message : String
  fields : List (String × String)
deriving DecidableEq, Repr

end HttpRpc
