import HttpRpc.Http.Status
import HttpRpc.Service.Payload
import HttpRpc.Text.Split

/-!
# Service errors

How a method reports that it failed: a kind, which decides the HTTP status, and what the payload
says.
-/

namespace HttpRpc

/-- The kinds of service errors. -/
inductive ErrorKind where
  | invalidArgument
  | unsupported
  | accessDenied
  | uncategorized
deriving DecidableEq, Repr

namespace ErrorKind

/-- The HTTP status of a kind. -/
def status : ErrorKind → Status
  | invalidArgument => ⟨400⟩
  | unsupported => ⟨501⟩
  | accessDenied => ⟨403⟩
  | uncategorized => ⟨500⟩

/-- The code that an error of the kind has unless it is given another. -/
def defaultCode : ErrorKind → String
  | invalidArgument => "InvalidArgument"
  | unsupported => "Unsupported"
  | accessDenied => "AccessDenied"
  | uncategorized => "Uncategorized"

end ErrorKind

/-- The failure of a method. -/
structure ServiceError where
  kind : ErrorKind
  code : String
  message : String
  parameters : List ErrorParameter
  inner : List ErrorPayload
deriving Repr

namespace ServiceError

/-- An error of a kind, under the code of the kind. -/
def new (kind : ErrorKind) (message : String) : ServiceError :=
  ⟨kind, kind.defaultCode, message, [], []⟩

/-- The name of a type without the modules that it is in and without its arguments. -/
def shortTypeName (full : String) : String :=
  let base := full.toList.takeWhile (· != '<')
  String.ofList ((Text.afterLast? "::".toList base).getD base)

/-- The error of a method that failed with an error of the named type, of which nothing else is
told. -/
def uncategorizedFrom (typeName : String) : ServiceError :=
  let name := shortTypeName typeName
  { new .uncategorized (name ++ " raised by service") with code := name }

/-- The HTTP status of an error. -/
def status (e : ServiceError) : Status := e.kind.status

/-- The wording of an error. -/
def describe (e : ServiceError) : String :=
  e.code ++ ": " ++ e.message

/-- What is told to the caller. -/
def toPayload (e : ServiceError) : ErrorPayload :=
  .mk e.code e.message e.parameters e.inner

end ServiceError

end HttpRpc
