import HttpRpc.Json.Datum
import HttpRpc.Json.Shape
import HttpRpc.Run

/-!
# Methods

A method is declared under a name with the names of its input and output types. Its invoker takes a
JSON value and ends with a value, a failure, or not at all properly.
-/

namespace HttpRpc

/-- Why an invocation has no result. -/
inductive InvocationError where
  | input (cause : DeserializationError)
  | output (cause : SerializationError)
  | service (cause : ServiceError)
deriving Repr

namespace InvocationError

/-- The wording of an error. -/
def message : InvocationError → String
  | input cause => "input does not match the method signature: " ++ cause.describe
  | output cause => "result could not be encoded: " ++ cause.describe
  | service cause => cause.describe

/-- The wordings of the errors below, the nearest first. -/
def causes : InvocationError → List String
  | input cause => cause.describe :: cause.cause.toList
  | output cause => cause.describe :: cause.cause.toList
  | service _ => []

end InvocationError

/-- How an invocation ends. -/
inductive Outcome where
  | value (output : Json)
  | failed (cause : InvocationError)
  | aborted
deriving Repr

/-- How the body of a method ends. -/
inductive Completion where
  | returned (output : Datum)
  | refused (cause : ServiceError)
  | aborted

/-- Turns a JSON value into an outcome. -/
abbrev Invoker := Json → Run Outcome

/-- The declaration of a method. -/
structure RpcMethod where
  name : String
  arity : Nat
  inputType : String
  outputType : String
  invoker : Option Invoker

namespace RpcMethod

/-- The outcome of a body that has ended. -/
def outcome : Completion → Outcome
  | .returned output =>
    match output.toJson with
    | .ok value => .value value
    | .error e => .failed (.output e)
  | .refused cause => .failed (.service cause)
  | .aborted => .aborted

/-- Calls a body with the input if that has the shape. -/
def invokerOf (shape : Shape) (body : Json → Run Completion) : Invoker := fun input =>
  match shape.read? input with
  | none => return .failed (.input (.json "value of another shape"))
  | some value => do return outcome (← body value)

/-- A method of one parameter. -/
def new (name inputType outputType : String) (shape : Shape) (body : Json → Run Completion) :
    RpcMethod :=
  ⟨name, 1, inputType, outputType, some (invokerOf shape body)⟩

/-- A method that cannot be called. -/
def unsupported (name : String) (arity : Nat) : RpcMethod :=
  ⟨name, arity, "", "", none⟩

/-- The form of a method in descriptions. -/
def describe (method : RpcMethod) : String :=
  Text.record "RpcMethodDecl" [("name", Text.quoted method.name),
    ("arity", Text.decimal method.arity), ("input_type", Text.quoted method.inputType),
    ("output_type", Text.quoted method.outputType)]

end RpcMethod

end HttpRpc
