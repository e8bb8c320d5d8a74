import HttpRpc.Text.Quoted

/-!
# Binding errors

`BindingError` says why a declaration cannot be bound, and `ArgumentError` why the arguments of a
call cannot be written into its URL.
-/

namespace HttpRpc

/-- Why a base URL, a route or a remote procedure is refused. -/
inductive BindingError where
  | ambiguousVerb (method : String) (verbs : List String)
  | ambiguousPath (method : String) (paths : List String)
  | duplicateBody (method : String)
  | unrecognizedParameter (method parameter : String)
  | conflictingParameterRoles (method parameter : String)
  | unsupportedQualifier (method qualifier : String)
  | malformedBaseUri (uri reason : String)
  | invalidTemplate (template reason : String)
  | unknownPathVariable (method name : String)
  | unboundPathVariable (method name : String)
  | duplicateRoute (method : String)
  | onlyOneParameterSupported (method : String) (arity : Nat)
  | duplicateMethod (method : String)
deriving DecidableEq, Repr

namespace BindingError

/-- A text between the marks that messages put around names. -/
def marked (text : String) : String :=
  "\x60" ++ text ++ "\x60"

/-- The list of texts in quotes. -/
def quotedList (texts : List String) : String :=
  Text.bracketed (texts.map Text.quoted)

/-- The wording of an error. -/
def message : BindingError → String
  | ambiguousVerb method verbs =>
    "method " ++ marked method ++ " declares more than one HTTP verb: " ++ quotedList verbs
  | ambiguousPath method paths =>
    "method " ++ marked method ++ " declares more than one path: " ++ quotedList paths
  | duplicateBody method => "method " ++ marked method ++ " has more than one body parameter"
  | unrecognizedParameter method parameter =>
    "parameter " ++ marked parameter ++ " of method " ++ marked method ++
      " has no path, query or body role"
  | conflictingParameterRoles method parameter =>
    "parameter " ++ marked parameter ++ " of method " ++ marked method ++
      " has conflicting roles"
  | unsupportedQualifier method qualifier =>
    "method " ++ marked method ++ " uses unsupported qualifier " ++ marked qualifier
  | malformedBaseUri uri reason => "malformed base uri " ++ marked uri ++ ": " ++ reason
  | invalidTemplate template reason =>
    "invalid path template " ++ marked template ++ ": " ++ reason
  | unknownPathVariable method name =>
    "method " ++ marked method ++ " binds unknown path variable " ++ marked name
  | unboundPathVariable method name =>
    "path variable " ++ marked name ++ " of method " ++ marked method ++
      " is not bound to a parameter"
  | duplicateRoute method => "method " ++ marked method ++ " is declared more than once"
  | onlyOneParameterSupported method arity =>
    "rpc method " ++ marked method ++ " takes " ++ Text.decimal arity ++
      " parameters, only one is supported"
  | duplicateMethod method =>
    "rpc method " ++ marked method ++ " is registered more than once"

/-- The name of the kind of an error. -/
def kind : BindingError → String
  | ambiguousVerb .. => "AmbiguousVerb"
  | ambiguousPath .. => "AmbiguousPath"
  | duplicateBody _ => "DuplicateBody"
  | unrecognizedParameter .. => "UnrecognizedParameter"
  | conflictingParameterRoles .. => "ConflictingParameterRoles"
  | unsupportedQualifier .. => "UnsupportedQualifier"
  | malformedBaseUri .. => "MalformedBaseUri"
  | invalidTemplate .. => "InvalidTemplate"
  | unknownPathVariable .. => "UnknownPathVariable"
  | unboundPathVariable .. => "UnboundPathVariable"
  | duplicateRoute _ => "DuplicateRoute"
  | onlyOneParameterSupported .. => "OnlyOneParameterSupported"
  | duplicateMethod _ => "DuplicateMethod"

/-- The method that the error is about, if it is about one. -/
def method? : BindingError → Option String
  | ambiguousVerb method _ | ambiguousPath method _ | duplicateBody method
  | unrecognizedParameter method _ | conflictingParameterRoles method _
  | unsupportedQualifier method _ | unknownPathVariable method _
  | unboundPathVariable method _ | duplicateRoute method
  | onlyOneParameterSupported method _ | duplicateMethod method => some method
  | malformedBaseUri .. | invalidTemplate .. => none

end BindingError

/-- Why arguments have no place in a URL. -/
inductive ArgumentError where
  | missingPathVariable (name : String)
  | invalidArgument (name reason : String)
  | arityMismatch (method : String) (expected actual : Nat)
deriving DecidableEq, Repr

namespace ArgumentError

open BindingError (marked)

/-- The wording of an error. -/
def message : ArgumentError → String
  | missingPathVariable name => "path variable " ++ marked name ++ " has no value"
  | invalidArgument name reason =>
    "argument " ++ marked name ++ " cannot be used in the uri: " ++ reason
  | arityMismatch method expected actual =>
    "method " ++ marked method ++ " expects " ++ Text.decimal expected ++ " arguments, got " ++
      Text.decimal actual

/-- The name of the kind of an error. -/
def kind : ArgumentError → String
  | missingPathVariable _ => "MissingPathVariable"
  | invalidArgument .. => "InvalidArgument"
  | arityMismatch .. => "ArityMismatch"

end ArgumentError

end HttpRpc
