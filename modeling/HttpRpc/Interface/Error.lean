import HttpRpc.Source.Error

/-!
# Interface errors

What may be wrong with the declaration of an interface.
-/

namespace HttpRpc

/-- Why a trait declares no interface. -/
inductive InterfaceError where
  | malformed
  | unknownArgument
  | expectedText
  | notAsync
  | notBorrowing
  | patternParameter
  | unknownVerb (text : String)
  | unknownRouteKey
  | infallibleMethod
  | noMethods
  | expectedRename
  | assignedRole
  /-- The tokens of an argument cannot be read. -/
  | unreadable (error : Source.ReadError)
  /-- An attribute has no arguments, or arguments of another kind. -/
  | expected (what : String)
  /-- An attribute has arguments that takes none. -/
  | needlessArguments
deriving DecidableEq, Repr

/-- The wording of an error. -/
def InterfaceError.message : InterfaceError → String
  | malformed => "not a trait"
  | unknownArgument => "Unknown attribute. Supported: name"
  | expectedText => "Expected a string literal"
  | notAsync => "Methods must be async"
  | notBorrowing => "Methods must take &self as their first parameter"
  | patternParameter => "Only simple parameter names are supported"
  | unknownVerb text => "Unknown HTTP method \x27" ++ text ++ "\x27"
  | unknownRouteKey =>
    "Unknown route key. Supported: method, path, consumes, produces, headers, params"
  | infallibleMethod => "Client methods must return Result<T, E> where E: From<ClientError>"
  | noMethods => "RPC trait must have at least one method"
  | expectedRename => "Expected #[rpc(name = \"...\")]"
  | assignedRole => "Expected #[path], #[path(\"name\")], #[query] or #[query(\"name\")]"
  | unreadable error => error.message
  | expected what => "expected " ++ what
  | needlessArguments => "unexpected token in attribute"

end HttpRpc
