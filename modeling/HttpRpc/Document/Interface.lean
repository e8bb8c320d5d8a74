import HttpRpc.Document.Route
import HttpRpc.Interface.Expansion

/-!
# Interfaces as documents

The JSON objects that show what a trait declares. Types are shown as the text of their tokens.
-/

namespace HttpRpc

open Source

/-- The text of tokens. -/
def Json.ofTokens (tokens : List Token) : Json := .string (Token.render tokens)

/-- Texts. -/
def Json.ofTexts (texts : List String) : Json := .array (texts.map Json.string)

/-- A role: the object with its kind as the key, or the word for the body. -/
def ParamRole.document : ParamRole → Json
  | path name => .object [("path", .string name)]
  | query key => .object [("query", .string key)]
  | body => .string "body"

/-- A parameter. -/
def ClientParam.document (param : ClientParam) : Json :=
  .object [("name", .string param.name), ("type", .ofTokens param.type),
    ("roles", .array (param.roles.map ParamRole.document))]

/-- A method of a client. -/
def ClientMethod.document (method : ClientMethod) : Json :=
  .object [("name", .string method.name),
    ("verbs", .ofTexts (method.parts.verbs.map Verb.name)),
    ("paths", .ofTexts method.parts.paths),
    ("qualifiers", .array (method.parts.qualifiers.map fun qualifier =>
      .ofTexts [qualifier.kind.title, qualifier.value])),
    ("params", .array (method.params.map ClientParam.document)),
    ("output", .ofTokens method.output), ("error", .ofTokens method.failure)]

/-- What a method of a service ends with. -/
def ServiceOutput.document : ServiceOutput → Json
  | unit => .string "unit"
  | plain type => .object [("plain", .ofTokens type)]
  | fallible output failure => .object [("ok", .ofTokens output), ("err", .ofTokens failure)]

/-- A method of a service. -/
def ServiceMethod.document (method : ServiceMethod) : Json :=
  .object [("name", .string method.name), ("wire_name", .string method.wireName),
    ("params", .array (method.params.map fun (name, type) =>
      .array [.string name, .ofTokens type])),
    ("output", method.output.document)]

/-- The declaration of a route, with its roles and qualifiers as texts. -/
def RouteDecl.document (route : RouteDecl) : Json :=
  .object [("method", .string route.method), ("verbs", .ofTexts (route.verbs.map Verb.name)),
    ("paths", .ofTexts route.paths), ("arity", .ofNat route.arity),
    ("params", .array (route.params.map fun param => .object [("name", .string param.name),
      ("roles", .ofTexts (param.roles.map ParamRole.describe))])),
    ("qualifiers", .ofTexts (route.qualifiers.map RouteQualifier.render))]

end HttpRpc
