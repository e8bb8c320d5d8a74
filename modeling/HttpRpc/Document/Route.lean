import HttpRpc.Binding.Route
import HttpRpc.Json.View

/-!
# Routes as documents

The declaration of a route read from a JSON object. What is missing is empty.
-/

namespace HttpRpc

/-- A role: the object with its kind as the key. -/
def ParamRole.ofDocument (document : Json) : ParamRole :=
  match document.at? "path", document.at? "query" with
  | some name, _ => .path name.asText
  | none, some key => .query key.asText
  | none, none => .body

/-- A qualifier: the pair of its kind and its value. -/
def RouteQualifier.ofDocument? (document : Json) : Option RouteQualifier :=
  match document.asList with
  | [kind, value] =>
    let kinds : List QualifierKind := [.consumes, .produces, .headers, .params]
    (kinds.find? fun k => k.name == kind.asText).map fun kind => ⟨kind, value.asText⟩
  | _ => none

/-- A declaration. -/
def RouteDecl.ofDocument (document : Json) : RouteDecl where
  method := document.textAt "method"
  verbs := (document.textsAt "verbs").map Verb.mk
  paths := document.textsAt "paths"
  params := (document.listAt "params").map fun param =>
    ⟨param.textAt "name", (param.listAt "roles").map ParamRole.ofDocument⟩
  qualifiers := (document.listAt "qualifiers").filterMap RouteQualifier.ofDocument?

end HttpRpc
