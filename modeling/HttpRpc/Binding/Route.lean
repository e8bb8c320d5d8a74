import HttpRpc.Http.Verb
import HttpRpc.Text.Quoted

/-!
# Route declarations

What the declaration of a remote method says about its HTTP form: verbs, paths, a role for each
parameter, and further qualifiers. A declaration may say too much or too little; binding decides.
-/

namespace HttpRpc

/-- Where an argument goes: into a placeholder of the path, under a key of the query, or into the
body. -/
inductive ParamRole where
  | path (name : String)
  | query (key : String)
  | body
deriving DecidableEq, Repr

/-- The form of a role in descriptions. -/
def ParamRole.describe : ParamRole → String
  | path name => "PathVariable(" ++ Text.quoted name ++ ")"
  | query key => "QueryParam(" ++ Text.quoted key ++ ")"
  | body => "Body"

/-- The kinds of further conditions on a route. -/
inductive QualifierKind where
  | consumes
  | produces
  | headers
  | params
deriving DecidableEq, Repr

/-- The name of a kind. -/
def QualifierKind.name : QualifierKind → String
  | consumes => "consumes"
  | produces => "produces"
  | headers => "headers"
  | params => "params"

/-- A further condition on a route. -/
structure RouteQualifier where
  kind : QualifierKind
  value : String
deriving DecidableEq, Repr

/-- The text of a qualifier. -/
def RouteQualifier.render (qualifier : RouteQualifier) : String :=
  qualifier.kind.name ++ " = " ++ Text.quoted qualifier.value

/-- A parameter with the roles declared for it. -/
structure ParamDecl where
  name : String
  roles : List ParamRole
deriving DecidableEq, Repr

/-- The declaration of a method. -/
structure RouteDecl where
  method : String
  verbs : List Verb
  paths : List String
  params : List ParamDecl
  qualifiers : List RouteQualifier
deriving DecidableEq, Repr

/-- The number of parameters. -/
def RouteDecl.arity (route : RouteDecl) : Nat := route.params.length

end HttpRpc
