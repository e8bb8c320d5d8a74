import HttpRpc.Interface.Client
import HttpRpc.Interface.Service

/-!
# Generated code

The code that an interface stands for. That of a client interface (`ClientInterface.expansion`) is
the trait, a type that implements it, the declarations of its routes, and for each method a body
that hands the arguments on in the order of the parameters. That of a service interface
(`ServiceInterface.expansion`) is the trait and a type that publishes an implementation of it.
-/

namespace HttpRpc

open Source

namespace Interface

/-! ## Pieces -/

/-- Tokens in parentheses. -/
def paren (tokens : List Token) : List Token := [.group .paren tokens]

/-- Tokens in brackets. -/
def bracket (tokens : List Token) : List Token := [.group .bracket tokens]

/-- Tokens in braces. -/
def brace (tokens : List Token) : List Token := [.group .brace tokens]

/-- A text as a token. -/
def quotedText (text : String) : List Token := [Literal.ofText text]

/-- A name with another one after it, without the mark of a raw name. -/
def nameWith (name suffix : String) : List Token :=
  let chars := name.toList
  let plain := if ['r', '#'].isPrefixOf chars then chars.drop 2 else chars
  [.name (String.ofList plain ++ suffix)]

/-- The trait with its bounds for tasks, whose methods may be called through a pointer. -/
def publicTrait (declaration : Trait) (bounds : List (List Token)) : List Token :=
  Token.words "#" ++ bracket (Token.words ":: restwire :: __private :: async_trait") ++
    (bounds.foldl Trait.withBound declaration).tokens

/-- The bounds that every trait is given. -/
def taskBounds : List (List Token) :=
  [Token.words ":: core :: marker :: Send", Token.words ":: core :: marker :: Sync"]

/-- A documentation attribute. -/
def documented (text : String) : List Token :=
  Token.words "#" ++ bracket (Token.words "doc =" ++ quotedText text)

/-- The type of shared pointers. -/
def sharedPointer : List Token := Token.words ":: std :: sync :: Arc"

/-- The type of shared pointers to proxies. -/
def sharedProxy : List Token :=
  sharedPointer ++ Token.words "< :: restwire :: client :: ClientProxy >"

/-- A list with the items. -/
def vector (items : List (List Token)) : List Token :=
  Token.words ":: std :: vec !" ++ bracket (Token.separated ',' items)

/-- An owned copy of a text. -/
def ownedText (text : String) : List Token :=
  Token.words ":: std :: string :: String :: from" ++ paren (quotedText text)

end Interface

open Interface

/-! ## Routes -/

/-- The tokens that add a role to a parameter. -/
def ParamRole.tokens (role : ParamRole) : List Token :=
  let kind := Token.words ":: restwire :: binding :: ParamRole ::"
  Token.words ". role" ++ paren (kind ++
    match role with
    | .path name => Token.words "PathVariable" ++ paren (ownedText name)
    | .query key => Token.words "QueryParam" ++ paren (ownedText key)
    | .body => Token.words "Body")

/-- The tokens that add a parameter to a route. -/
def ParamDecl.tokens (param : ParamDecl) : List Token :=
  Token.words ". param" ++ paren
    (Token.words ":: restwire :: binding :: ParamDecl :: new" ++ paren (quotedText param.name) ++
      param.roles.flatMap ParamRole.tokens)

/-- The name of a kind of qualifiers in code. -/
def QualifierKind.title : QualifierKind → String
  | consumes => "Consumes"
  | produces => "Produces"
  | headers => "Headers"
  | params => "Params"

/-- The tokens that add a qualifier to a route. -/
def RouteQualifier.tokens (qualifier : RouteQualifier) : List Token :=
  Token.words ". qualifier" ++ paren
    (Token.words ":: restwire :: binding :: RouteQualifier ::" ++
      [.name qualifier.kind.title] ++ paren (ownedText qualifier.value))

/-- The tokens that add a verb to a route. -/
def Verb.tokens (verb : Verb) : List Token :=
  Token.words ". verb" ++ paren
    (Token.words ":: restwire :: __private :: http :: Method ::" ++ [.name verb.name])

/-- The tokens that add a path to a route. -/
def pathTokens (path : String) : List Token :=
  Token.words ". path" ++ paren (quotedText path)

/-- The tokens of the declaration of a route. -/
def RouteDecl.tokens (route : RouteDecl) : List Token :=
  Token.words ":: restwire :: binding :: RouteDecl :: new" ++ paren (quotedText route.method) ++
    route.verbs.flatMap Verb.tokens ++ route.paths.flatMap pathTokens ++
    route.params.flatMap ParamDecl.tokens ++ route.qualifiers.flatMap RouteQualifier.tokens

/-! ## Clients -/

namespace ClientMethod

/-- The function from errors of calls to the errors of a method. -/
def conversion (method : ClientMethod) : List Token :=
  Token.words "<" ++ method.failure ++
    Token.words "as :: core :: convert :: From < :: restwire :: client :: ClientError >> :: from"

/-- The argument that a parameter is handed on as. -/
def argument (method : ClientMethod) (param : ClientParam) : List Token :=
  Token.words ":: restwire :: client :: to_argument" ++
    paren (Token.words "&" ++ [.name param.name]) ++
    Token.words ". map_err" ++ paren method.conversion ++ Token.words "?"

/-- The body of a method: a call of the method of the same name with all arguments. -/
def body (method : ClientMethod) : List Token :=
  Token.words "let __restwire_args =" ++ vector (method.params.map method.argument) ++
    Token.words "; self . proxy . invoke :: <" ++ method.output ++ Token.words ">" ++
    paren (quotedText method.name ++ Token.words ", __restwire_args") ++
    Token.words ". await . map_err" ++ paren method.conversion

end ClientMethod

namespace ClientInterface

/-- The name of the type of the client. -/
def clientName (interface : ClientInterface) : List Token :=
  nameWith interface.declaration.name "Client"

/-- The type of the client. -/
def clientType (interface : ClientInterface) : List Token :=
  documented ("Client for [\x60" ++ interface.declaration.name ++
      "\x60] generated by \x60#[restwire::client]\x60.") ++
    Token.words "#" ++ bracket (Token.words "derive" ++ paren (Token.words "Clone")) ++
    interface.declaration.visibility ++ Token.words "struct" ++ interface.clientName ++
    brace (Token.words "proxy :" ++ sharedProxy ++ Token.words ",")

/-- How the client is bound: its interface, its routes and its proxy. -/
def binding (interface : ClientInterface) : List Token :=
  Token.words "impl :: restwire :: client :: BoundClient for" ++ interface.clientName ++ brace
    (Token.words "const INTERFACE : & \x27static str =" ++ quotedText interface.name ++
      Token.words "; fn routes" ++ paren [] ++
      Token.words "-> :: std :: vec :: Vec < :: restwire :: binding :: RouteDecl >" ++
      brace (vector (interface.routes.map RouteDecl.tokens)) ++
      Token.words "fn from_proxy" ++ paren (Token.words "proxy :" ++ sharedProxy) ++
      Token.words "-> Self" ++ brace (Token.words "Self" ++ brace (Token.words "proxy")) ++
      Token.words "fn proxy" ++ paren (Token.words "& self") ++ Token.words "-> &" ++
      sharedProxy ++ brace (Token.words "& self . proxy"))

/-- The methods: each with the signature of the trait's method in the same place. -/
def forwards (interface : ClientInterface) : List Token :=
  (interface.declaration.methods.zip interface.methods).flatMap fun (declared, method) =>
    declared.signature.tokens ++ brace method.body

/-- The implementation of the trait. -/
def implementation (interface : ClientInterface) : List Token :=
  Token.words "#" ++ bracket (Token.words ":: restwire :: __private :: async_trait") ++
    Token.words "impl" ++ [.name interface.declaration.name] ++ Token.words "for" ++
    interface.clientName ++ brace interface.forwards

/-- How the client is shown, in one of two ways: as its interface. -/
def display (interface : ClientInterface) (way : String) : List Token :=
  Token.words "impl :: core :: fmt ::" ++ [.name way] ++ Token.words "for" ++
    interface.clientName ++ brace
    (Token.words "fn fmt" ++
      paren (Token.words "& self , f : & mut :: core :: fmt :: Formatter < \x27_ >") ++
      Token.words "-> :: core :: fmt :: Result" ++
      brace (Token.words "f . write_str" ++ paren (quotedText interface.name)))

/-- How clients are compared and hashed: by their proxies. -/
def identity (interface : ClientInterface) : List Token :=
  Token.words "impl :: core :: cmp :: PartialEq for" ++ interface.clientName ++ brace
    (Token.words "fn eq" ++ paren (Token.words "& self , other : & Self") ++
      Token.words "-> bool" ++ brace (sharedPointer ++ Token.words ":: ptr_eq" ++
        paren (Token.words "& self . proxy , & other . proxy"))) ++
    Token.words "impl :: core :: cmp :: Eq for" ++ interface.clientName ++ brace [] ++
    Token.words "impl :: core :: hash :: Hash for" ++ interface.clientName ++ brace
    (Token.words "fn hash < H : :: core :: hash :: Hasher >" ++
      paren (Token.words "& self , state : & mut H") ++
      brace (Token.words ":: core :: ptr :: hash" ++ paren
        (sharedPointer ++ Token.words ":: as_ptr" ++ paren (Token.words "& self . proxy") ++
          Token.words ", state")))

/-- The code that the interface stands for. -/
def expansion (interface : ClientInterface) : List Token :=
  publicTrait interface.declaration taskBounds ++ interface.clientType ++ interface.binding ++
    interface.implementation ++ interface.display "Display" ++ interface.display "Debug" ++
    interface.identity

end ClientInterface

/-! ## Services -/

namespace ServiceMethod

/-- The call of a method of the implementation. -/
def call (method : ServiceMethod) (param : String) : List Token :=
  Token.words "__restwire_service ." ++ [.name method.name] ++ paren [.name param] ++
    Token.words ". await"

/-- What a call ends with, as a result. -/
def resultOf (method : ServiceMethod) (param : String) : List Token :=
  let call := method.call param
  let result := Token.words ":: core :: result :: Result :: <"
  let error := Token.words ", :: restwire :: server :: ServiceError > :: Ok"
  match method.output with
  | .fallible _ _ => call
  | .plain _ => result ++ Token.words "_" ++ error ++ paren call
  | .unit => call ++ Token.words ";" ++ result ++ paren [] ++ error ++ paren (paren [])

/-- A copy of the pointer to the implementation, as a local name. -/
def copied (pointer : String) : List Token :=
  Token.words "let __restwire_service =" ++ sharedPointer ++ Token.words ":: clone" ++
    paren (Token.words pointer) ++ Token.words ";"

/-- The tokens of the declaration of a method. -/
def tokens (method : ServiceMethod) : List Token :=
  let declaration := Token.words ":: restwire :: server :: RpcMethodDecl ::"
  match method.params with
  | [(param, type)] =>
    brace (copied "& self . service" ++ declaration ++ Token.words "new" ++ paren
      (quotedText method.wireName ++ Token.words ", move |" ++ [.name param] ++ Token.words ":" ++
        type ++ Token.words "|" ++ brace
        (copied "& __restwire_service" ++ Token.words "async move" ++
          brace (method.resultOf param))))
  | params =>
    declaration ++ Token.words "unsupported" ++ paren
      (quotedText method.wireName ++ Token.words "," ++
        [.literal (Text.decimal params.length ++ "usize")])

end ServiceMethod

namespace ServiceInterface

/-- The name of the type that publishes an implementation. -/
def adapterName (interface : ServiceInterface) : List Token :=
  nameWith interface.declaration.name "Rpc"

/-- The head of a block about the adapter of a type with bounds, and the block. -/
def block (interface : ServiceInterface) (bounds subject members : List Token) : List Token :=
  Token.words "impl < T :" ++ bounds ++ Token.words ">" ++ subject ++ interface.adapterName ++
    Token.words "< T >" ++ brace members

/-- The type that publishes an implementation. -/
def adapterType (interface : ServiceInterface) : List Token :=
  documented ("Exposes a [\x60" ++ interface.declaration.name ++
      "\x60] implementation through \x60RpcService\x60.") ++
    interface.declaration.visibility ++ Token.words "struct" ++ interface.adapterName ++
    Token.words "< T : ? Sized >" ++
    brace (Token.words "service :" ++ sharedPointer ++ Token.words "< T > ,")

/-- How an adapter is made and copied. -/
def constructors (interface : ServiceInterface) : List Token :=
  let declared : List Token := [.name interface.declaration.name]
  let made (pointer : List Token) : List Token :=
    brace (Token.words "Self" ++ brace (Token.words "service" ++ pointer))
  interface.block declared []
      (Token.words "pub fn new" ++ paren (Token.words "service : T") ++ Token.words "-> Self" ++
        made (Token.words ":" ++ sharedPointer ++ Token.words ":: new" ++
          paren (Token.words "service") ++ Token.words ",")) ++
    interface.block (declared ++ Token.words "+ ? Sized") []
      (Token.words "pub fn from_arc" ++
        paren (Token.words "service :" ++ sharedPointer ++ Token.words "< T >") ++
        Token.words "-> Self" ++ made []) ++
    interface.block (Token.words "? Sized") (Token.words ":: core :: clone :: Clone for")
      (Token.words "fn clone" ++ paren (Token.words "& self") ++ Token.words "-> Self" ++
        made (Token.words ":" ++ sharedPointer ++ Token.words ":: clone" ++
          paren (Token.words "& self . service") ++ Token.words ","))

/-- How an adapter publishes its interface and its methods. -/
def publication (interface : ServiceInterface) : List Token :=
  interface.block ([.name interface.declaration.name] ++ Token.words "+ ? Sized")
    (Token.words ":: restwire :: server :: RpcService for")
    (Token.words "fn interface" ++ paren (Token.words "& self") ++
      Token.words "-> & \x27static str" ++ brace (quotedText interface.name) ++
      Token.words "fn methods" ++ paren (Token.words "& self") ++
      Token.words "-> :: std :: vec :: Vec < :: restwire :: server :: RpcMethodDecl >" ++
      brace (vector (interface.methods.map ServiceMethod.tokens)))

/-- The code that the interface stands for. -/
def expansion (interface : ServiceInterface) : List Token :=
  publicTrait interface.declaration (taskBounds ++ [Token.words "\x27static"]) ++
    interface.adapterType ++ interface.constructors ++ interface.publication

end ServiceInterface

end HttpRpc
