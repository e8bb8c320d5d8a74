import HttpRpc.Interface.Expansion
import HttpRpc.Proofs.Source.Literal
import Mathlib.Data.List.Forall2

/-!
# What generated code means

The generated declaration of a route is a value on which one method after another is called. Read as
such (`RouteDecl.ofTokens?`), it is the route that it was generated from (`ofTokens?_tokens`). The
generated body of a method is a call with a list of arguments (`ForwardedCall.ofTokens?`), which are
the parameters in their order (`ofTokens?_body`).
-/

namespace HttpRpc

open Source Interface

namespace Interface

/-! ## Paths and calls -/

/-- The names of a path with a double colon before each of them, and the tokens behind it. -/
def pathNames : List Token → List String × List Token
  | .mark ':' _ :: .mark ':' _ :: .name name :: rest =>
    (name :: (pathNames rest).1, (pathNames rest).2)
  | tokens => ([], tokens)

/-- The methods that are called one after another, each with the tokens of its argument. -/
def calls? : List Token → Option (List (String × List Token))
  | [] => some []
  | .mark '.' _ :: .name method :: .group .paren argument :: rest =>
    (calls? rest).map ((method, argument) :: ·)
  | _ => none

/-- The text that is the only argument. -/
def textArgument? : List Token → Option String
  | [token] => token.text?
  | _ => none

/-- The text of which an owned copy is made. -/
def ownedText? (tokens : List Token) : Option String :=
  match pathNames tokens with
  | (["std", "string", "String", "from"], [.group .paren argument]) => textArgument? argument
  | _ => none

/-- A text in quotes is read as that text. -/
theorem textArgument?_quotedText (text : String) : textArgument? (quotedText text) = some text :=
  Literal.text?_ofText text

/-- A copy of a text is read as that text. -/
theorem ownedText?_ownedText (text : String) : ownedText? (ownedText text) = some text :=
  textArgument?_quotedText text

/-- The tokens call a method with an argument that is read as the item. -/
def Calls {α : Type} (method : String) (read : List Token → Option α) (tokens : List Token)
    (item : α) : Prop :=
  ∃ argument, tokens = [.mark '.' false, .name method, .group .paren argument] ∧
    read argument = some item

section

variable {α σ : Type} {method : String} {read : List Token → Option α} {write : α → List Token}
  {items : List α}

/-- The calls of a method for items are read one after another. -/
theorem calls?_flatMap (h : ∀ item ∈ items, Calls method read (write item) item)
    (rest : List Token) :
    ∃ arguments, List.Forall₂ (fun argument item => read argument = some item) arguments items ∧
      calls? (items.flatMap write ++ rest) =
        (calls? rest).map (arguments.map (fun argument => (method, argument)) ++ ·) := by
  induction items with
  | nil => exact ⟨[], .nil, by simp⟩
  | cons item items ih =>
      rw [List.forall_mem_cons] at h
      obtain ⟨⟨argument, hwrite, hread⟩, hitems⟩ := h
      obtain ⟨arguments, harguments, hcalls⟩ := ih hitems
      refine ⟨argument :: arguments, .cons hread harguments, ?_⟩
      rw [List.flatMap_cons, hwrite, List.append_assoc, List.cons_append, List.cons_append,
        List.cons_append, List.nil_append, calls?, hcalls, Option.map_map]
      rfl

/-- The calls of a method that adds an item at the end add all items in order. -/
theorem foldlM_calls {call? : σ → String × List Token → Option σ} {add : σ → List α → σ}
    (hcall : ∀ state argument,
      call? state (method, argument) = (read argument).map fun item => add state [item])
    (hnil : ∀ state, add state [] = state)
    (hadd : ∀ state first more, add (add state first) more = add state (first ++ more))
    {arguments : List (List Token)}
    (h : List.Forall₂ (fun argument item => read argument = some item) arguments items)
    (state : σ) :
    (arguments.map fun argument => (method, argument)).foldlM call? state =
      some (add state items) := by
  induction h generalizing state with
  | nil =>
      rw [hnil]
      rfl
  | @cons argument item arguments items hread _ ih =>
      rw [List.map_cons, List.foldlM_cons, hcall, hread, Option.map_some]
      exact (ih _).trans (by rw [hadd]; rfl)

/-- A value on which a method is called for each of some items, and then others are called, is one
with all items added on which the others are called. -/
theorem bind_foldlM_calls (call? : σ → String × List Token → Option σ) (add : σ → List α → σ)
    (hwrite : ∀ item ∈ items, Calls method read (write item) item)
    (hcall : ∀ state argument,
      call? state (method, argument) = (read argument).map fun item => add state [item])
    (hnil : ∀ state, add state [] = state)
    (hadd : ∀ state first more, add (add state first) more = add state (first ++ more))
    (rest : List Token) (state : σ) :
    ((calls? (items.flatMap write ++ rest)).bind fun calls => calls.foldlM call? state) =
      (calls? rest).bind fun calls => calls.foldlM call? (add state items) := by
  obtain ⟨arguments, harguments, hcalls⟩ := calls?_flatMap hwrite rest
  rw [hcalls, Option.bind_map]
  refine congrArg (Option.bind (calls? rest)) (funext fun calls => ?_)
  rw [Function.comp_apply, List.foldlM_append, foldlM_calls hcall hnil hadd harguments]
  rfl

end

end Interface

/-! ## Routes -/

/-- The role that the argument of a call adds. -/
def ParamRole.ofTokens? (tokens : List Token) : Option ParamRole :=
  match pathNames tokens with
  | (["restwire", "binding", "ParamRole", "PathVariable"], [.group .paren name]) =>
    (ownedText? name).map .path
  | (["restwire", "binding", "ParamRole", "QueryParam"], [.group .paren key]) =>
    (ownedText? key).map .query
  | (["restwire", "binding", "ParamRole", "Body"], []) => some .body
  | _ => none

/-- The tokens of a role add that role. -/
theorem ParamRole.calls_tokens (role : ParamRole) :
    Calls "role" ofTokens? role.tokens role := by
  cases role with
  | path name => exact ⟨_, rfl, congrArg (Option.map ParamRole.path) (ownedText?_ownedText name)⟩
  | query key => exact ⟨_, rfl, congrArg (Option.map ParamRole.query) (ownedText?_ownedText key)⟩
  | body => exact ⟨_, rfl, rfl⟩

namespace ParamDecl

/-- The parameter after a call of its method, which adds a role at the end. -/
def call? (param : ParamDecl) (call : String × List Token) : Option ParamDecl :=
  match call.1 with
  | "role" =>
    (ParamRole.ofTokens? call.2).map fun role => { param with roles := param.roles ++ [role] }
  | _ => none

/-- The parameter that the argument of a call adds: one of a name alone, on which its method is
called. -/
def ofTokens? (tokens : List Token) : Option ParamDecl :=
  match pathNames tokens with
  | (["restwire", "binding", "ParamDecl", "new"], .group .paren name :: rest) =>
    (textArgument? name).bind fun name =>
      (calls? rest).bind fun calls => calls.foldlM call? ⟨name, []⟩
  | _ => none

/-- The tokens of a parameter add that parameter. -/
theorem calls_tokens (param : ParamDecl) : Calls "param" ofTokens? param.tokens param := by
  obtain ⟨name, roles⟩ := param
  have hroles := bind_foldlM_calls call?
    (fun param more => { param with roles := param.roles ++ more })
    (fun role (_ : role ∈ roles) => role.calls_tokens) (fun _ _ => rfl)
    (fun _ => by rw [List.append_nil]) (fun _ _ _ => by rw [List.append_assoc]) [] ⟨name, []⟩
  refine ⟨_, rfl, ?_⟩
  rw [List.append_nil] at hroles
  show (textArgument? (quotedText name)).bind _ = _
  rw [textArgument?_quotedText, Option.bind_some]
  exact hroles

end ParamDecl

/-- The kinds of qualifiers. -/
def QualifierKind.all : List QualifierKind := [consumes, produces, headers, params]

namespace RouteQualifier

/-- The qualifier that the argument of a call adds. -/
def ofTokens? (tokens : List Token) : Option RouteQualifier :=
  match pathNames tokens with
  | (["restwire", "binding", "RouteQualifier", title], [.group .paren value]) =>
    (QualifierKind.all.find? fun kind => kind.title == title).bind fun kind =>
      (ownedText? value).map fun value => ⟨kind, value⟩
  | _ => none

/-- The tokens of a qualifier add that qualifier. -/
theorem calls_tokens (qualifier : RouteQualifier) :
    Calls "qualifier" ofTokens? qualifier.tokens qualifier := by
  obtain ⟨kind, value⟩ := qualifier
  have hkind : (QualifierKind.all.find? fun other => other.title == kind.title) = some kind := by
    cases kind <;> decide
  refine ⟨_, rfl, ?_⟩
  show (QualifierKind.all.find? fun other => other.title == kind.title).bind _ = _
  rw [hkind, Option.bind_some, ownedText?_ownedText]
  rfl

end RouteQualifier

/-- The verb that the argument of a call adds: one of those that are known. -/
def Verb.ofTokens? (tokens : List Token) : Option Verb :=
  match pathNames tokens with
  | (["restwire", "__private", "http", "Method", name], []) =>
    if RouteParts.knownVerbs.contains name then some ⟨name⟩ else none
  | _ => none

/-- The tokens of a known verb add that verb. -/
theorem Verb.calls_tokens {verb : Verb} (h : verb.name ∈ RouteParts.knownVerbs) :
    Calls "verb" ofTokens? verb.tokens verb :=
  ⟨_, rfl, if_pos (List.elem_eq_true_of_mem h)⟩

/-- The tokens of a path add that path. -/
theorem calls_pathTokens (path : String) : Calls "path" textArgument? (pathTokens path) path :=
  ⟨_, rfl, textArgument?_quotedText path⟩

namespace RouteDecl

/-- The route after a call of one of its methods, each of which adds something at the end. -/
def call? (route : RouteDecl) (call : String × List Token) : Option RouteDecl :=
  match call.1 with
  | "verb" => (Verb.ofTokens? call.2).map fun verb => { route with verbs := route.verbs ++ [verb] }
  | "path" => (textArgument? call.2).map fun path => { route with paths := route.paths ++ [path] }
  | "param" =>
    (ParamDecl.ofTokens? call.2).map fun param => { route with params := route.params ++ [param] }
  | "qualifier" =>
    (RouteQualifier.ofTokens? call.2).map fun qualifier =>
      { route with qualifiers := route.qualifiers ++ [qualifier] }
  | _ => none

/-- The route that tokens declare: one of a name alone, on which its methods are called. -/
def ofTokens? (tokens : List Token) : Option RouteDecl :=
  match pathNames tokens with
  | (["restwire", "binding", "RouteDecl", "new"], .group .paren name :: rest) =>
    (textArgument? name).bind fun name =>
      (calls? rest).bind fun calls => calls.foldlM call? ⟨name, [], [], [], []⟩
  | _ => none

/-- The tokens of a route whose verbs are known declare that route. -/
theorem ofTokens?_tokens {route : RouteDecl}
    (h : ∀ verb ∈ route.verbs, verb.name ∈ RouteParts.knownVerbs) :
    ofTokens? route.tokens = some route := by
  obtain ⟨method, verbs, paths, params, qualifiers⟩ := route
  have hverbs := bind_foldlM_calls call?
    (fun route more => { route with verbs := route.verbs ++ more })
    (fun verb hverb => Verb.calls_tokens (h verb hverb)) (fun _ _ => rfl)
    (fun _ => by rw [List.append_nil]) (fun _ _ _ => by rw [List.append_assoc])
  have hpaths := bind_foldlM_calls call?
    (fun route more => { route with paths := route.paths ++ more })
    (fun path (_ : path ∈ paths) => calls_pathTokens path) (fun _ _ => rfl)
    (fun _ => by rw [List.append_nil]) (fun _ _ _ => by rw [List.append_assoc])
  have hparams := bind_foldlM_calls call?
    (fun route more => { route with params := route.params ++ more })
    (fun param (_ : param ∈ params) => param.calls_tokens) (fun _ _ => rfl)
    (fun _ => by rw [List.append_nil]) (fun _ _ _ => by rw [List.append_assoc])
  have hqualifiers := bind_foldlM_calls call?
    (fun route more => { route with qualifiers := route.qualifiers ++ more })
    (fun qualifier (_ : qualifier ∈ qualifiers) => qualifier.calls_tokens) (fun _ _ => rfl)
    (fun _ => by rw [List.append_nil]) (fun _ _ _ => by rw [List.append_assoc]) []
  rw [tokens, List.append_assoc, List.append_assoc, List.append_assoc, List.append_assoc]
  show (textArgument? (quotedText method)).bind _ = _
  rw [textArgument?_quotedText, Option.bind_some]
  refine (hverbs _ _).trans ((hpaths _ _).trans ((hparams _ _).trans ?_))
  rw [List.append_nil] at hqualifiers
  exact hqualifiers _

end RouteDecl

/-! ## Calls that are handed on -/

namespace Interface

/-- The tokens behind words, if tokens start with these. -/
def behind? : List Token → List Token → Option (List Token)
  | [], tokens => some tokens
  | .name word :: words, .name text :: rest => if word = text then behind? words rest else none
  | .mark c _ :: words, .mark d _ :: rest => if c = d then behind? words rest else none
  | _, _ => none

/-- Whether the token is a word or a mark. -/
def isPlain : Token → Bool
  | .name _ | .mark _ _ => true
  | .literal _ | .group _ _ => false

/-- Tokens that start with words are read behind these. -/
theorem behind?_append {words : List Token} (h : words.all isPlain = true) (rest : List Token) :
    behind? words (words ++ rest) = some rest := by
  induction words with
  | nil => rfl
  | cons word words ih =>
      rw [List.all_cons, Bool.and_eq_true] at h
      cases word with
      | name text => exact (if_pos rfl).trans (ih h.2)
      | mark c joined => exact (if_pos rfl).trans (ih h.2)
      | literal text => cases h.1
      | group d tokens => cases h.1

/-- The rows of tokens between commas. -/
def splitCommas : List Token → List (List Token)
  | [] => [[]]
  | token :: rest =>
    if token.isMark ',' then [] :: splitCommas rest
    else match splitCommas rest with
      | [] => [[token]]
      | first :: more => (token :: first) :: more

/-- The items of a list with commas between neighbours. -/
def listItems (tokens : List Token) : List (List Token) :=
  if tokens.isEmpty then [] else splitCommas tokens

/-- The variable that is handed on as an argument. -/
def handedOn? (tokens : List Token) : Option String :=
  match pathNames tokens with
  | (["restwire", "client", "to_argument"],
      [.group .paren [.mark '&' _, .name argument], .mark '.' _, .name "map_err", .group .paren _,
        .mark '?' _]) => some argument
  | _ => none

/-- A row without commas in front of one is the first of the rows. -/
theorem splitCommas_append {item : List Token} (h : ∀ token ∈ item, token.isMark ',' = false)
    (joined : Bool) (rest : List Token) :
    splitCommas (item ++ .mark ',' joined :: rest) = item :: splitCommas rest := by
  induction item with
  | nil => rfl
  | cons token item ih =>
      rw [List.forall_mem_cons] at h
      rw [List.cons_append, splitCommas, if_neg (by simp [h.1]), ih h.2]

/-- A row without commas is the only one. -/
theorem splitCommas_eq {item : List Token} (h : ∀ token ∈ item, token.isMark ',' = false) :
    splitCommas item = [item] := by
  induction item with
  | nil => rfl
  | cons token item ih =>
      rw [List.forall_mem_cons] at h
      rw [splitCommas, if_neg (by simp [h.1]), ih h.2]

/-- Items without commas are found between commas. -/
theorem listItems_separated {items : List (List Token)} (hne : ∀ item ∈ items, item ≠ [])
    (h : ∀ item ∈ items, ∀ token ∈ item, token.isMark ',' = false) :
    listItems (Token.separated ',' items) = items := by
  have hsplit (first : List Token) (more : List (List Token))
      (h : ∀ item ∈ first :: more, ∀ token ∈ item, token.isMark ',' = false) :
      splitCommas (Token.separated ',' (first :: more)) = first :: more := by
    induction more generalizing first with
    | nil => exact splitCommas_eq (h first List.mem_cons_self)
    | cons next more ih =>
        rw [List.forall_mem_cons] at h
        rw [Token.separated, splitCommas_append h.1, ih next h.2]
  cases items with
  | nil => rfl
  | cons first more =>
      have hfirst : (Token.separated ',' (first :: more)).isEmpty = false := by
        cases more with
        | nil => simpa [Token.separated] using hne first List.mem_cons_self
        | cons next more => simp [Token.separated]
      rw [listItems, hfirst, if_neg Bool.false_ne_true, hsplit first more h]

end Interface

/-- A call of a method through the proxy, with the variables that are handed on as its arguments. -/
structure ForwardedCall where
  method : String
  arguments : List String
deriving DecidableEq, Repr

/-- The call that the body of a method makes. The type of its result stands in front of the last
seven tokens. -/
def ForwardedCall.ofTokens? (tokens : List Token) : Option ForwardedCall :=
  let start := Token.words "let __restwire_args =" ++ Token.words ":: std :: vec !"
  (behind? start tokens).bind fun rest =>
    match rest with
    | .group .bracket items :: rest =>
      (behind? (Token.words "; self . proxy . invoke :: <") rest).bind fun rest =>
        match rest.drop (rest.length - 7) with
        | [.mark '>' _, .group .paren [method, .mark ',' _, .name "__restwire_args"], .mark '.' _,
            .name "await", .mark '.' _, .name "map_err", .group .paren _] =>
          method.text?.bind fun method =>
            ((listItems items).mapM handedOn?).map fun arguments => ⟨method, arguments⟩
        | _ => none
    | _ => none

/-- The body of a method calls the method of its name with its parameters in their order. -/
theorem ForwardedCall.ofTokens?_body (method : ClientMethod) :
    ofTokens? method.body = some ⟨method.name, method.params.map ClientParam.name⟩ := by
  let items := method.params.map method.argument
  let tail := Token.words ">" ++
    paren (quotedText method.name ++ Token.words ", __restwire_args") ++
      Token.words ". await . map_err" ++ paren method.conversion
  have hbody : method.body =
      (Token.words "let __restwire_args =" ++ Token.words ":: std :: vec !") ++
        .group .bracket (Token.separated ',' items) ::
          (Token.words "; self . proxy . invoke :: <" ++ (method.output ++ tail)) := by
    simp only [ClientMethod.body, vector, bracket, items, tail, List.append_assoc,
      List.cons_append, List.nil_append]
  have htail : (method.output ++ tail).drop ((method.output ++ tail).length - 7) = tail := by
    have hlength : tail.length = 7 := rfl
    rw [List.length_append, hlength, Nat.add_sub_cancel, List.drop_left]
  have hitems : listItems (Token.separated ',' items) = items := by
    refine listItems_separated ?_ ?_ <;> rw [List.forall_mem_map]
    · intro param _ hempty
      cases hempty
    · intro param _
      have hcommas : (method.argument param).any (Token.isMark ',') = false := rfl
      simpa using List.any_eq_false.1 hcommas
  have harguments : items.mapM handedOn? = some (method.params.map ClientParam.name) := by
    have hone (param : ClientParam) : handedOn? (method.argument param) = some param.name := rfl
    show (method.params.map method.argument).mapM handedOn? = _
    induction method.params with
    | nil => rfl
    | cons param params ih => rw [List.map_cons, List.mapM_cons, hone, ih]; rfl
  rw [hbody, ofTokens?, behind?_append (by decide), Option.bind_some]
  dsimp only
  rw [behind?_append (by decide), Option.bind_some, htail]
  show (Literal.ofText method.name).text?.bind _ = _
  rw [Literal.text?_ofText, Option.bind_some, hitems, harguments]
  rfl

end HttpRpc
