import HttpRpc.Proofs.Interface.Arguments
import HttpRpc.Proofs.Interface.Generated

/-!
# Routes as they are written

The attributes of a method write a route: verbs, paths and qualifiers, in three forms
(`RouteParts.WrittenBy`). A method that is accepted declares the route that its attributes write,
unless one that is named for a verb has a path assigned to it: that path is dropped. The main
statement is `ClientMethod.route_verbatim_iff`.
-/

namespace HttpRpc

open Source Interface

/-! ## What is written -/

/-- A path is the one name if it is made of it. -/
theorem Source.isPath_eq_true_iff {path : List Token} {name : String} :
    isPath path name = true ↔ path = [.name name] := by
  unfold isPath
  split
  · simp
  · next hother =>
      refine iff_of_false Bool.false_ne_true ?_
      rintro rfl
      exact hother name rfl

/-- What an assignment in a route says. -/
inductive Interface.Assignment.Says : Assignment → RouteParts → Prop where
  | method {token : Token} {text : String} (htext : token.text? = some text) :
      Says ⟨[.name "method"], [token]⟩ ⟨[⟨text.toUpper⟩], [], []⟩
  | path {token : Token} {text : String} (htext : token.text? = some text) :
      Says ⟨[.name "path"], [token]⟩ ⟨[], [text], []⟩
  | qualifier {kind : QualifierKind} {token : Token} {text : String}
      (htext : token.text? = some text) :
      Says ⟨[.name kind.name], [token]⟩ ⟨[], [], [⟨kind, text⟩]⟩

namespace RouteParts

/-- Whether the attribute is about a route. -/
def isRouting (attr : Attribute) : Bool :=
  (shortVerb? attr).isSome || attr.isNamed "route"

/-- What an attribute writes about a route. One that is named for a verb writes the verb, and the
path that stands in parentheses or is assigned. -/
inductive WrittenBy (attr : Attribute) : RouteParts → Prop where
  | verb {verb : Verb} (hverb : shortVerb? attr = some verb)
      (harguments : attr.clause.arguments = .none) : WrittenBy attr ⟨[verb], [], []⟩
  | path {verb : Verb} {d : Delimiter} {token : Token} {path : String}
      (hverb : shortVerb? attr = some verb) (harguments : attr.clause.arguments = .list d [token])
      (htext : token.text? = some path) : WrittenBy attr ⟨[verb], [path], []⟩
  | assigned {verb : Verb} {token : Token} {path : String}
      (hverb : shortVerb? attr = some verb) (harguments : attr.clause.arguments = .assigned [token])
      (htext : token.text? = some path) : WrittenBy attr ⟨[verb], [path], []⟩
  | noPath {verb : Verb} {value : List Token} (hverb : shortVerb? attr = some verb)
      (harguments : attr.clause.arguments = .assigned value)
      (htext : ∀ token, value = [token] → token.text? = none) : WrittenBy attr ⟨[verb], [], []⟩
  | route {d : Delimiter} {tokens : List Token} {entries : List Assignment}
      {parts : List RouteParts} (hroute : attr.isNamed "route" = true)
      (harguments : attr.clause.arguments = .list d tokens)
      (hentries : assignments tokens = .ok entries)
      (hsaying : List.Forall₂ Assignment.Says entries parts) :
      WrittenBy attr (parts.foldr append empty)

/-- What attributes write about a route, in their order. -/
inductive Written : List Attribute → RouteParts → Prop where
  | nil : Written [] empty
  | other {attr : Attribute} {rest : List Attribute} {parts : RouteParts}
      (hother : isRouting attr = false) (hrest : Written rest parts) : Written (attr :: rest) parts
  | routing {attr : Attribute} {rest : List Attribute} {first parts : RouteParts}
      (hfirst : WrittenBy attr first) (hrest : Written rest parts) :
      Written (attr :: rest) (first.append parts)

/-- An attribute for routes is named for no verb. -/
theorem shortVerb?_of_route {attr : Attribute} (h : attr.isNamed "route" = true) :
    shortVerb? attr = none := by
  obtain ⟨inner, path, arguments⟩ := attr
  obtain rfl : path = [.name "route"] := isPath_eq_true_iff.1 h
  rfl

/-- An attribute for routes with texts assigned to keys writes what these say, in their order. -/
theorem writtenBy_spelled {attr : Attribute} {d : Delimiter} {tokens : List Token}
    {entries : List (String × String)} {parts : List RouteParts}
    (hroute : attr.isNamed "route" = true) (harguments : attr.clause.arguments = .list d tokens)
    (hspelled : Spells entries tokens)
    (hsaying : List.Forall₂ (fun entry parts => (entryOf entry).Says parts) entries parts) :
    WrittenBy attr (parts.foldr append empty) :=
  .route hroute harguments (assignments_spelled hspelled) (List.forall₂_map_left_iff.2 hsaying)

/-- An attribute that is named for a verb has a path assigned to it. -/
def AssignsPath (attr : Attribute) : Prop :=
  (shortVerb? attr).isSome ∧ ∃ token path, attr.clause.arguments = .assigned [token] ∧
    token.text? = some path

end RouteParts

/-! ## What is read -/

namespace RouteParts

/-- The verbs are known. -/
def Known (parts : RouteParts) : Prop :=
  ∀ verb ∈ parts.verbs, verb.name ∈ knownVerbs

/-- What is said first and after has known verbs if both have. -/
theorem Known.append {first second : RouteParts} (hfirst : first.Known) (hsecond : second.Known) :
    (first.append second).Known :=
  List.forall_mem_append.2 ⟨hfirst, hsecond⟩

/-- An assignment is read as what it says, provided that it says no unknown verb. -/
theorem ofAssignment_eq_ok_iff {assignment : Assignment} {parts : RouteParts} :
    ofAssignment assignment = .ok parts ↔ assignment.Says parts ∧ parts.Known := by
  obtain ⟨path, value⟩ := assignment
  constructor
  · intro h
    rw [ofAssignment, bind_eq_ok] at h
    obtain ⟨text, hvalue, hparts⟩ := h
    obtain ⟨token, rfl, htext⟩ := textOf_eq_ok_iff.1 hvalue
    have hunnamed {parts : RouteParts} (hverbs : parts.verbs = []) : parts.Known := by
      rw [Known, hverbs]
      exact List.forall_mem_nil _
    have hqualifier (kind : QualifierKind) (hpath : isPath path kind.name = true)
        (h : Except.ok (ε := InterfaceError) ⟨[], [], [⟨kind, text⟩]⟩ = .ok parts) :
        Assignment.Says ⟨path, [token]⟩ parts ∧ parts.Known := by
      obtain rfl := isPath_eq_true_iff.1 hpath
      rw [← Except.ok.inj h]
      exact ⟨.qualifier htext, hunnamed rfl⟩
    dsimp only at hparts
    split at hparts
    · next hpath =>
        obtain rfl := isPath_eq_true_iff.1 hpath
        split at hparts
        · next hknown =>
            cases hparts
            exact ⟨.method htext, List.forall_mem_singleton.2 (List.mem_of_elem_eq_true hknown)⟩
        · cases hparts
    split at hparts
    · next hpath =>
        obtain rfl := isPath_eq_true_iff.1 hpath
        cases hparts
        exact ⟨.path htext, hunnamed rfl⟩
    split at hparts
    · next hpath => exact hqualifier .consumes hpath hparts
    split at hparts
    · next hpath => exact hqualifier .produces hpath hparts
    split at hparts
    · next hpath => exact hqualifier .headers hpath hparts
    split at hparts
    · next hpath => exact hqualifier .params hpath hparts
    · cases hparts
  · rintro ⟨hsaying, hknown⟩
    have htextOf {token : Token} {text : String} (htext : token.text? = some text) :
        textOf [token] = .ok text :=
      textOf_eq_ok_iff.2 ⟨token, rfl, htext⟩
    cases hsaying with
    | method htext =>
        refine bind_eq_ok.2 ⟨_, htextOf htext, ?_⟩
        exact if_pos (List.elem_eq_true_of_mem (hknown _ List.mem_cons_self))
    | path htext => exact bind_eq_ok.2 ⟨_, htextOf htext, rfl⟩
    | @qualifier kind _ _ htext =>
        refine bind_eq_ok.2 ⟨_, htextOf htext, ?_⟩
        cases kind <;> rfl

/-- An assignment is read as nothing else than what it says. -/
theorem eq_of_saying {assignment : Assignment} {written read : RouteParts}
    (hwritten : assignment.Says written) (h : ofAssignment assignment = .ok read) :
    read = written := by
  rw [ofAssignment, bind_eq_ok] at h
  obtain ⟨text, hvalue, h⟩ := h
  have htextOf {token : Token} {other : String} (htext : token.text? = some other)
      (hvalue : textOf [token] = .ok text) : text = other := by
    rw [textOf_eq_ok_iff.2 ⟨token, rfl, htext⟩] at hvalue
    exact (Except.ok.inj hvalue).symm
  cases hwritten with
  | method htext =>
      obtain rfl := htextOf htext hvalue
      change (if knownVerbs.contains text.toUpper then Except.ok ⟨[⟨text.toUpper⟩], [], []⟩
        else .error (InterfaceError.unknownVerb text)) = .ok read at h
      split at h
      · exact (Except.ok.inj h).symm
      · cases h
  | path htext =>
      obtain rfl := htextOf htext hvalue
      exact (Except.ok.inj h).symm
  | @qualifier kind _ _ htext =>
      obtain rfl := htextOf htext hvalue
      cases kind <;> exact (Except.ok.inj h).symm

/-- Assignments are read as what they say, in their order. -/
theorem ofAssignments_eq_ok {entries : List Assignment} {read : RouteParts}
    (h : ofAssignments entries = .ok read) :
    read.Known ∧ ∃ parts, List.Forall₂ Assignment.Says entries parts := by
  induction entries generalizing read with
  | nil =>
      cases h
      exact ⟨List.forall_mem_nil _, [], .nil⟩
  | cons first rest ih =>
      rw [ofAssignments, bind_eq_ok] at h
      obtain ⟨parts, hfirst, h⟩ := h
      obtain ⟨more, hrest, h⟩ := bind_eq_ok.1 h
      cases h
      obtain ⟨hsaying, hknown⟩ := ofAssignment_eq_ok_iff.1 hfirst
      obtain ⟨hmore, others, hothers⟩ := ih hrest
      exact ⟨hknown.append hmore, parts :: others, .cons hsaying hothers⟩

/-- Assignments are read as nothing else than what they say. -/
theorem eq_of_forall₂_saying {entries : List Assignment} {parts : List RouteParts}
    {read : RouteParts} (hparts : List.Forall₂ Assignment.Says entries parts)
    (h : ofAssignments entries = .ok read) : read = parts.foldr append empty := by
  induction hparts generalizing read with
  | nil => exact (Except.ok.inj h).symm
  | cons hsaying _ ih =>
      rw [ofAssignments, bind_eq_ok] at h
      obtain ⟨first, hfirst, h⟩ := h
      obtain ⟨more, hrest, h⟩ := bind_eq_ok.1 h
      cases h
      rw [eq_of_saying hsaying hfirst, ih hrest, List.foldr_cons]

/-! ## Attributes -/

variable {attr : Attribute} {attrs kept : List Attribute} {read written : RouteParts}

/-- The verbs that have an attribute of their own are known. -/
theorem mem_knownVerbs_of_shortVerb? {verb : Verb} (h : shortVerb? attr = some verb) :
    verb.name ∈ knownVerbs := by
  have hshort : ∀ entry ∈ shortVerbs, entry.2.name ∈ knownVerbs := by decide
  obtain ⟨entry, hentry, rfl⟩ := Option.map_eq_some_iff.1 h
  exact hshort entry (List.mem_of_find?_eq_some hentry)

/-- An attribute that is read as nothing about a route is about something else. -/
theorem isRouting_of_ofAttribute? {found : Option RouteParts} (h : ofAttribute? attr = .ok found) :
    found.isSome = isRouting attr := by
  unfold ofAttribute? at h
  unfold isRouting
  cases hverb : shortVerb? attr with
  | some verb =>
      rw [hverb] at h
      obtain ⟨parts, -, rfl⟩ := map_eq_ok.1 h
      rfl
  | none =>
      simp only [hverb] at h
      split at h
      · next hroute =>
          obtain ⟨parts, -, rfl⟩ := map_eq_ok.1 h
          simp [hroute]
      · next hother =>
          cases h
          simp [hother]

/-- An attribute that is read as something about a route writes something, and names known verbs. -/
theorem exists_writtenBy (h : ofAttribute? attr = .ok (some read)) :
    read.Known ∧ ∃ written, WrittenBy attr written := by
  unfold ofAttribute? at h
  cases hverb : shortVerb? attr with
  | some verb =>
      simp only [hverb] at h
      obtain ⟨parts, hparts, heq⟩ := map_eq_ok.1 h
      cases heq
      have hknown (paths : List String) : Known ⟨[verb], paths, []⟩ :=
        List.forall_mem_singleton.2 (mem_knownVerbs_of_shortVerb? hverb)
      cases harguments : attr.clause.arguments with
      | none =>
          rw [harguments] at hparts
          cases hparts
          exact ⟨hknown _, _, .verb hverb harguments⟩
      | list d tokens =>
          rw [harguments] at hparts
          obtain ⟨path, hpath, rfl⟩ := map_eq_ok.1 hparts
          obtain ⟨token, rfl, htext⟩ := onlyText_eq_ok_iff.1 hpath
          exact ⟨hknown _, _, .path hverb harguments htext⟩
      | assigned value =>
          rw [harguments] at hparts
          cases hparts
          refine ⟨hknown _, ?_⟩
          cases hvalue : textOf value with
          | ok path =>
              obtain ⟨token, rfl, htext⟩ := textOf_eq_ok_iff.1 hvalue
              exact ⟨_, .assigned hverb harguments htext⟩
          | error e =>
              refine ⟨_, .noPath hverb harguments fun token htoken => ?_⟩
              rw [Option.eq_none_iff_forall_ne_some]
              intro path htext
              rw [textOf_eq_ok_iff.2 ⟨token, htoken, htext⟩] at hvalue
              cases hvalue
  | none =>
      simp only [hverb] at h
      split at h
      · next hroute =>
          obtain ⟨parts, hparts, heq⟩ := map_eq_ok.1 h
          cases heq
          unfold ofRoute at hparts
          split at hparts
          · next d tokens harguments =>
              obtain ⟨entries, hentries, hread⟩ := bind_eq_ok.1 hparts
              obtain ⟨hknown, rows, hrows⟩ := ofAssignments_eq_ok hread
              exact ⟨hknown, _, .route hroute harguments hentries hrows⟩
          · cases hparts
          · cases hparts
      · cases h

/-- An attribute is read as what it writes, unless it assigns a path, which is dropped. -/
theorem read_of_writtenBy (hwritten : WrittenBy attr written)
    (h : ofAttribute? attr = .ok (some read)) :
    (¬AssignsPath attr ∧ read = written) ∨
      (AssignsPath attr ∧
        ∃ verb path, read = ⟨[verb], [], []⟩ ∧ written = ⟨[verb], [path], []⟩) := by
  unfold ofAttribute? at h
  cases hwritten with
  | verb hverb harguments =>
      simp only [hverb, harguments] at h
      cases h
      left
      refine ⟨?_, rfl⟩
      rintro ⟨-, token, path, hassigned, -⟩
      rw [harguments] at hassigned
      cases hassigned
  | path hverb harguments htext =>
      simp only [hverb, harguments, ofShort, onlyText_eq_ok_iff.2 ⟨_, rfl, htext⟩] at h
      cases h
      left
      refine ⟨?_, rfl⟩
      rintro ⟨-, token, path, hassigned, -⟩
      rw [harguments] at hassigned
      cases hassigned
  | assigned hverb harguments htext =>
      simp only [hverb, harguments] at h
      cases h
      right
      exact ⟨⟨by simp [hverb], _, _, harguments, htext⟩, _, _, rfl, rfl⟩
  | noPath hverb harguments htext =>
      simp only [hverb, harguments] at h
      cases h
      left
      refine ⟨?_, rfl⟩
      rintro ⟨-, token, path, hassigned, hpath⟩
      rw [harguments] at hassigned
      cases hassigned
      rw [htext token rfl] at hpath
      cases hpath
  | route hroute harguments hentries hsaying =>
      have hverb := shortVerb?_of_route hroute
      simp only [hverb, hroute, if_true, harguments] at h
      obtain ⟨parts, hparts, heq⟩ := map_eq_ok.1 h
      cases heq
      rw [ofRoute, hentries, ok_bind] at hparts
      left
      refine ⟨?_, eq_of_forall₂_saying hsaying hparts⟩
      rintro ⟨hsome, -⟩
      rw [hverb] at hsome
      cases hsome

/-- Attributes are read one after another: what the first one says comes first, or it is kept. -/
theorem ofAttributes_cons (h : ofAttributes (attr :: attrs) = .ok (read, kept)) :
    ∃ parts others, ofAttributes attrs = .ok (parts, others) ∧
      ((∃ first, ofAttribute? attr = .ok (some first) ∧ read = first.append parts ∧
          kept = others) ∨
        (ofAttribute? attr = .ok none ∧ read = parts ∧ kept = attr :: others)) := by
  rw [ofAttributes, bind_eq_ok] at h
  obtain ⟨found, hfound, h⟩ := h
  obtain ⟨⟨parts, others⟩, hrest, h⟩ := bind_eq_ok.1 h
  refine ⟨parts, others, hrest, ?_⟩
  cases found with
  | some first =>
      cases h
      exact .inl ⟨first, hfound, rfl, rfl⟩
  | none =>
      cases h
      exact .inr ⟨hfound, rfl, rfl⟩

/-- Attributes that are read name known verbs and write something, and those that are about
something else are kept in their order. -/
theorem ofAttributes_eq_ok (h : ofAttributes attrs = .ok (read, kept)) :
    read.Known ∧ kept = attrs.filter (fun attr => !isRouting attr) ∧
      ∃ written, Written attrs written := by
  induction attrs generalizing read kept with
  | nil =>
      cases h
      exact ⟨List.forall_mem_nil _, rfl, _, .nil⟩
  | cons attr rest ih =>
      obtain ⟨parts, others, hrest, hfirst⟩ := ofAttributes_cons h
      obtain ⟨hknown, rfl, written, hwritten⟩ := ih hrest
      obtain ⟨first, hfirst, rfl, rfl⟩ | ⟨hfirst, rfl, rfl⟩ := hfirst
      · obtain ⟨hfirstKnown, firstWritten, hfirstWritten⟩ := exists_writtenBy hfirst
        have hrouting := isRouting_of_ofAttribute? hfirst
        refine ⟨hfirstKnown.append hknown, ?_, _, .routing hfirstWritten hwritten⟩
        rw [List.filter_cons, ← hrouting]
        rfl
      · have hother := isRouting_of_ofAttribute? hfirst
        refine ⟨hknown, ?_, _, .other hother.symm hwritten⟩
        rw [List.filter_cons, ← hother]
        rfl

/-- An attribute that writes something is about a route. -/
theorem isRouting_of_writtenBy (h : WrittenBy attr written) : isRouting attr = true := by
  unfold isRouting
  cases h with
  | route hroute => rw [hroute, Bool.or_true]
  | verb hverb | path hverb | assigned hverb | noPath hverb => rw [hverb]; rfl

/-- Attributes are read as what they write, but for the paths that are assigned. -/
theorem read_of_written (hwritten : Written attrs written)
    (h : ofAttributes attrs = .ok (read, kept)) :
    read.verbs = written.verbs ∧ read.qualifiers = written.qualifiers ∧
      read.paths.Sublist written.paths ∧
      (read.paths = written.paths ↔ ∀ attr ∈ attrs, ¬AssignsPath attr) := by
  induction hwritten generalizing read kept with
  | nil =>
      cases h
      exact ⟨rfl, rfl, .slnil, iff_of_true rfl (List.forall_mem_nil _)⟩
  | @other attr rest written hother _ ih =>
      obtain ⟨parts, others, hrest, ⟨first, hfirst, -⟩ | ⟨-, rfl, -⟩⟩ := ofAttributes_cons h
      · have hrouting := isRouting_of_ofAttribute? hfirst
        rw [hother] at hrouting
        cases hrouting
      · obtain ⟨hverbs, hqualifiers, hpaths, hiff⟩ := ih hrest
        have hassigns : ¬AssignsPath attr := by
          rintro ⟨hverb, -⟩
          rw [isRouting, hverb] at hother
          cases hother
        refine ⟨hverbs, hqualifiers, hpaths, ?_⟩
        rw [List.forall_mem_cons, hiff, and_iff_right hassigns]
  | @routing attr rest firstWritten written hwrittenBy _ ih =>
      obtain ⟨parts, others, hrest, ⟨first, hfirst, rfl, -⟩ | ⟨hfirst, -⟩⟩ := ofAttributes_cons h
      · obtain ⟨hverbs, hqualifiers, hpaths, hiff⟩ := ih hrest
        rw [List.forall_mem_cons, ← hiff]
        rcases read_of_writtenBy hwrittenBy hfirst with
          ⟨hassigns, rfl⟩ | ⟨hassigns, verb, path, rfl, rfl⟩
        · refine ⟨congrArg (first.verbs ++ ·) hverbs, congrArg (first.qualifiers ++ ·) hqualifiers,
            hpaths.append_left first.paths, ?_⟩
          rw [and_iff_right hassigns]
          exact List.append_right_inj _
        · -- One path is missing, and the others make up for none.
          refine ⟨congrArg ([verb] ++ ·) hverbs, congrArg ([] ++ ·) hqualifiers,
            hpaths.cons path, iff_of_false (fun heq => ?_) fun h => h.1 hassigns⟩
          have hlength := congrArg List.length heq
          have hle := hpaths.length_le
          change parts.paths.length = (path :: written.paths).length at hlength
          rw [List.length_cons] at hlength
          omega
      · have hrouting := isRouting_of_ofAttribute? hfirst
        rw [isRouting_of_writtenBy hwrittenBy] at hrouting
        cases hrouting

end RouteParts

/-! ## Methods -/

namespace ClientMethod

variable {method left : Method} {read : ClientMethod}

/-- A method that is accepted keeps its name, and its attributes and its inputs are what is read and
what is left of them. -/
theorem read_eq_ok (h : ClientMethod.read method = .ok (read, left)) :
    read.name = method.signature.name ∧
      RouteParts.ofAttributes method.attributes = .ok (read.parts, left.attributes) ∧
      ClientParam.readAll method.signature.inputs = .ok (read.params, left.signature.inputs) ∧
      left = { method with
        attributes := left.attributes
        signature := { method.signature with inputs := left.signature.inputs } } := by
  rw [ClientMethod.read, bind_eq_ok] at h
  obtain ⟨-, -, h⟩ := h
  obtain ⟨⟨parts, kept⟩, hparts, h⟩ := bind_eq_ok.1 h
  obtain ⟨⟨params, inputs⟩, hparams, h⟩ := bind_eq_ok.1 h
  dsimp only at h
  split at h
  · cases h
  · cases h
    exact ⟨rfl, hparts, hparams, rfl⟩

/-- The generated declaration of a method that is accepted is its route. -/
theorem ofTokens?_route (h : ClientMethod.read method = .ok (read, left)) :
    RouteDecl.ofTokens? read.route.tokens = some read.route :=
  RouteDecl.ofTokens?_tokens (RouteParts.ofAttributes_eq_ok (read_eq_ok h).2.1).1

/-- A method that is accepted declares the verbs and qualifiers that its attributes write, and the
paths unless some are assigned to attributes named for verbs: these are dropped. The other
attributes are kept in their order. -/
theorem route_verbatim_iff (h : ClientMethod.read method = .ok (read, left)) :
    (∃ written, RouteParts.Written method.attributes written) ∧
    (∀ written, RouteParts.Written method.attributes written →
      ∃ paths, RouteDecl.ofTokens? read.route.tokens =
          some ⟨method.signature.name, written.verbs, paths, read.route.params,
            written.qualifiers⟩ ∧
        paths.Sublist written.paths ∧
        (paths = written.paths ↔ ∀ attr ∈ method.attributes, ¬RouteParts.AssignsPath attr)) ∧
    left = { method with
      attributes := method.attributes.filter fun attr => !RouteParts.isRouting attr
      signature := { method.signature with inputs := left.signature.inputs } } := by
  obtain ⟨hname, hparts, -, hleft⟩ := read_eq_ok h
  obtain ⟨-, hkept, hwritten⟩ := RouteParts.ofAttributes_eq_ok hparts
  refine ⟨hwritten, fun written hwritten => ?_, ?_⟩
  · obtain ⟨hverbs, hqualifiers, hpaths⟩ := RouteParts.read_of_written hwritten hparts
    refine ⟨_, ?_, hpaths⟩
    rw [ofTokens?_route h, ← hname, ← hverbs, ← hqualifiers]
    rfl
  · rw [← hkept]
    exact hleft

/-- A method of the name `fetch` with parameters, which gives nothing or an error. -/
def fetching (attributes : List Attribute) (params : List Param) : Method where
  attributes := attributes
  signature :=
    { qualifiers := [.name "async"]
      name := "fetch"
      generics := []
      inputs := .receiver [] true [.mark '&' false, .name "self"] :: params.map .param
      trailingComma := false
      output := some [.name "Result", .mark '<' false, .group .paren [], .mark ',' false, .name "E",
        .mark '>' false]
      conditions := [] }
  body := none

/-- The method is accepted if its attributes and its parameters are. -/
theorem read_fetching {attributes kept : List Attribute} {parts : RouteParts}
    {params stripped : List Param} {rows : List ClientParam}
    (hparts : RouteParts.ofAttributes attributes = .ok (parts, kept))
    (hparams : ClientParam.readAll (params.map .param) = .ok (rows, stripped.map .param)) :
    ∃ output failure, ClientMethod.read (fetching attributes params) =
      .ok (⟨"fetch", parts, rows, output, failure⟩, fetching kept stripped) := by
  have hinputs : ClientParam.readAll (fetching attributes params).signature.inputs =
      .ok (rows, (fetching kept stripped).signature.inputs) := by
    show ClientParam.readAll (_ :: _) = _
    rw [ClientParam.readAll, hparams]
    · rfl
    · simp
  have hresult : ((fetching attributes params).signature.output.bind resultTypes?).isSome := by
    show (resultTypes? _).isSome = true
    decide +kernel
  obtain ⟨⟨output, failure⟩, hresult⟩ := Option.isSome_iff_exists.1 hresult
  refine ⟨output, failure,
    bind_eq_ok.2 ⟨(), rfl, bind_eq_ok.2 ⟨_, hparts, bind_eq_ok.2 ⟨_, hinputs, ?_⟩⟩⟩⟩
  dsimp only
  rw [hresult]
  rfl

/-- The attribute `get` with a path in parentheses, one about something else, and one for routes
with a text assigned to a key. -/
theorem route_verbatim_get :
    let inlined : Attribute := ⟨false, ⟨[.name "inline"], .none⟩⟩
    let attributes : List Attribute :=
      [⟨false, ⟨[.name "get"], .list .paren [Literal.ofText "/a"]⟩⟩, inlined,
        ⟨false, ⟨[.name "route"], .list .paren
          [.name "params", .mark '=' false, .literal "\"v=1\""]⟩⟩]
    ∃ read left, ClientMethod.read (fetching attributes []) = .ok (read, left) ∧
      RouteDecl.ofTokens? read.route.tokens =
        some ⟨"fetch", [.get], ["/a"], [], [⟨.params, "v=1"⟩]⟩ ∧
      left.attributes = [inlined] := by
  intro inlined attributes
  have hspelled : Spells [("params", "\"v=1\"")]
      [.name "params", .mark '=' false, .literal "\"v=1\""] := .last (by decide)
  have hsaying : (entryOf ("params", "\"v=1\"")).Says ⟨[], [], [⟨.params, "v=1"⟩]⟩ := by
    show Assignment.Says ⟨[.name QualifierKind.params.name], [.literal "\"v=1\""]⟩ _
    exact .qualifier rfl
  have hroute : RouteParts.ofRoute (.list .paren
      [.name "params", .mark '=' false, .literal "\"v=1\""]) =
        .ok ⟨[], [], [⟨.params, "v=1"⟩]⟩ :=
    bind_eq_ok.2 ⟨_, assignments_spelled hspelled, rfl⟩
  have hparts : RouteParts.ofAttributes attributes =
      .ok (⟨[.get], ["/a"], [⟨.params, "v=1"⟩]⟩, [inlined]) := by
    refine bind_eq_ok.2 ⟨_, rfl, bind_eq_ok.2 ⟨_, bind_eq_ok.2 ⟨_, rfl,
      bind_eq_ok.2 ⟨_, bind_eq_ok.2 ⟨_, map_eq_ok.2 ⟨_, hroute, rfl⟩, rfl⟩, rfl⟩⟩, rfl⟩⟩
  have hparams : ClientParam.readAll ([].map .param) = .ok ([], [].map .param) := by rfl
  obtain ⟨output, failure, hread⟩ := read_fetching hparts hparams
  obtain ⟨-, hroute, hleft⟩ := route_verbatim_iff hread
  have hwritten : RouteParts.Written attributes ⟨[.get], ["/a"], [⟨.params, "v=1"⟩]⟩ :=
    .routing (.path rfl rfl (Literal.text?_ofText "/a")) (.other rfl
      (.routing (RouteParts.writtenBy_spelled rfl rfl hspelled (.cons hsaying .nil)) .nil))
  have hassigns : ∀ attr ∈ attributes, ¬RouteParts.AssignsPath attr := by
    rintro attr hattr ⟨-, token, path, hassigned, -⟩
    simp only [attributes, List.mem_cons, List.not_mem_nil, or_false] at hattr
    rcases hattr with rfl | rfl | rfl <;> cases hassigned
  obtain ⟨paths, htokens, -, hpaths⟩ := hroute _ hwritten
  rw [hpaths.2 hassigns] at htokens
  exact ⟨_, _, hread, htokens, congrArg Method.attributes hleft⟩

/-- The attribute `get` with a path that is assigned to it, which is dropped. -/
theorem route_drops_path :
    let attributes : List Attribute := [⟨false, ⟨[.name "get"], .assigned [Literal.ofText "/a"]⟩⟩]
    RouteParts.Written attributes ⟨[.get], ["/a"], []⟩ ∧
      ∃ read left, ClientMethod.read (fetching attributes []) = .ok (read, left) ∧
        RouteDecl.ofTokens? read.route.tokens = some ⟨"fetch", [.get], [], [], []⟩ := by
  intro attributes
  have hparts : RouteParts.ofAttributes attributes = .ok (⟨[.get], [], []⟩, []) := by rfl
  have hparams : ClientParam.readAll ([].map .param) = .ok ([], [].map .param) := by rfl
  obtain ⟨output, failure, hread⟩ := read_fetching hparts hparams
  exact ⟨.routing (.assigned rfl rfl (Literal.text?_ofText "/a")) .nil, _, _, hread,
    ofTokens?_route hread⟩

end ClientMethod

end HttpRpc
