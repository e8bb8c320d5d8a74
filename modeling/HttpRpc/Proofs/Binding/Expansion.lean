import HttpRpc.Binding.Template
import HttpRpc.Proofs.Checks

/-!
# What expansion gives

A template is expanded if each of its segments is rendered and passes the check of a segment with a
placeholder. The URL is then the base with the rendered texts and the pairs of the query appended
(`expand_eq_ok`).
-/

namespace HttpRpc

namespace Piece

/-- A segment with a placeholder has a last one. -/
theorem lastName?_ne_none {segment : List Piece} {name : String}
    (h : placeholder name ∈ segment) : lastName? segment ≠ none := by
  have hmem : name ∈ segment.filterMap name? := List.mem_filterMap.2 ⟨_, h, rfl⟩
  rw [lastName?, ne_eq, List.getLast?_eq_none_iff]
  exact List.ne_nil_of_mem hmem

/-- A segment is expanded to its rendered text, which is checked if there is a placeholder in it. -/
theorem expandSegment_eq_ok {values : PlaceholderValues} {segment : List Piece} {text : String}
    (h : expandSegment values segment = .ok text) :
    renderSegment values segment = .ok text ∧
      (lastName? segment ≠ none → text ≠ "" ∧ text ≠ "." ∧ text ≠ "..") := by
  obtain ⟨rendered, hrender, h⟩ := bind_eq_ok.1 h
  split at h
  · next hname =>
      cases h
      exact ⟨hrender, fun hnot => absurd hname hnot⟩
  · split at h
    · cases h
    · next hcheck =>
        cases h
        simp only [not_or] at hcheck
        exact ⟨hrender, fun _ => hcheck⟩

/-- The text of a piece, given texts for the placeholders. -/
def shown (texts : String → String) : Piece → String
  | literal text => text
  | placeholder name => texts name

/-- The literals of a segment joined with texts for its placeholders. -/
def fill (texts : String → String) (segment : List Piece) : String :=
  String.join (segment.map (shown texts))

/-- The first piece of a segment comes first. -/
theorem fill_cons (texts : String → String) (piece : Piece) (rest : List Piece) :
    fill texts (piece :: rest) = piece.shown texts ++ fill texts rest :=
  String.join_cons

section

variable {values : PlaceholderValues} {texts : String → String} {segment : List Piece}

/-- A segment is rendered if each of its placeholders has a first value. -/
theorem renderSegment_eq (h : ∀ name, placeholder name ∈ segment →
    (values name).bind List.head? = some (texts name)) :
    renderSegment values segment = .ok (fill texts segment) := by
  induction segment with
  | nil => rfl
  | cons piece rest ih =>
      have hrest := ih fun name hname => h name (List.mem_cons_of_mem piece hname)
      rw [fill_cons]
      cases piece with
      | literal text =>
          rw [renderSegment, hrest]
          rfl
      | placeholder name =>
          rw [renderSegment, h name List.mem_cons_self]
          simp only [hrest]
          rfl

/-- Segments whose placeholders have values are expanded to their literals and these values. -/
theorem eq_map_fill {segments : List (List Piece)} {rendered : List String}
    (h : ∀ segment ∈ segments, ∀ name, placeholder name ∈ segment →
      (values name).bind List.head? = some (texts name))
    (hrendered : List.Forall₂ (fun segment text => expandSegment values segment = .ok text)
      segments rendered) : rendered = segments.map (fill texts) := by
  induction hrendered with
  | nil => rfl
  | cons hhead _ ih =>
      rw [List.forall_mem_cons] at h
      rw [List.map_cons, ← ih h.2]
      exact congrArg (· :: _)
        (Except.ok.inj ((expandSegment_eq_ok hhead).1.symm.trans (renderSegment_eq h.1)))

/-- A segment whose placeholders have values is expanded unless it has a placeholder and names no
place of its own. -/
theorem exists_expandSegment_eq_ok_iff (h : ∀ name, placeholder name ∈ segment →
    (values name).bind List.head? = some (texts name)) :
    (∃ text, expandSegment values segment = .ok text) ↔
      ∀ name, placeholder name ∈ segment → fill texts segment ∉ ["", ".", ".."] := by
  unfold expandSegment
  rw [renderSegment_eq h, ok_bind]
  cases hlast : lastName? segment with
  | none =>
      refine ⟨fun _ name hname => absurd hlast (lastName?_ne_none hname), fun _ => ⟨_, rfl⟩⟩
  | some last =>
      have hsome : placeholder last ∈ segment := by
        obtain ⟨piece, hpiece, hname⟩ := List.mem_filterMap.1 (List.mem_of_getLast? hlast)
        cases piece with
        | literal text => cases hname
        | placeholder name => cases hname; exact hpiece
      simp only [List.mem_cons, List.not_mem_nil, or_false]
      by_cases hplace : fill texts segment = "" ∨ fill texts segment = "." ∨
          fill texts segment = ".."
      · rw [if_pos hplace]
        constructor
        · rintro ⟨_, hok⟩
          cases hok
        · exact fun hall => absurd hplace (hall last hsome)
      · rw [if_neg hplace]
        exact ⟨fun _ _ _ => hplace, fun _ => ⟨_, rfl⟩⟩

/-- A segment whose placeholders have values is refused for what it is expanded to. -/
theorem expandSegment_eq_error (h : ∀ name, placeholder name ∈ segment →
    (values name).bind List.head? = some (texts name)) {e : ArgumentError}
    (herror : expandSegment values segment = .error e) :
    ∃ name reason, e = .invalidArgument name reason := by
  unfold expandSegment at herror
  rw [renderSegment_eq h, ok_bind] at herror
  split at herror
  · cases herror
  · split at herror
    · cases herror
      exact ⟨_, _, rfl⟩
    · cases herror

/-- Only the values of its placeholders decide what a segment is expanded to. -/
theorem expandSegment_congr {others : PlaceholderValues}
    (h : ∀ name, placeholder name ∈ segment → values name = others name) :
    expandSegment values segment = expandSegment others segment := by
  have hrender : renderSegment values segment = renderSegment others segment := by
    induction segment with
    | nil => rfl
    | cons piece rest ih =>
        have hrest := ih fun name hname => h name (List.mem_cons_of_mem piece hname)
        cases piece with
        | literal text => rw [renderSegment, renderSegment, hrest]
        | placeholder name =>
            rw [renderSegment, renderSegment, h name List.mem_cons_self, hrest]
  rw [expandSegment, expandSegment, hrender]

end

end Piece

namespace UriTemplate

/-- The URL of an expansion is the base with the texts of the segments and the pairs of the query
appended. -/
theorem expand_eq_ok {template : UriTemplate} {base : BaseUri} {values : PlaceholderValues}
    {url : Url} (h : template.expand base values = .ok url) :
    ∃ texts, List.Forall₂ (fun segment text => Piece.expandSegment values segment = .ok text)
        template.segments texts ∧
      url = appendTo base.url texts template.trailingSlash (template.queryPairs values) := by
  obtain ⟨texts, htexts, h⟩ := bind_eq_ok.1 h
  cases h
  exact ⟨texts, forall₂_of_mapM_eq_ok htexts, rfl⟩

/-- A template is expanded if each of its segments is. -/
theorem exists_expand_eq_ok_iff {template : UriTemplate} {base : BaseUri}
    {values : PlaceholderValues} :
    (∃ url, template.expand base values = .ok url) ↔
      ∀ segment ∈ template.segments, ∃ text, Piece.expandSegment values segment = .ok text := by
  rw [← exists_mapM_eq_ok_iff]
  simp only [expand, bind_eq_ok]
  exact ⟨fun ⟨_, texts, htexts, _⟩ => ⟨texts, htexts⟩,
    fun ⟨texts, htexts⟩ => ⟨_, texts, htexts, rfl⟩⟩

section

variable {template : UriTemplate} {values others : PlaceholderValues}

/-- Only the values of the placeholders of the path decide what the segments are expanded to. -/
theorem mapM_expandSegment_congr
    (hpath : ∀ name, template.hasPathVariable name = true → values name = others name) :
    template.segments.mapM (Piece.expandSegment values) =
      template.segments.mapM (Piece.expandSegment others) := by
  refine mapM_congr fun segment hsegment =>
    Piece.expandSegment_congr fun name hname => hpath name ?_
  exact List.contains_iff_mem.2 (List.mem_flatten.2 ⟨segment, hsegment, hname⟩)

/-- Only the values of its placeholders decide what a template is expanded to. -/
theorem expand_congr (base : BaseUri)
    (hpath : ∀ name, template.hasPathVariable name = true → values name = others name)
    (hquery : template.query.map (fun q => values q.placeholder) =
      template.query.map fun q => others q.placeholder) :
    template.expand base values = template.expand base others := by
  have hpairs : template.queryPairs values = template.queryPairs others := by
    refine List.flatMap_congr fun q hq => ?_
    rw [List.map_inj_left.1 hquery q hq]
  rw [expand, expand, mapM_expandSegment_congr hpath, hpairs]

end

/-- Pairs of the query do not touch the path. -/
theorem appendTo_path (url : Url) (texts : List String) (trailingSlash : Bool)
    (pairs : List (String × String)) :
    (appendTo url texts trailingSlash pairs).path =
      (if texts.isEmpty && !trailingSlash then url
        else url.appendSegments texts trailingSlash).path := by
  have hpairs (url : Url) : (url.appendPairs pairs).path = url.path := by
    unfold Url.appendPairs
    split <;> rfl
  unfold appendTo
  by_cases h : pairs.isEmpty <;> simp [h, hpairs]

end UriTemplate

end HttpRpc
