import HttpRpc.Proofs.Binding.Expansion
import HttpRpc.Proofs.Url.Segment

/-!
# Where expanded URLs lead

The path of an expanded URL should be the path of the base, one step for each segment of the
template, and nothing else. The check of a rendered segment looks at its raw text, but tabs and line
ends are removed from it before it is appended, so a text such as a point, a tab and a point passes
the check and steps back all the same. `expand_contained_iff` says exactly when the path is as it
should be, and `expand_steps_back` shows a value that leads out of the template.
-/

namespace HttpRpc

/-- The segments of the path of a base URL. -/
def BaseUri.segments (base : BaseUri) : List String :=
  match base.url.path with
  | .segments list => list
  | .rootless _ => []

/-- The path of a base URL is made of its segments. -/
theorem BaseUri.path_eq (base : BaseUri) : base.url.path = .segments base.segments := by
  obtain ⟨list, hlist⟩ := base.segments_path
  rw [segments, hlist]

namespace UriTemplate

/-- What a template puts behind its segments: an empty one if it ends in a slash. -/
def closing (template : UriTemplate) : List String :=
  if template.trailingSlash then [""] else []

/-- The path of the URL is that of the base without one final empty segment, followed by one step
for each segment of the template, and closed if the template is. -/
def Contained (base : BaseUri) (template : UriTemplate) (url : Url) : Prop :=
  ∃ steps, steps.length = template.segments.length ∧ (∀ step ∈ steps, Url.IsStep step) ∧
    url.path = .segments (Url.stem base.segments ++ steps ++ template.closing)

/-- With the values, every segment of the template names a place of its own. -/
def NamesPlaces (template : UriTemplate) (values : PlaceholderValues) : Prop :=
  ∀ segment ∈ template.segments, ∀ text, Piece.renderSegment values segment = .ok text →
    Url.IsPlace text

variable {template : UriTemplate} {values : PlaceholderValues} {texts : List String}

/-- The texts of an expansion are those that the places are named by. -/
theorem namesPlaces_iff (h : List.Forall₂
    (fun segment text => Piece.expandSegment values segment = .ok text) template.segments texts) :
    template.NamesPlaces values ↔ ∀ text ∈ texts, Url.IsPlace text := by
  unfold NamesPlaces
  generalize template.segments = segments at h ⊢
  induction h with
  | nil => simp
  | cons hhead _ ih =>
      have hrender := (Piece.expandSegment_eq_ok hhead).1
      simp [ih, hrender]

/-- No text of a segment with a placeholder is a dot segment as it stands. -/
theorem raw_of_expanded
    (hplaceholder : ∀ segment ∈ template.segments, ∃ name, .placeholder name ∈ segment)
    (h : List.Forall₂ (fun segment text => Piece.expandSegment values segment = .ok text)
      template.segments texts) :
    ∀ text ∈ texts, text ≠ "." ∧ text ≠ ".." := by
  intro text htext
  obtain ⟨i, hi, rfl⟩ := List.getElem_of_mem htext
  have hi' : i < template.segments.length := by rwa [h.length_eq]
  obtain ⟨name, hname⟩ := hplaceholder _ (List.getElem_mem hi')
  have hexpand := List.Forall₂.get h hi' hi
  exact ((Piece.expandSegment_eq_ok hexpand).2 (Piece.lastName?_ne_none hname)).2

/-- The path of an expanded URL follows the base segment by segment exactly if every rendered
segment names a place of its own once tabs and line ends are removed, and the path of the base is
not made of two empty segments. A template without segments and slash leaves the path alone. -/
theorem expand_contained_iff {base : BaseUri} {template : UriTemplate}
    {values : PlaceholderValues} {url : Url}
    (hscheme : base.url.scheme = "http" ∨ base.url.scheme = "https")
    (hplaceholder : ∀ segment ∈ template.segments, ∃ name, .placeholder name ∈ segment)
    (hexpand : template.expand base values = .ok url) :
    ((template.segments ≠ [] ∨ template.trailingSlash = true) →
      (Contained base template url ↔
        template.NamesPlaces values ∧ base.segments ≠ ["", ""])) ∧
    (template.segments = [] → template.trailingSlash = false → url.path = base.url.path) := by
  obtain ⟨texts, hexpanded, hurl⟩ := expand_eq_ok hexpand
  have hfile : base.url.scheme ≠ "file" := by
    rcases hscheme with h | h <;> simp [h]
  have hlength : template.segments.length = texts.length := hexpanded.length_eq
  constructor
  · intro happend
    have hpath : url.path = (base.url.appendSegments texts template.trailingSlash).path := by
      rw [hurl, appendTo_path, if_neg]
      intro h
      simp only [Bool.and_eq_true, List.isEmpty_iff, Bool.not_eq_true'] at h
      rcases happend with hne | hslash
      · exact hne (List.length_eq_zero_iff.1 (by rw [hlength, h.1, List.length_nil]))
      · exact absurd (hslash.symm.trans h.2) (by decide)
    rw [Url.appendSegments_path base.path_eq hfile] at hpath
    -- Both sides speak of the texts now, which are never dot segments as they stand.
    rw [namesPlaces_iff hexpanded, ← Url.steps_appended_iff base.url.isSpecial base.segments
      (raw_of_expanded hplaceholder hexpanded)]
    unfold Contained closing
    refine exists_congr fun steps => ?_
    rw [hpath, UrlPath.segments.injEq, hlength]
    refine and_congr_right fun hsteps => and_congr_right fun hstep => ?_
    refine Url.closed_eq_iff (fun step hmem => (hstep step hmem).1) ?_
    refine happend.imp_left fun hne heq => hne ?_
    rw [← List.length_eq_zero_iff, hlength, ← hsteps, heq]
    rfl
  · intro hsegments hslash
    have htexts : texts = [] := by simpa [hsegments] using hlength.symm
    rw [hurl, appendTo_path, htexts, hslash]
    rfl

/-- A template whose segments mix text and placeholders, with a slash inside a value. -/
theorem expand_contained_versioned :
    ∃ base template url, BaseUri.parse "http://host/api/" = .ok base ∧
      UriTemplate.parse "/v\x7bversion\x7d/\x7bid\x7d.json/" = .ok template ∧
      template.expand base (fun name => some [if name = "id" then "a/b" else "2"]) = .ok url ∧
      url.render = "http://host/api/v2/a%2Fb.json/" ∧ Contained base template url := by
  let base : BaseUri :=
    ⟨⟨"http", "", some (.name "host"), none, false, .segments ["api", ""], none, none⟩, rfl,
      ⟨_, rfl⟩⟩
  let template : UriTemplate :=
    ⟨[[.literal "v", .placeholder "version"], [.placeholder "id", .literal ".json"]], true, []⟩
  let values : PlaceholderValues := fun name => some [if name = "id" then "a/b" else "2"]
  let url : Url := { base.url with path := .segments ["api", "v2", "a%2Fb.json", ""] }
  have hplaceholder : ∀ segment ∈ template.segments, ∃ name, Piece.placeholder name ∈ segment := by
    simp [template]
  have hexpand : template.expand base values = .ok url := by rfl
  have hplaces : template.NamesPlaces values := by
    intro segment hsegment text htext
    rcases List.mem_cons.1 hsegment with rfl | hsegment
    · cases htext
      decide
    · rw [List.mem_singleton.1 hsegment] at htext
      cases htext
      decide
  exact ⟨base, template, url, by rfl, by rfl, hexpand, by rfl,
    ((expand_contained_iff (Or.inl rfl) hplaceholder hexpand).1 (Or.inr rfl)).2
      ⟨hplaces, by decide⟩⟩

/-- Two points with a tab between them pass the check and lead out of the base. -/
theorem expand_steps_back :
    ∃ base template url, BaseUri.parse "http://host/api" = .ok base ∧
      UriTemplate.parse "/\x7bid\x7d" = .ok template ∧
      template.expand base (fun _ => some [".\t."]) = .ok url ∧
      url.render = "http://host/" ∧ ¬Contained base template url := by
  let base : BaseUri :=
    ⟨⟨"http", "", some (.name "host"), none, false, .segments ["api"], none, none⟩, rfl, ⟨_, rfl⟩⟩
  let url : Url := { base.url with path := .segments [""] }
  refine ⟨base, ⟨[[.placeholder "id"]], false, []⟩, url, by rfl, by rfl, by rfl, by rfl, ?_⟩
  rintro ⟨steps, -, -, hpath⟩
  have hsegments : [""] = ["api"] ++ steps ++ [] := UrlPath.segments.inj hpath
  simp at hsegments

end UriTemplate

end HttpRpc
