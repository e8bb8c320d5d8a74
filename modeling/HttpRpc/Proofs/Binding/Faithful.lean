import HttpRpc.Proofs.Binding.Containment
import HttpRpc.Proofs.Binding.Placeholder
import HttpRpc.Proofs.Binding.Rendering
import HttpRpc.Proofs.Url.Parsed
import HttpRpc.Proofs.Url.Query

/-!
# Expanded URLs read back

An expanded URL shows what it was made of: the server of the base, a segment for each rendered text,
and the pairs of the query. `expand_faithful_iff` states this for values without tabs and line ends,
and says exactly when the path is as it should be: a base whose path is made of two empty segments
loses one of them too many to the first segment that is appended (`expand_drops_base_segment`).
-/

namespace HttpRpc

/-- The path of a parsed base URL has a segment. -/
theorem BaseUri.segments_ne_nil {text : String} {base : BaseUri} (h : parse text = .ok base)
    (hscheme : base.url.scheme = "http" ∨ base.url.scheme = "https") : base.segments ≠ [] := by
  have hspecial : base.url.isSpecial = true ∧ base.url.scheme ≠ "file" := by
    rcases hscheme with hscheme | hscheme <;>
      exact ⟨by rw [Url.isSpecial, hscheme]; decide, by rw [hscheme]; decide⟩
  obtain ⟨segments, hpath, hne⟩ := Url.parse_special (url_of_parse h) hspecial.1 hspecial.2
  rw [base.path_eq, UrlPath.segments.injEq] at hpath
  rwa [hpath]

namespace Url

/-- The path, which is never without any segment. -/
def rooted (path : List String) : List String :=
  if path = [] then [""] else path

/-- A path that keeps one of its segments is the stem of the path if that has any. -/
theorem dropFinalEmpty_eq_rooted {path : List String} (h : path ≠ []) :
    dropFinalEmpty path = rooted (stem path) := by
  unfold dropFinalEmpty stem
  by_cases hlast : path.getLast? = some ""
  · obtain ⟨front, rfl⟩ := List.getLast?_eq_some_iff.1 hlast
    rw [if_pos hlast, List.dropLast_concat, rooted]
    cases front with
    | nil => rfl
    | cons first rest => rw [if_pos ⟨by simp, hlast⟩, if_neg (by simp)]
  · rw [if_neg fun hdrop => hlast hdrop.2, if_neg hlast, rooted, if_neg h]

end Url

namespace UriTemplate

variable {template : UriTemplate} {values : PlaceholderValues} {base : BaseUri} {url : Url}

/-- The path of the URL shows the rendered texts: it is that of the base if the template has neither
a segment nor a slash, and else the base without one final empty segment, followed by a segment that
stands for the text of each step, and closed if the template is. -/
def ShowsSteps (base : BaseUri) (template : UriTemplate) (values : PlaceholderValues) (url : Url) :
    Prop :=
  ∃ added, List.Forall₂ (fun segment step => ∃ text,
      Piece.renderSegment values segment = .ok text ∧
        Url.Percent.unescaped? step = some text) template.steps added ∧
    url.path = .segments (if template.segments = [] ∧ template.trailingSlash = false then
      base.segments else Url.rooted (Url.stem base.segments ++ added ++ template.closing))

/-- Appending changes the path and the query, and nothing else. -/
theorem appendTo_eq (url : Url) (texts : List String) (trailingSlash : Bool)
    (pairs : List (String × String)) :
    appendTo url texts trailingSlash pairs =
      { url with
        path := (appendTo url texts trailingSlash pairs).path
        query := (appendTo url texts trailingSlash pairs).query } := by
  have hpath (url : Url) : url.appendSegments texts trailingSlash =
      { url with path := (url.appendSegments texts trailingSlash).path } := by
    unfold Url.appendSegments
    split <;> rfl
  have hquery (url : Url) : url.appendPairs pairs =
      { url with query := (url.appendPairs pairs).query } := by
    unfold Url.appendPairs
    split <;> rfl
  unfold appendTo
  split <;> split
  · rfl
  · rw [hquery]
  · rw [hpath]
  · rw [hquery, hpath]

/-- An expanded URL differs from the base in its path and its query only. -/
theorem eq_of_expand (hexpand : template.expand base values = .ok url) :
    url = { base.url with path := url.path, query := url.query } := by
  obtain ⟨texts, -, rfl⟩ := expand_eq_ok hexpand
  exact appendTo_eq _ _ _ _

/-- Segments do not touch the query. -/
theorem appendTo_query (url : Url) (texts : List String) (trailingSlash : Bool)
    (pairs : List (String × String)) :
    (appendTo url texts trailingSlash pairs).query =
      (if pairs.isEmpty then url else url.appendPairs pairs).query := by
  have hsegments : (if texts.isEmpty && !trailingSlash then url
      else url.appendSegments texts trailingSlash).query = url.query := by
    split
    · rfl
    · unfold Url.appendSegments
      split <;> rfl
  have hpairs (url : Url) {other : Url} (h : url.query = other.query) :
      (url.appendPairs pairs).query = (other.appendPairs pairs).query := by
    unfold Url.appendPairs
    rw [h]
    split <;> rfl
  unfold appendTo
  cases pairs with
  | nil => exact hsegments
  | cons pair rest => exact hpairs _ hsegments

/-- Appended pairs are read behind those of the base. -/
theorem queryPairs_appendTo (url : Url) (texts : List String) (trailingSlash : Bool)
    (pairs : List (String × String)) :
    (appendTo url texts trailingSlash pairs).queryPairs = url.queryPairs ++ pairs := by
  have hpath (url : Url) :
      (url.appendSegments texts trailingSlash).queryPairs = url.queryPairs := by
    unfold Url.appendSegments
    split <;> rfl
  have hsegments : (if texts.isEmpty && !trailingSlash then url
      else url.appendSegments texts trailingSlash).queryPairs = url.queryPairs := by
    split
    · rfl
    · exact hpath url
  unfold appendTo
  cases pairs with
  | nil => rw [List.append_nil]; exact hsegments
  | cons pair rest => rw [if_neg (by simp), Url.queryPairs_appendPairs, hsegments]

/-- The path of a clean expansion outside the scheme `file`. -/
theorem expand_path_eq (hsolid : ∀ segment ∈ template.segments, Piece.IsSolid segment)
    (hclean : ∀ segment ∈ template.segments, ∀ piece ∈ segment, piece.IsClean values)
    (hscheme : base.url.scheme ≠ "file") (hexpand : template.expand base values = .ok url) :
    ∃ texts, List.Forall₂ (fun segment text => Piece.expandSegment values segment = .ok text)
        template.segments texts ∧
      (∀ text ∈ texts, Url.IsClean text) ∧
      url = appendTo base.url texts template.trailingSlash (template.queryPairs values) ∧
      url.path = .segments (if template.segments = [] ∧ template.trailingSlash = false then
        base.segments else
          if Url.behind base.url.isSpecial texts template.trailingSlash = [] then
            Url.dropFinalEmpty base.segments
          else Url.entered (Url.dropFinalEmpty base.segments) ++
            Url.behind base.url.isSpecial texts template.trailingSlash) := by
  obtain ⟨texts, htexts, rfl⟩ := expand_eq_ok hexpand
  have htext := isClean_of_expanded hsolid hclean htexts
  have hnone : (texts.isEmpty && !template.trailingSlash) = true ↔
      template.segments = [] ∧ template.trailingSlash = false := by
    rw [Bool.and_eq_true, List.isEmpty_iff, Bool.not_eq_true', ← List.length_eq_zero_iff,
      ← htexts.length_eq, List.length_eq_zero_iff]
  refine ⟨texts, htexts, fun text hmem => (htext text hmem).1, rfl, ?_⟩
  rw [appendTo_path]
  by_cases happend : template.segments = [] ∧ template.trailingSlash = false
  · rw [if_pos happend, if_pos (hnone.2 happend)]
    exact base.path_eq
  · rw [if_neg happend, if_neg (hnone.not.2 happend),
      Url.appendSegments_path_eq base.path_eq hscheme]
    intro text hmem
    exact (htext text (List.mem_of_mem_filter hmem)).2 hmem

/-- A path that is put behind that of the base is as it should be unless the base loses both of its
two empty segments. -/
theorem behind_eq_iff {path added : List String} (hpath : path ≠ []) :
    (if added = [] then Url.dropFinalEmpty path
      else Url.entered (Url.dropFinalEmpty path) ++ added) =
        Url.rooted (Url.stem path ++ added) ↔
      (path = ["", ""] → added = []) := by
  by_cases hadded : added = []
  · subst hadded
    rw [if_pos rfl, List.append_nil]
    simp [Url.dropFinalEmpty_eq_rooted hpath]
  · have hrooted : Url.rooted (Url.stem path ++ added) = Url.stem path ++ added :=
      if_neg (List.append_ne_nil_of_right_ne_nil _ hadded)
    rw [if_neg hadded, hrooted, List.append_left_inj, Url.entered_dropFinalEmpty_iff]
    exact ⟨fun hne heq => absurd heq hne, fun h heq => hadded (h heq)⟩

/-- The segments of clean texts stand for them. -/
theorem forall₂_segmentOf (special : Bool) {segments : List (List Piece)} {texts : List String}
    (htexts : ∀ text ∈ texts, Url.IsClean text)
    (h : List.Forall₂ (fun segment text => Piece.expandSegment values segment = .ok text)
      segments texts) :
    List.Forall₂ (fun segment step => ∃ text, Piece.renderSegment values segment = .ok text ∧
      Url.Percent.unescaped? step = some text) segments (texts.map (Url.segmentOf special)) := by
  induction h with
  | nil => exact .nil
  | @cons segment text _ _ hhead _ ih =>
      have hclean := htexts text List.mem_cons_self
      refine .cons ⟨text, (Piece.expandSegment_eq_ok hhead).1, ?_⟩ (ih fun other hother => ?_)
      · exact hclean.unescaped?_segmentOf special
      · exact htexts other (List.mem_cons_of_mem _ hother)

/-- The path of a clean expansion shows the rendered texts unless the path of the base is made of
two empty segments and something is appended to it. -/
theorem showsSteps_iff (hsolid : ∀ segment ∈ template.segments, Piece.IsSolid segment)
    (hclean : ∀ segment ∈ template.segments, ∀ piece ∈ segment, piece.IsClean values)
    (hscheme : base.url.scheme ≠ "file") (hsegments : base.segments ≠ [])
    (hexpand : template.expand base values = .ok url) :
    ShowsSteps base template values url ↔
      (base.segments = ["", ""] → template.steps = [] ∧ template.trailingSlash = false) := by
  obtain ⟨texts, htexts, htext, -, hpath⟩ := expand_path_eq hsolid hclean hscheme hexpand
  have hsteps := forall₂_steps hsolid htexts
  have hlasting : ∀ text ∈ Url.lasting texts, Url.IsClean text :=
    fun text hmem => htext text (List.mem_of_mem_filter hmem)
  have hshown := forall₂_segmentOf base.url.isSpecial hlasting hsteps
  have hbehind : Url.behind base.url.isSpecial texts template.trailingSlash =
      (Url.lasting texts).map (Url.segmentOf base.url.isSpecial) ++ template.closing := rfl
  have hnone : Url.behind base.url.isSpecial texts template.trailingSlash = [] ↔
      template.steps = [] ∧ template.trailingSlash = false := by
    rw [hbehind, List.append_eq_nil_iff, List.map_eq_nil_iff, ← List.length_eq_zero_iff,
      ← hsteps.length_eq, List.length_eq_zero_iff, closing]
    cases template.trailingSlash <;> simp
  unfold ShowsSteps
  rw [hpath]
  by_cases happend : template.segments = [] ∧ template.trailingSlash = false
  · have hsteps : template.steps = [] := by rw [steps, happend.1, List.filter_nil]
    simp only [if_pos happend, and_true]
    exact ⟨fun _ _ => ⟨hsteps, happend.2⟩, fun _ => ⟨[], by rw [hsteps]; exact .nil⟩⟩
  · simp only [if_neg happend, UrlPath.segments.injEq, List.append_assoc]
    rw [← hnone, ← behind_eq_iff hsegments]
    constructor
    · -- Whatever is shown for the steps has as many segments as were appended.
      rintro ⟨added, hadded, heq⟩
      rw [behind_eq_iff hsegments]
      intro hempty
      by_contra hsome
      rw [if_neg hsome, hempty] at heq
      have hlength := congrArg List.length heq
      have hadded := hadded.length_eq
      rw [hshown.length_eq] at hadded
      have hrooted : Url.rooted (Url.stem ["", ""] ++ (added ++ template.closing)) =
          "" :: (added ++ template.closing) := rfl
      rw [hrooted, hbehind, show Url.entered (Url.dropFinalEmpty ["", ""]) = [] from rfl] at hlength
      simp only [List.nil_append, List.length_append, List.length_cons] at hlength
      omega
    · intro heq
      exact ⟨_, hshown, heq⟩

/-- An expanded URL shows what it was made of. Only its path and its query differ from those of the
base; the pairs of its query are those of the base and then, for each key in turn, one for each
value of its placeholder; and its path shows the rendered texts exactly if the path of the base is
not made of two empty segments, or nothing is appended to it. -/
theorem expand_faithful_iff {uri text : String} {base : BaseUri} {parsed : UriTemplate}
    (keys : List String) {values : PlaceholderValues} {url : Url}
    (hbase : BaseUri.parse uri = .ok base)
    (hscheme : base.url.scheme = "http" ∨ base.url.scheme = "https")
    (hparse : parse text = .ok parsed)
    (hclean : ∀ segment ∈ parsed.segments, ∀ piece ∈ segment, piece.IsClean values)
    (hexpand : (parsed.withQuery keys).expand base values = .ok url) :
    url = { base.url with path := url.path, query := url.query } ∧
      url.queryPairs = base.url.queryPairs ++
        (keys.zip (parsed.freshNames keys)).flatMap (fun entry =>
          ((values entry.2).getD []).map fun value => (entry.1, value)) ∧
      (ShowsSteps base parsed values url ↔
        (base.segments = ["", ""] → parsed.steps = [] ∧ parsed.trailingSlash = false)) := by
  obtain ⟨hsolid, hquery⟩ := isSolid_of_parse hparse
  have hfile : base.url.scheme ≠ "file" := by
    rcases hscheme with h | h <;> simp [h]
  have hpairs : (parsed.withQuery keys).queryPairs values =
      (keys.zip (parsed.freshNames keys)).flatMap (fun entry =>
        ((values entry.2).getD []).map fun value => (entry.1, value)) := by
    rw [queryPairs, withQuery_query, hquery, List.nil_append, List.flatMap_map]
  refine ⟨eq_of_expand hexpand, ?_, ?_⟩
  · obtain ⟨texts, -, rfl⟩ := expand_eq_ok hexpand
    rw [queryPairs_appendTo, hpairs]
  · have hshows : ShowsSteps base (parsed.withQuery keys) values url ↔
        ShowsSteps base parsed values url := by
      simp only [ShowsSteps, steps, closing, withQuery_segments, withQuery_trailingSlash]
    rw [← withQuery_segments parsed keys] at hsolid hclean
    have hiff := showsSteps_iff hsolid hclean hfile (base.segments_ne_nil hbase hscheme) hexpand
    rw [hshows] at hiff
    simpa only [steps, withQuery_segments, withQuery_trailingSlash] using hiff

/-- A base with a query, a template with a dot segment, and values with separators. -/
theorem expand_faithful_files :
    ∃ base parsed url, BaseUri.parse "http://host/api/?a=1" = .ok base ∧
      parse "/files/./{name}.txt/" = .ok parsed ∧
      (parsed.withQuery ["tag", "name"]).expand base
        (fun name => some (if name = "name" then ["a/b"] else if name = "tag" then ["x&y", "z"]
          else ["%"])) = .ok url ∧
      url.render = "http://host/api/files/a%2Fb.txt/?a=1&tag=x%26y&tag=z&name=%25" ∧
      url.queryPairs = [("a", "1"), ("tag", "x&y"), ("tag", "z"), ("name", "%")] ∧
      ShowsSteps base parsed (fun name => some (if name = "name" then ["a/b"]
        else if name = "tag" then ["x&y", "z"] else ["%"])) url := by
  let base : BaseUri :=
    ⟨⟨"http", "", some (.name "host"), none, false, .segments ["api", ""], some "a=1", none⟩, rfl,
      ⟨_, rfl⟩⟩
  let parsed : UriTemplate :=
    ⟨[[.literal "files"], [.literal "."], [.placeholder "name", .literal ".txt"]], true, []⟩
  let values : PlaceholderValues := fun name =>
    some (if name = "name" then ["a/b"] else if name = "tag" then ["x&y", "z"] else ["%"])
  let url : Url := { base.url with
    path := .segments ["api", "files", "a%2Fb.txt", ""]
    query := some "a=1&tag=x%26y&tag=z&name=%25" }
  have hbase : BaseUri.parse "http://host/api/?a=1" = .ok base := by rfl
  have hparse : parse "/files/./{name}.txt/" = .ok parsed := by rfl
  have hquery : parsed.withQuery ["tag", "name"] =
      { parsed with query := [⟨"tag", "tag"⟩, ⟨"name", "name1"⟩] } := by rfl
  have hexpand : (parsed.withQuery ["tag", "name"]).expand base values = .ok url := by
    rw [hquery]
    rfl
  have hclean : ∀ segment ∈ parsed.segments, ∀ piece ∈ segment, piece.IsClean values := by
    simp only [parsed, List.forall_mem_cons, Piece.IsClean, List.not_mem_nil, false_implies,
      implies_true, and_true]
    refine ⟨by decide, by decide, ?_, by decide⟩
    intro value hvalue
    cases hvalue
    decide
  obtain ⟨-, hpairs, hshows⟩ := expand_faithful_iff ["tag", "name"] hbase (Or.inl rfl) hparse
    hclean hexpand
  exact ⟨base, parsed, url, hbase, hparse, hexpand, by rfl, by rfl,
    hshows.2 fun hempty => absurd hempty (by decide)⟩

/-- A base whose path is made of two empty segments loses both to the first that is appended. -/
theorem expand_drops_base_segment :
    ∃ base parsed url, BaseUri.parse "http://host//" = .ok base ∧ parse "/x" = .ok parsed ∧
      parsed.expand base (fun _ => none) = .ok url ∧ url.render = "http://host/x" ∧
      ¬ShowsSteps base parsed (fun _ => none) url := by
  let base : BaseUri :=
    ⟨⟨"http", "", some (.name "host"), none, false, .segments ["", ""], none, none⟩, rfl, ⟨_, rfl⟩⟩
  let url : Url := { base.url with path := .segments ["x"] }
  refine ⟨base, ⟨[[.literal "x"]], false, []⟩, url, by rfl, by rfl, by rfl, by rfl, ?_⟩
  rintro ⟨added, hadded, hpath⟩
  have hsegments : ["x"] = "" :: (added ++ []) := UrlPath.segments.inj hpath
  exact absurd (List.cons.inj hsegments).1 (by decide)

end UriTemplate

end HttpRpc
