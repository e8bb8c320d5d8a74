import HttpRpc.Proofs.Text.Split
import HttpRpc.Proofs.Url.Segment
import HttpRpc.Proofs.Url.Unescape

/-!
# What appended segments show

Outside the scheme `file`, a row of texts is appended as one segment for each of its texts that is
no dot segment as it stands, provided that all of these name places (`appendSegments_path_eq`). The
segment of a text without tabs and line ends shows the text (`unescaped?_segmentOf`), and the text
of a URL shows its segments and its query (`path_eq_of_render`, `query_eq_of_render`).
-/

namespace HttpRpc.Url

open HttpRpc.Text

/-! ## Texts without tabs and line ends -/

/-- The text holds no tab and no line end. -/
def IsClean (text : String) : Prop :=
  ∀ c ∈ text.toList, isIgnored c = false

instance (text : String) : Decidable (IsClean text) :=
  List.decidableBAll (fun c => isIgnored c = false) text.toList

/-- The empty text is clean. -/
theorem isClean_empty : IsClean "" := by decide

/-- Clean texts are clean together. -/
theorem IsClean.append {first second : String} (hfirst : IsClean first) (hsecond : IsClean second) :
    IsClean (first ++ second) := by
  intro c hc
  rw [String.toList_append, List.mem_append] at hc
  exact hc.elim (hfirst c) (hsecond c)

/-- No character of the text is escaped in a segment: all are ASCII and none is special there. -/
def IsPlain (special : Bool) (text : String) : Prop :=
  ∀ c ∈ text.toList, c.toNat < 0x80 ∧ Percent.inSegment special c = false

instance (special : Bool) (text : String) : Decidable (IsPlain special text) :=
  List.decidableBAll (fun c : Char => c.toNat < 0x80 ∧ Percent.inSegment special c = false)
    text.toList

section

variable {text : String}

/-- Nothing is removed from a clean text. -/
theorem IsClean.kept_eq (h : IsClean text) : kept text.toList = text.toList :=
  List.filter_eq_self.2 fun c hc => by rw [h c hc]; rfl

/-- A clean text names a place unless it is empty or a dot segment as it stands. -/
theorem IsClean.isPlace (h : IsClean text) (hempty : text ≠ "") (hdot : text ≠ ".")
    (hdots : text ≠ "..") : IsPlace text := by
  have hne (short : String) (hshort : text ≠ short) : text.toList ≠ short.toList :=
    fun heq => hshort (String.toList_inj.1 heq)
  rw [IsPlace, h.kept_eq]
  simp only [List.mem_cons, List.not_mem_nil, or_false, not_or]
  exact ⟨hne "" hempty, hne "." hdot, hne ".." hdots⟩

/-- The segment of a clean text shows the text. -/
theorem IsClean.unescaped?_segmentOf (h : IsClean text) (special : Bool) :
    Percent.unescaped? (segmentOf special text) = some text := by
  have hpercent : Percent.inSegment special '%' = true := by simp [Percent.inSegment]
  rw [segmentOf, Percent.unescaped?_encode hpercent, h.kept_eq, String.ofList_toList]

/-- A clean text is its own segment exactly if it is plain. -/
theorem IsClean.segmentOf_eq_self_iff (h : IsClean text) {special : Bool} :
    segmentOf special text = text ↔ IsPlain special text := by
  rw [IsPlain, segmentOf, h.kept_eq, ← Percent.encode_eq_self_iff, ← String.toList_inj,
    String.toList_ofList]

/-- No two clean texts make one segment. -/
theorem IsClean.eq_of_segmentOf {other : String} (h : IsClean text) (hother : IsClean other)
    {special : Bool} (heq : segmentOf special text = segmentOf special other) : text = other := by
  have hshown := h.unescaped?_segmentOf special
  rw [heq, hother.unescaped?_segmentOf special] at hshown
  exact (Option.some.inj hshown).symm

end

/-! ## Rows with dot segments -/

/-- Whether the text is a dot segment as it stands. -/
def isDots (text : String) : Bool :=
  text == "." || text == ".."

/-- The texts of a row that are no dot segments as they stand. -/
def lasting (texts : List String) : List String :=
  texts.filter fun text => !isDots text

/-- A dot segment is skipped. -/
theorem pushSegment_of_isDots (special : Bool) (path : List String) {text : String}
    (h : isDots text = true) : pushSegment false special path text = path := by
  rw [isDots, Bool.or_eq_true, beq_iff_eq, beq_iff_eq] at h
  rw [pushSegment, if_pos h]

/-- Only lasting texts change a path. -/
theorem foldl_lasting (special : Bool) (path texts : List String) :
    texts.foldl (pushSegment false special) path =
      (lasting texts).foldl (pushSegment false special) path := by
  induction texts generalizing path with
  | nil => rfl
  | cons text rest ih =>
      cases h : isDots text with
      | true =>
          rw [List.foldl_cons, pushSegment_of_isDots special path h, ih, lasting, lasting,
            List.filter_cons_of_neg (by simp [h])]
      | false =>
          rw [List.foldl_cons, ih, lasting, lasting, List.filter_cons_of_pos (by simp [h]),
            List.foldl_cons]

/-- What a row of places puts behind a path: a segment for each lasting text, and an empty one if
the path is to end in a slash. -/
def behind (special : Bool) (texts : List String) (trailingSlash : Bool) : List String :=
  (lasting texts).map (segmentOf special) ++ if trailingSlash then [""] else []

/-- A row of places is appended as one segment for each lasting text. -/
theorem appendSegments_path_eq {url : Url} {path : List String} (hpath : url.path = .segments path)
    (hscheme : url.scheme ≠ "file") {texts : List String} (trailingSlash : Bool)
    (hplaces : ∀ text ∈ lasting texts, IsPlace text) :
    (url.appendSegments texts trailingSlash).path = .segments
      (if behind url.isSpecial texts trailingSlash = [] then dropFinalEmpty path
        else entered (dropFinalEmpty path) ++ behind url.isSpecial texts trailingSlash) := by
  have hfold : entered ((lasting texts).foldl (pushSegment false url.isSpecial)
      (dropFinalEmpty path)) = entered (dropFinalEmpty path) ++
        (lasting texts).map (segmentOf url.isSpecial) :=
    foldl_pushSegment (dropFinalEmpty path) hplaces
  rw [appendSegments_path hpath hscheme, foldl_lasting, UrlPath.segments.injEq]
  unfold behind
  cases trailingSlash with
  | true =>
      rw [if_pos rfl, if_pos rfl, if_neg (by simp), hfold, List.append_assoc]
  | false =>
      simp only [Bool.false_eq_true, if_false, List.append_nil, List.map_eq_nil_iff]
      split
      · next hnone => rw [hnone]; rfl
      · next hsome =>
          rw [← hfold, entered_eq_self_of_ne_nil]
          rw [hfold]
          exact List.append_ne_nil_of_right_ne_nil _ (by simpa using hsome)

/-- No two rows of clean texts make one row of segments. -/
theorem eq_of_map_segmentOf {special : Bool} {texts others : List String}
    (h : ∀ text ∈ texts, IsClean text) (hothers : ∀ text ∈ others, IsClean text)
    (heq : texts.map (segmentOf special) = others.map (segmentOf special)) : texts = others := by
  induction texts generalizing others with
  | nil => exact (List.map_eq_nil_iff.1 heq.symm).symm
  | cons text rest ih =>
      cases others with
      | nil => cases heq
      | cons other others =>
          rw [List.forall_mem_cons] at h hothers
          obtain ⟨hhead, htail⟩ := List.cons.inj heq
          rw [h.1.eq_of_segmentOf hothers.1 hhead, ih h.2 hothers.2 htail]

/-- What is put behind a path shows the lasting texts. -/
theorem lasting_eq_of_behind {special trailingSlash : Bool} {texts others : List String}
    (h : ∀ text ∈ texts, IsClean text) (hothers : ∀ text ∈ others, IsClean text)
    (heq : behind special texts trailingSlash = behind special others trailingSlash) :
    lasting texts = lasting others :=
  eq_of_map_segmentOf (fun text hmem => h text (List.mem_filter.1 hmem).1)
    (fun text hmem => hothers text (List.mem_filter.1 hmem).1) (List.append_cancel_right heq)

/-- No segment that is put behind a path holds a slash. -/
theorem slash_not_mem_of_mem_behind {special trailingSlash : Bool} {texts : List String} :
    ∀ segment ∈ behind special texts trailingSlash, '/' ∉ segment.toList := by
  intro segment hsegment
  rcases List.mem_append.1 hsegment with hmem | hmem
  · obtain ⟨text, -, rfl⟩ := List.mem_map.1 hmem
    exact slash_not_mem_segmentOf special text
  · cases trailingSlash with
    | false => cases hmem
    | true =>
        rw [List.mem_singleton.1 hmem]
        decide

/-! ## Texts of URLs -/

/-- The text of a path is that of its parts. -/
theorem renderPath_append (front back : List String) :
    renderPath (.segments (front ++ back)) =
      renderPath (.segments front) ++ renderPath (.segments back) := by
  rw [renderPath, List.map_append, String.join_append]
  rfl

/-- A text that starts with a slash is cut in front of it. -/
theorem splitOn_renderPath {segments : List String}
    (h : ∀ segment ∈ segments, '/' ∉ segment.toList) :
    splitOn '/' (renderPath (.segments segments)).toList = [] :: segments.map String.toList := by
  induction segments using List.reverseRecOn with
  | nil => rfl
  | append_singleton front last ih =>
      have hlast : splitOn '/' last.toList = [last.toList] := splitOn_eq_self (h last (by simp))
      have hchars : (renderPath (.segments (front ++ [last]))).toList =
          (renderPath (.segments front)).toList ++ '/' :: last.toList := by
        rw [renderPath_append, String.toList_append]
        simp [renderPath, String.toList_append]
      rw [hchars, splitOn_append, hlast, ih fun segment hsegment => h segment (by simp [hsegment])]
      simp

/-- The text of a path shows its segments, if they hold no slash. -/
theorem segments_eq_of_renderPath {segments others : List String}
    (h : ∀ segment ∈ segments, '/' ∉ segment.toList)
    (hothers : ∀ segment ∈ others, '/' ∉ segment.toList)
    (heq : renderPath (.segments segments) = renderPath (.segments others)) :
    segments = others := by
  have hsplit := splitOn_renderPath h
  rw [heq, splitOn_renderPath hothers, List.cons.injEq] at hsplit
  exact ((List.map_inj_right fun _ _ => String.toList_inj.1).1 hsplit.2).symm

/-- The text of a URL shows the text of its path, if all else is known. -/
theorem path_eq_of_render (url : Url) {path other : UrlPath}
    (h : ({ url with path := path } : Url).render = ({ url with path := other } : Url).render) :
    renderPath path = renderPath other := by
  have hauthority (path : UrlPath) :
      ({ url with path := path } : Url).renderAuthority = url.renderAuthority := rfl
  simp only [render, hauthority, String.append_left_inj, String.append_right_inj] at h
  exact h

/-- The text of a URL without a fragment shows its query, if all else is known. -/
theorem query_eq_of_render (url : Url) (hfragment : url.fragment = none)
    {query other : Option String}
    (h : ({ url with query := query } : Url).render = ({ url with query := other } : Url).render) :
    query = other := by
  have hrender (query : Option String) : ({ url with query := query } : Url).render =
      url.scheme ++ ":" ++ url.renderAuthority ++ renderPath url.path ++
        query.elim "" ("?" ++ ·) := by
    obtain ⟨scheme, userinfo, host, port, marked, path, _, fragment⟩ := url
    cases hfragment
    cases query <;> exact String.append_empty
  rw [hrender, hrender, String.append_right_inj] at h
  -- A query shows its question mark, so it is not the text of no query.
  cases query <;> cases other
  · rfl
  · simp at h
  · simp at h
  · simpa using h

end HttpRpc.Url
