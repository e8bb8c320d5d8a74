import HttpRpc.Proofs.Url.Escape
import Mathlib.Data.List.Induction

/-!
# Appending segments

What one appended text does to a path outside the scheme `file`. A text names a place of its own
(`IsPlace`) if what is left of it without tabs and line ends is neither empty nor a dot segment.
Appending such a text adds one segment behind the path and changes nothing before it
(`pushSegment_of_isPlace`); a row of such texts adds one segment each (`foldl_pushSegment`). Any
other text leaves an empty segment at the end, in place of the last segment if it steps back, so a
row with such a text never adds one segment with a text for each (`isPlace_of_steps_appended`).
-/

namespace HttpRpc.Url

open HttpRpc.Text

/-- The text names a place of its own behind any path: without tabs and line ends it is neither
empty nor a dot segment. -/
def IsPlace (text : String) : Prop :=
  kept text.toList ∉ [[], ['.'], ['.', '.']]

instance (text : String) : Decidable (IsPlace text) :=
  inferInstanceAs (Decidable (_ ∉ _))

/-- The segment that a text makes. -/
def segmentOf (special : Bool) (text : String) : String :=
  String.ofList (Percent.encode (Percent.inSegment special) (kept text.toList))

/-- A segment that is one step into a path: it has a text, is no dot segment, and holds no
slash. -/
def IsStep (segment : String) : Prop :=
  segment ≠ "" ∧ segment ≠ "." ∧ segment ≠ ".." ∧ '/' ∉ segment.toList

/-- A segment that a text makes holds no slash. -/
theorem slash_not_mem_segmentOf (special : Bool) (text : String) :
    '/' ∉ (segmentOf special text).toList := by
  rw [segmentOf, String.toList_ofList]
  exact Percent.not_mem_encode (by simp [Percent.inSegment]) (by decide) (by decide) _

/-- The text of a place makes a segment that is one step into a path. -/
theorem isStep_segmentOf (special : Bool) {text : String} (h : IsPlace text) :
    IsStep (segmentOf special text) := by
  -- A short text without a percent sign would be the kept text itself.
  have hne (short : String) (hpercent : '%' ∉ short.toList)
      (hkept : kept text.toList ≠ short.toList) : segmentOf special text ≠ short := by
    intro heq
    have hencode :
        Percent.encode (Percent.inSegment special) (kept text.toList) = short.toList := by
      rw [← heq, segmentOf, String.toList_ofList]
    exact hkept ((Percent.encode_eq_self (hencode ▸ hpercent)).symm.trans hencode)
  simp only [IsPlace, List.mem_cons, List.not_mem_nil, or_false, not_or] at h
  obtain ⟨hempty, hdot, hdots⟩ := h
  exact ⟨hne "" (by decide) hempty, hne "." (by decide) hdot, hne ".." (by decide) hdots,
    slash_not_mem_segmentOf special text⟩

section

variable {special : Bool}

/-- A place is appended as one segment. -/
theorem pushSegment_of_isPlace (path : List String) {text : String} (h : IsPlace text) :
    pushSegment false special path text = entered path ++ [segmentOf special text] := by
  simp only [IsPlace, List.mem_cons, List.not_mem_nil, or_false, not_or] at h
  obtain ⟨-, hdot, hdots⟩ := h
  have hraw : ¬(text = "." ∨ text = "..") := by
    rintro (rfl | rfl)
    · exact hdot (by decide)
    · exact hdots (by decide)
  simp [pushSegment, hraw, stepOf, hdot, hdots, Trail.enter, trimFilePath, segmentOf]

/-- What is no place leaves an empty segment behind the path, unless it is skipped. -/
theorem pushSegment_of_not_isPlace (special : Bool) (path : List String) {text : String}
    (h : ¬IsPlace text) (hdot : text ≠ ".") (hdots : text ≠ "..") :
    ∃ before, pushSegment false special path text = before ++ [""] := by
  have hraw : ¬(text = "." ∨ text = "..") := not_or.2 ⟨hdot, hdots⟩
  simp only [IsPlace, List.mem_cons, List.not_mem_nil, or_false, not_not] at h
  rcases h with h | h | h
  · exact ⟨entered path, by
      simp [pushSegment, hraw, h, stepOf, Trail.enter, trimFilePath, Percent.encode]⟩
  · exact ⟨entered path, by simp [pushSegment, hraw, h, stepOf, Trail.open, trimFilePath]⟩
  · exact ⟨goBack (entered path), by
      simp [pushSegment, hraw, h, stepOf, Trail.back, Trail.open, trimFilePath]⟩

/-- An empty text closes the path. -/
theorem pushSegment_empty (path : List String) :
    pushSegment false special path "" = entered path ++ [""] := by
  simp [pushSegment, kept, stepOf, Trail.enter, trimFilePath, Percent.encode]

/-- A path is entered as a whole unless it is the empty one. -/
theorem entered_eq_self {path : List String} (h : path ≠ [""]) : entered path = path :=
  if_neg h

/-- Only the empty path and the one without segments have nothing to enter. -/
theorem entered_eq_self_of_ne_nil {path : List String} (h : entered path ≠ []) :
    entered path = path := by
  refine entered_eq_self fun heq => h ?_
  rw [heq]
  rfl

/-- A path that ends in a segment with a text is entered as a whole. -/
theorem entered_concat {segment : String} (path : List String) (h : segment ≠ "") :
    entered (path ++ [segment]) = path ++ [segment] := by
  refine entered_eq_self fun heq => h ?_
  cases path with
  | nil => exact List.singleton_inj.1 heq
  | cons first rest => simp at heq

/-- A row of places is appended as one segment each. -/
theorem foldl_pushSegment (path : List String) {texts : List String}
    (h : ∀ text ∈ texts, IsPlace text) :
    entered (texts.foldl (pushSegment false special) path) =
      entered path ++ texts.map (segmentOf special) := by
  induction texts generalizing path with
  | nil => simp
  | cons text rest ih =>
      have hplace : IsPlace text := h text List.mem_cons_self
      rw [List.foldl_cons, pushSegment_of_isPlace path hplace,
        ih _ fun other hother => h other (List.mem_cons_of_mem _ hother),
        entered_concat _ (isStep_segmentOf special hplace).1]
      simp

/-- A row that appends one segment with a text for each of its texts holds nothing but places. -/
theorem isPlace_of_steps_appended (path stem : List String) {texts added : List String}
    (hskip : ∀ text ∈ texts, text ≠ "." ∧ text ≠ "..") (htext : ∀ segment ∈ added, segment ≠ "")
    (hlength : added.length = texts.length)
    (heq : entered (texts.foldl (pushSegment false special) path) = stem ++ added) :
    ∀ text ∈ texts, IsPlace text := by
  -- The last text decides the end of the path, so the row is taken apart from behind.
  induction texts using List.reverseRecOn generalizing added with
  | nil => simp
  | append_singleton front last ih =>
      obtain ⟨others, segment, rfl⟩ : ∃ others segment, added = others ++ [segment] := by
        cases added using List.reverseRecOn with
        | nil => simp at hlength
        | append_singleton others segment => exact ⟨others, segment, rfl⟩
      have hsegment : segment ≠ "" := htext segment (by simp)
      rw [List.foldl_append, List.foldl_cons, List.foldl_nil, ← List.append_assoc] at heq
      by_cases hlast : IsPlace last
      · rw [pushSegment_of_isPlace _ hlast,
          entered_concat _ (isStep_segmentOf special hlast).1] at heq
        have hfront := ih (fun text htext => hskip text (by simp [htext]))
          (fun other hother => htext other (by simp [hother])) (by simpa using hlength)
          (List.append_inj' heq rfl).1
        intro text hmem
        rcases List.mem_append.1 hmem with hmem | hmem
        · exact hfront text hmem
        · rwa [List.mem_singleton.1 hmem]
      · -- An empty last segment is not the one with a text that is asked for.
        obtain ⟨hdot, hdots⟩ := hskip last (by simp)
        obtain ⟨before, hbefore⟩ := pushSegment_of_not_isPlace special
          (front.foldl (pushSegment false special) path) hlast hdot hdots
        rw [hbefore] at heq
        unfold entered at heq
        split at heq
        · exact absurd heq (by simp)
        · exact absurd (List.singleton_inj.1 (List.append_inj' heq rfl).2).symm hsegment

end

/-! ## What segments are appended to -/

/-- The path without one final empty segment. -/
def stem (path : List String) : List String :=
  if path.getLast? = some "" then path.dropLast else path

/-- Segments are appended to the stem of a path, except for the path of two empty segments, of which
both give way. -/
theorem entered_dropFinalEmpty_iff (path : List String) :
    entered (dropFinalEmpty path) = stem path ↔ path ≠ ["", ""] := by
  by_cases hlast : path.getLast? = some ""
  · obtain ⟨front, rfl⟩ := List.getLast?_eq_some_iff.1 hlast
    have hstem : stem (front ++ [""]) = front := by simp [stem]
    cases front with
    | nil => simp [stem, dropFinalEmpty, entered]
    | cons first rest =>
        have hdrop : dropFinalEmpty (first :: rest ++ [""]) = first :: rest := by
          rw [dropFinalEmpty, if_pos ⟨by simp, hlast⟩, List.dropLast_concat]
        rw [hdrop, hstem]
        by_cases hempty : first :: rest = [""]
        · simp [hempty, entered]
        · rw [entered_eq_self hempty]
          simpa using hempty
  · have hstem : stem path = path := if_neg hlast
    have hdrop : dropFinalEmpty path = path := if_neg fun h => hlast h.2
    have hpath : path ≠ [""] ∧ path ≠ ["", ""] := by
      constructor <;>
      · rintro rfl
        exact hlast rfl
    rw [hstem, hdrop, entered_eq_self hpath.1]
    simp [hpath.2]

/-- A row of texts appends one step for each to the stem of a path exactly if all of them are places
and the path is not the one of two empty segments. -/
theorem steps_appended_iff (special : Bool) (path : List String) {texts : List String}
    (hskip : ∀ text ∈ texts, text ≠ "." ∧ text ≠ "..") :
    (∃ steps, steps.length = texts.length ∧ (∀ step ∈ steps, IsStep step) ∧
      entered (texts.foldl (pushSegment false special) (dropFinalEmpty path)) =
        stem path ++ steps) ↔
      (∀ text ∈ texts, IsPlace text) ∧ path ≠ ["", ""] := by
  constructor
  · rintro ⟨steps, hlength, hsteps, heq⟩
    have hplaces := isPlace_of_steps_appended _ _ hskip (fun step hstep => (hsteps step hstep).1)
      hlength heq
    rw [foldl_pushSegment _ hplaces] at heq
    have hstem := (List.append_inj' heq (by simp [hlength])).1
    exact ⟨hplaces, (entered_dropFinalEmpty_iff path).1 hstem⟩
  · rintro ⟨hplaces, hpath⟩
    refine ⟨texts.map (segmentOf special), by simp, ?_, ?_⟩
    · intro step hstep
      obtain ⟨text, htext, rfl⟩ := List.mem_map.1 hstep
      exact isStep_segmentOf special (hplaces text htext)
    · rw [foldl_pushSegment _ hplaces, (entered_dropFinalEmpty_iff path).2 hpath]

/-- A path ends in steps, and in an empty segment if it is closed, exactly if what is entered of it
before it is closed ends in the steps. -/
theorem closed_eq_iff {after before steps : List String} {trailingSlash : Bool}
    (hsteps : ∀ step ∈ steps, step ≠ "") (hsome : steps ≠ [] ∨ trailingSlash = true) :
    (if trailingSlash then entered after ++ [""] else after) =
        before ++ steps ++ (if trailingSlash then [""] else []) ↔
      entered after = before ++ steps := by
  cases trailingSlash with
  | true => rw [if_pos rfl, if_pos rfl, List.append_left_inj]
  | false =>
      have hne : steps ≠ [] := by simpa using hsome
      simp only [Bool.false_eq_true, if_false, List.append_nil]
      constructor
      · intro h
        rw [entered_eq_self, h]
        rintro rfl
        -- The only segment of the empty path would be the last step.
        have hlast : steps.getLast hne ∈ [""] := by
          rw [h]
          exact List.mem_append_right _ (List.getLast_mem hne)
        exact hsteps _ (List.getLast_mem hne) (List.mem_singleton.1 hlast)
      · intro h
        rw [← h, entered_eq_self_of_ne_nil]
        simp [h, hne]

/-- The path of a URL outside the scheme `file` with segments appended to it. -/
theorem appendSegments_path {url : Url} {path : List String} (hpath : url.path = .segments path)
    (hscheme : url.scheme ≠ "file") (texts : List String) (trailingSlash : Bool) :
    (url.appendSegments texts trailingSlash).path = .segments
      (let after := texts.foldl (pushSegment false url.isSpecial) (dropFinalEmpty path)
       if trailingSlash then entered after ++ [""] else after) := by
  have hfile : (url.scheme == "file") = false := beq_false_of_ne hscheme
  simp only [appendSegments, hpath, hfile, pushSegment_empty]

end HttpRpc.Url
