import HttpRpc.Proofs.Binding.Expansion
import HttpRpc.Proofs.Binding.Grammar
import HttpRpc.Proofs.Url.Appended

/-!
# What segments are rendered to

A segment of a parsed template is one literal or has a placeholder (`isSolid_of_parse`). In an
expansion it is therefore never rendered to an empty text, and to a dot segment only if it is the
literal of one (`expanded_cases`). So if nothing that a template is rendered from holds a tab or a
line end, every text is a place or skipped (`isClean_of_expanded`).
-/

namespace HttpRpc

namespace Piece

/-! ## Segments of parsed templates -/

/-- The segment is one literal, or it has a placeholder. -/
def IsSolid (segment : List Piece) : Prop :=
  (∃ text, text ≠ "" ∧ segment = [.literal text]) ∨ ∃ name, .placeholder name ∈ segment

/-- A segment that is not empty spells solid pieces. -/
theorem Spells.isSolid {segment : List Char} {pieces : List Piece} (h : Spells segment pieces)
    (hne : segment ≠ []) : IsSolid pieces := by
  cases h with
  | text =>
      refine Or.inl ⟨String.ofList segment, ?_, ?_⟩
      · rwa [ne_eq, String.ofList_eq_empty_iff]
      · rw [ofText, if_neg (by simpa using hne)]
  | placeholder => exact Or.inr ⟨_, List.mem_append_right _ List.mem_cons_self⟩

/-! ## Rendered texts -/

/-- Nothing that the piece is rendered to holds a tab or a line end. -/
def IsClean (values : PlaceholderValues) : Piece → Prop
  | literal text => Url.IsClean text
  | placeholder name => ∀ value, (values name).bind List.head? = some value → Url.IsClean value

/-- Whether the segment is the literal of a dot segment. -/
def isDotSegment (segment : List Piece) : Bool :=
  segment == [.literal "."] || segment == [.literal ".."]

variable {values : PlaceholderValues} {segment : List Piece} {text : String}

/-- Clean pieces are rendered to a clean text. -/
theorem isClean_of_renderSegment (hclean : ∀ piece ∈ segment, piece.IsClean values)
    (h : renderSegment values segment = .ok text) : Url.IsClean text := by
  induction segment generalizing text with
  | nil =>
      cases h
      exact Url.isClean_empty
  | cons piece rest ih =>
      have hpiece := hclean piece List.mem_cons_self
      have hrest := fun other hother => hclean other (List.mem_cons_of_mem piece hother)
      cases piece with
      | literal front =>
          rw [renderSegment] at h
          cases hback : renderSegment values rest with
          | error e => rw [hback] at h; cases h
          | ok back =>
              rw [hback] at h
              cases h
              exact hpiece.append (ih hrest hback)
      | placeholder name =>
          rw [renderSegment] at h
          cases hvalue : (values name).bind List.head? with
          | none => rw [hvalue] at h; cases h
          | some front =>
              rw [hvalue] at h
              cases hback : renderSegment values rest with
              | error e => simp only [hback] at h; cases h
              | ok back =>
                  simp only [hback] at h
                  cases h
                  exact (hpiece front hvalue).append (ih hrest hback)

/-- A segment with a placeholder is no literal of a dot segment. -/
theorem isDotSegment_of_mem {name : String} (h : .placeholder name ∈ segment) :
    isDotSegment segment = false := by
  have hsegment (dots : String) : segment ≠ [.literal dots] := by
    rintro rfl
    cases List.mem_singleton.1 h
  rw [isDotSegment, beq_false_of_ne (hsegment "."), beq_false_of_ne (hsegment ".."),
    Bool.or_false]

/-- In an expansion a solid segment has a text, and is a dot segment only as a literal. -/
theorem expanded_cases (hsolid : IsSolid segment)
    (h : expandSegment values segment = .ok text) :
    text ≠ "" ∧ Url.isDots text = isDotSegment segment := by
  obtain ⟨hrender, hcheck⟩ := expandSegment_eq_ok h
  rcases hsolid with ⟨literal, hliteral, rfl⟩ | ⟨name, hname⟩
  · have htext : literal ++ "" = text := Except.ok.inj hrender
    rw [String.append_empty] at htext
    subst htext
    exact ⟨hliteral, by simp [Url.isDots, isDotSegment, Bool.beq_eq_decide_eq]⟩
  · obtain ⟨hempty, hdot, hdots⟩ := hcheck (lastName?_ne_none hname)
    refine ⟨hempty, ?_⟩
    rw [isDotSegment_of_mem hname, Url.isDots, beq_false_of_ne hdot, beq_false_of_ne hdots,
      Bool.or_false]

end Piece

namespace UriTemplate

/-- The segments of a template that the path of an expanded URL shows: all but literals of dot
segments. -/
def steps (template : UriTemplate) : List (List Piece) :=
  template.segments.filter fun segment => !Piece.isDotSegment segment

/-- A parsed template has solid segments, and no query. -/
theorem isSolid_of_parse {text : String} {template : UriTemplate} (h : parse text = .ok template) :
    (∀ segment ∈ template.segments, Piece.IsSolid segment) ∧ template.query = [] := by
  have hspells := parse_eq_ok_iff.1 h
  refine ⟨fun pieces hpieces => ?_, hspells.query⟩
  obtain ⟨segment, hsegment, hpieces⟩ := hspells.exists_segment hpieces
  exact hpieces.isSolid (mem_pathSegments hsegment).1

variable {template : UriTemplate} {values : PlaceholderValues} {texts : List String}

/-- The lasting texts of an expansion are those of the steps. -/
theorem forall₂_steps (hsolid : ∀ segment ∈ template.segments, Piece.IsSolid segment)
    (h : List.Forall₂ (fun segment text => Piece.expandSegment values segment = .ok text)
      template.segments texts) :
    List.Forall₂ (fun segment text => Piece.expandSegment values segment = .ok text)
      template.steps (Url.lasting texts) := by
  unfold steps Url.lasting
  generalize template.segments = segments at h hsolid ⊢
  induction h with
  | nil => exact .nil
  | cons hhead _ ih =>
      have hdots := (Piece.expanded_cases (hsolid _ List.mem_cons_self) hhead).2
      have hrest := ih fun segment hsegment => hsolid segment (List.mem_cons_of_mem _ hsegment)
      rw [List.filter_cons, List.filter_cons, hdots]
      split
      · exact .cons hhead hrest
      · exact hrest

/-- The texts of a clean expansion are clean, and the lasting ones name places. -/
theorem isClean_of_expanded (hsolid : ∀ segment ∈ template.segments, Piece.IsSolid segment)
    (hclean : ∀ segment ∈ template.segments, ∀ piece ∈ segment, piece.IsClean values)
    (h : List.Forall₂ (fun segment text => Piece.expandSegment values segment = .ok text)
      template.segments texts) :
    ∀ text ∈ texts, Url.IsClean text ∧ (text ∈ Url.lasting texts → Url.IsPlace text) := by
  intro text htext
  obtain ⟨i, hi, rfl⟩ := List.getElem_of_mem htext
  have hi' : i < template.segments.length := by rwa [h.length_eq]
  have hsegment := List.getElem_mem hi'
  have hexpand := List.Forall₂.get h hi' hi
  have hpieces := Piece.isClean_of_renderSegment (hclean _ hsegment)
    (Piece.expandSegment_eq_ok hexpand).1
  refine ⟨hpieces, fun hlasting => ?_⟩
  have hdots : Url.isDots texts[i] = false := by simpa using (List.mem_filter.1 hlasting).2
  rw [Url.isDots, Bool.or_eq_false_iff, beq_eq_false_iff_ne, beq_eq_false_iff_ne] at hdots
  exact hpieces.isPlace (Piece.expanded_cases (hsolid _ hsegment) hexpand).1 hdots.1 hdots.2

end UriTemplate

end HttpRpc
