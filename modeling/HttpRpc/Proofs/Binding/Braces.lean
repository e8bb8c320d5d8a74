import HttpRpc.Binding.Template
import HttpRpc.Proofs.Checks
import HttpRpc.Proofs.Text.Split

/-!
# The segments of templates

A segment is read exactly if it is well braced (`exists_parseSegment_eq_ok_iff`): every opening
brace is closed behind a name, and every closing brace closes one. It is read as the pieces that it
spells (`parseSegment_eq_ok_iff`), and the text of these spells them as well (`Spells.written`).
What is read is said by induction on the first braces of a segment (`braces_induction`).
-/

namespace HttpRpc

open HttpRpc.Text

namespace Piece

/-! ## Braces -/

/-- The character is one of the two braces. -/
def IsBrace (c : Char) : Prop := c = '\x7b' ∨ c = '\x7d'

/-- No brace stands in the text. -/
def IsBraceless (text : List Char) : Prop := ∀ c ∈ text, ¬IsBrace c

/-- Every opening brace of the segment is closed in it, behind a name that is not blank and has no
brace in it, and every closing brace closes one. -/
structure IsWellBraced (segment : List Char) : Prop where
  closed : ∀ before behind, segment = before ++ '\x7b' :: behind →
    ∃ name rest, behind = name ++ '\x7d' :: rest ∧ IsBraceless name ∧ trim name ≠ []
  opened : ∀ before behind, segment = before ++ '\x7d' :: behind →
    ∃ front name, before = front ++ '\x7b' :: name ∧ IsBraceless name

variable {front name rest : List Char} {brace : Char}

/-- Trimming adds no braces. -/
theorem IsBraceless.trim (h : IsBraceless name) : IsBraceless (Text.trim name) :=
  fun c hc => h c (mem_of_mem_trim hc)

/-- A text is without braces, or there is a first one. -/
theorem isBraceless_or (text : List Char) :
    IsBraceless text ∨
      ∃ front brace rest, text = front ++ brace :: rest ∧ IsBraceless front ∧ IsBrace brace := by
  induction text with
  | nil => exact Or.inl fun c hc => absurd hc List.not_mem_nil
  | cons c text ih =>
      by_cases hc : IsBrace c
      · exact Or.inr ⟨[], c, text, rfl, fun c hc => absurd hc List.not_mem_nil, hc⟩
      · rcases ih with htext | ⟨front, brace, rest, rfl, hfront, hbrace⟩
        · exact Or.inl (List.forall_mem_cons.2 ⟨hc, htext⟩)
        · exact Or.inr ⟨c :: front, brace, rest, rfl, List.forall_mem_cons.2 ⟨hc, hfront⟩, hbrace⟩

/-- A brace behind a text without braces stands behind all of it. -/
theorem IsBraceless.append_eq (hfront : IsBraceless front) (hbrace : IsBrace brace)
    {tail before behind : List Char} (h : front ++ tail = before ++ brace :: behind) :
    ∃ more, before = front ++ more ∧ tail = more ++ brace :: behind := by
  rcases List.append_eq_append_iff.1 h with ⟨more, hbefore, htail⟩ | ⟨more, rfl, hbehind⟩
  · exact ⟨more, hbefore, htail⟩
  · cases more with
    | nil => exact ⟨[], by simp, hbehind.symm⟩
    | cons c more =>
        -- The brace would stand in the text.
        rw [List.cons_append, List.cons.injEq] at hbehind
        rw [hbehind.1] at hbrace
        exact absurd hbrace (hfront c (List.mem_append_right _ List.mem_cons_self))

/-- Two texts with a first brace in each are told apart by what stands around these. -/
theorem IsBraceless.append_cons_inj {other tail : List Char} {mark : Char}
    (hfront : IsBraceless front) (hother : IsBraceless other) (hbrace : IsBrace brace)
    (hmark : IsBrace mark) (h : front ++ brace :: rest = other ++ mark :: tail) :
    front = other ∧ brace = mark ∧ rest = tail := by
  obtain ⟨more, rfl, hmore⟩ := hfront.append_eq hmark h
  cases more with
  | nil =>
      obtain ⟨rfl, rfl⟩ := List.cons.inj hmore
      exact ⟨(List.append_nil front).symm, rfl, rfl⟩
  | cons c more =>
      obtain ⟨rfl, -⟩ := List.cons.inj hmore
      exact absurd hbrace (hother brace (List.mem_append_right _ List.mem_cons_self))

/-- A segment is a text without braces, or one with an error at its first brace or the next one, or
it goes on behind a placeholder. -/
@[elab_as_elim]
theorem braces_induction {motive : List Char → Prop}
    (text : ∀ text, IsBraceless text → motive text)
    (unmatched : ∀ front rest, IsBraceless front → motive (front ++ '\x7d' :: rest))
    (unclosed : ∀ front name, IsBraceless front → IsBraceless name →
      motive (front ++ '\x7b' :: name))
    (nested : ∀ front name rest, IsBraceless front → IsBraceless name →
      motive (front ++ '\x7b' :: (name ++ '\x7b' :: rest)))
    (placeholder : ∀ front name rest, IsBraceless front → IsBraceless name → motive rest →
      motive (front ++ '\x7b' :: (name ++ '\x7d' :: rest)))
    (segment : List Char) : motive segment := by
  rcases isBraceless_or segment with
    hsegment | ⟨front, brace, behind, hsegment, hfront, rfl | rfl⟩
  · exact text segment hsegment
  · rcases isBraceless_or behind with hname | ⟨name, brace, rest, hbehind, hname, rfl | rfl⟩
    · rw [hsegment]
      exact unclosed front behind hfront hname
    · rw [hsegment, hbehind]
      exact nested front name rest hfront hname
    · have hrest : motive rest :=
        braces_induction text unmatched unclosed nested placeholder rest
      rw [hsegment, hbehind]
      exact placeholder front name rest hfront hname hrest
  · rw [hsegment]
    exact unmatched front behind hfront
termination_by segment.length
decreasing_by
  rw [hsegment, hbehind]
  simp only [List.length_append, List.length_cons]
  omega

/-- A brace of a segment is one of the first placeholder, or it stands behind that. -/
theorem brace_cases (hfront : IsBraceless front) (hname : IsBraceless name) (hbrace : IsBrace brace)
    {before behind : List Char}
    (h : front ++ '\x7b' :: (name ++ '\x7d' :: rest) = before ++ brace :: behind) :
    (before = front ∧ brace = '\x7b' ∧ behind = name ++ '\x7d' :: rest) ∨
    (before = front ++ '\x7b' :: name ∧ brace = '\x7d' ∧ behind = rest) ∨
    ∃ later, before = front ++ '\x7b' :: (name ++ '\x7d' :: later) ∧
      rest = later ++ brace :: behind := by
  obtain ⟨more, rfl, hmore⟩ := hfront.append_eq hbrace h
  cases more with
  | nil =>
      obtain ⟨hopen, hbehind⟩ := List.cons.inj hmore
      exact Or.inl ⟨List.append_nil front, hopen.symm, hbehind.symm⟩
  | cons c more =>
      obtain ⟨rfl, hinner⟩ := List.cons.inj hmore
      obtain ⟨later, rfl, hlater⟩ := hname.append_eq hbrace hinner
      cases later with
      | nil =>
          obtain ⟨hclose, hbehind⟩ := List.cons.inj hlater
          exact Or.inr (Or.inl ⟨by rw [List.append_nil], hclose.symm, hbehind.symm⟩)
      | cons c later =>
          obtain ⟨rfl, hrest⟩ := List.cons.inj hlater
          exact Or.inr (Or.inr ⟨later, rfl, hrest⟩)

/-- A segment that starts with a placeholder is well braced if the name of that is not blank and
what stands behind it is well braced. -/
theorem isWellBraced_placeholder_iff (hfront : IsBraceless front) (hname : IsBraceless name) :
    IsWellBraced (front ++ '\x7b' :: (name ++ '\x7d' :: rest)) ↔
      trim name ≠ [] ∧ IsWellBraced rest := by
  have hopen : IsBrace '\x7b' := Or.inl rfl
  have hclose : IsBrace '\x7d' := Or.inr rfl
  constructor
  · rintro ⟨hclosed, hopened⟩
    obtain ⟨other, behind, heq, hother, htrim⟩ := hclosed front _ rfl
    obtain ⟨rfl, -, -⟩ := hname.append_cons_inj hother hclose hclose heq
    refine ⟨htrim, fun before behind hrest => ?_, fun before behind hrest => ?_⟩
    · refine hclosed (front ++ '\x7b' :: (name ++ '\x7d' :: before)) behind ?_
      simp [hrest]
    · obtain ⟨others, last, heq, hlast⟩ :=
        hopened (front ++ '\x7b' :: (name ++ '\x7d' :: before)) behind (by simp [hrest])
      rcases brace_cases hfront hname hopen heq with
        ⟨-, -, rfl⟩ | ⟨-, hbrace, -⟩ | ⟨later, -, hbefore⟩
      · exact absurd hclose (hlast _ (List.mem_append_right _ List.mem_cons_self))
      · exact absurd hbrace (by decide)
      · exact ⟨later, last, hbefore, hlast⟩
  · rintro ⟨htrim, hclosed, hopened⟩
    constructor
    · intro before behind h
      rcases brace_cases hfront hname hopen h with
        ⟨-, -, rfl⟩ | ⟨-, hbrace, -⟩ | ⟨later, -, hrest⟩
      · exact ⟨name, rest, rfl, hname, htrim⟩
      · exact absurd hbrace (by decide)
      · exact hclosed later behind hrest
    · intro before behind h
      rcases brace_cases hfront hname hclose h with
        ⟨-, hbrace, -⟩ | ⟨rfl, -, -⟩ | ⟨later, rfl, hrest⟩
      · exact absurd hbrace (by decide)
      · exact ⟨front, name, rfl, hname⟩
      · obtain ⟨others, last, rfl, hlast⟩ := hopened later behind hrest
        exact ⟨front ++ '\x7b' :: (name ++ '\x7d' :: others), last, by simp, hlast⟩

/-! ## Reading segments -/

/-- Text without braces is collected. -/
theorem scanText_append (hfront : IsBraceless front) (text rest : List Char) :
    scanText text (front ++ rest) = scanText (text ++ front) rest := by
  induction front generalizing text with
  | nil => rw [List.nil_append, List.append_nil]
  | cons c front ih =>
      have hc := hfront c List.mem_cons_self
      rw [IsBrace, not_or] at hc
      have hrest : IsBraceless front := fun d hd => hfront d (List.mem_cons_of_mem _ hd)
      rw [List.cons_append, scanText, if_neg hc.1, if_neg hc.2, ih hrest, List.append_assoc,
        List.singleton_append]

/-- A name without braces is collected. -/
theorem scanName_append (hname : IsBraceless name) (front rest : List Char) :
    scanName front (name ++ rest) = scanName (front ++ name) rest := by
  induction name generalizing front with
  | nil => rw [List.nil_append, List.append_nil]
  | cons c name ih =>
      have hc := hname c List.mem_cons_self
      rw [IsBrace, not_or] at hc
      have hrest : IsBraceless name := fun d hd => hname d (List.mem_cons_of_mem _ hd)
      rw [List.cons_append, scanName, if_neg hc.2, if_neg hc.1, ih hrest, List.append_assoc,
        List.singleton_append]

/-- A segment without braces is a literal. -/
theorem parseSegment_of_isBraceless (h : IsBraceless front) :
    parseSegment front = .ok (ofText front) := by
  have hscan := scanText_append h [] []
  rw [List.append_nil] at hscan
  exact hscan

/-- A segment with a closing brace first is refused. -/
theorem parseSegment_unmatched (h : IsBraceless front) (rest : List Char) :
    parseSegment (front ++ '\x7d' :: rest) = .error .unmatchedBrace := by
  rw [parseSegment, scanText_append h, scanText, if_neg (by decide), if_pos rfl]

/-- Behind an opening brace the name of a placeholder is read. -/
theorem parseSegment_open (h : IsBraceless front) (rest : List Char) :
    parseSegment (front ++ '\x7b' :: rest) = (scanName [] rest).map (ofText front ++ ·) := by
  rw [parseSegment, scanText_append h, scanText, if_pos rfl]
  rfl

/-- A segment that ends in the name of a placeholder is refused. -/
theorem parseSegment_unclosed (hfront : IsBraceless front) (hname : IsBraceless name) :
    parseSegment (front ++ '\x7b' :: name) = .error .unclosedBrace := by
  have hscan := scanName_append hname [] []
  rw [List.append_nil, scanName] at hscan
  rw [parseSegment_open hfront, hscan]
  rfl

/-- A segment with an opening brace in the name of a placeholder is refused. -/
theorem parseSegment_nested (hfront : IsBraceless front) (hname : IsBraceless name)
    (rest : List Char) :
    parseSegment (front ++ '\x7b' :: (name ++ '\x7b' :: rest)) = .error .nestedBrace := by
  rw [parseSegment_open hfront, scanName_append hname, scanName, if_neg (by decide), if_pos rfl]
  rfl

/-- A segment with a placeholder of a blank name is refused. -/
theorem parseSegment_empty (hfront : IsBraceless front) (hname : IsBraceless name)
    (htrim : trim name = []) (rest : List Char) :
    parseSegment (front ++ '\x7b' :: (name ++ '\x7d' :: rest)) = .error .emptyPlaceholder := by
  rw [parseSegment_open hfront, scanName_append hname, scanName, if_pos rfl, List.nil_append, htrim]
  rfl

/-- A segment that starts with a placeholder is read on behind that. -/
theorem parseSegment_placeholder (hfront : IsBraceless front) (hname : IsBraceless name)
    (htrim : trim name ≠ []) (rest : List Char) :
    parseSegment (front ++ '\x7b' :: (name ++ '\x7d' :: rest)) =
      (parseSegment rest).map fun pieces =>
        ofText front ++ .placeholder (String.ofList (trim name)) :: pieces := by
  rw [parseSegment_open hfront, scanName_append hname, scanName, if_pos rfl, List.nil_append,
    if_neg (by simpa using htrim), parseSegment]
  cases scanText [] rest <;> rfl

/-- A segment is read exactly if it is well braced. -/
theorem exists_parseSegment_eq_ok_iff (segment : List Char) :
    (∃ pieces, parseSegment segment = .ok pieces) ↔ IsWellBraced segment := by
  induction segment using braces_induction with
  | text text htext =>
      refine iff_of_true ⟨_, parseSegment_of_isBraceless htext⟩ ⟨?_, ?_⟩
      · rintro before behind rfl
        exact absurd (Or.inl rfl) (htext _ (List.mem_append_right _ List.mem_cons_self))
      · rintro before behind rfl
        exact absurd (Or.inr rfl) (htext _ (List.mem_append_right _ List.mem_cons_self))
  | unmatched front rest hfront =>
      rw [parseSegment_unmatched hfront]
      refine iff_of_false nofun fun h => ?_
      obtain ⟨others, name, rfl, -⟩ := h.opened front rest rfl
      exact absurd (Or.inl rfl) (hfront _ (List.mem_append_right _ List.mem_cons_self))
  | unclosed front name hfront hname =>
      rw [parseSegment_unclosed hfront hname]
      refine iff_of_false nofun fun h => ?_
      obtain ⟨other, rest, rfl, -⟩ := h.closed front name rfl
      exact absurd (Or.inr rfl) (hname _ (List.mem_append_right _ List.mem_cons_self))
  | nested front name rest hfront hname =>
      rw [parseSegment_nested hfront hname]
      refine iff_of_false nofun fun h => ?_
      obtain ⟨other, behind, heq, hother, -⟩ := h.closed front _ rfl
      obtain ⟨-, hbrace, -⟩ := hname.append_cons_inj hother (Or.inl rfl) (Or.inr rfl) heq
      exact absurd hbrace (by decide)
  | placeholder front name rest hfront hname ih =>
      rw [isWellBraced_placeholder_iff hfront hname, ← ih]
      by_cases htrim : trim name = []
      · rw [parseSegment_empty hfront hname htrim]
        exact iff_of_false nofun fun h => h.1 htrim
      · simp only [parseSegment_placeholder hfront hname htrim, map_eq_ok]
        exact ⟨fun ⟨_, pieces, hpieces, _⟩ => ⟨htrim, pieces, hpieces⟩,
          fun ⟨_, pieces, hpieces⟩ => ⟨_, pieces, hpieces, rfl⟩⟩

/-! ## Spelling segments -/

/-- The segment spells the pieces: a literal stands for itself, and a placeholder is its name in
braces, perhaps with blanks around the name. -/
inductive Spells : List Char → List Piece → Prop where
  | text {text} : IsBraceless text → Spells text (ofText text)
  | placeholder {front name rest pieces} : IsBraceless front → IsBraceless name →
      trim name ≠ [] → Spells rest pieces →
      Spells (front ++ '\x7b' :: (name ++ '\x7d' :: rest))
        (ofText front ++ .placeholder (String.ofList (trim name)) :: pieces)

variable {segment : List Char} {pieces : List Piece}

/-- A segment is read as the pieces that it spells. -/
theorem parseSegment_eq_ok_iff : parseSegment segment = .ok pieces ↔ Spells segment pieces := by
  constructor
  · induction segment using braces_induction generalizing pieces with
    | text text htext =>
        rw [parseSegment_of_isBraceless htext]
        rintro ⟨⟩
        exact .text htext
    | unmatched front rest hfront => rw [parseSegment_unmatched hfront]; nofun
    | unclosed front name hfront hname => rw [parseSegment_unclosed hfront hname]; nofun
    | nested front name rest hfront hname => rw [parseSegment_nested hfront hname]; nofun
    | placeholder front name rest hfront hname ih =>
        by_cases htrim : trim name = []
        · rw [parseSegment_empty hfront hname htrim]
          nofun
        · rw [parseSegment_placeholder hfront hname htrim, map_eq_ok]
          rintro ⟨pieces, hpieces, rfl⟩
          exact .placeholder hfront hname htrim (ih hpieces)
  · intro h
    induction h with
    | text htext => exact parseSegment_of_isBraceless htext
    | placeholder hfront hname htrim _ ih =>
        rw [parseSegment_placeholder hfront hname htrim, ih]
        rfl

/-- The text of pieces in a template. -/
def written (pieces : List Piece) : List Char :=
  (String.join (pieces.map Piece.render)).toList

/-- The text of a literal is the literal. -/
theorem written_ofText_append (text : List Char) (pieces : List Piece) :
    written (ofText text ++ pieces) = text ++ written pieces := by
  unfold ofText
  split
  · next hempty =>
      rw [List.isEmpty_iff.1 hempty]
      rfl
  · simp [written, Piece.render, String.join_cons, String.toList_append]

/-- The text of a literal that stands alone is the literal. -/
theorem written_ofText (text : List Char) : written (ofText text) = text := by
  have happend := written_ofText_append text []
  rwa [List.append_nil, show written [] = [] from rfl, List.append_nil] at happend

/-- The text of a placeholder is its name in braces. -/
theorem written_placeholder (name : List Char) (pieces : List Piece) :
    written (.placeholder (String.ofList name) :: pieces) =
      '\x7b' :: (name ++ '\x7d' :: written pieces) := by
  simp [written, Piece.render, String.join_cons, String.toList_append]

/-- The text of pieces that a segment spells spells them as well. -/
theorem Spells.written (h : Spells segment pieces) : Spells (Piece.written pieces) pieces := by
  induction h with
  | text htext =>
      rw [written_ofText]
      exact .text htext
  | placeholder hfront hname htrim _ ih =>
      rw [written_ofText_append, written_placeholder]
      have hspells := Spells.placeholder hfront hname.trim (by rwa [trim_trim]) ih
      rwa [trim_trim] at hspells

/-- The text of pieces has no other characters than a segment that spells them. -/
theorem Spells.mem_of_mem_written (h : Spells segment pieces) {c : Char}
    (hc : c ∈ Piece.written pieces) : c ∈ segment := by
  induction h with
  | text => rwa [written_ofText] at hc
  | placeholder hfront hname htrim _ ih =>
      rw [written_ofText_append, written_placeholder] at hc
      simp only [List.mem_append, List.mem_cons] at hc ⊢
      rcases hc with hc | hc | hc | hc | hc
      · exact Or.inl hc
      · exact Or.inr (Or.inl hc)
      · exact Or.inr (Or.inr (Or.inl (mem_of_mem_trim hc)))
      · exact Or.inr (Or.inr (Or.inr (Or.inl hc)))
      · exact Or.inr (Or.inr (Or.inr (Or.inr (ih hc))))

/-- Only the empty segment spells no pieces. -/
theorem Spells.eq_nil_iff (h : Spells segment pieces) : segment = [] ↔ pieces = [] := by
  cases h with
  | text htext =>
      unfold ofText
      split <;> simp_all
  | placeholder => simp

end Piece

end HttpRpc
