import HttpRpc.Text.Blank
import HttpRpc.Text.Split
import Mathlib.Data.List.DropRight

/-!
# Cutting what was joined

Text with a separator in it is cut into the parts of the text before the separator and those of the
text behind it, and a text without one is a single part. Trimming a text takes blanks before it away
and leaves a text without blanks, or one that was trimmed, as it is.
-/

namespace HttpRpc.Text

/-- Joined parts are the first one and a separator before each of the others. -/
theorem join_cons_eq_flatMap (sep : Char) (first : List Char) (parts : List (List Char)) :
    join [sep] (first :: parts) = first ++ parts.flatMap (sep :: ·) := by
  induction parts generalizing first with
  | nil => exact (List.append_nil first).symm
  | cons part rest ih =>
      rw [join_cons _ _ _ (List.cons_ne_nil part rest), ih, List.flatMap_cons, List.append_assoc,
        List.singleton_append, List.cons_append]

/-- A text without a separator is its only part. -/
theorem splitOn_eq_self {sep : Char} {text : List Char} (h : sep ∉ text) :
    splitOn sep text = [text] := by
  induction text with
  | nil => rfl
  | cons c rest ih =>
      rw [List.mem_cons, not_or] at h
      rw [splitOn, if_neg (Ne.symm h.1), ih h.2]

/-- A separator stands between the parts before it and the parts behind it. -/
theorem splitOn_append (sep : Char) (before behind : List Char) :
    splitOn sep (before ++ sep :: behind) = splitOn sep before ++ splitOn sep behind := by
  induction before with
  | nil =>
      show splitOn sep (sep :: behind) = [] :: splitOn sep behind
      rw [splitOn, if_pos rfl]
  | cons c rest ih =>
      rw [List.cons_append, splitOn, splitOn]
      by_cases h : c = sep
      · rw [if_pos h, if_pos h, ih, List.cons_append]
      · rw [if_neg h, if_neg h, ih]
        cases hsplit : splitOn sep rest with
        | nil => exact absurd hsplit (splitOn_ne_nil sep rest)
        | cons part parts => rfl

/-- Parts that each stand behind a separator are found again. -/
theorem splitOn_append_flatMap {sep : Char} {first : List Char} {parts : List (List Char)}
    (hfirst : sep ∉ first) (hparts : ∀ part ∈ parts, sep ∉ part) :
    splitOn sep (first ++ parts.flatMap (sep :: ·)) = first :: parts := by
  induction parts generalizing first with
  | nil => rw [List.flatMap_nil, List.append_nil, splitOn_eq_self hfirst]
  | cons part rest ih =>
      rw [List.forall_mem_cons] at hparts
      rw [List.flatMap_cons, List.cons_append, splitOn_append, splitOn_eq_self hfirst,
        ih hparts.1 hparts.2, List.singleton_append]

/-- Characters of a part are characters of the text. -/
theorem mem_of_mem_splitOn {sep c : Char} {text part : List Char} (hpart : part ∈ splitOn sep text)
    (hc : c ∈ part) : c ∈ text := by
  cases hsplit : splitOn sep text with
  | nil => exact absurd hsplit (splitOn_ne_nil sep text)
  | cons first parts =>
      rw [← join_splitOn sep text, hsplit, join_cons_eq_flatMap, List.mem_append, List.mem_flatMap]
      rw [hsplit, List.mem_cons] at hpart
      rcases hpart with rfl | hpart
      · exact Or.inl hc
      · exact Or.inr ⟨part, hpart, List.mem_cons_of_mem _ hc⟩

/-- A text is cut at the first separator. -/
theorem splitOnce_append {sep : Char} {before : List Char} (h : sep ∉ before)
    (behind : List Char) : splitOnce sep (before ++ sep :: behind) = some (before, behind) := by
  induction before with
  | nil => rw [List.nil_append, splitOnce, if_pos rfl]
  | cons c rest ih =>
      rw [List.mem_cons, not_or] at h
      rw [List.cons_append, splitOnce, if_neg (Ne.symm h.1), ih h.2]
      rfl

/-- A text without a separator is not cut. -/
theorem splitOnce_eq_none {sep : Char} {text : List Char} (h : sep ∉ text) :
    splitOnce sep text = none := by
  induction text with
  | nil => rfl
  | cons c rest ih =>
      rw [List.mem_cons, not_or] at h
      rw [splitOnce, if_neg (Ne.symm h.1), ih h.2]
      rfl

/-- The two parts of a text around a separator make up the text. -/
theorem eq_of_splitOnce {sep : Char} {text before behind : List Char}
    (h : splitOnce sep text = some (before, behind)) : text = before ++ sep :: behind := by
  induction text generalizing before with
  | nil => cases h
  | cons c rest ih =>
      unfold splitOnce at h
      split at h
      · next hsep =>
          cases h
          rw [hsep, List.nil_append]
      · obtain ⟨⟨front, back⟩, hrest, hparts⟩ := Option.map_eq_some_iff.1 h
        cases hparts
        rw [ih hrest, List.cons_append]

/-- Two texts around a first separator are told by the whole. -/
theorem append_cons_inj {sep : Char} {before before' behind behind' : List Char}
    (h : sep ∉ before) (h' : sep ∉ before')
    (heq : before ++ sep :: behind = before' ++ sep :: behind') :
    before = before' ∧ behind = behind' := by
  have hcut := congrArg (splitOnce sep) heq
  rw [splitOnce_append h, splitOnce_append h'] at hcut
  exact Prod.mk.inj (Option.some.inj hcut)

/-! ## Trimming -/

/-- What is dropped from the end of a text is dropped behind a character that is kept. -/
theorem dropWhileEnd_append_cons {p : Char → Bool} {c : Char} (h : p c = false)
    (before behind : List Char) :
    dropWhileEnd p (before ++ c :: behind) = before ++ c :: dropWhileEnd p behind := by
  have hback : (before ++ c :: behind).reverse = behind.reverse ++ c :: before.reverse := by
    simp
  rw [dropWhileEnd, dropWhileEnd, hback, List.dropWhile_append]
  split
  · next hnone =>
      rw [List.dropWhile_cons_of_neg (Bool.eq_false_iff.1 h), List.isEmpty_iff.1 hnone]
      simp
  · simp

/-- A text around a character that is kept is trimmed on both sides of it. -/
theorem trimMatches_append_cons {p : Char → Bool} {c : Char} (h : p c = false)
    (before behind : List Char) :
    trimMatches p (before ++ c :: behind) = before.dropWhile p ++ c :: dropWhileEnd p behind := by
  have hfront : (before ++ c :: behind).dropWhile p = before.dropWhile p ++ c :: behind := by
    rw [List.dropWhile_append]
    split
    · next hnone =>
        rw [List.dropWhile_cons_of_neg (Bool.eq_false_iff.1 h), List.isEmpty_iff.1 hnone,
          List.nil_append]
    · rfl
  rw [trimMatches, hfront, dropWhileEnd_append_cons h]

/-- Trimming takes from both ends of a text. -/
theorem isInfix_trimMatches (p : Char → Bool) (text : List Char) : trimMatches p text <:+: text :=
  (List.rdropWhile_prefix p _).isInfix.trans (List.dropWhile_suffix p).isInfix

/-- There is nothing to trim from a trimmed text. -/
theorem trimMatches_trimMatches (p : Char → Bool) (text : List Char) :
    trimMatches p (trimMatches p text) = trimMatches p text := by
  -- The trimmed text starts where the characters in front that pass the test end.
  have hfront : (trimMatches p text).dropWhile p = trimMatches p text := by
    rw [List.dropWhile_eq_self_iff]
    intro hpos
    have hfront : trimMatches p text <+: text.dropWhile p := List.rdropWhile_prefix _ _
    rw [hfront.getElem hpos]
    exact List.dropWhile_get_zero_not p text _
  show List.rdropWhile p ((trimMatches p text).dropWhile p) = trimMatches p text
  rw [hfront]
  exact List.rdropWhile_idempotent _ _

/-- A text is left as it is if none of its characters pass the test. -/
theorem trimMatches_eq_self {p : Char → Bool} {text : List Char} (h : ∀ c ∈ text, p c = false) :
    trimMatches p text = text := by
  have hkept {row : List Char} (hrow : ∀ c ∈ row, p c = false) : row.dropWhile p = row := by
    cases row with
    | nil => rfl
    | cons c rest =>
        exact List.dropWhile_cons_of_neg (Bool.eq_false_iff.1 (hrow c List.mem_cons_self))
  rw [trimMatches, hkept h, dropWhileEnd, hkept fun c hc => h c (List.mem_reverse.1 hc),
    List.reverse_reverse]

/-- What is trimmed at its end first is trimmed all the same. -/
theorem trimMatches_dropWhileEnd (p : Char → Bool) (text : List Char) :
    trimMatches p (dropWhileEnd p text) = trimMatches p text := by
  cases hkept : text.dropWhile p with
  | nil =>
      have hall : ∀ c ∈ text, p c = true := List.dropWhile_eq_nil_iff.1 hkept
      have hnone : dropWhileEnd p text = [] := List.rdropWhile_eq_nil_iff.2 hall
      rw [trimMatches, trimMatches, hnone, hkept]
      rfl
  | cons c rest =>
      have hfront : text = text.takeWhile p ++ c :: rest := by
        rw [← hkept, List.takeWhile_append_dropWhile]
      have hc : p c = false := by
        have hfirst := List.head_dropWhile_not p (hkept ▸ List.cons_ne_nil c rest)
        simpa only [hkept, List.head_cons] using hfirst
      have hdropped {behind : List Char} :
          (text.takeWhile p ++ c :: behind).dropWhile p = c :: behind := by
        rw [List.dropWhile_append_of_pos fun _ => List.mem_takeWhile_imp,
          List.dropWhile_cons_of_neg (Bool.eq_false_iff.1 hc)]
      have hcons : dropWhileEnd p (c :: rest) = c :: dropWhileEnd p rest :=
        dropWhileEnd_append_cons hc [] rest
      rw [trimMatches, trimMatches, hkept, hfront, dropWhileEnd_append_cons hc, hdropped, ← hcons]
      exact List.rdropWhile_idempotent _ _

/-- What is trimmed at its front first is trimmed all the same. -/
theorem trimMatches_dropWhile (p : Char → Bool) (text : List Char) :
    trimMatches p (text.dropWhile p) = trimMatches p text := by
  rw [trimMatches, List.dropWhile_idempotent, trimMatches]

/-- A text without blanks is left as it is. -/
theorem trim_eq_self {text : List Char} (h : ∀ c ∈ text, isBlank c = false) : trim text = text :=
  trimMatches_eq_self h

/-- A blank before a text is taken away. -/
theorem trim_cons {c : Char} (h : isBlank c = true) (text : List Char) :
    trim (c :: text) = trim text := by
  rw [trim, trimMatches, List.dropWhile_cons_of_pos h]
  rfl

/-- Trimming leaves characters of the text. -/
theorem mem_of_mem_trim {c : Char} {text : List Char} (h : c ∈ trim text) : c ∈ text :=
  (isInfix_trimMatches isBlank text).mem h

/-- Trimming leaves the characters that are no blanks. -/
theorem mem_trim_iff {c : Char} (h : isBlank c = false) {text : List Char} :
    c ∈ trim text ↔ c ∈ text := by
  refine ⟨mem_of_mem_trim, fun hc => ?_⟩
  obtain ⟨before, behind, rfl⟩ := List.append_of_mem hc
  rw [trim, trimMatches_append_cons h]
  exact List.mem_append_right _ List.mem_cons_self

/-- There is nothing to trim from a trimmed text. -/
theorem trim_trim (text : List Char) : trim (trim text) = trim text :=
  trimMatches_trimMatches isBlank text

end HttpRpc.Text
