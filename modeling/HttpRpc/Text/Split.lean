/-!
# Splitting and joining text

Text is cut at every separator (`splitOn`), at the first one (`splitOnce`), and at the last one
(`afterLast?`). `join_splitOn` says that cutting loses nothing, and `not_mem_of_mem_splitOn` that
no part contains a separator.
-/

namespace HttpRpc.Text

/-- The parts between separators, in order. There is one part more than there are separators, so
the empty text has one empty part. -/
def splitOn (sep : Char) : List Char → List (List Char)
  | [] => [[]]
  | c :: rest =>
    if c = sep then [] :: splitOn sep rest
    else match splitOn sep rest with
      | [] => [[c]]
      | part :: parts => (c :: part) :: parts

/-- The parts put together again with one separator between neighbours. -/
def join (sep : List Char) : List (List Char) → List Char
  | [] => []
  | [part] => part
  | part :: next :: parts => part ++ sep ++ join sep (next :: parts)

/-- The text before the first separator and the text after it. -/
def splitOnce (sep : Char) : List Char → Option (List Char × List Char)
  | [] => none
  | c :: rest =>
    if c = sep then some ([], rest)
    else (splitOnce sep rest).map fun (before, after) => (c :: before, after)

/-- The text behind the last occurrence of a separator of one character or more. -/
def afterLast? (sep : List Char) : List Char → Option (List Char)
  | [] => none
  | c :: rest => (afterLast? sep rest).or (sep.isPrefixOf? (c :: rest))

theorem splitOn_ne_nil (sep : Char) (text : List Char) : splitOn sep text ≠ [] := by
  cases text with
  | nil => simp [splitOn]
  | cons c rest =>
      simp only [splitOn]
      split
      · simp
      · split <;> simp

theorem join_cons (sep part : List Char) (parts : List (List Char)) (h : parts ≠ []) :
    join sep (part :: parts) = part ++ sep ++ join sep parts := by
  cases parts with
  | nil => exact absurd rfl h
  | cons next parts => rfl

/-- Cutting at a separator and joining with it gives the text back. -/
theorem join_splitOn (sep : Char) (text : List Char) :
    join [sep] (splitOn sep text) = text := by
  induction text with
  | nil => rfl
  | cons c rest ih =>
      simp only [splitOn]
      split
      · next h =>
          rw [join_cons _ _ _ (splitOn_ne_nil sep rest), ih, h]
          rfl
      · match h : splitOn sep rest with
        | [] => exact absurd h (splitOn_ne_nil sep rest)
        | [part] => simp_all [join]
        | part :: next :: parts => simp_all [join]

/-- No part contains the separator. -/
theorem not_mem_of_mem_splitOn {sep : Char} {text part : List Char}
    (h : part ∈ splitOn sep text) : sep ∉ part := by
  induction text generalizing part with
  | nil => simp_all [splitOn]
  | cons c rest ih =>
      simp only [splitOn] at h
      split at h
      · rcases List.mem_cons.1 h with h | h
        · simp [h]
        · exact ih h
      · next hc =>
          split at h
          · next hs => exact absurd hs (splitOn_ne_nil sep rest)
          · next first others hs =>
              rcases List.mem_cons.1 h with h | h
              · subst h
                have : sep ∉ first := ih (by simp [hs])
                simp [this, Ne.symm hc]
              · exact ih (by simp [hs, h])

/-- The parts of a string between separators. -/
def splitString (sep : Char) (text : String) : List String :=
  (splitOn sep text.toList).map String.ofList

end HttpRpc.Text
