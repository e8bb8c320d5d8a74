import HttpRpc.Interface.Name
import HttpRpc.Proofs.Text.Letter
import HttpRpc.Proofs.Text.Split

/-!
# Wire names

A conventional name is made of words of small letters and digits with one underscore between
neighbours, and starts with a letter (`IsSnakeCase`). In its wire name a capital shows that a word
starts there, but nothing shows that one starts with a digit. So two conventional names have one
wire name exactly if they are the same without the underscores in front of digits
(`lowerCamelCase_eq_iff`).
-/

namespace HttpRpc.Interface

/-! ## Conventional names -/

/-- The word is made of small letters and digits. -/
structure IsWord (word : List Char) : Prop where
  ne_nil : word ≠ []
  chars : ∀ c ∈ word, (c.isLower || c.isDigit) = true

/-- The name is made of words with one underscore between neighbours, and it starts with a letter.
-/
structure IsSnakeCase (name : List Char) : Prop where
  words : ∀ word ∈ Text.splitOn '_' name, IsWord word
  start : name.head?.any Char.isLower = true

instance (word : List Char) : Decidable (IsWord word) :=
  decidable_of_iff (word ≠ [] ∧ word.all (fun c => c.isLower || c.isDigit) = true)
    ⟨fun h => ⟨h.1, List.all_eq_true.1 h.2⟩, fun h => ⟨h.1, List.all_eq_true.2 h.2⟩⟩

instance (name : List Char) : Decidable (IsSnakeCase name) :=
  decidable_of_iff
    ((∀ word ∈ Text.splitOn '_' name, IsWord word) ∧ name.head?.any Char.isLower = true)
    ⟨fun h => ⟨h.1, h.2⟩, fun h => ⟨h.1, h.2⟩⟩

/-- The name without the underscores in front of digits. -/
def joinDigits : List Char → List Char
  | [] => []
  | c :: rest =>
    if c = '_' ∧ rest.head?.any Char.isDigit = true then joinDigits rest else c :: joinDigits rest

/-! ## Characters -/

section

variable {c : Char}

/-- A small letter or a digit is one of the first characters. -/
theorem toNat_lt_of_wordChar (h : (c.isLower || c.isDigit) = true) : c.toNat < 0x80 := by
  have hbound {last : UInt32} (h : (c.val ≤ last : Bool) = true) : c.toNat ≤ last.toNat :=
    UInt32.le_iff_toNat_le.1 (of_decide_eq_true h)
  rcases Bool.or_eq_true_iff.1 h with hletter | hdigit
  · exact (hbound (Bool.and_eq_true_iff.1 hletter).2).trans_lt (by decide)
  · exact (hbound (Bool.and_eq_true_iff.1 hdigit).2).trans_lt (by decide)

/-- A small letter or a digit is no capital. -/
theorem not_capital_of_wordChar (h : (c.isLower || c.isDigit) = true) :
    c.isUpper = false ∧ c.toLower = c :=
  Text.forall_char_of_lt
    (fun c => (c.isLower || c.isDigit) = true → c.isUpper = false ∧ c.toLower = c)
    (by decide) (toNat_lt_of_wordChar h) h

/-- A digit has no capital. -/
theorem toUpper_of_isDigit (h : c.isDigit = true) : c.toUpper = c :=
  Text.forall_char_of_lt (fun c => c.isDigit = true → c.toUpper = c) (by decide)
    (toNat_lt_of_wordChar (by rw [h, Bool.or_true])) h

/-- A small letter has a capital, which is that of no other. -/
theorem toUpper_of_isLower (h : c.isLower = true) :
    c.toUpper.isUpper = true ∧ c.toUpper.toLower = c :=
  Text.forall_char_of_lt
    (fun c => c.isLower = true → c.toUpper.isUpper = true ∧ c.toUpper.toLower = c) (by decide)
    (toNat_lt_of_wordChar (by rw [h, Bool.true_or])) h

end

/-! ## Words -/

/-- A word behind an underscore, which is dropped in front of a digit. -/
def marked : List Char → List Char
  | [] => []
  | c :: rest => if c.isDigit then c :: rest else '_' :: c :: rest

/-- The text with a capital in place of each underscore and the letter behind it. -/
def raise : List Char → List Char
  | '_' :: c :: rest => c.toUpper :: raise rest
  | c :: rest => c :: raise rest
  | [] => []

/-- The character with an underscore and a small letter in place of a capital. -/
def unraise (c : Char) : List Char :=
  if c.isUpper then ['_', c.toLower] else [c]

section

variable {word first : List Char} {parts : List (List Char)}

/-- A word has no underscores. -/
theorem IsWord.not_mem (h : IsWord word) : '_' ∉ word :=
  fun hmem => absurd (h.chars _ hmem) (by decide)

/-- A text without underscores is left as it is. -/
theorem joinDigits_append (h : '_' ∉ word) (rest : List Char) :
    joinDigits (word ++ rest) = word ++ joinDigits rest := by
  induction word with
  | nil => rfl
  | cons c word ih =>
      rw [List.mem_cons, not_or] at h
      rw [List.cons_append, joinDigits, if_neg fun hc => h.1 hc.1.symm, ih h.2, List.cons_append]

/-- The underscore in front of a word is dropped if the word starts with a digit. -/
theorem joinDigits_marked (h : IsWord word) (rest : List Char) :
    joinDigits ('_' :: word ++ rest) = marked word ++ joinDigits rest := by
  obtain ⟨c, word, rfl⟩ := List.exists_cons_of_ne_nil h.ne_nil
  have hjoined := joinDigits_append h.not_mem rest
  rw [List.cons_append, joinDigits]
  by_cases hdigit : c.isDigit = true
  · rw [if_pos ⟨rfl, hdigit⟩, hjoined, marked, if_pos hdigit]
  · rw [if_neg fun hc => hdigit hc.2, hjoined, marked, if_neg hdigit]
    rfl

/-- A text without underscores is left as it is. -/
theorem raise_append (h : '_' ∉ word) (rest : List Char) :
    raise (word ++ rest) = word ++ raise rest := by
  induction word with
  | nil => rfl
  | cons c word ih =>
      rw [List.mem_cons, not_or] at h
      rw [List.cons_append, raise, ih h.2, List.cons_append]
      rintro _ _ rfl
      exact absurd rfl h.1

/-- The first letter of a word behind an underscore becomes a capital. -/
theorem raise_marked (h : IsWord word) (rest : List Char) :
    raise (marked word ++ rest) = withFirst Text.upper word ++ raise rest := by
  obtain ⟨c, word, rfl⟩ := List.exists_cons_of_ne_nil h.ne_nil
  have hc := h.chars c List.mem_cons_self
  have hupper : Text.upper c = [c.toUpper] := if_pos (toNat_lt_of_wordChar hc)
  rw [withFirst, hupper, List.singleton_append]
  by_cases hdigit : c.isDigit = true
  · rw [marked, if_pos hdigit, raise_append h.not_mem, toUpper_of_isDigit hdigit]
  · have hrest : '_' ∉ word := fun hmem => h.not_mem (List.mem_cons_of_mem c hmem)
    rw [marked, if_neg hdigit, List.cons_append, List.cons_append, raise, raise_append hrest,
      List.cons_append]

/-- Characters of words are left as they are. -/
theorem flatMap_unraise (h : ∀ c ∈ word, (c.isLower || c.isDigit) = true) :
    word.flatMap unraise = word := by
  induction word with
  | nil => rfl
  | cons c word ih =>
      rw [List.forall_mem_cons] at h
      rw [List.flatMap_cons, ih h.2, unraise, (not_capital_of_wordChar h.1).1]
      rfl

/-- A word with a capital is read back as the word behind an underscore. -/
theorem flatMap_unraise_withFirst (h : IsWord word) :
    (withFirst Text.upper word).flatMap unraise = marked word := by
  obtain ⟨c, word, rfl⟩ := List.exists_cons_of_ne_nil h.ne_nil
  have hchars := h.chars
  rw [List.forall_mem_cons] at hchars
  obtain ⟨hc, hrest⟩ := hchars
  have hupper : Text.upper c = [c.toUpper] := if_pos (toNat_lt_of_wordChar hc)
  rw [withFirst, hupper, List.singleton_append, List.flatMap_cons, flatMap_unraise hrest, unraise]
  by_cases hdigit : c.isDigit = true
  · rw [toUpper_of_isDigit hdigit, (not_capital_of_wordChar hc).1, marked, if_pos hdigit]
    rfl
  · have hlower : c.isLower = true := by simpa [hdigit] using hc
    obtain ⟨hcapital, hback⟩ := toUpper_of_isLower hlower
    rw [hcapital, hback, marked, if_neg hdigit]
    rfl

/-! ## Names -/

/-- What is done to each word in front of other text is done to all words. -/
theorem apply_flatMap (f : List Char → List Char) {write become : List Char → List Char}
    (hnil : f [] = [])
    (hpart : ∀ part ∈ parts, ∀ rest, f (write part ++ rest) = become part ++ f rest) :
    f (parts.flatMap write) = parts.flatMap become := by
  induction parts with
  | nil => exact hnil
  | cons part parts ih =>
      rw [List.forall_mem_cons] at hpart
      rw [List.flatMap_cons, hpart.1, ih hpart.2, List.flatMap_cons]

/-- Words behind underscores keep those in front of letters. -/
theorem joinDigits_words (hfirst : IsWord first) (hparts : ∀ part ∈ parts, IsWord part) :
    joinDigits (first ++ parts.flatMap ('_' :: ·)) = first ++ parts.flatMap marked := by
  rw [joinDigits_append hfirst.not_mem, apply_flatMap joinDigits rfl]
  exact fun part hpart => joinDigits_marked (hparts part hpart)

/-- Words behind underscores become words with capitals. -/
theorem raise_words (hfirst : IsWord first) (hparts : ∀ part ∈ parts, IsWord part) :
    raise (first ++ parts.flatMap marked) =
      first ++ parts.flatMap (withFirst Text.upper) := by
  rw [raise_append hfirst.not_mem, apply_flatMap raise rfl]
  exact fun part hpart => raise_marked (hparts part hpart)

/-- Words with capitals are read back as words behind underscores. -/
theorem flatMap_unraise_words (hfirst : IsWord first) (hparts : ∀ part ∈ parts, IsWord part) :
    (first ++ parts.flatMap (withFirst Text.upper)).flatMap unraise =
      first ++ parts.flatMap marked := by
  rw [List.flatMap_append, flatMap_unraise hfirst.chars, List.flatMap_assoc]
  congr 1
  refine List.flatMap_congr fun part hpart => ?_
  exact flatMap_unraise_withFirst (hparts part hpart)

end

variable {name : List Char}

/-- A conventional name is its first word and an underscore in front of each of the others. -/
theorem IsSnakeCase.exists_words (h : IsSnakeCase name) :
    ∃ (first : List Char) (parts : List (List Char)), Text.splitOn '_' name = first :: parts ∧
      IsWord first ∧ (∀ part ∈ parts, IsWord part) ∧ name = first ++ parts.flatMap ('_' :: ·) ∧
      joinCamel (wordsOf name) = first ++ parts.flatMap (withFirst Text.upper) := by
  cases hsplit : Text.splitOn '_' name with
  | nil => exact absurd hsplit (Text.splitOn_ne_nil '_' name)
  | cons first parts =>
      have hwords := h.words
      rw [hsplit, List.forall_mem_cons] at hwords
      obtain ⟨hfirst, hparts⟩ := hwords
      have hname : name = first ++ parts.flatMap ('_' :: ·) := by
        rw [← Text.join_cons_eq_flatMap, ← hsplit, Text.join_splitOn]
      have hwords : wordsOf name = first :: parts := by
        rw [wordsOf, hsplit, List.filter_eq_self]
        intro word hword
        have hne : word ≠ [] := by
          rcases List.mem_cons.1 hword with rfl | hword
          · exact hfirst.ne_nil
          · exact (hparts word hword).ne_nil
        simpa using hne
      have hlower : withFirst Text.lower first = first := by
        obtain ⟨c, rest, rfl⟩ := List.exists_cons_of_ne_nil hfirst.ne_nil
        have hc := hfirst.chars c List.mem_cons_self
        have hlower : Text.lower c = [c.toLower] := if_pos (toNat_lt_of_wordChar hc)
        rw [withFirst, hlower, (not_capital_of_wordChar hc).2, List.singleton_append]
      exact ⟨first, parts, rfl, hfirst, hparts, hname, by rw [hwords, joinCamel, hlower]⟩

/-- The wire name of a conventional name is made of the name without the underscores in front of
digits, and the latter is read back from it. -/
theorem IsSnakeCase.joinCamel_iff (h : IsSnakeCase name) :
    raise (joinDigits name) = joinCamel (wordsOf name) ∧
      (joinCamel (wordsOf name)).flatMap unraise = joinDigits name := by
  obtain ⟨first, parts, -, hfirst, hparts, hname, hcamel⟩ := h.exists_words
  rw [hcamel, hname, joinDigits_words hfirst hparts]
  exact ⟨raise_words hfirst hparts, flatMap_unraise_words hfirst hparts⟩

/-- A conventional name of words that start with letters is left as it is. -/
theorem IsSnakeCase.joinDigits_eq_self (h : IsSnakeCase name)
    (hletters : ∀ word ∈ Text.splitOn '_' name, word.head?.any Char.isDigit = false) :
    joinDigits name = name := by
  obtain ⟨first, parts, hsplit, hfirst, hparts, hname, -⟩ := h.exists_words
  rw [hsplit, List.forall_mem_cons] at hletters
  have hmarked : ∀ part ∈ parts, marked part = '_' :: part := by
    intro part hpart
    obtain ⟨c, rest, rfl⟩ := List.exists_cons_of_ne_nil (hparts part hpart).ne_nil
    have hletter : c.isDigit = false := hletters.2 _ hpart
    rw [marked, hletter]
    rfl
  rw [hname, joinDigits_words hfirst hparts, List.flatMap_congr hmarked]

/-- Two conventional names have one wire name exactly if they are the same without the underscores
in front of digits. -/
theorem lowerCamelCase_eq_iff {first second : String} (hfirst : IsSnakeCase first.toList)
    (hsecond : IsSnakeCase second.toList) :
    lowerCamelCase first = lowerCamelCase second ↔
      joinDigits first.toList = joinDigits second.toList := by
  obtain ⟨hraise, hunraise⟩ := hfirst.joinCamel_iff
  obtain ⟨hraise', hunraise'⟩ := hsecond.joinCamel_iff
  rw [lowerCamelCase, lowerCamelCase, String.ofList_inj]
  constructor
  · intro h
    rw [← hunraise, h, hunraise']
  · intro h
    rw [← hraise, h, hraise']

end HttpRpc.Interface
