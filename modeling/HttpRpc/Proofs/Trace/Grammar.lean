import HttpRpc.Proofs.Text.Numeral
import HttpRpc.Proofs.Text.Split
import HttpRpc.Proofs.Trace.Vector

/-!
# The texts of request vectors

A text is that of a vector exactly if it is a root and the numbers of levels between points
(`Spells`, `parse_eq_ok_iff`). The numbers may be written in capitals and with zeros in front; the
vector is written in small letters and without them (`normalText`), which is read as the same vector
(`parse_decided`).
-/

namespace HttpRpc

open HttpRpc.Text

namespace RequestVector

/-! ## The grammar -/

/-- The number of a level: one hexadecimal digit or more, which denote a number of 64 bits. -/
structure IsLevel (part : List Char) : Prop where
  ne_nil : part ≠ []
  isHexDigit : ∀ c ∈ part, Text.isHexDigit c = true
  hexNumber_lt : hexNumber part < UInt64.size

/-- The text is a root of visible ASCII and the numbers of levels, with points between. -/
structure Spells (input : String) (root : List Char) (levels : List (List Char)) : Prop where
  splitOn_eq : splitOn '.' input.toList = root :: levels
  isGraphic : IsGraphic (String.ofList root)
  isLevel : ∀ level ∈ levels, IsLevel level

/-- The text with every part behind the first in small letters and without zeros in front. -/
def normalText (input : String) : String :=
  match splitOn '.' input.toList with
  | [] => ""
  | root :: levels => String.ofList (join ['.'] (root :: levels.map shortDigits))

variable {input : String} {part root : List Char} {levels : List (List Char)}

/-! ## Levels -/

/-- A level is read exactly if it is one, as the number that its digits denote. -/
theorem parseSuffix_eq_ok_iff {number : UInt64} :
    parseSuffix input part = .ok number ↔
      IsLevel part ∧ number = UInt64.ofNat (hexNumber part) := by
  unfold parseSuffix
  by_cases hempty : part = []
  · subst hempty
    exact ⟨nofun, fun h => absurd rfl h.1.ne_nil⟩
  rw [if_neg (by simpa using hempty)]
  by_cases hdigits : part.all Text.isHexDigit = true
  · have hvalue := value?_eq_hexNumber hempty (List.all_eq_true.1 hdigits)
    simp only [hdigits, if_true, hvalue]
    by_cases hsize : hexNumber part < UInt64.size
    · rw [if_pos hsize, Except.ok.injEq, eq_comm]
      exact (and_iff_right ⟨hempty, List.all_eq_true.1 hdigits, hsize⟩).symm
    · rw [if_neg hsize]
      exact ⟨nofun, fun h => absurd h.1.hexNumber_lt hsize⟩
  · simp only [hdigits, Bool.false_eq_true, if_false]
    exact ⟨nofun, fun h => absurd (List.all_eq_true.2 h.1.isHexDigit) hdigits⟩

/-- Levels are read exactly if all of them are levels, as the numbers that their digits denote. -/
theorem mapM_parseSuffix_eq_ok_iff {suffixes : List UInt64} :
    levels.mapM (parseSuffix input) = .ok suffixes ↔ (∀ level ∈ levels, IsLevel level) ∧
      suffixes = levels.map fun level => UInt64.ofNat (hexNumber level) :=
  mapM_eq_ok_iff fun _ _ => parseSuffix_eq_ok_iff

/-- A level is written as its digits in small letters and without zeros in front. -/
theorem IsLevel.toDigits_eq (h : IsLevel part) :
    Nat.toDigits 16 (UInt64.ofNat (hexNumber part)).toNat = shortDigits part := by
  rw [UInt64.toNat_ofNat_of_lt' h.hexNumber_lt, toDigits_hexNumber h.ne_nil h.isHexDigit]

/-! ## Texts -/

/-- The vector that a root and the numbers of levels stand for. -/
def ofSpelling (root : List Char) (levels : List (List Char)) : RequestVector :=
  ⟨String.ofList root, levels.map fun level => UInt64.ofNat (hexNumber level)⟩

/-- A text without characters before its first point is not read. -/
theorem exists_parse_eq_error (hsplit : splitOn '.' input.toList = [] :: levels) :
    ∃ e, parse input = .error e := by
  unfold parse
  by_cases hinput : input = ""
  · exact ⟨_, if_pos (by simpa using hinput)⟩
  rw [if_neg (by simpa using hinput), hsplit]
  exact ⟨_, rfl⟩

/-- The root of a text is checked before its levels. -/
theorem parse_eq_bind (hsplit : splitOn '.' input.toList = root :: levels) (hne : root ≠ []) :
    parse input = checkRoot (String.ofList root) >>= fun root =>
      levels.mapM (parseSuffix input) >>= fun suffixes => .ok ⟨root, suffixes⟩ := by
  have hinput : input ≠ "" := by
    rintro rfl
    exact hne (List.cons.inj hsplit).1.symm
  unfold parse
  rw [if_neg (by simpa using hinput)]
  simp only [hsplit, List.isEmpty_eq_false_iff.2 hne]
  rfl

/-- A text is read exactly if it is a root and the numbers of levels, as the vector that these stand
for. -/
theorem parse_eq_ok_iff {vector : RequestVector} :
    parse input = .ok vector ↔
      ∃ root levels, Spells input root levels ∧ vector = ofSpelling root levels := by
  constructor
  · intro h
    cases hsplit : splitOn '.' input.toList with
    | nil => exact absurd hsplit (splitOn_ne_nil _ _)
    | cons root levels =>
        by_cases hne : root = []
        · subst hne
          obtain ⟨e, herror⟩ := exists_parse_eq_error hsplit
          rw [herror] at h
          cases h
        rw [parse_eq_bind hsplit hne] at h
        obtain ⟨found, hroot, h⟩ := bind_eq_ok.1 h
        obtain ⟨suffixes, hsuffixes, h⟩ := bind_eq_ok.1 h
        cases h
        obtain ⟨rfl, hgraphic, -⟩ := checkRoot_eq_ok_iff_isGraphic.1 hroot
        obtain ⟨hlevels, rfl⟩ := mapM_parseSuffix_eq_ok_iff.1 hsuffixes
        exact ⟨root, levels, ⟨hsplit, hgraphic, hlevels⟩, rfl⟩
  · rintro ⟨root, levels, h, rfl⟩
    have hne : root ≠ [] := fun hnil => h.isGraphic.1 (by rw [hnil])
    have hpoint : '.' ∉ root := not_mem_of_mem_splitOn (h.splitOn_eq ▸ List.mem_cons_self)
    have hroot := checkRoot_eq_ok_iff_isGraphic.2
      ⟨rfl, h.isGraphic, by rwa [String.toList_ofList]⟩
    rw [parse_eq_bind h.splitOn_eq hne, hroot, ok_bind,
      mapM_parseSuffix_eq_ok_iff.2 ⟨h.isLevel, rfl⟩]
    rfl

/-- A vector is written as the normal form of any text that spells it. -/
theorem Spells.render_eq (h : Spells input root levels) :
    (ofSpelling root levels).render = normalText input := by
  have hdigits : (ofSpelling root levels).suffixes.map (fun suffix =>
      Nat.toDigits 16 suffix.toNat) = levels.map shortDigits := by
    rw [ofSpelling, List.map_map]
    exact List.map_congr_left fun level hlevel => (h.isLevel level hlevel).toDigits_eq
  rw [← String.toList_inj, toList_render, hdigits, normalText]
  simp only [h.splitOn_eq]
  rw [join_cons_eq_flatMap, String.toList_ofList, ofSpelling, String.toList_ofList]

/-- A text is read exactly if it is a root and the numbers of levels between points. The vector that
it is read as is written in its normal form, which is read as the same vector. -/
theorem parse_decided (input : String) :
    ((∃ vector, parse input = .ok vector) ↔ ∃ root levels, Spells input root levels) ∧
    ∀ vector, parse input = .ok vector →
      vector.render = normalText input ∧ parse vector.render = .ok vector := by
  refine ⟨⟨?_, ?_⟩, fun vector h => ⟨?_, (isValid_of_parse h).parse_render⟩⟩
  · rintro ⟨vector, h⟩
    obtain ⟨root, levels, hspells, -⟩ := parse_eq_ok_iff.1 h
    exact ⟨root, levels, hspells⟩
  · rintro ⟨root, levels, hspells⟩
    exact ⟨_, parse_eq_ok_iff.2 ⟨root, levels, hspells, rfl⟩⟩
  · obtain ⟨root, levels, hspells, rfl⟩ := parse_eq_ok_iff.1 h
    exact hspells.render_eq

/-- Capitals and zeros in front are read, and written in the normal form. -/
theorem parse_decided_capitals :
    parse "Root.00FF.000" = .ok ⟨"Root", [255, 0]⟩ ∧
      normalText "Root.00FF.000" = "Root.ff.0" ∧
      (⟨"Root", [255, 0]⟩ : RequestVector).render = normalText "Root.00FF.000" ∧
      parse (⟨"Root", [255, 0]⟩ : RequestVector).render = .ok ⟨"Root", [255, 0]⟩ := by
  have hparse : parse "Root.00FF.000" = .ok ⟨"Root", [255, 0]⟩ := by decide
  exact ⟨hparse, by decide, (parse_decided "Root.00FF.000").2 _ hparse⟩

end RequestVector

end HttpRpc
