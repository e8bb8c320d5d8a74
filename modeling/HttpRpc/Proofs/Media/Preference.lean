import HttpRpc.Proofs.Lists
import HttpRpc.Proofs.Media.Joined
import HttpRpc.Proofs.Number.Code
import Mathlib.Tactic.NormNum

/-!
# Preferences

A media type is accepted with a preference, which is the number between zero and one that its
parameter `q` states in single precision, or else one (`preference`). Its quality is the code of
that number (`value_quality`), so that qualities above zero are compared like the numbers
(`code_le_code`). Hence a list that is not blank accepts what it states with a preference above
zero, in falling order of preference, and leaves what is equally preferred in its order
(`pairwise_parseAccept`, `filter_parseAccept`).
-/

namespace HttpRpc

open HttpRpc.Text HttpRpc.Number

/-! ## Qualities -/

namespace Quality

/-- The number that a quality stands for; zero has two codes, one for each sign. -/
def value (q : Quality) : ℚ :=
  (binary32.ofCode (q.code % (UInt32.size / 2))).value

/-- The finite number in single precision that a text states. -/
def stated? (text : String) : Option ℚ :=
  match Literal.parse? text.toList with
  | some (.finite negative digits exponent) =>
    (binary32.ofDecimal digits exponent).map fun x => if negative then -x.value else x.value
  | _ => none

/-- The quality is that of a number between zero and one. -/
def IsValid (q : Quality) : Prop :=
  q.code ≤ one.code ∨ q.code = UInt32.size / 2

variable {q other : Quality} {text : String}

/-- A quality of either sign below the highest one is that of its code. -/
theorem value_of_le (h : q.code ≤ one.code) : q.value = (binary32.ofCode q.code).value := by
  have hone : one.code < UInt32.size / 2 := by decide
  rw [value, Nat.mod_eq_of_lt (h.trans_lt hone)]

/-- The first code is that of zero. -/
theorem value_ofCode_zero : (binary32.ofCode 0).value = 0 := by
  have hzero : binary32.ofCode 0 = ⟨0, -149⟩ := by decide
  rw [hzero, Magnitude.value, Nat.cast_zero, zero_mul]

/-- The highest quality is one. -/
theorem value_one : one.value = 1 := by
  have hone : binary32.ofCode one.code = ⟨8388608, -23⟩ := by decide
  rw [value_of_le le_rfl, hone]
  norm_num [Magnitude.value]

/-- The qualities above zero are those of numbers above zero. -/
theorem isPositive_iff (h : q.IsValid) : q.isPositive = true ↔ 0 < q.value := by
  rw [isPositive, Bool.and_eq_true, decide_eq_true_eq, decide_eq_true_eq]
  rcases h with hle | hzero
  · rw [value_of_le hle, ← value_ofCode_zero,
      (BinaryFormat.strictMono_value_ofCode binary32).lt_iff_lt]
    exact and_iff_left hle
  · have hvalue : q.value = 0 := by
      rw [value, hzero, Nat.mod_self, value_ofCode_zero]
    have hone : ¬q.code ≤ one.code := by
      rw [hzero]
      decide
    exact iff_of_false (fun h => hone h.2) (fun h => h.ne' hvalue)

/-- Qualities above zero are compared like their numbers. -/
theorem code_le_code (h : q.isPositive = true) (hother : other.isPositive = true) :
    q.code ≤ other.code ↔ q.value ≤ other.value := by
  rw [isPositive, Bool.and_eq_true, decide_eq_true_eq, decide_eq_true_eq] at h hother
  rw [value_of_le h.2, value_of_le hother.2]
  exact (BinaryFormat.strictMono_value_ofCode binary32).le_iff_le.symm

/-- Both codes of zero are those of zero. -/
theorem value_zero (negative : Bool) :
    value ⟨if negative then UInt32.size / 2 else 0⟩ = 0 := by
  rw [value]
  cases negative <;> exact value_ofCode_zero

/-- A magnitude of the format is above one exactly if its code is above that of the highest quality.
-/
theorem one_code_lt_iff {x : Magnitude} (h : binary32.Fits x) :
    one.code < binary32.code x ↔ 1 < x.value := by
  rw [← (BinaryFormat.strictMono_value_ofCode binary32).lt_iff_lt, h.ofCode_code (by decide),
    ← value_of_le le_rfl, value_one]

/-- The quality of a magnitude of single precision with a sign. -/
def ofSigned? (negative : Bool) (x : Magnitude) : Option Quality :=
  if x.mantissa = 0 then some ⟨if negative then UInt32.size / 2 else 0⟩
  else if negative || one.code < binary32.code x then none
  else some ⟨binary32.code x⟩

/-- The number that a magnitude with a sign stands for. -/
def signed (negative : Bool) (x : Magnitude) : ℚ :=
  if negative then -x.value else x.value

/-- A quality, if there is one, is that of the number, if that is between zero and one. -/
def Measures (q? : Option Quality) (number : ℚ) : Prop :=
  (∃ q, q? = some q ∧ q.IsValid ∧ q.value = number ∧ 0 ≤ number ∧ number ≤ 1) ∨
    (q? = none ∧ ¬(0 ≤ number ∧ number ≤ 1))

/-- Zero of either sign has its quality. -/
theorem measures_zero {x : Magnitude} (h : x.mantissa = 0) (negative : Bool) :
    Measures (ofSigned? negative x) (signed negative x) := by
  have hsigned : signed negative x = 0 := by
    rw [signed, Magnitude.value, h, Nat.cast_zero, zero_mul, neg_zero, ite_self]
  have hvalid : IsValid ⟨if negative then UInt32.size / 2 else 0⟩ := by
    cases negative
    · exact .inl (Nat.zero_le _)
    · exact .inr rfl
  rw [ofSigned?, if_pos h, hsigned]
  exact .inl ⟨_, rfl, hvalid, value_zero negative, le_rfl, zero_le_one⟩

/-- A magnitude with a mantissa is above zero. -/
theorem value_pos {x : Magnitude} (h : x.mantissa ≠ 0) : 0 < x.value := by
  have hmantissa := Nat.pos_of_ne_zero h
  rw [Magnitude.value]
  positivity

/-- What is below zero has no quality. -/
theorem measures_negative {x : Magnitude} (h : x.mantissa ≠ 0) :
    Measures (ofSigned? true x) (signed true x) := by
  refine .inr ⟨by rw [ofSigned?, if_neg h]; rfl, fun hrange => ?_⟩
  have hnegative : signed true x < 0 := neg_lt_zero.2 (value_pos h)
  exact hnegative.not_ge hrange.1

/-- What is above zero has a quality exactly if it is not above one. -/
theorem measures_positive {x : Magnitude} (hfits : binary32.Fits x) (h : x.mantissa ≠ 0) :
    Measures (ofSigned? false x) (signed false x) := by
  have hsigned : signed false x = x.value := rfl
  rw [ofSigned?, if_neg h, Bool.false_or, hsigned]
  by_cases hone : one.code < binary32.code x
  · rw [if_pos (decide_eq_true hone)]
    exact .inr ⟨rfl, fun hrange => ((one_code_lt_iff hfits).1 hone).not_ge hrange.2⟩
  · have hle := Nat.not_lt.1 hone
    rw [if_neg (mt of_decide_eq_true hone)]
    exact .inl ⟨_, rfl, .inl hle,
      (value_of_le hle).trans (congrArg Magnitude.value (hfits.ofCode_code (by decide))),
      (value_pos h).le, not_lt.1 (mt (one_code_lt_iff hfits).2 hone)⟩

/-- A text states a quality exactly if it states a number between zero and one, and it is the
quality of that number. -/
theorem parse?_spec (text : String) :
    (parse? text).map value = (stated? text).filter (fun x => 0 ≤ x ∧ x ≤ 1) ∧
      ∀ q ∈ parse? text, q.IsValid := by
  have hnone (q : Quality) (hq : q ∈ none) : q.IsValid := absurd hq (Option.not_mem_none q)
  unfold parse? stated?
  rcases Literal.parse? text.toList with _ | _ | _ | ⟨negative, digits, exponent⟩
  · exact ⟨rfl, hnone⟩
  · exact ⟨rfl, hnone⟩
  · exact ⟨rfl, hnone⟩
  dsimp only
  cases hround : binary32.ofDecimal digits exponent with
  | none => exact ⟨rfl, hnone⟩
  | some x =>
      have hfits := BinaryFormat.fits_of_ofDecimal (by decide) hround
      have hmeasures : Measures (ofSigned? negative x) (signed negative x) := by
        by_cases hzero : x.mantissa = 0
        · exact measures_zero hzero negative
        · cases negative
          · exact measures_positive hfits hzero
          · exact measures_negative hzero
      show (ofSigned? negative x).map value = (some (signed negative x)).filter _ ∧
        ∀ q ∈ ofSigned? negative x, q.IsValid
      rw [Option.filter_some]
      rcases hmeasures with ⟨q, hq, hvalid, hvalue, hrange⟩ | ⟨hq, hrange⟩
      · rw [hq, Option.map_some, hvalue, if_pos (decide_eq_true hrange)]
        exact ⟨rfl, fun other hother => Option.some.inj hother ▸ hvalid⟩
      · rw [hq, if_neg (mt of_decide_eq_true hrange)]
        exact ⟨rfl, hnone⟩

end Quality

/-! ## Media types in order of preference -/

namespace MediaType

variable {media : MediaType} {header : String}

/-- The number that a media type is accepted with: that of its parameter `q`, if it states one
between zero and one in single precision, or else one. -/
def preference (media : MediaType) : ℚ :=
  ((media.param? "q").bind fun text => (Quality.stated? text).filter fun x => 0 ≤ x ∧ x ≤ 1).getD 1

/-- The quality of a media type is that of its preference. -/
theorem value_quality (media : MediaType) : media.quality.value = media.preference := by
  rw [quality, preference]
  cases media.param? "q" with
  | none => exact Quality.value_one
  | some text =>
      rw [Option.bind_some, Option.bind_some, ← (Quality.parse?_spec text).1]
      cases Quality.parse? text with
      | none => exact Quality.value_one
      | some q => rfl

/-- The quality of a media type is that of a number between zero and one. -/
theorem isValid_quality (media : MediaType) : media.quality.IsValid := by
  have hone : Quality.one.IsValid := .inl le_rfl
  rw [quality]
  cases media.param? "q" with
  | none => exact hone
  | some text =>
      rw [Option.bind_some]
      cases hparse : Quality.parse? text with
      | none => exact hone
      | some q => exact (Quality.parse?_spec text).2 q hparse

/-- A media type is not refused exactly if its preference is above zero. -/
theorem isPositive_quality_iff : media.quality.isPositive = true ↔ 0 < media.preference := by
  rw [Quality.isPositive_iff media.isValid_quality, value_quality]

/-- A list states what is usable with a preference above zero. -/
theorem usable_eq (header : String) :
    usable header = (listed header).filter fun media => 0 < media.preference := by
  refine List.filter_congr fun media _ => Bool.eq_iff_iff.2 ?_
  rw [isPositive_quality_iff, decide_eq_true_eq]

/-- What is usable is compared by its preference. -/
theorem code_le_code_iff {other : MediaType} (h : media ∈ usable header)
    (hother : other ∈ usable header) :
    media.quality.code ≤ other.quality.code ↔ media.preference ≤ other.preference := by
  rw [Quality.code_le_code (List.mem_filter.1 h).2 (List.mem_filter.1 hother).2, value_quality,
    value_quality]

/-- The order in which media types are sorted is one. -/
theorem le_trans_quality (a b c : MediaType) (hab : decide (b.quality.code ≤ a.quality.code) = true)
    (hbc : decide (c.quality.code ≤ b.quality.code) = true) :
    decide (c.quality.code ≤ a.quality.code) = true := by
  rw [decide_eq_true_eq] at hab hbc ⊢
  exact hbc.trans hab

/-- Any two media types can be sorted. -/
theorem le_total_quality (a b : MediaType) : (decide (b.quality.code ≤ a.quality.code) ||
    decide (a.quality.code ≤ b.quality.code)) = true := by
  rw [Bool.or_eq_true, decide_eq_true_eq, decide_eq_true_eq]
  exact le_total _ _

/-- A list that is not blank accepts what is usable. -/
theorem perm_parseAccept (h : trim header.toList ≠ []) :
    (parseAccept header).Perm (usable header) := by
  rw [parseAccept_of_ne h]
  exact List.mergeSort_perm _ _

/-- What is preferred is accepted before the rest. -/
theorem pairwise_parseAccept (h : trim header.toList ≠ []) :
    (parseAccept header).Pairwise fun media later => later.preference ≤ media.preference := by
  have hmem {media : MediaType} : media ∈ parseAccept header → media ∈ usable header :=
    (perm_parseAccept h).mem_iff.1
  have hsorted : (parseAccept header).Pairwise fun media later =>
      decide (later.quality.code ≤ media.quality.code) = true := by
    rw [parseAccept_of_ne h]
    exact List.pairwise_mergeSort le_trans_quality le_total_quality _
  refine hsorted.imp_of_mem fun hmedia hlater hle => ?_
  exact (code_le_code_iff (hmem hlater) (hmem hmedia)).1 (of_decide_eq_true hle)

/-- What is equally preferred is accepted in the order of the list. -/
theorem filter_parseAccept (h : trim header.toList ≠ []) (x : ℚ) :
    (parseAccept header).filter (fun media => media.preference = x) =
      (usable header).filter fun media => media.preference = x := by
  rw [parseAccept_of_ne h]
  refine filter_mergeSort le_trans_quality le_total_quality fun a ha b hb htieda htiedb => ?_
  rw [decide_eq_true_eq] at htieda htiedb ⊢
  exact (code_le_code_iff hb ha).2 (htiedb.trans htieda.symm).le

end MediaType

end HttpRpc
