import HttpRpc.Proofs.Number.Rounding

/-!
# How near rounding stays

A rounded quotient is at most half away from the quotient (`divRoundEven_spec`), and so a rounded
ratio is at most half a unit of its exponent away from the ratio (`value_le_add_of_round`). A ratio
that lacks less than half a unit of a whole number of units is therefore rounded to that number at
least (`mul_le_value_of_round`). Exponents grow with the ratios (`exponent_le_exponent`), and only a
ratio beyond all values of the format is rounded to none (`pow_le_of_round_eq_none`).
-/

namespace HttpRpc.Number

variable {num den : ℕ}

/-! ## Rounded quotients -/

/-- A quotient and its rounded value are at most half apart. -/
theorem divRoundEven_spec (num : ℕ) (hden : 0 < den) :
    2 * (divRoundEven num den * den) ≤ 2 * num + den ∧
      2 * num ≤ 2 * (divRoundEven num den * den) + den := by
  have hdivision := Nat.div_add_mod num den
  rw [Nat.mul_comm den] at hdivision
  have hrest := Nat.mod_lt num hden
  unfold divRoundEven
  dsimp only
  split
  · omega
  split
  · rw [Nat.add_mul, Nat.one_mul]
    omega
  · -- At a tie the quotient is as near as the next number, whichever of them is even.
    rcases Nat.mod_two_eq_zero_or_one (num / den) with hparity | hparity <;>
      rw [hparity, Nat.add_mul] <;> omega

/-- A quotient that lacks less than half of a whole number is rounded to that number at least. -/
theorem le_divRoundEven_of_lt {n : ℕ} (hden : 0 < den) (h : 2 * (n * den) < 2 * num + den) :
    n ≤ divRoundEven num den := by
  obtain ⟨-, hnear⟩ := divRoundEven_spec num hden
  refine Nat.le_of_lt_succ (Nat.lt_of_mul_lt_mul_right (a := den) ?_)
  rw [Nat.succ_mul]
  omega

namespace BinaryFormat

variable {format : BinaryFormat} {x : Magnitude} {otherNum otherDen : ℕ}

/-! ## Rounded mantissas -/

/-- A mantissa is at most half away from the whole one that it is rounded to, and lacks half at
least of those beyond. -/
theorem mantissa_near (format : BinaryFormat) (num : ℕ) (hden : 0 < den) :
    (∀ n : ℕ, n < format.scaled num den + 1 / 2 → n ≤ format.mantissa num den) ∧
      format.mantissa num den ≤ format.scaled num den + 1 / 2 ∧
      format.scaled num den ≤ format.mantissa num den + 1 / 2 := by
  have hbottom : 0 < den * Nat.pow 2 (format.exponent num den).toNat :=
    Nat.mul_pos hden (Nat.pow_pos (by decide))
  have hpos : (0 : ℚ) < (den * Nat.pow 2 (format.exponent num den).toNat : ℕ) :=
    Nat.cast_pos.2 hbottom
  have hdistance {a b c : ℕ} (hc : (0 : ℚ) < c) : (a : ℚ) ≤ b / c + 1 / 2 ↔
      2 * (a * c) ≤ 2 * b + c := by
    rw [← sub_le_iff_le_add, le_div_iff₀ hc, ← Nat.cast_le (α := ℚ)]
    push_cast
    constructor <;> intro h <;> linarith
  have hdistance' {a b c : ℕ} (hc : (0 : ℚ) < c) : (b : ℚ) / c ≤ a + 1 / 2 ↔
      2 * b ≤ 2 * (a * c) + c := by
    rw [div_le_iff₀ hc, ← Nat.cast_le (α := ℚ)]
    push_cast
    constructor <;> intro h <;> linarith
  rw [scaled_eq]
  obtain ⟨hupper, hlower⟩ :=
    divRoundEven_spec (num * Nat.pow 2 (-format.exponent num den).toNat) hbottom
  refine ⟨fun n hn => le_divRoundEven_of_lt hbottom ?_, (hdistance hpos).2 hupper,
    (hdistance' hpos).2 hlower⟩
  rw [← sub_lt_iff_lt_add, lt_div_iff₀ hpos] at hn
  rw [← Nat.cast_lt (α := ℚ)]
  push_cast at hn ⊢
  linarith

/-! ## Rounded ratios -/

/-- A ratio is its mantissa times the power of its exponent. -/
theorem scaled_mul (format : BinaryFormat) (num den : ℕ) :
    format.scaled num den * 2 ^ format.exponent num den = (num : ℚ) / den :=
  div_mul_cancel₀ _ (by positivity)

section

variable (hprecision : 0 < format.precision) (hnum : 0 < num) (hden : 0 < den)
  (h : format.round num den = some x)

include hprecision hnum hden h

/-- A ratio that lacks less than half a unit of a whole number of units is rounded to that number at
least. -/
theorem mul_le_value_of_round {n : ℕ}
    (hn : n * (2 : ℚ) ^ format.exponent num den <
      (num : ℚ) / den + 2 ^ format.exponent num den / 2) :
    n * (2 : ℚ) ^ format.exponent num den ≤ x.value := by
  have hpos : (0 : ℚ) < 2 ^ format.exponent num den := by positivity
  rw [← scaled_mul format] at hn
  rw [value_of_round hprecision hnum h]
  gcongr
  refine (format.mantissa_near num hden).1 n (lt_of_mul_lt_mul_right ?_ hpos.le)
  linarith

/-- A ratio is rounded up by half a unit at most. -/
theorem value_le_add_of_round :
    x.value ≤ (num : ℚ) / den + 2 ^ format.exponent num den / 2 := by
  obtain ⟨-, hupper, -⟩ := format.mantissa_near num hden
  rw [value_of_round hprecision hnum h, ← scaled_mul format]
  calc (format.mantissa num den : ℚ) * 2 ^ format.exponent num den
      ≤ (format.scaled num den + 1 / 2) * 2 ^ format.exponent num den := by gcongr
    _ = _ := by ring

/-- A ratio does not reach the value behind the rounded one. -/
theorem div_lt_of_round : (num : ℚ) / den < x.next.value := by
  obtain ⟨-, -, hlower⟩ := format.mantissa_near num hden
  have hexponent : format.exponent num den ≤ x.exponent := by
    rcases eq_of_round hnum h with ⟨rfl, -⟩ | ⟨rfl, -⟩
    · exact le_rfl
    · exact (lt_add_one _).le
  have hpos : (0 : ℚ) < 2 ^ format.exponent num den := by positivity
  have hunit : (2 : ℚ) ^ format.exponent num den ≤ 2 ^ x.exponent :=
    zpow_le_zpow_right₀ one_le_two hexponent
  have hnext : x.next.value = x.value + 2 ^ x.exponent := by
    rw [Magnitude.value, Magnitude.value, Magnitude.next]
    push_cast
    ring
  rw [hnext, value_of_round hprecision hnum h, ← scaled_mul format]
  calc format.scaled num den * 2 ^ format.exponent num den
      ≤ (format.mantissa num den + 1 / 2) * 2 ^ format.exponent num den := by gcongr
    _ < format.mantissa num den * 2 ^ format.exponent num den + 2 ^ format.exponent num den := by
        linarith
    _ ≤ _ := by gcongr

end

/-! ## Exponents -/

/-- The exponents that ratios are rounded at grow with the ratios. -/
theorem exponent_le_exponent (hnum : 0 < num) (hden : 0 < den) (hother : 0 < otherNum)
    (hotherDen : 0 < otherDen) (h : (num : ℚ) / den ≤ (otherNum : ℚ) / otherDen) :
    format.exponent num den ≤ format.exponent otherNum otherDen := by
  have hlower := (floorLog2_spec hnum hden).1
  have hupper := (floorLog2_spec hother hotherDen).2
  have hlog := (zpow_lt_zpow_iff_right₀ one_lt_two).1 ((hlower.trans h).trans_lt hupper)
  unfold exponent
  omega

/-- A ratio below a power of two is rounded at an exponent below it by the places of the format. -/
theorem exponent_le_of_lt (hnum : 0 < num) (hden : 0 < den) {e : ℤ}
    (hleast : format.minExponent ≤ e - format.precision) (h : (num : ℚ) / den < 2 ^ e) :
    format.exponent num den ≤ e - format.precision := by
  have hlower := (floorLog2_spec hnum hden).1
  have hlog := (zpow_lt_zpow_iff_right₀ one_lt_two).1 (hlower.trans_lt h)
  unfold exponent
  omega

/-- A ratio that reaches a power of two is rounded at an exponent that is not further below it than
the mantissa has places behind the first one. -/
theorem le_exponent_of_le (hnum : 0 < num) (hden : 0 < den) {e : ℤ}
    (h : (2 : ℚ) ^ e ≤ (num : ℚ) / den) :
    e - (format.precision - 1) ≤ format.exponent num den := by
  have hupper := (floorLog2_spec hnum hden).2
  have hlog := (zpow_lt_zpow_iff_right₀ one_lt_two).1 (h.trans_lt hupper)
  unfold exponent
  omega

/-- A unit of a ratio is at most the last place that a full mantissa gives the ratio. -/
theorem zpow_exponent_le (hnum : 0 < num) (hden : 0 < den)
    (hleast : format.minExponent < format.exponent num den) :
    (2 : ℚ) ^ format.exponent num den * 2 ^ ((format.precision : ℤ) - 1) ≤ (num : ℚ) / den := by
  rw [← scaled_mul format, mul_comm]
  gcongr
  exact (format.scaled_bounds hnum hden).2 hleast

/-- A ratio that is rounded to none is beyond the mantissas of all exponents of the format. -/
theorem pow_le_of_round_eq_none (hrange : format.minExponent < format.maxExponent)
    (hnum : 0 < num) (hden : 0 < den) (h : format.round num den = none) :
    (2 : ℚ) ^ (format.maxExponent + (format.precision - 1)) ≤ (num : ℚ) / den := by
  have hcarry : (format.rounded num den).exponent ≤ format.exponent num den + 1 := by
    unfold rounded
    split
    · exact le_rfl
    · exact (lt_add_one _).le
  have hbeyond : format.maxExponent < (format.rounded num den).exponent := by
    by_contra hwithin
    rw [round_eq hnum, if_neg hwithin] at h
    cases h
  have hexponent : format.maxExponent ≤ format.exponent num den :=
    Int.le_of_lt_add_one (hbeyond.trans_le hcarry)
  rw [zpow_add₀ two_ne_zero]
  refine le_trans ?_ (zpow_exponent_le hnum hden (hrange.trans_le hexponent))
  gcongr
  exact one_le_two

end BinaryFormat

end HttpRpc.Number
