import HttpRpc.Proofs.Number.Rounding

/-!
# What rounding keeps exactly

A ratio that is a value of the format is rounded to this value (`exists_round_eq`). So natural
numbers that have no more places than a mantissa are kept as they are (`exists_round_natCast_eq`),
and so are products that are such numbers (`exists_mul_natCast_eq`). A product beyond them is not
rounded back to them (`pow_precision_le_value_of_mul`).
-/

namespace HttpRpc.Number.BinaryFormat

variable {format : BinaryFormat} {x y factor product : Magnitude} {num den : ℕ}

/-- A value that the mantissa has the places for is not below the exponent that it is rounded at. -/
theorem exponent_le_of_div_eq (hnum : 0 < num) (hden : 0 < den)
    (hplaces : y.mantissa < 2 ^ format.precision) (hexponent : format.minExponent ≤ y.exponent)
    (h : (num : ℚ) / den = y.value) : format.exponent num den ≤ y.exponent := by
  have hlower := (floorLog2_spec hnum hden).1
  have hvalue : y.value < 2 ^ (format.precision + y.exponent) := by
    have hpos : (0 : ℚ) < 2 ^ y.exponent := by positivity
    calc y.value < (2 ^ format.precision : ℕ) * (2 : ℚ) ^ y.exponent := by
          unfold Magnitude.value
          gcongr
      _ = 2 ^ (format.precision + y.exponent) := natCast_pow_mul_zpow _ _
  rw [h] at hlower
  have hlog := (zpow_lt_zpow_iff_right₀ one_lt_two).1 (hlower.trans_lt hvalue)
  unfold exponent
  omega

/-- A ratio is rounded to its whole mantissa if that has not grown by a place and its exponent is in
the range. -/
theorem round_eq_some (hnum : 0 < num) (hcarry : format.mantissa num den ≠ 2 ^ format.precision)
    (hexponent : format.exponent num den ≤ format.maxExponent) :
    format.round num den = some ⟨format.mantissa num den, format.exponent num den⟩ := by
  have hrounded : format.rounded num den = ⟨format.mantissa num den, format.exponent num den⟩ :=
    if_neg hcarry
  rw [round_eq hnum, hrounded]
  exact if_neg hexponent.not_gt

/-- A ratio that is a value of the format is rounded to this value. -/
theorem exists_round_eq (hprecision : 0 < format.precision) (hnum : 0 < num) (hden : 0 < den)
    (hplaces : y.mantissa < 2 ^ format.precision) (hleast : format.minExponent ≤ y.exponent)
    (hgreatest : y.exponent ≤ format.maxExponent) (h : (num : ℚ) / den = y.value) :
    ∃ x, format.round num den = some x ∧ x.value = y.value := by
  have hexponent := exponent_le_of_div_eq hnum hden hplaces hleast h
  obtain ⟨hlower, hupper, -⟩ := format.mantissa_spec num hden
  obtain ⟨k, hk⟩ := Int.le.dest hexponent
  -- The value is a whole number of units of the exponent, so nothing is rounded away.
  have hvalue : y.value = (y.mantissa * 2 ^ k : ℕ) * 2 ^ format.exponent num den := by
    rw [Magnitude.value, ← hk, zpow_add₀ two_ne_zero, zpow_natCast]
    push_cast
    ring
  have hscaled : format.scaled num den = (y.mantissa * 2 ^ k : ℕ) := by
    rw [scaled, h, hvalue]
    exact mul_div_cancel_right₀ _ (by positivity)
  have hmantissa : format.mantissa num den = y.mantissa * 2 ^ k :=
    le_antisymm (hupper _ hscaled.le) (hlower _ hscaled.ge)
  have hcarry : format.mantissa num den ≠ 2 ^ format.precision := by
    have hlt := (format.scaled_bounds hnum hden).1
    rw [hscaled, ← hmantissa] at hlt
    exact (by exact_mod_cast hlt : format.mantissa num den < 2 ^ format.precision).ne
  have hround := round_eq_some hnum hcarry (hexponent.trans hgreatest)
  refine ⟨_, hround, ?_⟩
  rw [value_of_round hprecision hnum hround, hmantissa, hvalue]

/-! ## Natural numbers -/

/-- A natural number with no more places than a mantissa is kept as it is. -/
theorem exists_round_natCast_eq (hprecision : 0 < format.precision)
    (hleast : format.minExponent ≤ 0) (hgreatest : 0 ≤ format.maxExponent) {n : ℕ}
    (hnum : 0 < num) (hden : 0 < den) (hplaces : n < 2 ^ format.precision)
    (h : (num : ℚ) / den = n) : ∃ x, format.round num den = some x ∧ x.value = n := by
  have hvalue : (⟨n, 0⟩ : Magnitude).value = n := by simp [Magnitude.value]
  have hexact := exists_round_eq (y := ⟨n, 0⟩) hprecision hnum hden hplaces hleast hgreatest
    (h.trans hvalue.symm)
  rwa [hvalue] at hexact

/-- A natural number below the least that doubles leave out is kept as it is. -/
theorem exists_binary64_round_eq {n : ℕ} (hpos : 0 < n) (hplaces : n < 2 ^ 53) :
    ∃ x, binary64.round n 1 = some x ∧ x.value = n :=
  exists_round_natCast_eq (by decide) (by decide) (by decide) hpos one_pos hplaces (by simp)

section

variable {n m : ℕ} (hprecision : 0 < format.precision) (hleast : format.minExponent ≤ 0)
  (hx : x.value = n) (hfactor : factor.value = m)

include hx hfactor in
/-- The numerator of a positive product of natural numbers is positive. -/
theorem num_mul_num_pos_of_natCast (hpos : 0 < n * m) : 0 < x.num * factor.num := by
  refine Magnitude.num_mul_num_pos ?_
  rw [hx, hfactor, ← Nat.cast_mul]
  exact Nat.cast_pos.2 hpos

include hprecision hleast hx hfactor

/-- A product of natural numbers with no more places than a mantissa is kept as it is. -/
theorem exists_mul_natCast_eq (hgreatest : 0 ≤ format.maxExponent) (hpos : 0 < n * m)
    (hplaces : n * m < 2 ^ format.precision) :
    ∃ product, format.mul x factor = some product ∧ product.value = (n * m : ℕ) := by
  refine exists_round_natCast_eq hprecision hleast hgreatest
    (num_mul_num_pos_of_natCast hx hfactor hpos) (Nat.mul_pos x.den_pos factor.den_pos) hplaces ?_
  rw [Magnitude.num_mul_div_den_mul, hx, hfactor, Nat.cast_mul]

/-- A product that has more places than a mantissa is not rounded to one that has not. -/
theorem pow_precision_le_value_of_mul (hplaces : 2 ^ format.precision ≤ n * m)
    (hmul : format.mul x factor = some product) :
    ((2 ^ format.precision : ℕ) : ℚ) ≤ product.value := by
  have hpos : 0 < n * m := (Nat.pow_pos two_pos).trans_le hplaces
  have hvalue : (⟨1, format.precision⟩ : Magnitude).value = (2 ^ format.precision : ℕ) := by
    simp [Magnitude.value]
  rw [← hvalue]
  refine value_le_of_round hprecision (num_mul_num_pos_of_natCast hx hfactor hpos)
    (Nat.mul_pos x.den_pos factor.den_pos) hmul (Nat.one_le_two_pow (n := format.precision))
    (hleast.trans (Int.natCast_nonneg _)) ?_
  rw [hvalue, Magnitude.num_mul_div_den_mul, hx, hfactor, ← Nat.cast_mul]
  exact Nat.cast_le.2 hplaces

end

end HttpRpc.Number.BinaryFormat
