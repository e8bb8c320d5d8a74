import HttpRpc.Number.Rounding
import Mathlib.Algebra.Order.Field.Power
import Mathlib.Data.Rat.Cast.Order
import Mathlib.Tactic.GCongr
import Mathlib.Tactic.Linarith
import Mathlib.Tactic.Positivity
import Mathlib.Tactic.Ring

/-!
# What rounding keeps

Rounding is judged by the rational number that a magnitude stands for (`Magnitude.value`). A ratio
is rounded to a whole number of units of one exponent, on the same side of every whole number
(`mantissa_spec`). So it is not rounded below a value of the format that it reaches
(`value_le_of_round`), and it does not reach beyond the value behind the rounded one
(`div_le_of_round`). A factor above one is so far above it that a product reaches this next value
(`next_value_le_of_mul`): multiplying makes up for what rounding took away
(`natCast_le_value_of_mul`).
-/

namespace HttpRpc.Number

variable {num den : Nat}

/-! ## Values -/

/-- Powers of two are multiplied by adding their exponents. -/
theorem natCast_pow_mul_zpow (n : ℕ) (e : ℤ) :
    ((2 ^ n : ℕ) : ℚ) * 2 ^ e = 2 ^ (n + e) := by
  rw [Nat.cast_pow, Nat.cast_ofNat, ← zpow_natCast, ← zpow_add₀ two_ne_zero]

namespace Magnitude

/-- The rational number that a magnitude stands for. -/
def value (x : Magnitude) : ℚ :=
  x.mantissa * (2 : ℚ) ^ x.exponent

/-- The magnitude with the next mantissa. -/
def next (x : Magnitude) : Magnitude :=
  ⟨x.mantissa + 1, x.exponent⟩

/-- The denominator of a value is positive. -/
theorem den_pos (x : Magnitude) : 0 < x.den :=
  Nat.pow_pos (by decide)

/-- The two parts of an exponent that make a ratio of it. -/
theorem pow_toNat_eq (e : ℤ) :
    ((Nat.pow 2 e.toNat : ℕ) : ℚ) = (2 : ℚ) ^ e * (Nat.pow 2 (-e).toNat : ℕ) := by
  have hcast (n : ℕ) : ((Nat.pow 2 n : ℕ) : ℚ) = (2 : ℚ) ^ (n : ℤ) := by
    rw [zpow_natCast]
    exact Nat.cast_pow 2 n
  rw [hcast, hcast, ← zpow_add₀ two_ne_zero]
  congr 1
  omega

/-- The numerator is the value times the denominator. -/
theorem num_eq (x : Magnitude) : (x.num : ℚ) = x.value * x.den := by
  rw [num, value, den, Nat.cast_mul, pow_toNat_eq, mul_assoc]

/-- The value is that of the ratio. -/
theorem num_div_den (x : Magnitude) : (x.num : ℚ) / x.den = x.value := by
  have hden : (x.den : ℚ) ≠ 0 := Nat.cast_ne_zero.2 (Nat.ne_of_gt x.den_pos)
  rw [num_eq, mul_div_assoc, div_self hden, mul_one]

/-- The product of the values is that of the ratios. -/
theorem num_mul_div_den_mul (x y : Magnitude) :
    ((x.num * y.num : ℕ) : ℚ) / (x.den * y.den : ℕ) = x.value * y.value := by
  rw [Nat.cast_mul, Nat.cast_mul, mul_div_mul_comm, num_div_den, num_div_den]

/-- The numerator of a positive product is positive. -/
theorem num_mul_num_pos {x y : Magnitude} (h : 0 < x.value * y.value) : 0 < x.num * y.num := by
  refine Nat.pos_of_ne_zero fun hzero => ?_
  rw [← num_mul_div_den_mul, hzero, Nat.cast_zero, zero_div] at h
  exact lt_irrefl _ h

/-- A natural number is at most the value if it fits into the ratio. -/
theorem natCast_le_value {n : ℕ} {x : Magnitude} : (n : ℚ) ≤ x.value ↔ n * x.den ≤ x.num := by
  have hden : (0 : ℚ) < x.den := Nat.cast_pos.2 x.den_pos
  rw [← num_div_den, le_div_iff₀ hden]
  exact_mod_cast Iff.rfl

/-- A value is above one if its numerator is above its denominator. -/
theorem one_lt_value {x : Magnitude} : 1 < x.value ↔ x.den < x.num := by
  rw [← num_div_den, one_lt_div (Nat.cast_pos.2 x.den_pos), Nat.cast_lt]

/-- A value above one is above it by the last place of one at least, as far as its mantissa has no
more places. -/
theorem one_add_le_value {x : Magnitude} {places : ℕ} (hplaces : x.mantissa < 2 ^ (places + 1))
    (h : 1 < x.value) : 1 + (2 : ℚ) ^ (-places : ℤ) ≤ x.value := by
  have hpos : (0 : ℚ) < 2 ^ (-places : ℤ) := by positivity
  rcases lt_or_ge x.exponent (-places) with hlow | hhigh
  · -- The mantissa does not make up for an exponent this low.
    have hmantissa : (x.mantissa : ℚ) ≤ 2 ^ ((places + 1 : ℕ) : ℤ) := by
      rw [zpow_natCast]
      exact_mod_cast hplaces.le
    have : x.value ≤ 1 := by
      calc x.value ≤ 2 ^ ((places + 1 : ℕ) : ℤ) * (2 : ℚ) ^ x.exponent := by
            unfold value
            gcongr
        _ = 2 ^ ((places + 1 : ℕ) + x.exponent) := (zpow_add₀ two_ne_zero _ _).symm
        _ ≤ 2 ^ (0 : ℤ) := zpow_le_zpow_right₀ one_le_two (by push_cast; omega)
        _ = 1 := zpow_zero 2
    exact absurd h this.not_gt
  · -- The value is a whole number of last places of one.
    obtain ⟨k, hk⟩ := Int.le.dest hhigh
    have hvalue : x.value = (x.mantissa * 2 ^ k : ℕ) * (2 : ℚ) ^ (-places : ℤ) := by
      rw [value, ← hk, zpow_add₀ two_ne_zero, zpow_natCast]
      push_cast
      ring
    have hone : (1 : ℚ) = (2 ^ places : ℕ) * (2 : ℚ) ^ (-places : ℤ) := by
      rw [zpow_neg, zpow_natCast]
      push_cast
      rw [mul_inv_cancel₀ (by positivity)]
    rw [hvalue, hone, mul_lt_mul_iff_left₀ hpos, Nat.cast_lt] at h
    calc 1 + (2 : ℚ) ^ (-places : ℤ) = (2 ^ places + 1 : ℕ) * (2 : ℚ) ^ (-places : ℤ) := by
          rw [Nat.cast_add, add_mul, ← hone, Nat.cast_one, one_mul]
      _ ≤ (x.mantissa * 2 ^ k : ℕ) * (2 : ℚ) ^ (-places : ℤ) := by
          gcongr
          exact h
      _ = x.value := hvalue.symm

end Magnitude

/-! ## Rounded quotients -/

/-- A rounded quotient is at least a whole number that fits into it. -/
theorem le_divRoundEven {n : ℕ} (hden : 0 < den) (h : n * den ≤ num) :
    n ≤ divRoundEven num den := by
  have hwhole : n ≤ num / den := (Nat.le_div_iff_mul_le hden).2 h
  refine Nat.le_trans hwhole ?_
  unfold divRoundEven
  dsimp only
  split
  · exact Nat.le_refl _
  · split
    · exact Nat.le_succ _
    · exact Nat.le_add_right _ _

/-- A quotient is not rounded above a whole number that it does not exceed. -/
theorem divRoundEven_le {n : ℕ} (hden : 0 < den) (h : num ≤ n * den) :
    divRoundEven num den ≤ n := by
  have hdivision := Nat.div_add_mod num den
  have hrest := Nat.mod_lt num hden
  unfold divRoundEven
  dsimp only
  rcases Nat.lt_or_ge (num / den) n with hlt | hge
  · split
    · exact hlt.le
    · split <;> omega
  · -- The quotient is whole, so there is nothing to round.
    have hwhole : den * n ≤ den * (num / den) := Nat.mul_le_mul_left den hge
    rw [Nat.mul_comm] at h
    have hzero : num % den = 0 := by omega
    rw [if_pos (by omega)]
    exact Nat.le_of_mul_le_mul_left (by omega) hden

/-- A quotient is less than one above its rounded value. -/
theorem le_divRoundEven_add_one (hden : 0 < den) :
    num ≤ (divRoundEven num den + 1) * den := by
  have hfloor : num / den ≤ divRoundEven num den :=
    le_divRoundEven hden (Nat.div_mul_le_self num den)
  calc num ≤ (num / den + 1) * den := by
        rw [Nat.mul_comm]
        exact (Nat.lt_mul_div_succ num hden).le
    _ ≤ (divRoundEven num den + 1) * den := Nat.mul_le_mul_right den (by omega)

/-! ## Rounded ratios -/

namespace BinaryFormat

variable {format : BinaryFormat} {x y factor product : Magnitude}

/-- A ratio lies between the power of two that its logarithm names and the next one. -/
theorem floorLog2_spec (hnum : 0 < num) (hden : 0 < den) :
    (2 : ℚ) ^ floorLog2 num den ≤ num / den ∧
      (num : ℚ) / den < 2 ^ (floorLog2 num den + 1) := by
  have hpos : (0 : ℚ) < den := Nat.cast_pos.2 hden
  have hlower {n : ℕ} (hn : 0 < n) : (2 : ℚ) ^ (n.log2 : ℤ) ≤ n := by
    rw [zpow_natCast]
    exact_mod_cast Nat.log2_self_le hn.ne'
  have hupper (n : ℕ) : (n : ℚ) < 2 ^ ((n.log2 : ℤ) + 1) := by
    rw [← Nat.cast_succ, zpow_natCast]
    exact_mod_cast Nat.lt_log2_self
  -- The two logarithms leave one power of two open, which the guess is compared with.
  have hbelow : (2 : ℚ) ^ ((num.log2 : ℤ) - den.log2 - 1) ≤ num / den := by
    rw [le_div_iff₀ hpos]
    calc (2 : ℚ) ^ ((num.log2 : ℤ) - den.log2 - 1) * den
        ≤ 2 ^ ((num.log2 : ℤ) - den.log2 - 1) * 2 ^ ((den.log2 : ℤ) + 1) := by
          gcongr
          exact (hupper den).le
      _ = 2 ^ (num.log2 : ℤ) := by rw [← zpow_add₀ two_ne_zero]; congr 1; omega
      _ ≤ num := hlower hnum
  have habove : (num : ℚ) / den < 2 ^ ((num.log2 : ℤ) - den.log2 + 1) := by
    rw [div_lt_iff₀ hpos]
    calc (num : ℚ) < 2 ^ ((num.log2 : ℤ) + 1) := hupper num
      _ = 2 ^ ((num.log2 : ℤ) - den.log2 + 1) * 2 ^ (den.log2 : ℤ) := by
          rw [← zpow_add₀ two_ne_zero]; congr 1; omega
      _ ≤ 2 ^ ((num.log2 : ℤ) - den.log2 + 1) * den := by
          gcongr
          exact hlower hden
  have hguess (e : ℤ) : den * Nat.pow 2 e.toNat ≤ num * Nat.pow 2 (-e).toNat ↔
      (2 : ℚ) ^ e ≤ num / den := by
    have hscale : (0 : ℚ) < (Nat.pow 2 (-e).toNat : ℕ) :=
      Nat.cast_pos.2 (Nat.pow_pos (by decide))
    rw [le_div_iff₀ hpos, ← Nat.cast_le (α := ℚ), Nat.cast_mul, Nat.cast_mul,
      Magnitude.pow_toNat_eq, ← mul_assoc, mul_le_mul_iff_left₀ hscale, mul_comm]
  unfold floorLog2
  dsimp only
  split
  · next h => exact ⟨(hguess _).1 h, habove⟩
  · next h =>
      rw [hguess, not_le] at h
      exact ⟨hbelow, by rwa [Int.sub_add_cancel]⟩

/-- The mantissa of a code has no more places than the format. -/
theorem mantissa_ofCode_lt (hprecision : 0 < format.precision) (code : ℕ) :
    (format.ofCode code).mantissa < 2 ^ format.precision := by
  obtain ⟨places, hplaces⟩ := Nat.exists_eq_add_one_of_ne_zero hprecision.ne'
  have hhalf : Nat.pow 2 (format.precision - 1) = 2 ^ places := by
    rw [hplaces, Nat.add_sub_cancel]
    rfl
  have hpow : 2 ^ format.precision = 2 ^ places + 2 ^ places := by
    rw [hplaces, pow_succ, Nat.mul_two]
  unfold ofCode
  rw [hhalf, hpow]
  dsimp only
  split
  · next hlow => exact hlow.trans_le (Nat.le_add_left ..)
  · exact Nat.add_lt_add_left (Nat.mod_lt _ (Nat.pow_pos two_pos)) _

/-- The exponent that a ratio is rounded at. -/
def exponent (format : BinaryFormat) (num den : ℕ) : ℤ :=
  max (floorLog2 num den - (format.precision - 1)) format.minExponent

/-- The mantissa that a ratio has at its exponent, which need not be whole. -/
def scaled (format : BinaryFormat) (num den : ℕ) : ℚ :=
  (num : ℚ) / den / 2 ^ format.exponent num den

/-- The whole mantissa that a ratio is rounded to. -/
def mantissa (format : BinaryFormat) (num den : ℕ) : ℕ :=
  divRoundEven (num * Nat.pow 2 (-format.exponent num den).toNat)
    (den * Nat.pow 2 (format.exponent num den).toNat)

/-- What a ratio is rounded to if the format has no greatest value: its whole mantissa at its
exponent, or half of it at the next one if the mantissa has grown by a place. -/
def rounded (format : BinaryFormat) (num den : ℕ) : Magnitude :=
  if format.mantissa num den = Nat.pow 2 format.precision then
    ⟨Nat.pow 2 (format.precision - 1), format.exponent num den + 1⟩
  else ⟨format.mantissa num den, format.exponent num den⟩

/-- A ratio is rounded to none if the format has no such exponent. -/
theorem round_eq (hnum : 0 < num) : format.round num den =
    if format.maxExponent < (format.rounded num den).exponent then none
    else some (format.rounded num den) := by
  unfold round
  rw [if_neg hnum.ne']
  rfl

/-- A ratio is rounded to its whole mantissa; one that has grown by a place is halved. -/
theorem eq_of_round (hnum : 0 < num) (h : format.round num den = some x) :
    (x = ⟨format.mantissa num den, format.exponent num den⟩ ∧
        format.mantissa num den ≠ 2 ^ format.precision) ∨
      (x = ⟨2 ^ (format.precision - 1), format.exponent num den + 1⟩ ∧
        format.mantissa num den = 2 ^ format.precision) := by
  rw [round_eq hnum] at h
  obtain ⟨-, h⟩ := Option.ite_none_left_eq_some.1 h
  by_cases hcarry : format.mantissa num den = 2 ^ format.precision
  · exact .inr ⟨(Option.some.inj h).symm.trans (if_pos hcarry), hcarry⟩
  · exact .inl ⟨(Option.some.inj h).symm.trans (if_neg hcarry), hcarry⟩

/-- The value of a rounded ratio is its whole mantissa at its exponent. -/
theorem value_of_round (hprecision : 0 < format.precision) (hnum : 0 < num)
    (h : format.round num den = some x) :
    x.value = format.mantissa num den * 2 ^ format.exponent num den := by
  rcases eq_of_round hnum h with ⟨rfl, -⟩ | ⟨rfl, hcarry⟩
  · rfl
  · obtain ⟨places, hplaces⟩ := Nat.exists_eq_add_one_of_ne_zero hprecision.ne'
    rw [hcarry, hplaces, Magnitude.value, zpow_add_one₀ two_ne_zero]
    push_cast
    ring

/-- The mantissa is the quotient of the two parts of the ratio once they are brought to the
exponent. -/
theorem scaled_eq (format : BinaryFormat) (num den : ℕ) :
    format.scaled num den =
      ((num * Nat.pow 2 (-format.exponent num den).toNat : ℕ) : ℚ) /
        (den * Nat.pow 2 (format.exponent num den).toNat : ℕ) := by
  have hscale : ((Nat.pow 2 (-format.exponent num den).toNat : ℕ) : ℚ) ≠ 0 :=
    Nat.cast_ne_zero.2 (Nat.ne_of_gt (Nat.pow_pos (by decide)))
  rw [scaled, Nat.cast_mul, Nat.cast_mul, Magnitude.pow_toNat_eq (format.exponent num den),
    ← mul_assoc, mul_div_mul_right _ _ hscale, div_div]

/-- A mantissa is rounded to a whole number on the same side of each whole number, less than one
away. -/
theorem mantissa_spec (format : BinaryFormat) (num : ℕ) (hden : 0 < den) :
    (∀ n : ℕ, n ≤ format.scaled num den → n ≤ format.mantissa num den) ∧
      (∀ n : ℕ, format.scaled num den ≤ n → format.mantissa num den ≤ n) ∧
      format.scaled num den ≤ format.mantissa num den + 1 := by
  have hbottom : 0 < den * Nat.pow 2 (format.exponent num den).toNat :=
    Nat.mul_pos hden (Nat.pow_pos (by decide))
  have hpos : (0 : ℚ) < (den * Nat.pow 2 (format.exponent num den).toNat : ℕ) :=
    Nat.cast_pos.2 hbottom
  rw [scaled_eq]
  refine ⟨fun n hn => ?_, fun n hn => ?_, ?_⟩
  · rw [le_div_iff₀ hpos] at hn
    exact le_divRoundEven hbottom (by exact_mod_cast hn)
  · rw [div_le_iff₀ hpos] at hn
    exact divRoundEven_le hbottom (by exact_mod_cast hn)
  · rw [div_le_iff₀ hpos]
    exact_mod_cast le_divRoundEven_add_one hbottom

/-- A mantissa has no more places than the format, and as many if its exponent is not the least one.
-/
theorem scaled_bounds (format : BinaryFormat) (hnum : 0 < num) (hden : 0 < den) :
    format.scaled num den < 2 ^ format.precision ∧
      (format.minExponent < format.exponent num den →
        (2 : ℚ) ^ ((format.precision : ℤ) - 1) ≤ format.scaled num den) := by
  obtain ⟨hlower, hupper⟩ := floorLog2_spec hnum hden
  have hpos : (0 : ℚ) < 2 ^ format.exponent num den := by positivity
  unfold scaled
  constructor
  · rw [div_lt_iff₀ hpos, ← zpow_natCast, ← zpow_add₀ two_ne_zero]
    refine hupper.trans_le (zpow_le_zpow_right₀ one_le_two ?_)
    have := le_max_left (floorLog2 num den - (format.precision - 1)) format.minExponent
    unfold exponent
    omega
  · intro hexponent
    have hlog : format.exponent num den = floorLog2 num den - (format.precision - 1) := by
      unfold exponent at hexponent ⊢
      omega
    rw [le_div_iff₀ hpos, ← zpow_add₀ two_ne_zero, hlog]
    rwa [add_sub_cancel]

/-! ## What rounding keeps of the order -/

/-- A value of the format that a ratio reaches is reached by the rounded ratio. -/
theorem value_le_of_round (hprecision : 0 < format.precision) (hnum : 0 < num) (hden : 0 < den)
    (h : format.round num den = some x) (hplaces : y.mantissa ≤ 2 ^ format.precision)
    (hexponent : format.minExponent ≤ y.exponent) (hy : y.value ≤ (num : ℚ) / den) :
    y.value ≤ x.value := by
  obtain ⟨hlower, -, -⟩ := format.mantissa_spec num hden
  have hpos : (0 : ℚ) < 2 ^ format.exponent num den := by positivity
  rw [value_of_round hprecision hnum h]
  rcases le_or_gt (format.exponent num den) y.exponent with hfine | hcoarse
  · -- The value is a whole number of units of the exponent.
    obtain ⟨k, hk⟩ := Int.le.dest hfine
    have hvalue : y.value = (y.mantissa * 2 ^ k : ℕ) * 2 ^ format.exponent num den := by
      rw [Magnitude.value, ← hk, zpow_add₀ two_ne_zero, zpow_natCast]
      push_cast
      ring
    rw [hvalue] at hy ⊢
    gcongr
    exact hlower _ ((le_div_iff₀ hpos).2 hy)
  · -- The exponent is not the least one, so the mantissa has all its places.
    obtain ⟨-, hfull⟩ := format.scaled_bounds hnum hden
    have hmantissa : 2 ^ (format.precision - 1) ≤ format.mantissa num den := by
      refine hlower _ ?_
      rw [Nat.cast_pow, ← zpow_natCast, Nat.cast_pred hprecision]
      exact hfull (hexponent.trans_lt hcoarse)
    calc y.value ≤ (2 ^ format.precision : ℕ) * (2 : ℚ) ^ y.exponent := by
          unfold Magnitude.value
          gcongr
      _ = 2 ^ (format.precision + y.exponent) := natCast_pow_mul_zpow _ _
      _ ≤ 2 ^ ((format.precision - 1 : ℕ) + format.exponent num den) :=
          zpow_le_zpow_right₀ one_le_two (by omega)
      _ = (2 ^ (format.precision - 1) : ℕ) * 2 ^ format.exponent num den :=
          (natCast_pow_mul_zpow _ _).symm
      _ ≤ format.mantissa num den * 2 ^ format.exponent num den := by
          gcongr

/-- A ratio that is at least one is rounded to a value that is at least one. -/
theorem den_le_num_of_round (hprecision : 0 < format.precision)
    (hexponent : format.minExponent ≤ 0) (hden : 0 < den) (h : den ≤ num)
    (hround : format.round num den = some x) : x.den ≤ x.num := by
  have hone : ((1 : ℕ) : ℚ) = Magnitude.value ⟨1, 0⟩ := by simp [Magnitude.value]
  have hratio : ((1 : ℕ) : ℚ) ≤ (num : ℚ) / den := by
    rw [Nat.cast_one, one_le_div (Nat.cast_pos.2 hden)]
    exact Nat.cast_le.2 h
  have hvalue : ((1 : ℕ) : ℚ) ≤ x.value := by
    rw [hone] at hratio ⊢
    exact value_le_of_round hprecision (hden.trans_le h) hden hround
      (Nat.one_le_two_pow (n := format.precision)) hexponent hratio
  rw [Magnitude.natCast_le_value, Nat.one_mul] at hvalue
  exact hvalue

/-- The mantissa of a rounded ratio has no more places than the format, its exponent is not below
the least one, and the ratio does not reach beyond the next mantissa. -/
theorem div_le_of_round (hprecision : 0 < format.precision) (hnum : 0 < num) (hden : 0 < den)
    (h : format.round num den = some x) :
    x.mantissa < 2 ^ format.precision ∧ format.minExponent ≤ x.exponent ∧
      (num : ℚ) / den ≤ x.next.value := by
  obtain ⟨-, hupper, hclose⟩ := format.mantissa_spec num hden
  have hpos : (0 : ℚ) < 2 ^ format.exponent num den := by positivity
  have hleast : format.minExponent ≤ format.exponent num den := le_max_right _ _
  have hle : format.mantissa num den ≤ 2 ^ format.precision := by
    refine hupper _ ?_
    rw [Nat.cast_pow]
    exact (format.scaled_bounds hnum hden).1.le
  have hratio : (num : ℚ) / den ≤
      (format.mantissa num den + 1) * 2 ^ format.exponent num den := (div_le_iff₀ hpos).1 hclose
  rcases eq_of_round hnum h with ⟨rfl, hne⟩ | ⟨rfl, hcarry⟩
  · refine ⟨lt_of_le_of_ne hle hne, hleast, ?_⟩
    simpa [Magnitude.value, Magnitude.next] using hratio
  · obtain ⟨places, hplaces⟩ := Nat.exists_eq_add_one_of_ne_zero hprecision.ne'
    refine ⟨Nat.pow_lt_pow_right one_lt_two (by omega), hleast.trans (by simp), hratio.trans ?_⟩
    rw [Magnitude.value, Magnitude.next, hcarry, hplaces, zpow_add_one₀ two_ne_zero]
    push_cast
    rw [pow_succ]
    linarith

/-- A ratio that is at least one is rounded to a mantissa of all places of the format. -/
theorem le_mantissa_of_round (hprecision : 0 < format.precision)
    (hexponent : format.minExponent < 1 - format.precision) (hden : 0 < den) (h : den ≤ num)
    (hround : format.round num den = some x) : 2 ^ (format.precision - 1) ≤ x.mantissa := by
  have hnum : 0 < num := hden.trans_le h
  have hlog : 0 ≤ floorLog2 num den := by
    have hone : (2 : ℚ) ^ (0 : ℤ) < 2 ^ (floorLog2 num den + 1) := by
      refine lt_of_le_of_lt ?_ (floorLog2_spec hnum hden).2
      rw [zpow_zero, le_div_iff₀ (Nat.cast_pos.2 hden), one_mul]
      exact_mod_cast h
    have := (zpow_lt_zpow_iff_right₀ one_lt_two).1 hone
    omega
  have hfull := (format.scaled_bounds hnum hden).2 (by unfold exponent; omega)
  have hmantissa : 2 ^ (format.precision - 1) ≤ format.mantissa num den := by
    refine (format.mantissa_spec num hden).1 _ ?_
    rwa [Nat.cast_pow, ← zpow_natCast, Nat.cast_pred hprecision]
  rcases eq_of_round hnum hround with ⟨rfl, -⟩ | ⟨rfl, -⟩
  · exact hmantissa
  · exact le_rfl

section

variable {n : ℕ} (hprecision : 0 < format.precision)
  (hexponent : format.minExponent < 1 - format.precision) (hn : 0 < n)
  (hround : format.round n 1 = some x) (hfactor : 1 < factor.value)
  (hplaces : factor.mantissa < 2 ^ format.precision)
  (hmul : format.mul x factor = some product)

include hprecision hexponent hn hround hfactor hplaces hmul

/-- A rounded product with a factor above one reaches the value behind what was multiplied. -/
theorem next_value_le_of_mul : x.next.value ≤ product.value := by
  obtain ⟨hmantissa, hleast, -⟩ := div_le_of_round hprecision hn one_pos hround
  have hfull := le_mantissa_of_round hprecision hexponent one_pos hn hround
  obtain ⟨places, hp⟩ := Nat.exists_eq_add_one_of_ne_zero hprecision.ne'
  have hlast := Magnitude.one_add_le_value (hp ▸ hplaces) hfactor
  -- One more than the last place of one, times a full mantissa, reaches the next mantissa.
  have hreach : x.next.value ≤ x.value * factor.value := by
    have hunit : (2 : ℚ) ^ x.exponent ≤ x.value * 2 ^ (-places : ℤ) := by
      have hmantissa : ((2 ^ places : ℕ) : ℚ) ≤ x.mantissa := by
        rw [hp, Nat.add_sub_cancel] at hfull
        exact_mod_cast hfull
      calc (2 : ℚ) ^ x.exponent = (2 ^ places : ℕ) * 2 ^ (x.exponent - places) := by
            rw [natCast_pow_mul_zpow, add_sub_cancel]
        _ ≤ x.mantissa * 2 ^ (x.exponent - places) := by gcongr
        _ = x.value * 2 ^ (-places : ℤ) := by
            rw [Magnitude.value, sub_eq_add_neg, zpow_add₀ two_ne_zero, mul_assoc]
    calc x.next.value = x.value + 2 ^ x.exponent := by
          rw [Magnitude.value, Magnitude.value, Magnitude.next]
          push_cast
          ring
      _ ≤ x.value + x.value * 2 ^ (-places : ℤ) := by gcongr
      _ = x.value * (1 + 2 ^ (-places : ℤ)) := by ring
      _ ≤ x.value * factor.value := by
          gcongr
          unfold Magnitude.value
          positivity
  have hratio : x.next.value ≤ ((x.num * factor.num : ℕ) : ℚ) / (x.den * factor.den : ℕ) := by
    rw [Magnitude.num_mul_div_den_mul]
    exact hreach
  have hnum : 0 < x.num * factor.num := by
    refine Nat.mul_pos (Nat.mul_pos ((Nat.pow_pos two_pos).trans_le hfull)
      (Nat.pow_pos two_pos)) ?_
    have hone := Magnitude.natCast_le_value.1 (Nat.cast_one.trans_le hfactor.le)
    rw [Nat.one_mul] at hone
    exact factor.den_pos.trans_le hone
  exact value_le_of_round hprecision hnum (Nat.mul_pos x.den_pos factor.den_pos) hmul
    hmantissa hleast hratio

/-- A rounded product with a factor above one makes up for the rounding of what was multiplied. -/
theorem natCast_le_value_of_mul : n ≤ product.value := by
  obtain ⟨-, -, hbelow⟩ := div_le_of_round hprecision hn one_pos hround
  rw [Nat.cast_one, div_one] at hbelow
  exact hbelow.trans (next_value_le_of_mul hprecision hexponent hn hround hfactor hplaces hmul)

end

end BinaryFormat

end HttpRpc.Number
