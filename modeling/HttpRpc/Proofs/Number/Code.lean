import HttpRpc.Proofs.Number.Rounding

/-!
# The order of interchange codes

The values of interchange codes grow with the codes (`strictMono_value_ofCode`). What rounding gives
is a value of the format (`Fits`), which its code stands for (`Fits.ofCode_code`). So values of a
format are compared by their codes.
-/

namespace HttpRpc.Number.BinaryFormat

variable {format : BinaryFormat} {x : Magnitude}

/-! ## Codes -/

/-- The value of the next code is that of the next mantissa. -/
theorem value_ofCode_succ (format : BinaryFormat) (code : ℕ) :
    (format.ofCode (code + 1)).value = (format.ofCode code).next.value := by
  unfold ofCode
  generalize hhalf : Nat.pow 2 (format.precision - 1) = half
  have hpos : 0 < half := hhalf ▸ Nat.pow_pos two_pos
  have hdivision := Nat.div_add_mod code half
  have hrest := Nat.mod_lt code hpos
  dsimp only
  by_cases hlow : code + 1 < half
  · rw [if_pos hlow, if_pos (by omega)]
    rfl
  rw [if_neg hlow]
  by_cases hlast : code < half
  · -- The first mantissa with all its places follows the last one without.
    obtain rfl : half = code + 1 := by omega
    rw [if_pos hlast, Nat.mod_self, Nat.div_self hpos]
    simp [Magnitude.next]
  rw [if_neg hlast]
  by_cases hcarry : code % half + 1 = half
  · -- The greatest mantissa is followed by the least one at the next exponent.
    have hnext : code + 1 = half * (code / half + 1) := by
      rw [Nat.mul_add, Nat.mul_one]
      omega
    rw [hnext, Nat.mul_mod_right, Nat.mul_div_cancel_left _ hpos]
    rw [Magnitude.value, Magnitude.next, Magnitude.value, Nat.add_assoc, hcarry]
    have hexponent : format.minExponent + ((code / half + 1 : ℕ) : ℤ) - 1 =
        format.minExponent + ((code / half : ℕ) : ℤ) - 1 + 1 := by
      push_cast
      ring
    rw [hexponent, zpow_add_one₀ two_ne_zero]
    push_cast
    ring
  · have hsame : (code + 1) / half = code / half ∧ (code + 1) % half = code % half + 1 :=
      (Nat.div_mod_unique hpos).2 ⟨by omega, by omega⟩
    rw [hsame.1, hsame.2]
    rfl

/-- The values of codes grow with the codes. -/
theorem strictMono_value_ofCode (format : BinaryFormat) :
    StrictMono fun code => (format.ofCode code).value := by
  refine strictMono_nat_of_lt_succ fun code => ?_
  rw [value_ofCode_succ, Magnitude.value, Magnitude.value, Magnitude.next]
  gcongr
  exact Nat.lt_succ_self _

/-! ## Values of a format -/

/-- The magnitude is a value of the format: its mantissa has no more places, and all of them unless
its exponent is the least one. -/
structure Fits (format : BinaryFormat) (x : Magnitude) : Prop where
  mantissa_lt : x.mantissa < 2 ^ format.precision
  le_exponent : format.minExponent ≤ x.exponent
  full : format.minExponent < x.exponent → 2 ^ (format.precision - 1) ≤ x.mantissa

/-- A value of the format is that of its code. -/
theorem Fits.ofCode_code (hprecision : 0 < format.precision) (h : format.Fits x) :
    format.ofCode (format.code x) = x := by
  obtain ⟨hlt, hle, hfull⟩ := h
  obtain ⟨k, hk⟩ := Int.le.dest hle
  unfold ofCode code
  have hhalf : Nat.pow 2 (format.precision - 1) = 2 ^ (format.precision - 1) := rfl
  have hpow : 2 ^ format.precision =
      2 ^ (format.precision - 1) + 2 ^ (format.precision - 1) := by
    rw [← Nat.mul_two, ← pow_succ, Nat.sub_add_cancel hprecision]
  rw [hpow] at hlt
  rw [hhalf]
  generalize 2 ^ (format.precision - 1) = half at hlt hfull ⊢
  have hdistance : (x.exponent - format.minExponent).toNat = k := by omega
  rw [hdistance]
  dsimp only
  by_cases hlow : x.mantissa < half
  · -- A mantissa without all its places has the least exponent.
    have hexponent : x.exponent = format.minExponent := by
      by_contra hne
      exact absurd (hfull (lt_of_le_of_ne hle (Ne.symm hne))) (Nat.not_le.2 hlow)
    obtain rfl : k = 0 := by omega
    rw [Nat.zero_mul, Nat.zero_add, if_pos hlow, ← hexponent]
  · have hpos : 0 < half := by omega
    have hcode : (k * half + x.mantissa) / half = k + 1 ∧
        (k * half + x.mantissa) % half = x.mantissa - half := by
      refine (Nat.div_mod_unique hpos).2 ⟨?_, by omega⟩
      rw [Nat.mul_add, Nat.mul_comm k]
      omega
    have hge : ¬k * half + x.mantissa < half := by
      have := Nat.le_add_left x.mantissa (k * half)
      omega
    rw [if_neg hge, hcode.1, hcode.2]
    obtain ⟨mantissa, exponent⟩ := x
    simp only [Magnitude.mk.injEq]
    simp only at hk hlow
    push_cast
    omega

/-- Zero is a value of the format. -/
theorem fits_zero (format : BinaryFormat) : format.Fits ⟨0, format.minExponent⟩ :=
  ⟨Nat.pow_pos two_pos, le_rfl, fun h => absurd h (lt_irrefl _)⟩

/-- A rounded ratio is a value of the format. -/
theorem fits_of_round (hprecision : 0 < format.precision) {num den : ℕ} (hden : 0 < den)
    (h : format.round num den = some x) : format.Fits x := by
  rcases Nat.eq_zero_or_pos num with rfl | hnum
  · rw [round, if_pos rfl] at h
    cases h
    exact format.fits_zero
  obtain ⟨hlt, hle, -⟩ := div_le_of_round hprecision hnum hden h
  refine ⟨hlt, hle, fun hexponent => ?_⟩
  rcases eq_of_round hnum h with ⟨rfl, -⟩ | ⟨rfl, -⟩
  · refine (format.mantissa_spec num hden).1 _ ?_
    rw [Nat.cast_pow, ← zpow_natCast, Nat.cast_pred hprecision]
    exact (format.scaled_bounds hnum hden).2 hexponent
  · exact le_rfl

/-- A rounded decimal is a value of the format. -/
theorem fits_of_ofDecimal (hprecision : 0 < format.precision) {digits : ℕ} {exponent : ℤ}
    (h : format.ofDecimal digits exponent = some x) : format.Fits x := by
  unfold ofDecimal at h
  split at h
  · cases h
    exact format.fits_zero
  dsimp only at h
  split at h
  · cases h
  split at h
  · cases h
    exact format.fits_zero
  · exact fits_of_round hprecision (Nat.pow_pos (by decide)) h

end HttpRpc.Number.BinaryFormat
