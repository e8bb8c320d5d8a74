import HttpRpc.Proofs.Backoff.Growth
import HttpRpc.Proofs.Number.Exact
import HttpRpc.Proofs.Number.Nearest

/-!
# Delays that move apart

The delays of a mark move apart if its step grows with each call. A step is rounded to whole
nanoseconds, so a small one may stay as it is: whether it grows is the matter of half a nanosecond
(`succ_le_nearest_iff`). A step that grows is followed by longer ones, and these grow all the more
(`lt_scale_of_le`). So the first multiplication decides the whole run: either the delays move apart
as long as there are any, or they all have the same distance (`answers_widen_iff`).
-/

namespace HttpRpc

open HttpRpc.Number

namespace TruncatedExponential

variable {step later : ℕ} {factor product x : Magnitude}

/-! ## Rounding to whole nanoseconds -/

/-- The nearest whole number is the next one if the value reaches the half. -/
theorem succ_le_nearest_iff : step + 1 ≤ nearest x ↔ step + 1 / 2 ≤ x.value := by
  have hhalf : (step : ℚ) + 1 / 2 ≤ x.value ↔ ((2 * step + 1) * x.den : ℕ) ≤ 2 * x.num := by
    have hpos : (0 : ℚ) < x.den := Nat.cast_pos.2 x.den_pos
    rw [← Magnitude.num_div_den, le_div_iff₀ hpos, ← Nat.cast_le (α := ℚ)]
    push_cast
    constructor <;> intro h <;> linarith
  rw [hhalf, nearest, Nat.le_div_iff_mul_le (Nat.mul_pos two_pos x.den_pos)]
  have hexpand : (step + 1) * (2 * x.den) = (2 * step + 1) * x.den + x.den := by ring
  omega

/-- A step in double arithmetic is the nearest whole number of the product, up to the limit. -/
theorem scale_eq_of_mul {rounded : Magnitude} (hround : binary64.round step 1 = some rounded)
    (hmul : binary64.mul rounded factor = some product) :
    scale step factor = min (nearest product) countLimit := by
  rw [scale, hround, Option.bind_some, hmul]

/-- A step grows if its product, where there is one, reaches half a nanosecond more. -/
theorem lt_scale_of_mul (hlimit : step < countLimit)
    (h : ∀ rounded product, binary64.round step 1 = some rounded →
      binary64.mul rounded factor = some product → step + 1 / 2 ≤ product.value) :
    step < scale step factor := by
  unfold scale
  split
  · next product hproduct =>
      obtain ⟨rounded, hrounded, hmul⟩ := Option.bind_eq_some_iff.1 hproduct
      exact lt_min (succ_le_nearest_iff.2 (h rounded product hrounded hmul)) hlimit
  · exact hlimit

/-! ## Large steps -/

/-- A step of so many nanoseconds that doubles count no halves of them grows with every factor. -/
theorem lt_scale_of_large (hlarge : 2 ^ 52 ≤ step) (hlimit : step < countLimit)
    (hfactor : IsFactor factor) : step < scale step factor := by
  have hstep : 0 < step := (Nat.pow_pos two_pos).trans_le hlarge
  refine lt_scale_of_mul hlimit fun rounded product hround hmul => ?_
  have hnext : rounded.next.value ≤ product.value :=
    binary64.next_value_le_of_mul (by decide) (by decide) hstep hround hfactor.one_lt
      hfactor.places hmul
  have hbelow := binary64.div_lt_of_round (by decide) hstep one_pos hround
  rw [Nat.cast_one, div_one] at hbelow
  -- The value behind a whole number of nanoseconds is whole as well.
  have hexponent : 0 ≤ rounded.exponent := by
    have hratio : (2 : ℚ) ^ (52 : ℤ) ≤ (step : ℚ) / (1 : ℕ) := by
      rw [Nat.cast_one, div_one]
      exact_mod_cast hlarge
    have hleast := binary64.le_exponent_of_le hstep one_pos hratio
    have hzero : 0 ≤ binary64.exponent step 1 := hleast
    rcases BinaryFormat.eq_of_round hstep hround with ⟨rfl, -⟩ | ⟨rfl, -⟩
    · exact hzero
    · exact hzero.trans (lt_add_one _).le
  obtain ⟨k, hk⟩ := Int.eq_ofNat_of_zero_le hexponent
  have hwhole : rounded.next.value = ((rounded.mantissa + 1) * 2 ^ k : ℕ) := by
    rw [Magnitude.value, Magnitude.next, hk, zpow_natCast]
    push_cast
    ring
  have hsucc : ((step + 1 : ℕ) : ℚ) ≤ rounded.next.value := by
    rw [hwhole] at hbelow ⊢
    exact Nat.cast_le.2 (Nat.cast_lt.1 hbelow)
  push_cast at hsucc
  linarith

/-! ## Small steps -/

/-- A step that doubles count with halves is multiplied exactly before its product is rounded. -/
theorem div_eq_of_small {rounded : Magnitude} (hstep : 0 < step) (hsmall : step < 2 ^ 52)
    (hround : binary64.round step 1 = some rounded) :
    ((rounded.num * factor.num : ℕ) : ℚ) / (rounded.den * factor.den : ℕ) =
      step * factor.value := by
  obtain ⟨kept, hkept, hvalue⟩ :=
    BinaryFormat.exists_binary64_round_eq hstep (hsmall.trans (by decide))
  obtain rfl : kept = rounded := Option.some.inj (hkept.symm.trans hround)
  rw [Magnitude.num_mul_div_den_mul, hvalue]

/-- The numerator of the product of a step and a factor is positive. -/
theorem num_pos_of_round {rounded : Magnitude} (hstep : 0 < step) (hfactor : IsFactor factor)
    (hround : binary64.round step 1 = some rounded) : 0 < rounded.num * factor.num := by
  have hone : rounded.den ≤ rounded.num :=
    binary64.den_le_num_of_round (by decide) (by decide) one_pos hstep hround
  exact Nat.mul_pos (rounded.den_pos.trans_le hone)
    (factor.den_pos.trans (Magnitude.one_lt_value.1 hfactor.one_lt))

/-- A half behind a number that doubles count with halves is a value of the format. -/
theorem half_le_of_round {num den : ℕ} (hsmall : step < 2 ^ 52) (hnum : 0 < num) (hden : 0 < den)
    (hround : binary64.round num den = some product) (h : step + 1 / 2 ≤ (num : ℚ) / den) :
    step + 1 / 2 ≤ product.value := by
  have hvalue : (⟨2 * step + 1, -1⟩ : Magnitude).value = step + 1 / 2 := by
    rw [Magnitude.value, zpow_neg_one]
    push_cast
    ring
  have hplaces : 2 * step + 1 ≤ 2 ^ binary64.precision := by
    show 2 * step + 1 ≤ 2 * 2 ^ 52
    omega
  have hleast : binary64.minExponent ≤ -1 := by decide
  rw [← hvalue] at h ⊢
  exact BinaryFormat.value_le_of_round (by decide) hnum hden hround hplaces hleast h

/-- A step grows if its product reaches half a nanosecond more before it is rounded. -/
theorem lt_scale_of_half_le (hstep : 0 < step) (hlimit : step < countLimit)
    (hfactor : IsFactor factor) (h : step + 1 / 2 ≤ step * factor.value) :
    step < scale step factor := by
  rcases Nat.lt_or_ge step (2 ^ 52) with hsmall | hlarge
  · refine lt_scale_of_mul hlimit fun rounded product hround hmul => ?_
    refine half_le_of_round hsmall (num_pos_of_round hstep hfactor hround)
      (Nat.mul_pos rounded.den_pos factor.den_pos) hmul ?_
    rwa [div_eq_of_small hstep hsmall hround]
  · exact lt_scale_of_large hlarge hlimit hfactor

/-- The product of a step that grows lacks no more than half a unit of the half, before it is
rounded. -/
theorem exists_ratio_of_lt_scale (hstep : 0 < step) (hsmall : step < 2 ^ 52)
    (hfactor : IsFactor factor) (h : step < scale step factor) :
    ∃ num den : ℕ, 0 < num ∧ 0 < den ∧ (num : ℚ) / den = step * factor.value ∧
      step + 1 / 2 ≤ (num : ℚ) / den + 2 ^ binary64.exponent num den / 2 := by
  obtain ⟨rounded, hround, -⟩ :=
    BinaryFormat.exists_binary64_round_eq hstep (hsmall.trans (by decide))
  have hnum := num_pos_of_round hstep hfactor hround
  have hden := Nat.mul_pos rounded.den_pos factor.den_pos
  refine ⟨_, _, hnum, hden, div_eq_of_small hstep hsmall hround, ?_⟩
  cases hmul : binary64.mul rounded factor with
  | none =>
      -- A product beyond all doubles is far more than half a nanosecond more.
      have hbeyond := BinaryFormat.pow_le_of_round_eq_none (by decide) hnum hden hmul
      have hroom : (step : ℚ) + 1 / 2 ≤ 2 ^ (53 : ℤ) := by
        have hcast : (step : ℚ) ≤ 2 ^ (52 : ℤ) := by exact_mod_cast hsmall.le
        refine (add_le_add_left hcast _).trans ?_
        norm_num
      have hpow : (2 : ℚ) ^ (53 : ℤ) ≤ 2 ^ (binary64.maxExponent + (binary64.precision - 1)) :=
        zpow_le_zpow_right₀ one_le_two (by decide)
      have hunit : (0 : ℚ) < 2 ^ binary64.exponent (rounded.num * factor.num)
          (rounded.den * factor.den) / 2 := by positivity
      linarith
  | some product =>
      rw [scale_eq_of_mul hround hmul, lt_min_iff] at h
      exact (succ_le_nearest_iff.1 h.1).trans
        (binary64.value_le_add_of_round (by decide) hnum hden hmul)

/-- The product of a step lacks less of the half than half a unit of a shorter one that grows. -/
theorem half_le_of_near {num den : ℕ} {e : ℤ} (hsmall : step < 2 ^ 52) (hnum : 0 < num)
    (hden : 0 < den) (hround : binary64.round num den = some product)
    (hexponent : e ≤ binary64.exponent num den)
    (h : step + 1 / 2 < (num : ℚ) / den + 2 ^ e / 2) : step + 1 / 2 ≤ product.value := by
  rcases le_or_gt ((step : ℚ) + 1 / 2) ((num : ℚ) / den) with hreached | hlacks
  · exact half_le_of_round hsmall hnum hden hround hreached
  · have hbound : (num : ℚ) / den < 2 ^ (52 : ℤ) := by
      refine hlacks.trans_le ?_
      have hcast : ((step + 1 : ℕ) : ℚ) ≤ (2 ^ 52 : ℕ) := Nat.cast_le.2 hsmall
      push_cast at hcast
      norm_num at hcast ⊢
      linarith
    have hunit : binary64.exponent num den ≤ -1 :=
      BinaryFormat.exponent_le_of_lt hnum hden (by decide) hbound
    -- A half is a whole number of units.
    obtain ⟨k, hk⟩ := Int.le.dest hunit
    have hwhole : ((2 * step + 1) * 2 ^ k : ℕ) * (2 : ℚ) ^ binary64.exponent num den =
        step + 1 / 2 := by
      have hpow : (2 : ℚ) ^ k * 2 ^ binary64.exponent num den = 1 / 2 := by
        rw [← zpow_natCast, ← zpow_add₀ two_ne_zero, add_comm, hk, zpow_neg_one, one_div]
      push_cast
      rw [mul_assoc, hpow]
      ring
    have hgrown : (2 : ℚ) ^ e ≤ 2 ^ binary64.exponent num den :=
      zpow_le_zpow_right₀ one_le_two hexponent
    rw [← hwhole]
    refine BinaryFormat.mul_le_value_of_round (by decide) hnum hden hround ?_
    rw [hwhole]
    linarith

/-! ## Steps that grow -/

/-- Steps that are longer than one that grows do so, too. -/
theorem lt_scale_of_le (hstep : 0 < step) (hle : step ≤ later) (hlimit : later < countLimit)
    (hfactor : IsFactor factor) (h : step < scale step factor) : later < scale later factor := by
  rcases hle.eq_or_lt with rfl | hlt
  · exact h
  rcases Nat.lt_or_ge later (2 ^ 52) with hsmall | hlarge
  · have hlater : 0 < later := hstep.trans hlt
    obtain ⟨num, den, hnum, hden, hratio, hnear⟩ :=
      exists_ratio_of_lt_scale hstep (hlt.trans hsmall) hfactor h
    have hone := hfactor.one_lt
    have hcast : (step : ℚ) < later := Nat.cast_lt.2 hlt
    refine lt_scale_of_mul hlimit fun rounded product hround hmul => ?_
    have hlaterNum := num_pos_of_round hlater hfactor hround
    have hlaterDen := Nat.mul_pos rounded.den_pos factor.den_pos
    have hlaterRatio : ((rounded.num * factor.num : ℕ) : ℚ) / (rounded.den * factor.den : ℕ) =
        later * factor.value := div_eq_of_small hlater hsmall hround
    refine half_le_of_near hsmall hlaterNum hlaterDen hmul
      (BinaryFormat.exponent_le_exponent hnum hden hlaterNum hlaterDen ?_) ?_
    · rw [hratio, hlaterRatio]
      gcongr
    · -- What the factor adds to the longer step is more.
      have hadded : (step : ℚ) * (factor.value - 1) < later * (factor.value - 1) := by
        have : 0 < factor.value - 1 := sub_pos.2 hone
        gcongr
      rw [hratio] at hnear
      rw [hlaterRatio]
      linarith
  · exact lt_scale_of_large hlarge hlimit hfactor

/-- A step stays as it is if its product lacks more of half a nanosecond more than is rounded away.
-/
theorem scale_eq_of_lt (hstep : 0 < step) (hlimit : step < countLimit) (hfactor : IsFactor factor)
    (h : step * factor.value * (1 + 2 ^ (-53 : ℤ)) < step + 1 / 2) : scale step factor = step := by
  refine ((le_scale hstep hlimit.le hfactor).1.eq_or_lt).elim Eq.symm fun hgrows => ?_
  have hone := hfactor.one_lt
  have hcast : (1 : ℚ) ≤ step := Nat.one_le_cast.2 hstep
  have hgrown : (step : ℚ) ≤ step * factor.value := le_mul_of_one_le_right (by linarith) hone.le
  rw [mul_add, mul_one] at h
  have hsmall : step < 2 ^ 52 := by
    by_contra hlarge
    have hrange : (2 : ℚ) ^ (52 : ℤ) ≤ step := by exact_mod_cast not_lt.1 hlarge
    have hlost : (2 : ℚ) ^ (52 : ℤ) * 2 ^ (-53 : ℤ) ≤ step * factor.value * 2 ^ (-53 : ℤ) := by
      gcongr
      exact hrange.trans hgrown
    rw [← zpow_add₀ two_ne_zero] at hlost
    norm_num at hlost h
    linarith
  obtain ⟨num, den, hnum, hden, hratio, hnear⟩ :=
    exists_ratio_of_lt_scale hstep hsmall hfactor hgrows
  have hleast : (0 : ℤ) - (binary64.precision - 1) ≤ binary64.exponent num den := by
    refine BinaryFormat.le_exponent_of_le hnum hden ?_
    rw [hratio, zpow_zero]
    exact hcast.trans hgrown
  have hplace : (2 : ℚ) ^ binary64.exponent num den * 2 ^ (52 : ℤ) ≤ (num : ℚ) / den :=
    BinaryFormat.zpow_exponent_le hnum hden (lt_of_lt_of_le (by decide) hleast)
  have hlost : (2 : ℚ) ^ binary64.exponent num den / 2 ≤
      step * factor.value * 2 ^ (-53 : ℤ) := by
    rw [← hratio]
    norm_num at hplace ⊢
    linarith
  rw [hratio] at hnear
  exact absurd (hnear.trans (add_le_add_right hlost _)) h.not_ge

end TruncatedExponential

namespace BackoffMark

open TruncatedExponential

variable {mark : BackoffMark}

/-- The delays of a mark move apart: each exceeds the one before it by more than that one exceeded
its own. -/
def Widens (mark : BackoffMark) : Prop :=
  ∀ calls first second third, mark.answer calls = some first →
    mark.answer (calls + 1) = some second → mark.answer (calls + 2) = some third →
    (second.nanos : ℤ) - first.nanos < third.nanos - second.nanos

/-! ## Steps of a run -/

/-- A mark whose step, which a factor multiplies, grows below the limit. -/
inductive Stretches : BackoffMark → Prop where
  | intro {current step max : ℕ} {factor : Magnitude} {exhausted : Bool} (hstep : 0 < step)
      (hcounted : step ≤ countLimit) (hfactor : IsFactor factor)
      (hgrows : step < countLimit → step < scale step factor) :
      Stretches (exponential current step factor max exhausted)

/-- A mark whose step stays as it is. -/
inductive Stays : BackoffMark → Prop where
  | intro {current step max : ℕ} {factor : Magnitude} {exhausted : Bool}
      (hstays : scale step factor = step) :
      Stays (exponential current step factor max exhausted)

/-- A mark whose step grows goes on with one that grows, and unless it is spent, that one is longer.
-/
theorem Stretches.next (h : mark.Stretches) :
    mark.next.2.Stretches ∧
      (¬mark.IsSpent → mark.step < countLimit → mark.step < mark.next.2.step) := by
  obtain ⟨hstep, hcounted, hfactor, hgrows⟩ := h
  rename_i current step max factor exhausted
  obtain ⟨hspent, hnext⟩ | ⟨-, -, hnext⟩ := next_cases current step max factor exhausted
  · rw [hnext]
    exact ⟨.intro hstep hcounted hfactor hgrows, fun hlive => absurd hspent hlive⟩
  · rw [hnext]
    obtain ⟨hle, hlater⟩ := le_scale hstep hcounted hfactor
    exact ⟨.intro (hstep.trans_le hle) hlater hfactor fun hlimit =>
      lt_scale_of_le hstep hle hlimit hfactor (hgrows (hle.trans_lt hlimit)), fun _ => hgrows⟩

/-- A mark whose step grows has one that grows after any number of calls. -/
theorem Stretches.after (h : mark.Stretches) (calls : ℕ) : (mark.after calls).Stretches := by
  induction calls with
  | zero => exact h
  | succ calls ih => exact ih.next.1

/-- A mark whose step stays as it is goes on with the same step. -/
theorem Stays.next (h : mark.Stays) : mark.next.2.Stays ∧ mark.next.2.step = mark.step := by
  obtain ⟨hstays⟩ := h
  rename_i current step max factor exhausted
  obtain ⟨-, hnext⟩ | ⟨-, -, hnext⟩ := next_cases current step max factor exhausted
  · rw [hnext]
    exact ⟨.intro hstays, rfl⟩
  · rw [hnext, hstays]
    exact ⟨.intro hstays, rfl⟩

/-- A mark whose step stays as it is has the same step after any number of calls. -/
theorem Stays.after (h : mark.Stays) (calls : ℕ) :
    (mark.after calls).Stays ∧ (mark.after calls).step = mark.step := by
  induction calls with
  | zero => exact ⟨h, rfl⟩
  | succ calls ih =>
      obtain ⟨hstays, hstep⟩ := ih.1.next
      exact ⟨hstays, hstep.trans ih.2⟩

/-- A mark whose step stays as it is would go on by that step with each call. -/
theorem Stays.total_eq (h : mark.Stays) (calls : ℕ) :
    mark.total calls = mark.current + calls * mark.step := by
  induction calls with
  | zero => rw [Nat.zero_mul, Nat.add_zero, total]
  | succ calls ih => rw [total, ih, (h.after calls).2, Nat.succ_mul, Nat.add_assoc]

/-! ## Delays of a run -/

variable {max : ℕ}

section

variable (hgrows : mark.Grows max) (hmax : max ≤ Duration.maxValue.nanos)
  (hfresh : mark.IsSpent ↔ max < mark.current)

include hgrows hmax hfresh

/-- Where a growing mark answers, it would stand at the delay without a limit. -/
theorem total_of_answer {calls : ℕ} {delay : Duration} (h : mark.answer calls = some delay) :
    mark.total calls ≤ max ∧ delay = ⟨mark.total calls⟩ := by
  rw [hgrows.answer_eq hmax hfresh, Option.ite_none_right_eq_some] at h
  exact ⟨h.1, (Option.some.inj h.2).symm⟩

/-- The delays of a mark move apart if its step grows. -/
theorem Stretches.widens (h : mark.Stretches) : mark.Widens := by
  intro calls first second third hfirst hsecond hthird
  obtain ⟨hwithin, rfl⟩ := total_of_answer hgrows hmax hfresh hfirst
  obtain ⟨hnext, rfl⟩ := total_of_answer hgrows hmax hfresh hsecond
  obtain ⟨-, rfl⟩ := total_of_answer hgrows hmax hfresh hthird
  have hlimit : max < countLimit := Nat.lt_of_le_of_lt hmax (by decide)
  have hlive : ¬(mark.after calls).IsSpent := by
    obtain ⟨-, hlive, -⟩ | ⟨hbeyond, -⟩ := hgrows.after_decided hlimit hfresh calls
    · exact hlive
    · exact absurd hwithin hbeyond.not_ge
  have hsecondTotal : mark.total (calls + 1) = mark.total calls + (mark.after calls).step := rfl
  have hthirdTotal : mark.total (calls + 2) =
      mark.total (calls + 1) + (mark.after (calls + 1)).step := rfl
  have hstep : (mark.after calls).step < countLimit := by omega
  have hlonger : (mark.after calls).step < (mark.after (calls + 1)).step :=
    (h.after calls).next.2 hlive hstep
  push_cast
  omega

/-- The delays of a mark whose step stays as it is have the same distance. -/
theorem Stays.answer_eq (h : mark.Stays) (calls : ℕ) :
    mark.answer calls =
      if mark.current + calls * mark.step ≤ max then some ⟨mark.current + calls * mark.step⟩
      else none := by
  rw [hgrows.answer_eq hmax hfresh, h.total_eq]

/-- The delays of a mark whose step stays as it is move apart only if there are no three. -/
theorem Stays.widens_iff (h : mark.Stays) :
    mark.Widens ↔ max < mark.current + 2 * mark.step := by
  constructor
  · intro hwidens
    by_contra hroom
    have hwithin : ∀ calls ≤ 2, mark.answer calls = some ⟨mark.current + calls * mark.step⟩ := by
      intro calls hcalls
      have hle : calls * mark.step ≤ 2 * mark.step := Nat.mul_le_mul_right _ hcalls
      rw [h.answer_eq hgrows hmax hfresh, if_pos (by omega)]
    have happart := hwidens 0 _ _ _ (hwithin 0 (by decide)) (hwithin 1 (by decide))
      (hwithin 2 le_rfl)
    push_cast at happart
    omega
  · intro hbeyond calls first second third _ _ hthird
    obtain ⟨hwithin, -⟩ := total_of_answer hgrows hmax hfresh hthird
    rw [h.total_eq, Nat.add_mul] at hwithin
    omega

end

end BackoffMark

namespace BackoffStrategy

open BackoffMark TruncatedExponential

variable {params : TruncatedExponential}

/-- The delays of a fresh mark of an accepted strategy move apart exactly if the first
multiplication makes the step longer, or there is no room for three delays. It does so if the
product reaches half a nanosecond more, and it does not if the product lacks more of that than one
rounding to doubles can add. If it does not, all delays have the distance of the first step. -/
theorem answers_widen_iff (hbuild : params.build = .ok params)
    (hstep : params.step.nanos ≤ Duration.maxValue.nanos)
    (hmax : params.max.nanos ≤ Duration.maxValue.nanos) :
    let mark := (exponential params).newMark
    let step := params.step.nanos
    let factor := params.multiplier.magnitude
    (mark.Widens ↔ step < scale step factor ∨ params.max.nanos < params.start.nanos + 2 * step) ∧
    (step + 1 / 2 ≤ step * factor.value → step < scale step factor) ∧
    (step * factor.value * (1 + 2 ^ (-53 : ℤ)) < step + 1 / 2 → ¬step < scale step factor) ∧
    (¬step < scale step factor → ∀ calls, mark.answer calls =
      if params.start.nanos + calls * step ≤ params.max.nanos then
        some ⟨params.start.nanos + calls * step⟩ else none) := by
  intro mark step factor
  have hpos : 0 < step := step_pos_of_build hbuild
  have hfactor : IsFactor factor := isFactor_of_build hbuild
  have hlimit : step < countLimit := Nat.lt_of_le_of_lt hstep (by decide)
  have hgrows : mark.Grows params.max.nanos := grows_newMark hbuild hstep
  have hfresh : mark.IsSpent ↔ params.max.nanos < mark.current := by
    simp [mark, newMark, IsSpent, current]
  have hstays (h : ¬step < scale step factor) : mark.Stays :=
    .intro ((le_scale hpos hlimit.le hfactor).1.antisymm (not_lt.1 h)).symm
  refine ⟨?_, lt_scale_of_half_le hpos hlimit hfactor, fun hlacks => ?_, fun h =>
    (hstays h).answer_eq hgrows hmax hfresh⟩
  · by_cases h : step < scale step factor
    · have hstretches : mark.Stretches := .intro hpos hlimit.le hfactor fun _ => h
      exact iff_of_true (hstretches.widens hgrows hmax hfresh) (.inl h)
    · rw [(hstays h).widens_iff hgrows hmax hfresh, or_iff_right h]
      rfl
  · rw [scale_eq_of_lt hpos hlimit hfactor hlacks]
    exact lt_irrefl step

/-- The delays of the default strategy move apart: a step of fifty milliseconds is doubled. -/
theorem answers_widen_default :
    let params := TruncatedExponential.default
    params.build = .ok params ∧ params.step.nanos ≤ Duration.maxValue.nanos ∧
      params.max.nanos ≤ Duration.maxValue.nanos ∧ (exponential params).newMark.Widens := by
  intro params
  have hbuild : params.build = .ok params := by decide
  have hstep : params.step.nanos ≤ Duration.maxValue.nanos := by decide
  have hmax : params.max.nanos ≤ Duration.maxValue.nanos := by decide
  have hgrows : params.step.nanos < scale params.step.nanos params.multiplier.magnitude := by decide
  exact ⟨hbuild, hstep, hmax, (answers_widen_iff hbuild hstep hmax).1.2 (.inl hgrows)⟩

/-- A nanosecond with a multiplier of one and a quarter is rounded back to a nanosecond, and so the
delays of an accepted strategy stay as far apart as they are. -/
theorem answers_even_quarter :
    let params : TruncatedExponential := ⟨⟨1⟩, ⟨1⟩, ⟨0x3FF4000000000000⟩, ⟨10⟩⟩
    params.build = .ok params ∧ ¬(exponential params).newMark.Widens := by
  intro params
  have hbuild : params.build = .ok params := by decide
  have hanswers : (exponential params).newMark.answer 0 = some ⟨1⟩ ∧
      (exponential params).newMark.answer 1 = some ⟨2⟩ ∧
      (exponential params).newMark.answer 2 = some ⟨3⟩ := by decide
  obtain ⟨hfirst, hsecond, hthird⟩ := hanswers
  exact ⟨hbuild, fun hwidens => absurd (hwidens 0 _ _ _ hfirst hsecond hthird) (by decide)⟩

end BackoffStrategy

end HttpRpc
