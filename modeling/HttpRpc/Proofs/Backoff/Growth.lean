import HttpRpc.Proofs.Backoff.Schedule

/-!
# Growing delays

An exponential mark counts with a step that never shrinks (`le_scale`): the factor is above one by
so much that the product makes up for the rounding of the step. Hence a fresh mark answers with the
exact sums of its steps as long as they do not exceed the maximum (`after_decided`), and from then
on with none (`answers_decided`).
-/

namespace HttpRpc

open HttpRpc.Number

/-- Whole nanoseconds of a duration that clocks count are kept as they are. -/
theorem Duration.ofNanos_eq {nanos : ℕ} (h : nanos ≤ maxValue.nanos) : ofNanos nanos = ⟨nanos⟩ := by
  have hseconds : nanos / nanosPerSecond ≤ UInt64.size - 1 := by
    refine Nat.le_of_lt_succ ((Nat.div_lt_iff_lt_mul (by decide)).2 (Nat.lt_of_le_of_lt h ?_))
    decide
  rw [ofNanos, ofParts, Nat.min_eq_left hseconds, Nat.div_add_mod']

/-- Counts that grow and go beyond a maximum are within it up to some number, and then never again.
-/
theorem exists_count_of_lt {f : ℕ → ℕ} (hmono : Monotone f) {max bound : ℕ}
    (hbound : max < f bound) :
    ∃ count ≤ bound, ∀ calls, f calls ≤ max ↔ calls < count := by
  have hexists : ∃ calls, max < f calls := ⟨bound, hbound⟩
  refine ⟨Nat.find hexists, Nat.find_min' hexists hbound, fun calls => ?_⟩
  rw [Nat.lt_find_iff]
  refine ⟨fun hwithin earlier hearlier => ?_, fun hnever => not_lt.1 (hnever calls le_rfl)⟩
  exact not_lt.2 ((hmono hearlier).trans hwithin)

namespace TruncatedExponential

/-- A factor that a step can be multiplied by: a double above one. -/
structure IsFactor (factor : Magnitude) : Prop where
  one_lt : 1 < factor.value
  places : factor.mantissa < 2 ^ binary64.precision

/-- The multiplier of an accepted strategy is a factor. -/
theorem isFactor_of_build {params : TruncatedExponential} (h : params.build = .ok params) :
    IsFactor params.multiplier.magnitude := by
  unfold build at h
  split at h
  · cases h
  split at h
  · cases h
  split at h
  · cases h
  · next hmultiplier =>
      simp only [Binary64.exceedsOne, Bool.not_eq_true', Bool.not_eq_false, Bool.and_eq_true,
        decide_eq_true_eq] at hmultiplier
      exact ⟨Magnitude.one_lt_value.2 hmultiplier.2.2,
        binary64.mantissa_ofCode_lt (by decide) _⟩

/-- The step of an accepted strategy is positive. -/
theorem step_pos_of_build {params : TruncatedExponential} (h : params.build = .ok params) :
    0 < params.step.nanos := by
  refine Nat.pos_of_ne_zero fun hzero => ?_
  unfold build at h
  rw [if_pos hzero] at h
  split at h <;> cases h

/-- The nearest whole number is at least one that the value reaches. -/
theorem le_nearest {n : ℕ} {x : Magnitude} (h : (n : ℚ) ≤ x.value) : n ≤ nearest x := by
  rw [Magnitude.natCast_le_value] at h
  have hpos := x.den_pos
  refine (Nat.le_div_iff_mul_le (by omega)).2 ?_
  calc n * (2 * x.den) = 2 * (n * x.den) := by ring
    _ ≤ 2 * x.num + x.den := by omega

/-- A step does not shrink, and it is counted within the limit. -/
theorem le_scale {step : ℕ} {factor : Magnitude} (hstep : 1 ≤ step) (hlimit : step ≤ countLimit)
    (hfactor : IsFactor factor) :
    step ≤ scale step factor ∧ scale step factor ≤ countLimit := by
  unfold scale
  split
  · next product hproduct =>
      obtain ⟨rounded, hrounded, hmul⟩ := Option.bind_eq_some_iff.1 hproduct
      have hvalue : (step : ℚ) ≤ product.value :=
        binary64.natCast_le_value_of_mul (by decide) (by decide) hstep hrounded hfactor.one_lt
          hfactor.places hmul
      exact ⟨le_min (le_nearest hvalue) hlimit, min_le_right _ _⟩
  · exact ⟨hlimit, le_rfl⟩

end TruncatedExponential

namespace BackoffMark

/-! ## Calls -/

/-- The mark after a number of calls. -/
def after (mark : BackoffMark) : ℕ → BackoffMark
  | 0 => mark
  | calls + 1 => (mark.after calls).next.2

/-- The answer to a call that comes after a number of others. -/
def answer (mark : BackoffMark) (calls : ℕ) : Option Duration :=
  (mark.after calls).next.1

/-- The delay that an exponential mark stands at, in nanoseconds. -/
def current : BackoffMark → ℕ
  | exponential current .. => current
  | fixed .. | noRetry => 0

/-- The step that an exponential mark counts with, in nanoseconds. -/
def step : BackoffMark → ℕ
  | exponential _ step .. => step
  | fixed .. | noRetry => 0

/-- Where a mark would stand after a number of calls if nothing limited its counting. -/
def total (mark : BackoffMark) : ℕ → ℕ
  | 0 => mark.current
  | calls + 1 => mark.total calls + (mark.after calls).step

/-- A mark that has no further delay. -/
def IsSpent : BackoffMark → Prop
  | exponential current _ _ max exhausted => exhausted = true ∨ max < current
  | fixed _ remaining => remaining = 0
  | noRetry => True

/-- An exponential mark that is spent answers with none and keeps its delay and its step. -/
theorem next_of_isSpent {current step max : ℕ} {factor : Magnitude} {exhausted : Bool}
    (h : (exponential current step factor max exhausted).IsSpent) :
    (exponential current step factor max exhausted).next =
      (none, exponential current step factor max true) :=
  if_pos (by simpa [IsSpent] using h)

/-- A mark that is spent answers with no delay and stays spent. -/
theorem IsSpent.next {mark : BackoffMark} (h : mark.IsSpent) :
    mark.next.1 = none ∧ mark.next.2.IsSpent := by
  cases mark with
  | exponential current step factor max exhausted =>
      rw [next_of_isSpent h]
      exact ⟨rfl, .inl rfl⟩
  | fixed delay remaining =>
      cases h
      exact ⟨rfl, rfl⟩
  | noRetry => exact ⟨rfl, trivial⟩

/-- A mark that stands beyond its maximum is spent. -/
theorem isSpent_of_lt {current step max : ℕ} {factor : Magnitude} (h : max < current) :
    (exponential current step factor max false).IsSpent :=
  Or.inr h

/-- A mark within its maximum answers with the delay that it stands at and goes on by its step. -/
theorem next_of_le {current step max : ℕ} {factor : Magnitude} (h : current ≤ max) :
    (exponential current step factor max false).next =
      (some (.ofNanos current),
        exponential (min (current + step) TruncatedExponential.countLimit)
          (TruncatedExponential.scale step factor) factor max false) :=
  if_neg (by simpa using h)

/-- An exponential mark is spent and keeps its delay and its step, or it is within its maximum,
answers with its delay and goes on by its step. -/
theorem next_cases (current step max : ℕ) (factor : Magnitude) (exhausted : Bool) :
    let mark := exponential current step factor max exhausted
    (mark.IsSpent ∧ mark.next = (none, exponential current step factor max true)) ∨
      (¬mark.IsSpent ∧ current ≤ max ∧ mark.next = (some (.ofNanos current),
        exponential (min (current + step) TruncatedExponential.countLimit)
          (TruncatedExponential.scale step factor) factor max false)) := by
  intro mark
  by_cases hspent : mark.IsSpent
  · exact .inl ⟨hspent, next_of_isSpent hspent⟩
  · obtain ⟨hlive, hwithin⟩ : exhausted = false ∧ current ≤ max := by
      simpa [mark, IsSpent] using hspent
    subst hlive
    exact .inr ⟨hspent, hwithin, next_of_le hwithin⟩

/-- An exponential mark with a maximum, a positive step within the limit and a factor. -/
inductive Grows (max : ℕ) : BackoffMark → Prop where
  | intro {current step : ℕ} {factor : Magnitude} {exhausted : Bool} (hstep : 1 ≤ step)
      (hlimit : step ≤ TruncatedExponential.countLimit)
      (hfactor : TruncatedExponential.IsFactor factor) :
      Grows max (exponential current step factor max exhausted)

variable {mark : BackoffMark} {max : ℕ}

/-- A mark keeps growing, its step does not shrink, and either it is spent and stays so, or it
answers with the delay that it stands at and goes on by its step. -/
theorem Grows.next (h : mark.Grows max) :
    mark.next.2.Grows max ∧ mark.step ≤ mark.next.2.step ∧
      ((mark.IsSpent ∧ mark.next.1 = none ∧ mark.next.2.IsSpent) ∨
        (¬mark.IsSpent ∧ mark.current ≤ max ∧ mark.next.1 = some (.ofNanos mark.current) ∧
          mark.next.2.current = min (mark.current + mark.step) TruncatedExponential.countLimit ∧
          (mark.next.2.IsSpent ↔ max < mark.next.2.current))) := by
  obtain ⟨hstep, hlimit, hfactor⟩ := h
  obtain ⟨hgrown, hcounted⟩ := TruncatedExponential.le_scale hstep hlimit hfactor
  rename_i current step factor exhausted
  obtain ⟨hspent, hnext⟩ | ⟨hspent, hwithin, hnext⟩ :=
    next_cases current step max factor exhausted
  · rw [hnext]
    exact ⟨.intro hstep hlimit hfactor, le_rfl, .inl ⟨hspent, rfl, .inl rfl⟩⟩
  · rw [hnext]
    refine ⟨.intro (hstep.trans hgrown) hcounted hfactor, hgrown,
      .inr ⟨hspent, hwithin, rfl, rfl, ?_⟩⟩
    simp [IsSpent, BackoffMark.current]

/-- A growing mark keeps growing. -/
theorem Grows.after (h : mark.Grows max) (calls : ℕ) : (mark.after calls).Grows max := by
  induction calls with
  | zero => exact h
  | succ calls ih => exact ih.next.1

/-- The step of a growing mark is positive. -/
theorem Grows.one_le_step (h : mark.Grows max) : 1 ≤ mark.step := by
  obtain ⟨hstep, -, -⟩ := h
  exact hstep

/-- The step of a growing mark is never below the first one. -/
theorem Grows.step_le_step_after (h : mark.Grows max) (calls : ℕ) :
    mark.step ≤ (mark.after calls).step := by
  induction calls with
  | zero => exact le_rfl
  | succ calls ih => exact ih.trans (h.after calls).next.2.1

/-- Without a limit a growing mark would go on by its first step at least. -/
theorem Grows.le_total (h : mark.Grows max) (calls : ℕ) :
    mark.current + calls * mark.step ≤ mark.total calls := by
  induction calls with
  | zero => rw [Nat.zero_mul, Nat.add_zero, total]
  | succ calls ih =>
      have hstep := h.step_le_step_after calls
      rw [Nat.succ_mul, total]
      omega

/-- Without a limit a growing mark would never stop. -/
theorem Grows.strictMono_total (h : mark.Grows max) : StrictMono mark.total :=
  strictMono_nat_of_lt_succ fun calls => Nat.lt_add_of_pos_right (h.after calls).one_le_step

/-- A growing mark goes beyond its maximum, after no more calls than its step has room for. -/
theorem Grows.exists_count (h : mark.Grows max) :
    ∃ count, (∀ calls, mark.total calls ≤ max ↔ calls < count) ∧
      count ≤ if mark.current ≤ max then (max - mark.current) / mark.step + 1 else 0 := by
  have hroom : max < mark.total
      (if mark.current ≤ max then (max - mark.current) / mark.step + 1 else 0) := by
    split
    · have hquotient := Nat.lt_mul_div_succ (max - mark.current) h.one_le_step
      rw [Nat.mul_comm] at hquotient
      refine lt_of_lt_of_le ?_ (h.le_total _)
      omega
    · next hbeyond => exact not_le.1 hbeyond
  obtain ⟨count, hle, hcount⟩ := exists_count_of_lt h.strictMono_total.monotone hroom
  exact ⟨count, hcount, hle⟩

/-- A growing mark that is not spent before its time stands where it would without a limit until it
is beyond its maximum, and from then on it is spent. -/
theorem Grows.after_decided (h : mark.Grows max) (hmax : max < TruncatedExponential.countLimit)
    (hfresh : mark.IsSpent ↔ max < mark.current) (calls : ℕ) :
    (mark.total calls ≤ max ∧ ¬(mark.after calls).IsSpent ∧
        (mark.after calls).current = mark.total calls) ∨
      (max < mark.total calls ∧ (mark.after calls).IsSpent) := by
  induction calls with
  | zero =>
      rcases Nat.lt_or_ge max mark.current with hbeyond | hwithin
      · exact .inr ⟨hbeyond, hfresh.2 hbeyond⟩
      · exact .inl ⟨hwithin, fun hspent => absurd (hfresh.1 hspent) hwithin.not_gt, rfl⟩
  | succ calls ih =>
      have hgrown := h.strictMono_total calls.lt_succ_self
      obtain ⟨-, -, ⟨hspent, -, hstays⟩ | ⟨hlive, -, -, hcurrent, hends⟩⟩ := (h.after calls).next
      · obtain ⟨-, hlive, -⟩ | ⟨hbeyond, -⟩ := ih
        · exact absurd hspent hlive
        · exact .inr ⟨hbeyond.trans hgrown, hstays⟩
      · obtain ⟨-, -, htotal⟩ | ⟨-, hspent⟩ := ih
        · -- Counting is limited beyond the maximum only.
          rw [htotal] at hcurrent
          change (mark.after (calls + 1)).current = min (mark.total (calls + 1)) _ at hcurrent
          change (mark.after (calls + 1)).IsSpent ↔ _ at hends
          rcases Nat.lt_or_ge max (mark.total (calls + 1)) with hbeyond | hwithin
          · exact .inr ⟨hbeyond, hends.2 (hcurrent ▸ lt_min hbeyond hmax)⟩
          · rw [min_eq_left (hwithin.trans hmax.le)] at hcurrent
            refine .inl ⟨hwithin, fun hspent => ?_, hcurrent⟩
            exact absurd (hcurrent ▸ hends.1 hspent) hwithin.not_gt
        · exact absurd hspent hlive

/-- A growing mark that is not spent before its time answers with where it would stand without a
limit, as long as that is not beyond its maximum. -/
theorem Grows.answer_eq (h : mark.Grows max) (hmax : max ≤ Duration.maxValue.nanos)
    (hfresh : mark.IsSpent ↔ max < mark.current) (calls : ℕ) :
    mark.answer calls = if mark.total calls ≤ max then some ⟨mark.total calls⟩ else none := by
  have hlimit : max < TruncatedExponential.countLimit :=
    Nat.lt_of_le_of_lt hmax (by decide)
  obtain ⟨-, -, hnext⟩ := (h.after calls).next
  obtain ⟨hwithin, hlive, hcurrent⟩ | ⟨hbeyond, hspent⟩ := h.after_decided hlimit hfresh calls
  · obtain ⟨hspent, -⟩ | ⟨-, -, hanswer, -⟩ := hnext
    · exact absurd hspent hlive
    · rw [if_pos hwithin, answer, hanswer, hcurrent, Duration.ofNanos_eq (hwithin.trans hmax)]
  · obtain ⟨-, hanswer, -⟩ | ⟨hlive, -⟩ := hnext
    · rw [if_neg hbeyond.not_ge, answer, hanswer]
    · exact absurd hspent hlive

end BackoffMark

namespace BackoffStrategy

open BackoffMark

variable {params : TruncatedExponential}

/-- The fresh mark of an accepted strategy grows. -/
theorem grows_newMark (hbuild : params.build = .ok params)
    (hstep : params.step.nanos ≤ Duration.maxValue.nanos) :
    (exponential params).newMark.Grows params.max.nanos := by
  exact .intro (TruncatedExponential.step_pos_of_build hbuild) (hstep.trans (by decide))
    (TruncatedExponential.isFactor_of_build hbuild)

/-- A fresh mark of an accepted strategy first answers with the start, if that is within the
maximum. Each further delay is longer than the one before it and within the maximum, and it is the
exact sum of the start and the steps, which never shrink. There are no more delays than the first
step has room for between the start and the maximum, and after them all answers are none. -/
theorem answers_decided (hbuild : params.build = .ok params)
    (hstep : params.step.nanos ≤ Duration.maxValue.nanos)
    (hmax : params.max.nanos ≤ Duration.maxValue.nanos) :
    let mark := (exponential params).newMark
    (params.start.nanos ≤ params.max.nanos → mark.answer 0 = some params.start) ∧
    (∀ calls delay later, mark.answer calls = some delay → mark.answer (calls + 1) = some later →
      delay.nanos < later.nanos) ∧
    (∀ calls delay, mark.answer calls = some delay →
      delay.nanos ≤ params.max.nanos ∧ delay.nanos = mark.total calls) ∧
    (∀ calls, (mark.after calls).step ≤ (mark.after (calls + 1)).step) ∧
    ∃ count, (∀ calls, (mark.answer calls).isSome ↔ calls < count) ∧
      count ≤ if params.start.nanos ≤ params.max.nanos then
        (params.max.nanos - params.start.nanos) / params.step.nanos + 1 else 0 := by
  intro mark
  have hgrows : mark.Grows params.max.nanos := grows_newMark hbuild hstep
  have hfresh : mark.IsSpent ↔ params.max.nanos < mark.current := by
    simp [mark, newMark, IsSpent, current]
  have hanswer := hgrows.answer_eq hmax hfresh
  have hsome {calls : ℕ} {delay : Duration} (h : mark.answer calls = some delay) :
      delay.nanos ≤ params.max.nanos ∧ delay.nanos = mark.total calls := by
    rw [hanswer, Option.ite_none_right_eq_some] at h
    obtain ⟨hwithin, hdelay⟩ := h
    rw [← Option.some.inj hdelay]
    exact ⟨hwithin, rfl⟩
  refine ⟨fun hstart => ?_, fun calls delay later hdelay hlater => ?_,
    fun calls delay hdelay => hsome hdelay, fun calls => (hgrows.after calls).next.2.1, ?_⟩
  · rw [hanswer, if_pos (show mark.total 0 ≤ params.max.nanos from hstart)]
    rfl
  · rw [(hsome hdelay).2, (hsome hlater).2]
    exact hgrows.strictMono_total calls.lt_succ_self
  · obtain ⟨count, hcount, hle⟩ := hgrows.exists_count
    refine ⟨count, fun calls => ?_, hle⟩
    rw [← hcount, hanswer, Option.isSome_ite]

/-- The default strategy, with a step of fifty milliseconds up to five seconds, gives up after a
hundred delays at most. -/
theorem answers_decided_default :
    let params := TruncatedExponential.default
    params.build = .ok params ∧ params.step.nanos ≤ Duration.maxValue.nanos ∧
      params.max.nanos ≤ Duration.maxValue.nanos ∧
      (exponential params).newMark.answer 0 = some params.start ∧
      ∃ count ≤ 100, ∀ calls, ((exponential params).newMark.answer calls).isSome ↔ calls < count :=
    by
  intro params
  have hbuild : params.build = .ok params := by decide
  have hstep : params.step.nanos ≤ Duration.maxValue.nanos := by decide
  have hmax : params.max.nanos ≤ Duration.maxValue.nanos := by decide
  obtain ⟨hfirst, -, -, -, count, hcount, hle⟩ := answers_decided hbuild hstep hmax
  exact ⟨hbuild, hstep, hmax, hfirst (by decide), count, hle.trans (by decide),
    hcount⟩

end BackoffStrategy

end HttpRpc
