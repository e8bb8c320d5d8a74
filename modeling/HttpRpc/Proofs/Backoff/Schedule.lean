import HttpRpc.Backoff.Strategy
import HttpRpc.Proofs.Number.Rounding

/-!
# Schedules

The schedule of a mark is the list of the delays that it yields before it yields none (`Yields`). A
mark has one schedule at most (`Yields.unique`), and the fresh mark of every accepted strategy has
one (`exists_yields_newMark`): delays are of use only up to the maximum, and each brings the next
one a nanosecond nearer to it, because a step never falls to zero (`one_le_scale`).
-/

namespace HttpRpc

open HttpRpc.Number

namespace TruncatedExponential

/-- A step that is multiplied by a factor that is not below one does not fall to zero. -/
theorem one_le_scale {step : Nat} {factor : Magnitude} (hstep : 1 ≤ step)
    (hfactor : factor.den ≤ factor.num) : 1 ≤ scale step factor := by
  unfold scale
  split
  · next product hproduct =>
      obtain ⟨rounded, hrounded, hmul⟩ := Option.bind_eq_some_iff.1 hproduct
      have hone : rounded.den ≤ rounded.num :=
        binary64.den_le_num_of_round (by decide) (by decide) (by decide) hstep hrounded
      have hproductOne : product.den ≤ product.num :=
        binary64.den_le_num_of_round (by decide) (by decide)
          (Nat.mul_pos rounded.den_pos factor.den_pos) (Nat.mul_le_mul hone hfactor) hmul
      have hnearest : 1 ≤ nearest product := by
        have hpos := product.den_pos
        exact (Nat.le_div_iff_mul_le (by omega)).2 (by omega)
      exact Nat.le_min.2 ⟨hnearest, by decide⟩
  · decide

end TruncatedExponential

namespace BackoffMark

/-! ## Schedules of marks -/

/-- The delays are all that the mark yields, one after the other, before it yields none. -/
inductive Yields : BackoffMark → List Duration → Prop where
  | stop {mark : BackoffMark} (hnext : mark.next.1 = none) : Yields mark []
  | delay {mark : BackoffMark} {delay : Duration} {delays : List Duration}
      (hnext : mark.next.1 = some delay) (hrest : Yields mark.next.2 delays) :
      Yields mark (delay :: delays)

/-- A mark has one schedule at most. -/
theorem Yields.unique {mark : BackoffMark} {delays others : List Duration}
    (h : mark.Yields delays) (hother : mark.Yields others) : delays = others := by
  induction h generalizing others with
  | stop hnext =>
      cases hother with
      | stop => rfl
      | delay hsome => rw [hnext] at hsome; cases hsome
  | delay hnext _ ih =>
      cases hother with
      | stop hnone => rw [hnext] at hnone; cases hnone
      | delay hsome hrest =>
          cases hnext.symm.trans hsome
          rw [ih hrest]

/-- The mark comes nearer to its end with every delay: there is a step, no later one will be
smaller than one, and counting does not stop before the maximum. -/
def Advances : BackoffMark → Prop
  | exponential _ step multiplier max _ =>
    1 ≤ step ∧ multiplier.den ≤ multiplier.num ∧ max < TruncatedExponential.countLimit
  | fixed .. | noRetry => True

/-- A mark goes on advancing, and its bound falls with each delay. -/
theorem Advances.next {mark : BackoffMark} (h : mark.Advances) {delay : Duration}
    (hnext : mark.next.1 = some delay) :
    mark.next.2.Advances ∧ mark.next.2.bound < mark.bound := by
  cases mark with
  | exponential current step multiplier max exhausted =>
      obtain ⟨hstep, hmultiplier, hmax⟩ := h
      simp only [BackoffMark.next] at hnext ⊢
      by_cases hspent : (exhausted || decide (max < current)) = true
      · rw [if_pos hspent] at hnext
        cases hnext
      · rw [if_neg hspent]
        simp only [Bool.or_eq_true, decide_eq_true_eq, not_or, Nat.not_lt] at hspent
        refine ⟨⟨TruncatedExponential.one_le_scale hstep hmultiplier, hmultiplier, hmax⟩, ?_⟩
        show max + 1 - min (current + step) TruncatedExponential.countLimit < max + 1 - current
        omega
  | fixed delay remaining =>
      cases remaining with
      | zero => cases hnext
      | succ remaining => exact ⟨trivial, Nat.lt_succ_self remaining⟩
  | noRetry => cases hnext

/-- A mark that advances has a schedule, which is no longer than its bound. -/
theorem Advances.exists_yields {mark : BackoffMark} (h : mark.Advances) :
    ∃ delays, mark.Yields delays ∧ delays.length ≤ mark.bound := by
  induction hbound : mark.bound using Nat.strongRecOn generalizing mark with
  | ind bound ih =>
      subst hbound
      cases hnext : mark.next.1 with
      | none => exact ⟨[], .stop hnext, Nat.zero_le _⟩
      | some delay =>
          obtain ⟨hafter, hlt⟩ := h.next hnext
          obtain ⟨delays, hdelays, hlength⟩ := ih _ hlt hafter rfl
          exact ⟨delay :: delays, .delay hnext hdelays, Nat.succ_le_of_lt
            (Nat.lt_of_le_of_lt hlength hlt)⟩

end BackoffMark

namespace BackoffStrategy

/-- The strategy is one of those that can be made: its builder accepts an exponential one, whose
maximum is a duration that clocks count. -/
def IsAccepted : BackoffStrategy → Prop
  | exponential params =>
    params.build = .ok params ∧ params.max.nanos ≤ Duration.maxValue.nanos
  | fixed .. | noRetry => True

/-- The fresh mark of an accepted strategy advances. -/
theorem IsAccepted.advances {strategy : BackoffStrategy} (h : strategy.IsAccepted) :
    strategy.newMark.Advances := by
  cases strategy with
  | exponential params =>
      obtain ⟨hbuild, hmax⟩ := h
      have hlimit : Duration.maxValue.nanos < TruncatedExponential.countLimit := by decide
      unfold TruncatedExponential.build at hbuild
      split at hbuild
      · cases hbuild
      split at hbuild
      · cases hbuild
      split at hbuild
      · cases hbuild
      · next hstep hmultiplier =>
          simp only [Binary64.exceedsOne, Bool.not_eq_true', Bool.not_eq_false, Bool.and_eq_true,
            decide_eq_true_eq] at hmultiplier
          exact ⟨Nat.one_le_iff_ne_zero.2 hstep, Nat.le_of_lt hmultiplier.2.2,
            Nat.lt_of_le_of_lt hmax hlimit⟩
  | fixed | noRetry => trivial

/-- The fresh mark of an accepted strategy has a schedule, which is no longer than its bound. -/
theorem IsAccepted.exists_yields {strategy : BackoffStrategy} (h : strategy.IsAccepted) :
    ∃ delays, strategy.newMark.Yields delays ∧ delays.length ≤ strategy.newMark.bound :=
  h.advances.exists_yields

end BackoffStrategy

end HttpRpc
