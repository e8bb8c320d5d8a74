import HttpRpc.Proofs.Backoff.Growth
import HttpRpc.Proofs.Number.Exact
import Mathlib.Algebra.Order.Ring.GeomSum

/-!
# Delays in closed form

If the multiplier is a natural number, the steps are its powers as far as doubles count every whole
number, and beyond that they stay beyond it (`agreeBelow_scale`). A mark whose maximum lies below
can so be followed call by call (`Follows`): it stands exactly where the geometric sum is, or it is
spent and the sum is beyond the maximum. The answers in closed form are `answers_geometric`.
-/

namespace HttpRpc

open HttpRpc.Number

/-- Two counts are the same, or both have reached the limit. -/
def AgreeBelow (limit count other : ℕ) : Prop :=
  count = other ∨ limit ≤ count ∧ limit ≤ other

namespace TruncatedExponential

variable {step m : ℕ} {factor : Magnitude}

/-- The whole number nearest to a natural number is that number. -/
theorem nearest_eq {n : ℕ} {x : Magnitude} (h : x.value = n) : nearest x = n := by
  have hnum : x.num = n * x.den := by
    have hcast := x.num_eq
    rw [h] at hcast
    exact_mod_cast hcast
  have hpos := x.den_pos
  refine Nat.div_eq_of_lt_le ?_ ?_
  · calc n * (2 * x.den) = 2 * (n * x.den) := by ring
      _ ≤ 2 * x.num + x.den := by omega
  · calc 2 * x.num + x.den = 2 * (n * x.den) + x.den := by rw [hnum]
      _ < 2 * (n * x.den) + 2 * x.den := by omega
      _ = (n + 1) * (2 * x.den) := by ring

/-- A step that doubles count exactly is multiplied exactly, or beyond what they count exactly. -/
theorem agreeBelow_scale (hstep : 0 < step) (hlimit : step < 2 ^ 53) (hm : 0 < m)
    (hfactor : factor.value = m) : AgreeBelow (2 ^ 53) (scale step factor) (step * m) := by
  obtain ⟨rounded, hrounded, hvalue⟩ := BinaryFormat.exists_binary64_round_eq hstep hlimit
  rw [scale, hrounded, Option.bind_some]
  rcases Nat.lt_or_ge (step * m) (2 ^ 53) with hexact | hbeyond
  · obtain ⟨product, hproduct, hnatural⟩ := binary64.exists_mul_natCast_eq (by decide) (by decide)
      hvalue hfactor (by decide) (Nat.mul_pos hstep hm) hexact
    rw [hproduct]
    left
    show min (nearest product) countLimit = step * m
    rw [nearest_eq hnatural]
    exact min_eq_left (hexact.le.trans (by decide))
  · right
    refine ⟨?_, hbeyond⟩
    split
    · next product hproduct =>
        have hle := binary64.pow_precision_le_value_of_mul (by decide) (by decide) hvalue hfactor
          hbeyond hproduct
        exact le_min (le_nearest hle) (by decide)
    · decide

end TruncatedExponential

/-! ## Geometric sums -/

/-- The start and a number of steps, each a number of times the one before it. -/
def geometric (start step m calls : ℕ) : ℕ :=
  start + ∑ call ∈ Finset.range calls, step * m ^ call

/-- One more call goes on by its step. -/
theorem geometric_succ (start step m calls : ℕ) :
    geometric start step m (calls + 1) = geometric start step m calls + step * m ^ calls := by
  rw [geometric, Finset.sum_range_succ, ← Nat.add_assoc]
  rfl

/-- The closed form of a geometric sum. -/
theorem geometric_eq {m : ℕ} (hm : 2 ≤ m) (start step calls : ℕ) :
    geometric start step m calls = start + step * (m ^ calls - 1) / (m - 1) := by
  have hdvd : m - 1 ∣ m ^ calls - 1 := by
    simpa only [one_pow] using Nat.sub_dvd_pow_sub_pow m 1 calls
  rw [geometric, ← Finset.mul_sum, Nat.geomSum_eq hm, Nat.mul_div_assoc step hdvd]

/-- A geometric sum grows with each call. -/
theorem strictMono_geometric {step m : ℕ} (hstep : 0 < step) (hm : 0 < m) (start : ℕ) :
    StrictMono (geometric start step m) := by
  refine strictMono_nat_of_lt_succ fun calls => ?_
  rw [geometric_succ]
  exact Nat.lt_add_of_pos_right (Nat.mul_pos hstep (Nat.pow_pos hm))

namespace BackoffMark

/-- After a number of calls the mark stands where the geometric sum is, with a step that agrees with
the next one of the sum, or it is spent and the sum is beyond the maximum. -/
inductive Follows (start step m : ℕ) (factor : Magnitude) (max calls : ℕ) : BackoffMark → Prop where
  | live {last : ℕ} (hagree : AgreeBelow (2 ^ 53) last (step * m ^ calls)) :
      Follows start step m factor max calls
        (exponential (geometric start step m calls) last factor max false)
  | spent {mark : BackoffMark} (hspent : mark.IsSpent)
      (hbeyond : max < geometric start step m calls) : Follows start step m factor max calls mark

variable {start step m max calls : ℕ} {factor : Magnitude} {mark : BackoffMark}

/-- A mark that follows the geometric sum answers with it as long as that is within the maximum. -/
theorem Follows.answer_eq (h : Follows start step m factor max calls mark) (hmax : max < 2 ^ 53) :
    mark.next.1 =
      if geometric start step m calls ≤ max then some ⟨geometric start step m calls⟩ else none := by
  cases h with
  | live _ =>
      split
      · next hwithin =>
          have hcounted : geometric start step m calls ≤ Duration.maxValue.nanos :=
            hwithin.trans (hmax.le.trans (by decide))
          rw [next_of_le hwithin, Duration.ofNanos_eq hcounted]
      · next hbeyond => exact (isSpent_of_lt (not_le.1 hbeyond)).next.1
  | spent hspent hbeyond =>
      rw [if_neg hbeyond.not_ge]
      exact hspent.next.1

section

variable (hstep : 0 < step) (hm : 0 < m) (hfactor : factor.value = m) (hmax : max < 2 ^ 53)

include hstep hm hfactor hmax

/-- A mark that follows the geometric sum does so after one more call. -/
theorem Follows.next (h : Follows start step m factor max calls mark) :
    Follows start step m factor max (calls + 1) mark.next.2 := by
  have hgrown := strictMono_geometric hstep hm start calls.lt_succ_self
  cases h with
  | spent hspent hbeyond => exact .spent hspent.next.2 (hbeyond.trans hgrown)
  | @live last hagree =>
      rcases Nat.lt_or_ge max (geometric start step m calls) with hbeyond | hwithin
      · exact .spent (isSpent_of_lt hbeyond).next.2 (hbeyond.trans hgrown)
      · have hlimit : max < TruncatedExponential.countLimit := hmax.trans (by decide)
        rw [next_of_le hwithin]
        rcases Nat.lt_or_ge max (geometric start step m calls + last) with hbeyond | hnext
        · refine .spent (isSpent_of_lt (lt_min hbeyond hlimit)) ?_
          rw [geometric_succ]
          rcases hagree with hlast | ⟨-, hlarge⟩
          · rwa [← hlast]
          · omega
        · -- A step within the maximum is one that doubles count exactly.
          obtain rfl : last = step * m ^ calls := by
            rcases hagree with hlast | ⟨hlarge, -⟩
            · exact hlast
            · omega
          have hexact : step * m ^ calls < 2 ^ 53 := by omega
          have hagree := TruncatedExponential.agreeBelow_scale
            (Nat.mul_pos hstep (Nat.pow_pos hm)) hexact hm hfactor
          rw [Nat.mul_assoc, ← pow_succ] at hagree
          rw [min_eq_left (hnext.trans hlimit.le), ← geometric_succ]
          exact .live hagree

/-- A fresh mark follows the geometric sum through all calls. -/
theorem follows_after (calls : ℕ) :
    Follows start step m factor max calls
      ((exponential start step factor max false).after calls) := by
  induction calls with
  | zero => exact .live (.inl (by rw [pow_zero, Nat.mul_one]))
  | succ calls ih => exact ih.next hstep hm hfactor hmax

end

end BackoffMark

namespace BackoffStrategy

variable {params : TruncatedExponential} {m : ℕ}

/-- A fresh mark of an accepted strategy whose multiplier is a natural number, and whose maximum is
less than `2 ^ 53` nanoseconds, answers with the start and the closed sums of the steps, as long as
these are within the maximum, and from then on with none. -/
theorem answers_geometric (hbuild : params.build = .ok params)
    (hmultiplier : params.multiplier.magnitude.value = m) (hmax : params.max.nanos < 2 ^ 53) :
    let delay (calls : ℕ) : ℕ := params.start.nanos + params.step.nanos * (m ^ calls - 1) / (m - 1)
    ∃ count, ∀ calls, (calls < count ↔ delay calls ≤ params.max.nanos) ∧
      (exponential params).newMark.answer calls =
        if calls < count then some ⟨delay calls⟩ else none := by
  intro delay
  have hm : 2 ≤ m := by
    have hone := (TruncatedExponential.isFactor_of_build hbuild).one_lt
    rw [hmultiplier] at hone
    exact_mod_cast hone
  have hdelay : delay = geometric params.start.nanos params.step.nanos m :=
    funext fun calls => (geometric_eq hm _ _ calls).symm
  have hstep := TruncatedExponential.step_pos_of_build hbuild
  have hgrows : StrictMono delay := hdelay ▸ strictMono_geometric hstep (by omega) _
  have hbeyond : params.max.nanos + 1 ≤ delay (params.max.nanos + 1) := hgrows.le_apply
  obtain ⟨count, -, hcount⟩ := exists_count_of_lt hgrows.monotone (Nat.lt_of_succ_le hbeyond)
  refine ⟨count, fun calls => ⟨(hcount calls).symm, ?_⟩⟩
  simp only [← hcount, hdelay]
  exact (BackoffMark.follows_after hstep (by omega) hmultiplier hmax calls).answer_eq hmax

/-- A nanosecond that is tripled makes thirty-five delays up to the greatest maximum. The next step
would be odd and beyond what doubles count exactly. -/
theorem answers_geometric_triple :
    let params : TruncatedExponential := ⟨⟨1⟩, ⟨1⟩, .ofInt 3, ⟨2 ^ 53 - 1⟩⟩
    let mark := (exponential params).newMark
    params.build = .ok params ∧ params.multiplier.magnitude.value = (3 : ℕ) ∧
      params.max.nanos < 2 ^ 53 ∧ mark.answer 34 = some ⟨(3 ^ 34 + 1) / 2⟩ ∧
      ∀ calls, 35 ≤ calls → mark.answer calls = none := by
  intro params mark
  have hbuild : params.build = .ok params := by decide
  have hmultiplier : params.multiplier.magnitude.value = (3 : ℕ) := by
    have hmagnitude : params.multiplier.magnitude = ⟨3 * 2 ^ 51, -51⟩ := by decide
    rw [hmagnitude, Magnitude.value]
    norm_num
  have hmax : params.max.nanos < 2 ^ 53 := by decide
  obtain ⟨count, hcount⟩ := answers_geometric hbuild hmultiplier hmax
  have hlast : 34 < count := (hcount 34).1.2 (by decide)
  have hend : ¬35 < count := fun h => absurd ((hcount 35).1.1 h) (by decide)
  refine ⟨hbuild, hmultiplier, hmax, (hcount 34).2.trans ((if_pos hlast).trans (by decide)),
    fun calls hcalls => ?_⟩
  exact (hcount calls).2.trans (if_neg (by omega))

end BackoffStrategy

end HttpRpc
