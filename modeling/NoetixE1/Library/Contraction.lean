import Mathlib.Algebra.Field.GeomSum
import Mathlib.Algebra.Order.Field.Basic
import Mathlib.Analysis.ODE.DiscreteGronwall

/-!
# Being pulled towards a target

Again and again something is found somewhere and sent closer to a fixed target.  Between
two such steps it may be carried off.  The distance that is left is what the start had,
damped once a step, and what it was carried off since, damped by the steps after it.
-/

namespace NoetixE1.Contraction

variable {K : Type*} [Field K] [LinearOrder K] [IsStrictOrderedRing K]

/-- Found at `found n`, it is sent to `given n`, which is closer to the target. -/
def Pulls (rate target : K) (found given : ℕ → K) : Prop :=
  ∀ n, |target - given n| ≤ rate * |target - found n|

variable {rate target : K} {found given : ℕ → K}

theorem Pulls.next_le (pulls : Pulls rate target found given) (nonneg : 0 ≤ rate) (n : ℕ) :
    |target - given (n + 1)| ≤
      rate * |target - given n| + rate * |found (n + 1) - given n| := by
  have carried : |target - found (n + 1)| ≤ |target - given n| + |found (n + 1) - given n| := by
    rw [abs_sub_comm (found (n + 1))]
    exact abs_sub_le target (given n) (found (n + 1))
  calc |target - given (n + 1)|
      ≤ rate * |target - found (n + 1)| := pulls (n + 1)
    _ ≤ rate * (|target - given n| + |found (n + 1) - given n|) :=
        mul_le_mul_of_nonneg_left carried nonneg
    _ = rate * |target - given n| + rate * |found (n + 1) - given n| := mul_add _ _ _

/-- The start is forgotten geometrically, and so is every disturbance. -/
theorem Pulls.error_le (pulls : Pulls rate target found given) (nonneg : 0 ≤ rate) (n : ℕ) :
    |target - given n| ≤ rate ^ (n + 1) * |target - found 0| +
      ∑ k ∈ Finset.range n, rate ^ (n - k) * |found (k + 1) - given k| := by
  have summed := discrete_gronwall_prod_general (u := fun k => |target - given k|)
    (b := fun k => rate * |found (k + 1) - given k|) (c := fun _ => rate)
    (fun k _ => pulls.next_le nonneg k) (fun _ _ => nonneg) (Nat.zero_le n)
  simp only [Finset.prod_const, Nat.card_Ico, Nat.sub_zero] at summed
  rw [Nat.Ico_zero_eq_range] at summed
  have start : |target - given 0| * rate ^ n ≤ rate ^ (n + 1) * |target - found 0| := by
    rw [pow_succ, mul_assoc, mul_comm]
    exact mul_le_mul_of_nonneg_left (pulls 0) (pow_nonneg nonneg n)
  refine summed.trans (add_le_add start (Finset.sum_le_sum fun k member => ?_))
  have later : n - k = n - (k + 1) + 1 := by
    have := Finset.mem_range.mp member
    omega
  rw [later, pow_succ]
  exact (by ring : _ = _).le

/-- Carried off by at most `slip` each time, it ends up near the target. -/
theorem Pulls.error_le_of_slip (pulls : Pulls rate target found given) (nonneg : 0 ≤ rate)
    (shrinks : rate < 1) {slip : K} (slips : 0 ≤ slip) (n : ℕ)
    (small : ∀ k < n, |found (k + 1) - given k| ≤ slip) :
    |target - given n| ≤ rate ^ (n + 1) * |target - found 0| + rate / (1 - rate) * slip := by
  have room : 1 - rate ≠ 0 := (sub_pos.mpr shrinks).ne'
  induction n with
  | zero =>
      have start := pulls 0
      have extra : 0 ≤ rate / (1 - rate) * slip :=
        mul_nonneg (div_nonneg nonneg (sub_pos.mpr shrinks).le) slips
      rw [pow_one]
      exact start.trans (le_add_of_nonneg_right extra)
  | succ n ih =>
      have before := ih fun k below => small k (Nat.lt_succ_of_lt below)
      calc |target - given (n + 1)|
          ≤ rate * |target - given n| + rate * |found (n + 1) - given n| :=
            pulls.next_le nonneg n
        _ ≤ rate * (rate ^ (n + 1) * |target - found 0| + rate / (1 - rate) * slip) +
              rate * slip := by
            have now := small n (Nat.lt_succ_self n)
            gcongr
        _ = rate ^ (n + 2) * |target - found 0| + rate / (1 - rate) * slip := by
            field_simp
            ring

end NoetixE1.Contraction
