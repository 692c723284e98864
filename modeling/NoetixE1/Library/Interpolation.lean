import Mathlib.Analysis.Convex.Basic
import Mathlib.Tactic.Linarith
import Mathlib.Tactic.FieldSimp
import Mathlib.Tactic.Ring

/-!
# Interpolation, saturating progress and clamping

Arithmetic of setpoint generators over any linearly ordered field: the blend
of a start and a target by a progress value, a progress counter that grows by
a fixed fraction and saturates at one, and symmetric clamping.
-/

namespace NoetixE1.Interpolation

variable {K : Type*} [Field K]

/-- The point reached between `start` and `target` at progress `progress`. -/
def blend (start target progress : K) : K := start * (1 - progress) + target * progress

@[simp] theorem blend_zero (start target : K) : blend start target 0 = start := by
  unfold blend
  ring

@[simp] theorem blend_self (point progress : K) : blend point point progress = point := by
  unfold blend
  ring

theorem blend_eq_add (start target progress : K) :
    blend start target progress = start + progress * (target - start) := by
  unfold blend
  ring

theorem blend_sub_blend (start target first second : K) :
    blend start target second - blend start target first = (second - first) * (target - start) := by
  unfold blend
  ring

theorem target_sub_blend (start target progress : K) :
    target - blend start target progress = (1 - progress) * (target - start) := by
  unfold blend
  ring

theorem blend_eq_start_iff {start target progress : K} :
    blend start target progress = start ↔ progress = 0 ∨ start = target := by
  rw [blend_eq_add, add_eq_left, mul_eq_zero, sub_eq_zero]
  exact or_congr_right eq_comm

variable [LinearOrder K]

/-- One step of a counter that reaches one after `duration` steps and stays there. -/
def advance (duration progress : K) : K := min (progress + 1 / duration) 1

theorem advance_le_one (duration progress : K) : advance duration progress ≤ 1 :=
  min_le_right _ _

/-- `x` limited to the interval from `lower` to `upper`. -/
def clamp (lower upper x : K) : K := max lower (min upper x)

variable [IsStrictOrderedRing K]

theorem blend_mem_uIcc {start target progress : K} (lower : 0 ≤ progress) (upper : progress ≤ 1) :
    blend start target progress ∈ Set.uIcc start target := by
  have combination := convex_uIcc start target Set.left_mem_uIcc Set.right_mem_uIcc
    (sub_nonneg.mpr upper) lower (sub_add_cancel 1 progress)
  rw [smul_eq_mul, smul_eq_mul] at combination
  unfold blend
  rw [mul_comm start, mul_comm target]
  exact combination

theorem abs_target_sub_blend {start target progress : K} (upper : progress ≤ 1) :
    |target - blend start target progress| = (1 - progress) * |target - start| := by
  rw [target_sub_blend, abs_mul, abs_of_nonneg (sub_nonneg.mpr upper)]

/-! ## Saturating progress -/

theorem le_advance {duration progress : K} (positive : 0 < duration) (upper : progress ≤ 1) :
    progress ≤ advance duration progress :=
  le_min (le_add_of_nonneg_right (one_div_pos.mpr positive).le) upper

theorem advance_pos {duration progress : K} (positive : 0 < duration) (lower : 0 ≤ progress) :
    0 < advance duration progress :=
  lt_min (add_pos_of_nonneg_of_pos lower (one_div_pos.mpr positive)) one_pos

/-- From zero, `count` steps lead to `count / duration`, cut off at one. -/
theorem advance_iterate {duration : K} (positive : 0 < duration) (count : ℕ) :
    (advance duration)^[count] 0 = min (count / duration) 1 := by
  induction count with
  | zero => simp
  | succ count ih =>
      rw [Function.iterate_succ_apply', ih, advance, ← min_add_add_right, min_assoc,
        min_eq_right (le_add_of_nonneg_right (one_div_pos.mpr positive).le), ← add_div,
        Nat.cast_succ]

/-- Progress one step after `first` is `1 / duration` exactly when `first` is zero. -/
theorem advance_eq_inv_iff {duration first : K} (long : 1 < duration) :
    advance duration first = 1 / duration ↔ first = 0 := by
  have positive : 0 < duration := one_pos.trans long
  have below : 1 / duration < 1 := (div_lt_one positive).mpr long
  unfold advance
  constructor
  · intro same
    rcases min_choice (first + 1 / duration) 1 with left | right
    · exact add_eq_right.mp (left.symm.trans same)
    · exact absurd (right.symm.trans same) below.ne'
  · intro zero
    rw [zero, zero_add, min_eq_left below.le]

/-! ## Slew of a blend -/

/-- One step of progress moves the blend by at most one `duration`-th of the way. -/
theorem abs_blend_advance_sub {duration progress : K} (start target : K)
    (positive : 0 < duration) (upper : progress ≤ 1) :
    |blend start target (advance duration progress) - blend start target progress| ≤
      |target - start| / duration := by
  have grows := le_advance positive upper
  have stepBound : advance duration progress - progress ≤ 1 / duration := by
    have bound := min_le_left (progress + 1 / duration) 1
    unfold advance
    linarith
  rw [blend_sub_blend, abs_mul, abs_of_nonneg (sub_nonneg.mpr grows)]
  calc (advance duration progress - progress) * |target - start|
      ≤ 1 / duration * |target - start| := mul_le_mul_of_nonneg_right stepBound (abs_nonneg _)
    _ = |target - start| / duration := by rw [one_div, inv_mul_eq_div]

/-- Progress never takes the blend away from the target. -/
theorem abs_target_sub_blend_anti {first second : K} (start target : K)
    (grows : first ≤ second) (upper : second ≤ 1) :
    |target - blend start target second| ≤ |target - blend start target first| := by
  rw [abs_target_sub_blend upper, abs_target_sub_blend (grows.trans upper)]
  exact mul_le_mul_of_nonneg_right (by linarith) (abs_nonneg _)

/-- Falling back to the start moves away from the target unless nothing was covered. -/
theorem abs_target_sub_start_le_iff {start target progress : K} (lower : 0 ≤ progress)
    (upper : progress ≤ 1) :
    |target - start| ≤ |target - blend start target progress| ↔ progress = 0 ∨ start = target := by
  rw [abs_target_sub_blend upper]
  constructor
  · intro bound
    have product : progress * |target - start| ≤ 0 := by linarith
    have zero : progress * |target - start| = 0 :=
      le_antisymm product (mul_nonneg lower (abs_nonneg _))
    rcases mul_eq_zero.mp zero with still | together
    · exact Or.inl still
    · exact Or.inr (sub_eq_zero.mp (abs_eq_zero.mp together)).symm
  · rintro (still | together)
    · rw [still, sub_zero, one_mul]
    · rw [together, sub_self, abs_zero, mul_zero]

/-- Falling back to the start keeps within the slew and the distance covered only if
nothing was covered. -/
theorem fall_back_iff {start target progress duration : K} (positive : 0 < duration)
    (lower : 0 ≤ progress) (upper : progress ≤ 1) :
    |start - blend start target progress| ≤ |target - start| / duration ∧
        |target - start| ≤ |target - blend start target progress| ↔
      progress = 0 ∨ start = target := by
  rw [abs_target_sub_start_le_iff lower upper]
  refine and_iff_right_of_imp fun covered => ?_
  have unmoved : start - blend start target progress = 0 :=
    sub_eq_zero.mpr (blend_eq_start_iff.mpr covered).symm
  rw [unmoved, abs_zero]
  exact div_nonneg (abs_nonneg _) positive.le

/-! ## Clamping -/

theorem abs_clamp_le {bound : K} (nonneg : 0 ≤ bound) (x : K) : |clamp (-bound) bound x| ≤ bound := by
  rw [abs_le]
  exact ⟨le_max_left _ _, max_le (neg_le_self nonneg) (min_le_left _ _)⟩

end NoetixE1.Interpolation
