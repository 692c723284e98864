import Mathlib.Analysis.InnerProductSpace.PiL2
import Mathlib.Analysis.SpecialFunctions.Complex.Arg
import Mathlib.LinearAlgebra.Matrix.Notation
import NoetixE1.Library.Literals

/-!
# Polar angles and the direction of a plumb line

The polar angle of a plane vector, and the plumb line as a body with given pitch and roll
sees it: the unit vectors in space by latitude and longitude.
-/

namespace NoetixE1.Polar

open Real

/-- The polar angle of the vector `(x, y)`, between `-π` and `π`. -/
noncomputable def atan2 (y x : ℝ) : ℝ := Complex.arg ⟨x, y⟩

example : atan2 0 0 = 0 := Complex.arg_zero

/-- The length of the vector `(x, y)`. -/
noncomputable def radius (y x : ℝ) : ℝ := ‖(⟨x, y⟩ : ℂ)‖

theorem radius_nonneg (y x : ℝ) : 0 ≤ radius y x := norm_nonneg _

theorem radius_sq (y x : ℝ) : radius y x ^ 2 = y ^ 2 + x ^ 2 := by
  rw [radius, Complex.sq_norm, Complex.normSq_mk]
  ring

theorem radius_mul_cos_atan2 (y x : ℝ) : radius y x * cos (atan2 y x) = x :=
  Complex.norm_mul_cos_arg _

theorem radius_mul_sin_atan2 (y x : ℝ) : radius y x * sin (atan2 y x) = y :=
  Complex.norm_mul_sin_arg _

/-! ## The plumb line -/

/-- The direction downwards as seen from a body with this pitch and roll. -/
noncomputable def plumb (pitch roll : ℝ) : Fin 3 → ℝ :=
  ![sin pitch, -(cos pitch * sin roll), -(cos pitch * cos roll)]

/-- The Euclidean length of a vector in space. -/
noncomputable def length (v : Fin 3 → ℝ) : ℝ := ‖(WithLp.toLp 2 v : EuclideanSpace ℝ (Fin 3))‖

theorem length_sq (v : Fin 3 → ℝ) : length v ^ 2 = v 0 ^ 2 + v 1 ^ 2 + v 2 ^ 2 := by
  rw [length, EuclideanSpace.real_norm_sq_eq, Fin.sum_univ_three]

theorem length_nonneg (v : Fin 3 → ℝ) : 0 ≤ length v := norm_nonneg _

theorem length_zero : length 0 = 0 := norm_zero

theorem length_plumb (pitch roll : ℝ) : length (plumb pitch roll) = 1 := by
  have square : length (plumb pitch roll) ^ 2 = 1 := by
    calc length (plumb pitch roll) ^ 2
        = sin pitch ^ 2 + (-(cos pitch * sin roll)) ^ 2 + (-(cos pitch * cos roll)) ^ 2 :=
          length_sq _
      _ = sin pitch ^ 2 + cos pitch ^ 2 * (sin roll ^ 2 + cos roll ^ 2) := by ring
      _ = 1 := by rw [sin_sq_add_cos_sq, mul_one, sin_sq_add_cos_sq]
  exact (sq_eq_sq₀ (length_nonneg _) zero_le_one).mp (square.trans (one_pow 2).symm)

/-- Two plumb lines at the same roll are as far apart as their pitches on a circle. -/
theorem length_plumb_sub_sq (pitch other roll : ℝ) :
    length (plumb pitch roll - plumb other roll) ^ 2 =
      (sin pitch - sin other) ^ 2 + (cos pitch - cos other) ^ 2 := by
  calc length (plumb pitch roll - plumb other roll) ^ 2
      = (sin pitch - sin other) ^ 2 +
          (-(cos pitch * sin roll) - -(cos other * sin roll)) ^ 2 +
          (-(cos pitch * cos roll) - -(cos other * cos roll)) ^ 2 := length_sq _
    _ = (sin pitch - sin other) ^ 2 +
          (cos pitch - cos other) ^ 2 * (sin roll ^ 2 + cos roll ^ 2) := by ring
    _ = (sin pitch - sin other) ^ 2 + (cos pitch - cos other) ^ 2 := by
        rw [sin_sq_add_cos_sq, mul_one]

/-- Pitching back from above a cap to its rim moves the plumb line by at most the distance
of the rim from the pole. -/
theorem length_plumb_cap_sub_le {cap s : ℝ} (positive : 0 ≤ cap) (above : cap ≤ s) (bound : s ≤ 1)
    (roll : ℝ) :
    length (plumb (arcsin cap) roll - plumb (arcsin s) roll) ^ 2 ≤ 2 - 2 * cap := by
  have rim : sin (arcsin cap) = cap := sin_arcsin (by linarith) (above.trans bound)
  have sine : sin (arcsin s) = s := sin_arcsin (by linarith) bound
  have rimSq : cos (arcsin cap) ^ 2 = 1 - cap ^ 2 := by
    rw [cos_sq', rim]
  have wider : cos (arcsin s) ≤ cos (arcsin cap) := by
    refine (sq_le_sq₀ (cos_arcsin_nonneg s) (cos_arcsin_nonneg cap)).mp ?_
    rw [rimSq, cos_sq', sine]
    nlinarith only [above, positive]
  have gap : (cos (arcsin cap) - cos (arcsin s)) ^ 2 ≤ 1 - cap ^ 2 := by
    rw [← rimSq]
    refine (sq_le_sq₀ (sub_nonneg.mpr wider) (cos_arcsin_nonneg cap)).mpr ?_
    linarith [cos_arcsin_nonneg s]
  have rise : (cap - s) ^ 2 ≤ (1 - cap) ^ 2 := by
    nlinarith only [above, bound]
  calc length (plumb (arcsin cap) roll - plumb (arcsin s) roll) ^ 2
      = (cap - s) ^ 2 + (cos (arcsin cap) - cos (arcsin s)) ^ 2 := by
        rw [length_plumb_sub_sq, rim, sine]
    _ ≤ (1 - cap) ^ 2 + (1 - cap ^ 2) := add_le_add rise gap
    _ = 2 - 2 * cap := by ring

/-! ## Unit vectors -/

section Unit

variable {s y x : ℝ}

theorem mem_Icc_of_unit (unit : s ^ 2 + y ^ 2 + x ^ 2 = 1) : -1 ≤ s ∧ s ≤ 1 := by
  rw [← abs_le, abs_le_one_iff_mul_self_le_one]
  nlinarith only [unit, sq_nonneg y, sq_nonneg x]

/-- A unit vector is the plumb line of its latitude and longitude; on the axis, where the
longitude is arbitrary, its weight is zero. -/
theorem plumb_arcsin_atan2 (unit : s ^ 2 + y ^ 2 + x ^ 2 = 1) :
    plumb (arcsin s) (atan2 y x) = ![s, -y, -x] := by
  obtain ⟨lower, upper⟩ := mem_Icc_of_unit unit
  have cosine : cos (arcsin s) = radius y x := by
    have square : 1 - s ^ 2 = radius y x ^ 2 := by
      rw [radius_sq]
      linarith
    rw [cos_arcsin, square, sqrt_sq (radius_nonneg y x)]
  unfold plumb
  rw [sin_arcsin lower upper, cosine, radius_mul_sin_atan2, radius_mul_cos_atan2]

end Unit

end NoetixE1.Polar
