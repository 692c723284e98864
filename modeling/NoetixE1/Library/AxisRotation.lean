import Mathlib.LinearAlgebra.UnitaryGroup
import NoetixE1.Library.Polar

/-!
# Rotations about the axes

The rotations of space about its three axes and the attitude they build up: yaw, then
pitch, then roll.
-/

namespace NoetixE1.AxisRotation

open Matrix Polar Real

noncomputable def rotX (angle : ℝ) : Matrix (Fin 3) (Fin 3) ℝ :=
  !![1, 0, 0;
     0, cos angle, -sin angle;
     0, sin angle, cos angle]

noncomputable def rotY (angle : ℝ) : Matrix (Fin 3) (Fin 3) ℝ :=
  !![cos angle, 0, sin angle;
     0, 1, 0;
     -sin angle, 0, cos angle]

noncomputable def rotZ (angle : ℝ) : Matrix (Fin 3) (Fin 3) ℝ :=
  !![cos angle, -sin angle, 0;
     sin angle, cos angle, 0;
     0, 0, 1]

section Axes

variable (angle : ℝ)

theorem rotX_mem : rotX angle ∈ specialOrthogonalGroup (Fin 3) ℝ := by
  rw [mem_specialOrthogonalGroup_iff, mem_orthogonalGroup_iff']
  constructor
  · ext i j
    have unit := cos_sq_add_sin_sq angle
    fin_cases i <;> fin_cases j <;>
      simp [rotX, mul_apply, Fin.sum_univ_three] <;> linarith
  · simp [rotX, det_fin_three, ← sq]

theorem rotY_mem : rotY angle ∈ specialOrthogonalGroup (Fin 3) ℝ := by
  rw [mem_specialOrthogonalGroup_iff, mem_orthogonalGroup_iff']
  constructor
  · ext i j
    have unit := cos_sq_add_sin_sq angle
    fin_cases i <;> fin_cases j <;>
      simp [rotY, mul_apply, Fin.sum_univ_three] <;> linarith
  · simp [rotY, det_fin_three, ← sq]

theorem rotZ_mem : rotZ angle ∈ specialOrthogonalGroup (Fin 3) ℝ := by
  rw [mem_specialOrthogonalGroup_iff, mem_orthogonalGroup_iff']
  constructor
  · ext i j
    have unit := cos_sq_add_sin_sq angle
    fin_cases i <;> fin_cases j <;>
      simp [rotZ, mul_apply, Fin.sum_univ_three] <;> linarith
  · simp [rotZ, det_fin_three, ← sq]

end Axes

/-- The attitude with the given yaw, pitch and roll. -/
noncomputable def attitude (yaw pitch roll : ℝ) : Matrix (Fin 3) (Fin 3) ℝ :=
  rotZ yaw * rotY pitch * rotX roll

theorem attitude_mem (yaw pitch roll : ℝ) :
    attitude yaw pitch roll ∈ specialOrthogonalGroup (Fin 3) ℝ :=
  mul_mem (mul_mem (rotZ_mem yaw) (rotY_mem pitch)) (rotX_mem roll)

theorem attitude_transpose_mul (yaw pitch roll : ℝ) :
    (attitude yaw pitch roll)ᵀ * attitude yaw pitch roll = 1 :=
  (mem_orthogonalGroup_iff' _ _).mp (attitude_mem yaw pitch roll).1

theorem attitude_det (yaw pitch roll : ℝ) : (attitude yaw pitch roll).det = 1 :=
  (attitude_mem yaw pitch roll).2

theorem attitude_isUnit (yaw pitch roll : ℝ) : IsUnit (attitude yaw pitch roll) := by
  rw [isUnit_iff_isUnit_det, attitude_det]
  exact isUnit_one

/-- An attitude is undone by its transpose. -/
theorem attitude_inv (yaw pitch roll : ℝ) :
    (attitude yaw pitch roll)⁻¹ = (attitude yaw pitch roll)ᵀ :=
  inv_eq_left_inv (attitude_transpose_mul yaw pitch roll)

/-- Turning about the vertical does not move the plumb line. -/
theorem rotZ_transpose_mulVec_down (angle : ℝ) : (rotZ angle)ᵀ *ᵥ ![0, 0, -1] = ![0, 0, -1] := by
  ext i
  fin_cases i <;> simp [rotZ, mulVec, dotProduct, Fin.sum_univ_three]

/-- The downward direction in the coordinates of a body with this attitude. -/
theorem attitude_inv_mulVec_down (yaw pitch roll : ℝ) :
    (attitude yaw pitch roll)⁻¹ *ᵥ ![0, 0, -1] = plumb pitch roll := by
  rw [attitude_inv, attitude, transpose_mul, transpose_mul, ← mulVec_mulVec, ← mulVec_mulVec, rotZ_transpose_mulVec_down]
  ext i
  fin_cases i <;> simp [rotX, rotY, plumb, mulVec, dotProduct, Fin.sum_univ_three, mul_comm]

end NoetixE1.AxisRotation
