import Mathlib.LinearAlgebra.Matrix.Adjugate
import NoetixE1.Library.AxisRotation

/-!
# The Euler angles of a rotation

Yaw, pitch and roll read off the first column and the last row of a rotation matrix.  They
give the rotation back except at the poles, where both readings of the horizontal plane
vanish; away from the poles no other angles in range do.
-/

namespace NoetixE1.AxisRotation

open Matrix Polar Real

/-- The polar angle of a vector given by its length and its angle. -/
theorem atan2_mul {r angle : ℝ} (positive : 0 < r) (range : angle ∈ Set.Ioc (-π) π) :
    atan2 (r * sin angle) (r * cos angle) = angle := by
  have same : (⟨r * cos angle, r * sin angle⟩ : ℂ) =
      r * (Complex.cos angle + Complex.sin angle * Complex.I) := by
    apply Complex.ext
    · simp [Complex.cos_ofReal_re]
    · simp [Complex.sin_ofReal_re]
  rw [atan2, same, Complex.arg_mul_cos_add_sin_mul_I positive range]

/-- Off the vertical a plumb line tells the roll. -/
theorem roll_of_plumb {pitch roll : ℝ} (off : 0 < cos pitch) (range : roll ∈ Set.Ioc (-π) π) :
    atan2 (-plumb pitch roll 1) (-plumb pitch roll 2) = roll := by
  have lateral : -plumb pitch roll 1 = cos pitch * sin roll := neg_neg _
  have vertical : -plumb pitch roll 2 = cos pitch * cos roll := neg_neg _
  rw [lateral, vertical]
  exact atan2_mul off range

/-- The attitude, entry by entry. -/
theorem attitude_eq (yaw pitch roll : ℝ) :
    attitude yaw pitch roll =
      !![cos yaw * cos pitch, cos yaw * sin pitch * sin roll - sin yaw * cos roll,
          cos yaw * sin pitch * cos roll + sin yaw * sin roll;
        sin yaw * cos pitch, sin yaw * sin pitch * sin roll + cos yaw * cos roll,
          sin yaw * sin pitch * cos roll - cos yaw * sin roll;
        -sin pitch, cos pitch * sin roll, cos pitch * cos roll] := by
  ext i j
  fin_cases i <;> fin_cases j <;>
    simp [attitude, rotX, rotY, rotZ, mul_apply, Fin.sum_univ_three] <;> ring

/-! ## The entries of a rotation -/

section Entries

variable {M : Matrix (Fin 3) (Fin 3) ℝ}

/-- Every entry of a rotation is its own cofactor. -/
theorem adjugate_of_rotation (rotation : M ∈ specialOrthogonalGroup (Fin 3) ℝ) :
    M.adjugate = Mᵀ := by
  have left : M * Mᵀ = 1 := (mem_orthogonalGroup_iff _ _).mp rotation.1
  have det : M.det = 1 := rotation.2
  calc M.adjugate = M.adjugate * (M * Mᵀ) := by rw [left, mul_one]
    _ = Mᵀ := by rw [← mul_assoc, adjugate_mul, det, one_smul, one_mul]

/-- The first column and the last row are unit vectors. -/
theorem unit_of_rotation (rotation : M ∈ specialOrthogonalGroup (Fin 3) ℝ) :
    M 0 0 ^ 2 + M 1 0 ^ 2 = 1 - M 2 0 ^ 2 ∧ M 2 1 ^ 2 + M 2 2 ^ 2 = 1 - M 2 0 ^ 2 := by
  have columns := (mem_orthogonalGroup_iff' _ _).mp rotation.1
  have rows := (mem_orthogonalGroup_iff _ _).mp rotation.1
  have column := congrFun (congrFun columns 0) 0
  have row := congrFun (congrFun rows 2) 2
  simp only [mul_apply, transpose_apply, Fin.sum_univ_three, one_apply_eq] at column row
  constructor
  · linarith
  · linarith

/-- The remaining entries, weighed with the horizontal part of the first column. -/
theorem entries_of_rotation (rotation : M ∈ specialOrthogonalGroup (Fin 3) ℝ) :
    M 0 1 * (1 - M 2 0 ^ 2) = M 0 0 * -M 2 0 * M 2 1 - M 1 0 * M 2 2 ∧
      M 0 2 * (1 - M 2 0 ^ 2) = M 0 0 * -M 2 0 * M 2 2 + M 1 0 * M 2 1 ∧
      M 1 1 * (1 - M 2 0 ^ 2) = M 1 0 * -M 2 0 * M 2 1 + M 0 0 * M 2 2 ∧
      M 1 2 * (1 - M 2 0 ^ 2) = M 1 0 * -M 2 0 * M 2 2 - M 0 0 * M 2 1 := by
  have cofactor (i j : Fin 3) := congrFun (congrFun (adjugate_of_rotation rotation) i) j
  have c01 := cofactor 1 0
  have c02 := cofactor 2 0
  have c11 := cofactor 1 1
  have c12 := cofactor 2 1
  simp only [adjugate_fin_three, of_apply, cons_val, transpose_apply] at c01 c02 c11 c12
  refine ⟨?_, ?_, ?_, ?_⟩
  · linear_combination -c01 - M 2 0 * c12
  · linear_combination -c02 + M 2 0 * c11
  · linear_combination -c11 + M 2 0 * c02
  · linear_combination -c12 - M 2 0 * c01

/-! ## Reading the angles off -/

/-- The attitude with the angles read off the first column and the last row. -/
noncomputable def eulerAttitude (M : Matrix (Fin 3) (Fin 3) ℝ) : Matrix (Fin 3) (Fin 3) ℝ :=
  attitude (atan2 (M 1 0) (M 0 0)) (arcsin (-M 2 0)) (atan2 (M 2 1) (M 2 2))

/-- The cosine of the pitch is the length of both readings of the horizontal plane. -/
theorem cos_pitch_of_rotation (rotation : M ∈ specialOrthogonalGroup (Fin 3) ℝ) :
    cos (arcsin (-M 2 0)) = radius (M 1 0) (M 0 0) ∧
      cos (arcsin (-M 2 0)) = radius (M 2 1) (M 2 2) := by
  obtain ⟨column, row⟩ := unit_of_rotation rotation
  rw [cos_arcsin, neg_sq]
  constructor
  · rw [← column, add_comm, ← radius_sq, sqrt_sq (radius_nonneg _ _)]
  · rw [← row, ← radius_sq, sqrt_sq (radius_nonneg _ _)]

theorem sin_pitch_of_rotation (rotation : M ∈ specialOrthogonalGroup (Fin 3) ℝ) :
    sin (arcsin (-M 2 0)) = -M 2 0 := by
  obtain ⟨column, _⟩ := unit_of_rotation rotation
  have bound : M 2 0 ^ 2 ≤ 1 := by linarith [sq_nonneg (M 0 0), sq_nonneg (M 1 0)]
  obtain ⟨lower, upper⟩ := abs_le.mp ((sq_le_one_iff_abs_le_one _).mp bound)
  exact sin_arcsin (by linarith) (by linarith)

/-- Away from the poles the angles give the rotation back. -/
theorem eulerAttitude_of_lt (rotation : M ∈ specialOrthogonalGroup (Fin 3) ℝ)
    (away : M 2 0 ^ 2 < 1) : eulerAttitude M = M := by
  obtain ⟨column, row⟩ := cos_pitch_of_rotation rotation
  obtain ⟨e01, e02, e11, e12⟩ := entries_of_rotation rotation
  have weight : (1 : ℝ) - M 2 0 ^ 2 ≠ 0 := by linarith
  have c := cos_sq' (arcsin (-M 2 0))
  rw [sin_pitch_of_rotation rotation, neg_sq] at c
  have yawCos : cos (arcsin (-M 2 0)) * cos (atan2 (M 1 0) (M 0 0)) = M 0 0 := by
    rw [column]
    exact radius_mul_cos_atan2 _ _
  have yawSin : cos (arcsin (-M 2 0)) * sin (atan2 (M 1 0) (M 0 0)) = M 1 0 := by
    rw [column]
    exact radius_mul_sin_atan2 _ _
  have rollCos : cos (arcsin (-M 2 0)) * cos (atan2 (M 2 1) (M 2 2)) = M 2 2 := by
    rw [row]
    exact radius_mul_cos_atan2 _ _
  have rollSin : cos (arcsin (-M 2 0)) * sin (atan2 (M 2 1) (M 2 2)) = M 2 1 := by
    rw [row]
    exact radius_mul_sin_atan2 _ _
  rw [eulerAttitude, attitude_eq, sin_pitch_of_rotation rotation]
  generalize atan2 (M 1 0) (M 0 0) = yaw at yawCos yawSin ⊢
  generalize atan2 (M 2 1) (M 2 2) = roll at rollCos rollSin ⊢
  generalize cos (arcsin (-M 2 0)) = flat at yawCos yawSin rollCos rollSin c ⊢
  rw [← yawCos, ← yawSin, ← rollCos, ← rollSin, ← c] at e01 e02 e11 e12
  rw [← c] at weight
  have entry01 : cos yaw * -M 2 0 * sin roll - sin yaw * cos roll = M 0 1 :=
    mul_right_cancel₀ weight (by rw [e01]; ring)
  have entry02 : cos yaw * -M 2 0 * cos roll + sin yaw * sin roll = M 0 2 :=
    mul_right_cancel₀ weight (by rw [e02]; ring)
  have entry11 : sin yaw * -M 2 0 * sin roll + cos yaw * cos roll = M 1 1 :=
    mul_right_cancel₀ weight (by rw [e11]; ring)
  have entry12 : sin yaw * -M 2 0 * cos roll - cos yaw * sin roll = M 1 2 :=
    mul_right_cancel₀ weight (by rw [e12]; ring)
  rw [entry01, entry02, entry11, entry12, neg_neg, mul_comm (cos yaw), mul_comm (sin yaw),
    yawCos, yawSin, rollCos, rollSin]
  exact (eta_fin_three M).symm

/-- At a pole the horizontal readings vanish. -/
theorem level_of_pole (rotation : M ∈ specialOrthogonalGroup (Fin 3) ℝ) (pole : M 2 0 ^ 2 = 1) :
    M 0 0 = 0 ∧ M 1 0 = 0 ∧ M 2 1 = 0 ∧ M 2 2 = 0 := by
  obtain ⟨column, row⟩ := unit_of_rotation rotation
  rw [pole, sub_self] at column row
  obtain ⟨c0, c1⟩ := (add_eq_zero_iff_of_nonneg (sq_nonneg _) (sq_nonneg _)).mp column
  obtain ⟨r1, r2⟩ := (add_eq_zero_iff_of_nonneg (sq_nonneg _) (sq_nonneg _)).mp row
  exact ⟨sq_eq_zero_iff.mp c0, sq_eq_zero_iff.mp c1, sq_eq_zero_iff.mp r1, sq_eq_zero_iff.mp r2⟩

/-- A rotation that keeps the lateral axis is determined by its last row. -/
theorem entries_of_lateral (rotation : M ∈ specialOrthogonalGroup (Fin 3) ℝ)
    (lateral : M 1 1 = 1) : M 0 1 = 0 ∧ M 1 2 = 0 := by
  have columns := (mem_orthogonalGroup_iff' _ _).mp rotation.1
  have rows := (mem_orthogonalGroup_iff _ _).mp rotation.1
  have column := congrFun (congrFun columns 1) 1
  have row := congrFun (congrFun rows 1) 1
  simp only [mul_apply, transpose_apply, Fin.sum_univ_three, one_apply_eq, lateral] at column row
  constructor
  · refine sq_eq_zero_iff.mp (le_antisymm ?_ (sq_nonneg _))
    linarith [sq_nonneg (M 2 1)]
  · refine sq_eq_zero_iff.mp (le_antisymm ?_ (sq_nonneg _))
    linarith [sq_nonneg (M 1 0)]

/-- At a pole both horizontal angles are read as zero, which is right if the rotation keeps
the lateral axis. -/
theorem eulerAttitude_of_eq (rotation : M ∈ specialOrthogonalGroup (Fin 3) ℝ)
    (pole : M 2 0 ^ 2 = 1) : eulerAttitude M = M ↔ M 1 1 = 1 := by
  obtain ⟨m00, m10, m21, m22⟩ := level_of_pole rotation pole
  have flat : cos (arcsin (-M 2 0)) = 0 := by
    rw [cos_arcsin, neg_sq, pole, sub_self, sqrt_zero]
  have zero : atan2 0 0 = 0 := Complex.arg_zero
  have read : eulerAttitude M = !![0, 0, -M 2 0; 0, 1, 0; M 2 0, 0, 0] := by
    rw [eulerAttitude, attitude_eq, sin_pitch_of_rotation rotation, flat, m00, m10, m21, m22, zero]
    simp
  rw [read]
  constructor
  · intro same
    exact (congrFun (congrFun same 1) 1).symm
  · intro lateral
    obtain ⟨m01, m12⟩ := entries_of_lateral rotation lateral
    have cofactor := congrFun (congrFun (adjugate_of_rotation rotation) 2) 0
    simp only [adjugate_fin_three, of_apply, cons_val, transpose_apply, m10, lateral] at cofactor
    rw [eta_fin_three M, m00, m10, m21, m22, m01, m12, lateral, ← cofactor]
    simp

/-- The angles give a rotation back exactly away from the poles, and at a pole if the
rotation keeps the lateral axis. -/
theorem eulerAttitude_iff (rotation : M ∈ specialOrthogonalGroup (Fin 3) ℝ) :
    eulerAttitude M = M ↔ (M 2 0 ^ 2 = 1 → M 1 1 = 1) := by
  obtain ⟨column, _⟩ := unit_of_rotation rotation
  have bound : M 2 0 ^ 2 ≤ 1 := by linarith [sq_nonneg (M 0 0), sq_nonneg (M 1 0)]
  rcases bound.lt_or_eq with away | pole
  · exact iff_of_true (eulerAttitude_of_lt rotation away) fun pole => absurd pole away.ne
  · rw [eulerAttitude_of_eq rotation pole]
    exact ⟨fun lateral _ => lateral, fun lateral => lateral pole⟩

end Entries

/-- Angles in range with the pitch off the poles are read back unchanged. -/
theorem angles_of_attitude {yaw pitch roll : ℝ} (turn : yaw ∈ Set.Ioc (-π) π)
    (off : pitch ∈ Set.Ioo (-(π / 2)) (π / 2)) (bank : roll ∈ Set.Ioc (-π) π) :
    let M := attitude yaw pitch roll
    atan2 (M 1 0) (M 0 0) = yaw ∧ arcsin (-M 2 0) = pitch ∧ atan2 (M 2 1) (M 2 2) = roll := by
  intro M
  have entries : M = _ := attitude_eq yaw pitch roll
  have flat : 0 < cos pitch := cos_pos_of_mem_Ioo off
  rw [entries]
  simp only [of_apply, cons_val, neg_neg]
  refine ⟨?_, arcsin_sin off.1.le off.2.le, atan2_mul flat bank⟩
  rw [mul_comm (sin yaw), mul_comm (cos yaw)]
  exact atan2_mul flat turn

end NoetixE1.AxisRotation
