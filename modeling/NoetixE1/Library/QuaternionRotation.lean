import Mathlib.Algebra.Quaternion
import NoetixE1.Library.EulerAngles

/-!
# Rotations by unit quaternions

The matrix by which a quaternion turns space, as conjugation does.  Products of quaternions
go to products of matrices, unit quaternions to rotations, and the two quaternions that
turn space alike differ by sign only.
-/

namespace NoetixE1.AxisRotation

open Matrix Polar Quaternion Real

/-- The matrix of the rotation by `q`. -/
def rotationOf (q : ℍ[ℝ]) : Matrix (Fin 3) (Fin 3) ℝ :=
  !![q.re ^ 2 + q.imI ^ 2 - q.imJ ^ 2 - q.imK ^ 2, 2 * (q.imI * q.imJ - q.re * q.imK),
      2 * (q.imI * q.imK + q.re * q.imJ);
    2 * (q.imI * q.imJ + q.re * q.imK), q.re ^ 2 - q.imI ^ 2 + q.imJ ^ 2 - q.imK ^ 2,
      2 * (q.imJ * q.imK - q.re * q.imI);
    2 * (q.imI * q.imK - q.re * q.imJ), 2 * (q.imJ * q.imK + q.re * q.imI),
      q.re ^ 2 - q.imI ^ 2 - q.imJ ^ 2 + q.imK ^ 2]

/-- A vector as a quaternion. -/
def vector (v : Fin 3 → ℝ) : ℍ[ℝ] := ⟨0, v 0, v 1, v 2⟩

@[simp] theorem vector_re (v : Fin 3 → ℝ) : (vector v).re = 0 := rfl

@[simp] theorem vector_imI (v : Fin 3 → ℝ) : (vector v).imI = v 0 := rfl

@[simp] theorem vector_imJ (v : Fin 3 → ℝ) : (vector v).imJ = v 1 := rfl

@[simp] theorem vector_imK (v : Fin 3 → ℝ) : (vector v).imK = v 2 := rfl

theorem vector_injective : Function.Injective vector := by
  intro v w same
  have x := congrArg QuaternionAlgebra.imI same
  have y := congrArg QuaternionAlgebra.imJ same
  have z := congrArg QuaternionAlgebra.imK same
  ext i
  fin_cases i
  · exact x
  · exact y
  · exact z

/-- The matrix turns a vector as conjugation by the quaternion does. -/
theorem vector_mulVec (q : ℍ[ℝ]) (v : Fin 3 → ℝ) :
    vector (rotationOf q *ᵥ v) = q * vector v * star q := by
  ext <;> simp [rotationOf, dotProduct, Fin.sum_univ_three] <;> ring

theorem rotationOf_mul (q r : ℍ[ℝ]) : rotationOf (q * r) = rotationOf q * rotationOf r := by
  ext i j
  fin_cases i <;> fin_cases j <;>
    simp [rotationOf, mul_apply, Fin.sum_univ_three] <;> ring

theorem rotationOf_star (q : ℍ[ℝ]) : rotationOf (star q) = (rotationOf q)ᵀ := by
  ext i j
  fin_cases i <;> fin_cases j <;> simp [rotationOf] <;> ring

@[simp] theorem rotationOf_one : rotationOf 1 = 1 := by
  ext i j
  fin_cases i <;> fin_cases j <;> simp [rotationOf]

@[simp] theorem rotationOf_neg (q : ℍ[ℝ]) : rotationOf (-q) = rotationOf q := by
  simp [rotationOf]

theorem star_mul_self_of_unit {q : ℍ[ℝ]} (unit : normSq q = 1) : star q * q = 1 := by
  rw [star_mul_self, unit, coe_one]

/-- A quaternion of norm one turns space rigidly. -/
theorem rotationOf_mem {q : ℍ[ℝ]} (unit : normSq q = 1) :
    rotationOf q ∈ specialOrthogonalGroup (Fin 3) ℝ := by
  rw [mem_specialOrthogonalGroup_iff, mem_orthogonalGroup_iff']
  constructor
  · change (rotationOf q)ᵀ * rotationOf q = 1
    rw [← rotationOf_star, ← rotationOf_mul, star_mul_self_of_unit unit, rotationOf_one]
  · have cube : normSq q ^ 3 = 1 := by rw [unit, one_pow]
    rw [normSq_def'] at cube
    rw [det_fin_three]
    simp only [rotationOf, of_apply, cons_val]
    linear_combination cube

/-! ## The two quaternions of a rotation -/

theorem eq_one_or_neg_one_of_rotationOf {q : ℍ[ℝ]} (unit : normSq q = 1)
    (still : rotationOf q = 1) : q = 1 ∨ q = -1 := by
  have trace := congrArg Matrix.trace still
  have norm := unit
  rw [normSq_def'] at norm
  simp only [trace_fin_three, rotationOf, of_apply, cons_val, one_apply_eq] at trace
  have real : q.re ^ 2 = 1 := by linarith
  have x := sq_eq_zero_iff.mp (le_antisymm
    (by linarith [sq_nonneg q.imJ, sq_nonneg q.imK] : q.imI ^ 2 ≤ 0) (sq_nonneg _))
  have y := sq_eq_zero_iff.mp (le_antisymm
    (by linarith [sq_nonneg q.imI, sq_nonneg q.imK] : q.imJ ^ 2 ≤ 0) (sq_nonneg _))
  have z := sq_eq_zero_iff.mp (le_antisymm
    (by linarith [sq_nonneg q.imI, sq_nonneg q.imJ] : q.imK ^ 2 ≤ 0) (sq_nonneg _))
  rcases mul_self_eq_one_iff.mp ((sq _).symm.trans real) with pos | neg
  · left
    ext <;> simp [pos, x, y, z]
  · right
    ext <;> simp [neg, x, y, z]

/-- Unit quaternions turn space alike exactly if they agree up to sign. -/
theorem rotationOf_eq_iff {q r : ℍ[ℝ]} (unit : normSq q = 1) (unit' : normSq r = 1) :
    rotationOf q = rotationOf r ↔ q = r ∨ q = -r := by
  constructor
  · intro same
    have still : rotationOf (star r * q) = 1 := by
      rw [rotationOf_mul, same, ← rotationOf_mul, star_mul_self_of_unit unit', rotationOf_one]
    have norm : normSq (star r * q) = 1 := by
      rw [map_mul, normSq_star, unit, unit', one_mul]
    have back : r * (star r * q) = q := by
      rw [← mul_assoc, self_mul_star, unit', coe_one, one_mul]
    rcases eq_one_or_neg_one_of_rotationOf norm still with one | minus
    · left
      rw [← back, one, mul_one]
    · right
      rw [← back, minus]
      exact mul_neg_one r
  · rintro (rfl | rfl)
    · rfl
    · exact rotationOf_neg r

/-! ## Every attitude has a quaternion -/

/-- The quaternion of a rotation about the vertical axis. -/
noncomputable def quaternionZ (angle : ℝ) : ℍ[ℝ] := ⟨cos (angle / 2), 0, 0, sin (angle / 2)⟩

noncomputable def quaternionY (angle : ℝ) : ℍ[ℝ] := ⟨cos (angle / 2), 0, sin (angle / 2), 0⟩

noncomputable def quaternionX (angle : ℝ) : ℍ[ℝ] := ⟨cos (angle / 2), sin (angle / 2), 0, 0⟩

theorem half_angle (angle : ℝ) :
    cos angle = cos (angle / 2) ^ 2 - sin (angle / 2) ^ 2 ∧
      sin angle = 2 * (cos (angle / 2) * sin (angle / 2)) ∧
      cos (angle / 2) ^ 2 + sin (angle / 2) ^ 2 = 1 := by
  have double : angle = 2 * (angle / 2) := by ring
  refine ⟨?_, ?_, cos_sq_add_sin_sq _⟩
  · nth_rewrite 1 [double]
    exact cos_two_mul' _
  · nth_rewrite 1 [double]
    rw [sin_two_mul]
    ring

theorem rotationOf_quaternionZ (angle : ℝ) : rotationOf (quaternionZ angle) = rotZ angle := by
  obtain ⟨cosine, sine, unit⟩ := half_angle angle
  unfold rotZ
  rw [cosine, sine]
  ext i j
  fin_cases i <;> fin_cases j <;> simp [rotationOf, quaternionZ, unit]

theorem rotationOf_quaternionY (angle : ℝ) : rotationOf (quaternionY angle) = rotY angle := by
  obtain ⟨cosine, sine, unit⟩ := half_angle angle
  unfold rotY
  rw [cosine, sine]
  ext i j
  fin_cases i <;> fin_cases j <;> simp [rotationOf, quaternionY, unit]

theorem rotationOf_quaternionX (angle : ℝ) : rotationOf (quaternionX angle) = rotX angle := by
  obtain ⟨cosine, sine, unit⟩ := half_angle angle
  unfold rotX
  rw [cosine, sine]
  ext i j
  fin_cases i <;> fin_cases j <;> simp [rotationOf, quaternionX, unit]

theorem normSq_quaternionZ (angle : ℝ) : normSq (quaternionZ angle) = 1 := by
  rw [normSq_def']
  simp [quaternionZ]

/-- Yaw, then pitch, then roll. -/
noncomputable def quaternionOf (yaw pitch roll : ℝ) : ℍ[ℝ] :=
  quaternionZ yaw * quaternionY pitch * quaternionX roll

theorem rotationOf_quaternionOf (yaw pitch roll : ℝ) :
    rotationOf (quaternionOf yaw pitch roll) = attitude yaw pitch roll := by
  rw [quaternionOf, rotationOf_mul, rotationOf_mul, rotationOf_quaternionZ,
    rotationOf_quaternionY, rotationOf_quaternionX, attitude]

theorem normSq_quaternionOf (yaw pitch roll : ℝ) : normSq (quaternionOf yaw pitch roll) = 1 := by
  have y : normSq (quaternionY pitch) = 1 := by
    rw [normSq_def']
    simp [quaternionY]
  have x : normSq (quaternionX roll) = 1 := by
    rw [normSq_def']
    simp [quaternionX]
  rw [quaternionOf, map_mul, map_mul, normSq_quaternionZ, y, x, one_mul, one_mul]

/-! ## Turns about the vertical -/

/-- A unit quaternion that keeps the vertical direction turns about it. -/
theorem exists_quaternionZ {p : ℍ[ℝ]} (unit : normSq p = 1)
    (upright : rotationOf p 2 2 = 1) : ∃ angle, p = quaternionZ angle := by
  rw [normSq_def'] at unit
  change p.re ^ 2 - p.imI ^ 2 - p.imJ ^ 2 + p.imK ^ 2 = 1 at upright
  have x : p.imI = 0 := sq_eq_zero_iff.mp
    (le_antisymm (by linarith [sq_nonneg p.imJ]) (sq_nonneg p.imI))
  have y : p.imJ = 0 := sq_eq_zero_iff.mp
    (le_antisymm (by linarith [sq_nonneg p.imI]) (sq_nonneg p.imJ))
  have squared : radius p.imK p.re ^ 2 = 1 ^ 2 := by
    rw [radius_sq, one_pow]
    rw [x, y] at unit
    linarith
  have length : radius p.imK p.re = 1 :=
    (sq_eq_sq₀ (radius_nonneg _ _) zero_le_one).mp squared
  have cosine := radius_mul_cos_atan2 p.imK p.re
  have sine := radius_mul_sin_atan2 p.imK p.re
  rw [length, one_mul] at cosine sine
  refine ⟨2 * atan2 p.imK p.re, ?_⟩
  have half : 2 * atan2 p.imK p.re / 2 = atan2 p.imK p.re := by ring
  ext <;> simp [quaternionZ, half, cosine, sine, x, y]

/-- Two unit quaternions see the vertical alike exactly if they differ by a turn about it. -/
theorem down_eq_iff {q r : ℍ[ℝ]} (unit : normSq q = 1) (unit' : normSq r = 1) :
    (rotationOf q)ᵀ *ᵥ ![0, 0, -1] = (rotationOf r)ᵀ *ᵥ ![0, 0, -1] ↔
      ∃ angle, r = quaternionZ angle * q := by
  constructor
  · intro same
    have back : r * star q * q = r := by rw [mul_assoc, star_mul_self_of_unit unit, mul_one]
    have norm : normSq (r * star q) = 1 := by rw [map_mul, normSq_star, unit, unit', one_mul]
    have turned : (rotationOf (r * star q))ᵀ *ᵥ ![0, 0, -1] = ![0, 0, -1] := by
      have rigid : rotationOf q * (rotationOf q)ᵀ = 1 :=
        (mem_orthogonalGroup_iff _ _).mp (rotationOf_mem unit).1
      rw [rotationOf_mul, rotationOf_star, transpose_mul, transpose_transpose, ← mulVec_mulVec,
        ← same, mulVec_mulVec, rigid, one_mulVec]
    have upright : rotationOf (r * star q) 2 2 = 1 := by
      have entry := congrFun turned 2
      simpa [mulVec, dotProduct, Fin.sum_univ_three] using entry
    obtain ⟨angle, turn⟩ := exists_quaternionZ norm upright
    exact ⟨angle, by rw [← turn, back]⟩
  · rintro ⟨angle, rfl⟩
    rw [rotationOf_mul, rotationOf_quaternionZ, transpose_mul, ← mulVec_mulVec,
      rotZ_transpose_mulVec_down]

end NoetixE1.AxisRotation
