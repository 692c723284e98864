import NoetixE1.Library.AxisRotation

/-!
# Attitude conversions

The functions of `RotationTools.h` over exact reals, and the projected gravity that
`updateStateEstimation` computes with them.  A function has no value where it would call
`asin` outside its domain: the pitch is then not a number, and with it every entry of the
rotation matrix.
-/

namespace NoetixE1.Attitude

open AxisRotation Matrix Polar

/-! ## Library functions -/

/-- `std::asin`. -/
noncomputable def asin (a : ℝ) : Option ℝ :=
  if -1 ≤ a ∧ a ≤ 1 then some (Real.arcsin a) else none

/-- `std::copysign`. -/
noncomputable def copysign (magnitude sign : ℝ) : ℝ := if sign < 0 then -|magnitude| else |magnitude|

/-- `quaternion_t`, an `Eigen::Quaternion`. -/
@[ext]
structure Quat where
  w : ℝ
  x : ℝ
  y : ℝ
  z : ℝ

/-- The coefficients are stored with `w` last, in the order of `ori`. -/
def Quat.ofCoeffs (ori : Fin 4 → ℝ) : Quat :=
  { x := ori 0, y := ori 1, z := ori 2, w := ori 3 }

/-! ## RotationTools.h -/

noncomputable def getRotationMatrixFromZyxEulerAngles (eulerAngles : Fin 3 → ℝ) :
    Matrix (Fin 3) (Fin 3) ℝ :=
  let z := eulerAngles 0
  let y := eulerAngles 1
  let x := eulerAngles 2
  let c1 := Real.cos z
  let c2 := Real.cos y
  let c3 := Real.cos x
  let s1 := Real.sin z
  let s2 := Real.sin y
  let s3 := Real.sin x
  let s2s3 := s2 * s3
  let s2c3 := s2 * c3
  !![c1 * c2, c1 * s2s3 - s1 * c3, c1 * s2c3 + s1 * s3;
     s1 * c2, s1 * s2s3 + c1 * c3, s1 * s2c3 - c1 * s3;
     -s2, c2 * s3, c2 * c3]

def square (a : ℝ) : ℝ := a * a

noncomputable def quatToZyx (q : Quat) : Option (Fin 3 → ℝ) :=
  let as := min (-2 * (q.x * q.z - q.w * q.y)) 0.99999
  (asin as).map fun pitch =>
    ![atan2 (2 * (q.x * q.y + q.w * q.z)) (square q.w + square q.x - square q.y - square q.z),
      pitch,
      atan2 (2 * (q.y * q.z + q.w * q.x)) (square q.w - square q.x - square q.y + square q.z)]

noncomputable def quatToXyz (q : Quat) : Option (Fin 3 → ℝ) :=
  let sinr_cosp := 2 * (q.w * q.x + q.y * q.z)
  let cosr_cosp := 1 - 2 * (q.x * q.x + q.y * q.y)
  let sinp := 2 * (q.w * q.y - q.z * q.x)
  let siny_cosp := 2 * (q.w * q.z + q.x * q.y)
  let cosy_cosp := 1 - 2 * (q.y * q.y + q.z * q.z)
  (if |sinp| ≥ 1 then some (copysign (Real.pi / 2) sinp) else asin sinp).map fun pitch =>
    ![atan2 sinr_cosp cosr_cosp, pitch, atan2 siny_cosp cosy_cosp]

/-! ## updateStateEstimation -/

/-- `propri_.projectedGravity`. -/
noncomputable def projectedGravity (quat : Quat) : Option (Fin 3 → ℝ) :=
  (quatToZyx quat).map fun zyx => (getRotationMatrixFromZyxEulerAngles zyx)⁻¹ *ᵥ ![0, 0, -1]

/-! ## The Euler matrix -/

/-- The entries written out are those of the product of the three axis rotations. -/
theorem getRotationMatrix_eq_attitude (eulerAngles : Fin 3 → ℝ) :
    getRotationMatrixFromZyxEulerAngles eulerAngles =
      attitude (eulerAngles 0) (eulerAngles 1) (eulerAngles 2) := by
  ext i j
  fin_cases i <;> fin_cases j <;>
    simp [getRotationMatrixFromZyxEulerAngles, attitude, rotX, rotY, rotZ, mul_apply,
      Fin.sum_univ_three] <;> ring

/--
For all angles the Euler matrix is the product of the rotations about the axes.  It is
orthogonal with determinant one, so the inverse exists and is the transpose.
-/
theorem getRotationMatrix_rotation (eulerAngles : Fin 3 → ℝ) :
    getRotationMatrixFromZyxEulerAngles eulerAngles =
        rotZ (eulerAngles 0) * rotY (eulerAngles 1) * rotX (eulerAngles 2) ∧
      (getRotationMatrixFromZyxEulerAngles eulerAngles)ᵀ *
        getRotationMatrixFromZyxEulerAngles eulerAngles = 1 ∧
      (getRotationMatrixFromZyxEulerAngles eulerAngles).det = 1 ∧
      IsUnit (getRotationMatrixFromZyxEulerAngles eulerAngles) ∧
      (getRotationMatrixFromZyxEulerAngles eulerAngles)⁻¹ =
        (getRotationMatrixFromZyxEulerAngles eulerAngles)ᵀ := by
  rw [getRotationMatrix_eq_attitude]
  refine ⟨rfl, ?_, ?_, ?_, ?_⟩
  · exact attitude_transpose_mul _ _ _
  · exact attitude_det _ _ _
  · exact attitude_isUnit _ _ _
  · exact attitude_inv _ _ _

theorem projectedGravity_eq_plumb (quat : Quat) :
    projectedGravity quat = (quatToZyx quat).map fun zyx => plumb (zyx 1) (zyx 2) := by
  unfold projectedGravity
  congr 1
  funext zyx
  rw [getRotationMatrix_eq_attitude, attitude_inv_mulVec_down]

end NoetixE1.Attitude
