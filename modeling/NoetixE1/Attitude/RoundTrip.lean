import NoetixE1.Attitude.Conversions
import NoetixE1.Library.QuaternionRotation

/-!
# Quaternion, Euler angles, matrix

What is lost on the way from a unit quaternion through its Euler angles to a rotation
matrix, and on the way from Euler angles through a quaternion back to Euler angles.
-/

namespace NoetixE1.Attitude

open AxisRotation Matrix Polar Quaternion Real

namespace Quat

/-- The quaternion with these coefficients. -/
def toQuaternion (q : Quat) : ℍ[ℝ] := ⟨q.w, q.x, q.y, q.z⟩

/-- The rotation that the quaternion stands for. -/
noncomputable def rotation (q : Quat) : Matrix (Fin 3) (Fin 3) ℝ := rotationOf q.toQuaternion

variable (q : Quat)

/-! ## The angles as readings of the matrix -/

theorem rotation_sinPitch : q.rotation 2 0 = -q.sinPitch := by
  change 2 * (q.x * q.z - q.w * q.y) = _
  unfold sinPitch
  ring

theorem yaw_eq : q.yaw = atan2 (q.rotation 1 0) (q.rotation 0 0) := by
  unfold yaw square
  simp only [← sq]
  rfl

theorem roll_eq : q.roll = atan2 (q.rotation 2 1) (q.rotation 2 2) := by
  unfold roll square
  simp only [← sq]
  rfl

end Quat

namespace UnitQuat

variable (q : UnitQuat)

theorem normSq_toQuaternion : normSq q.toQuaternion = 1 := by
  rw [normSq_def']
  exact q.unit

theorem rotation_mem : q.rotation ∈ specialOrthogonalGroup (Fin 3) ℝ :=
  rotationOf_mem q.normSq_toQuaternion

/-- The attitude of the exact angles is the one read off the matrix. -/
theorem attitude_angles_eq :
    attitude q.yaw (arcsin q.sinPitch) q.roll = eulerAttitude q.rotation := by
  rw [eulerAttitude, q.rotation_sinPitch, neg_neg, ← q.yaw_eq, ← q.roll_eq]

/-- At a pole the rotation keeps the lateral axis exactly if it does not roll. -/
theorem lateral_iff (pole : |q.sinPitch| = 1) : q.rotation 1 1 = 1 ↔ q.x = 0 := by
  have unit := q.unit
  have entry : q.rotation 1 1 = q.w ^ 2 - q.x ^ 2 + q.y ^ 2 - q.z ^ 2 := rfl
  have even : q.y ^ 2 = q.w ^ 2 ∧ q.z ^ 2 = q.x ^ 2 := by
    unfold Quat.sinPitch at pole
    rcases eq_or_eq_neg_of_abs_eq pole with up | down
    · have apart : (q.y - q.w) ^ 2 + (q.z + q.x) ^ 2 = 0 := by linear_combination unit - up
      obtain ⟨y, z⟩ := (add_eq_zero_iff_of_nonneg (sq_nonneg _) (sq_nonneg _)).mp apart
      rw [sub_eq_zero.mp (sq_eq_zero_iff.mp y), eq_neg_of_add_eq_zero_left (sq_eq_zero_iff.mp z),
        neg_sq]
      exact ⟨rfl, rfl⟩
    · have apart : (q.y + q.w) ^ 2 + (q.z - q.x) ^ 2 = 0 := by linear_combination unit + down
      obtain ⟨y, z⟩ := (add_eq_zero_iff_of_nonneg (sq_nonneg _) (sq_nonneg _)).mp apart
      rw [sub_eq_zero.mp (sq_eq_zero_iff.mp z), eq_neg_of_add_eq_zero_left (sq_eq_zero_iff.mp y),
        neg_sq]
      exact ⟨rfl, rfl⟩
  rw [entry, even.1, even.2, ← sq_eq_zero_iff]
  rw [even.1, even.2] at unit
  constructor
  · intro lateral
    linarith
  · intro still
    linarith

/-- The exact angles give the rotation back, but at a pole only without roll. -/
theorem attitude_angles_iff :
    attitude q.yaw (arcsin q.sinPitch) q.roll = q.rotation ↔ (|q.sinPitch| = 1 → q.x = 0) := by
  have pole : q.rotation 2 0 ^ 2 = 1 ↔ |q.sinPitch| = 1 := by
    rw [q.rotation_sinPitch, neg_sq, ← sq_abs,
      pow_eq_one_iff_of_nonneg (abs_nonneg _) two_ne_zero]
  rw [q.attitude_angles_eq, eulerAttitude_iff q.rotation_mem, pole]
  exact forall_congr' q.lateral_iff

/-- In the cap above the clamp the pitch is wrong, so the matrix is. -/
theorem attitude_clamped_ne (above : 0.99999 < q.sinPitch) :
    attitude q.yaw (arcsin (min q.sinPitch 0.99999)) q.roll ≠ q.rotation := by
  intro same
  have entry := congrFun (congrFun same 2) 0
  rw [q.rotation_sinPitch, attitude_eq, min_eq_right above.le] at entry
  change -sin (arcsin 0.99999) = -q.sinPitch at entry
  rw [sin_arcsin (by norm_num) (by norm_num), neg_inj] at entry
  exact above.ne entry

/-- The matrix that the angles of `quatToZyx` give. -/
theorem zyx_matrix_eq :
    (quatToZyx q.toQuat).map getRotationMatrixFromZyxEulerAngles =
      some (attitude q.yaw (arcsin (min q.sinPitch 0.99999)) q.roll) := by
  rw [q.quatToZyx_eq, Option.map_some, getRotationMatrix_eq_attitude]
  rfl

/-- The angles of `quatToZyx` say all about the rotation: the clamp is without effect, and
the pitch is not vertical with a roll part that the yaw would have to take up. -/
def Readable (q : Quat) : Prop := q.sinPitch ≤ 0.99999 ∧ (q.sinPitch = -1 → q.x = 0)

theorem zyx_matrix_iff :
    (quatToZyx q.toQuat).map getRotationMatrixFromZyxEulerAngles = some q.rotation ↔
      Readable q.toQuat := by
  rw [zyx_matrix_eq, Option.some_inj]
  rcases le_or_gt q.sinPitch 0.99999 with below | above
  · have extreme : |q.sinPitch| = 1 ↔ q.sinPitch = -1 := by
      have notUp : q.sinPitch ≠ 1 := by
        intro up
        rw [up] at below
        norm_num at below
      rw [abs_eq zero_le_one]
      exact or_iff_right notUp
    rw [min_eq_left below, q.attitude_angles_iff, extreme]
    exact (and_iff_right below).symm
  · exact iff_of_false (q.attitude_clamped_ne above) fun both => above.not_ge both.1

theorem xyz_matrix_iff :
    (quatToXyz q.toQuat).map (getRotationMatrixFromZyxEulerAngles ∘ backwards) =
      some q.rotation ↔ (|q.sinPitch| = 1 → q.x = 0) := by
  have matrix : (quatToXyz q.toQuat).map (getRotationMatrixFromZyxEulerAngles ∘ backwards) =
      some (attitude q.yaw (arcsin q.sinPitch) q.roll) := by
    rw [q.quatToXyz_eq, Option.map_some, Function.comp_apply, getRotationMatrix_eq_attitude]
    rfl
  rw [matrix, Option.some_inj]
  exact q.attitude_angles_iff

end UnitQuat

/--
For every unit quaternion the Euler angles of `quatToZyx` give the rotation of the quaternion
back exactly if the sine of the pitch is at most 0.99999 and, where it is -1, the quaternion
has no roll part.  Those of `quatToXyz`, which does not clamp, do so exactly unless the pitch
is vertical and the quaternion has a roll part.
-/
theorem euler_matrix_iff (q : UnitQuat) :
    ((quatToZyx q.toQuat).map getRotationMatrixFromZyxEulerAngles = some q.rotation ↔
      2 * (q.w * q.y - q.x * q.z) ≤ 0.99999 ∧ (2 * (q.w * q.y - q.x * q.z) = -1 → q.x = 0)) ∧
    ((quatToXyz q.toQuat).map (getRotationMatrixFromZyxEulerAngles ∘ backwards) =
        some q.rotation ↔
      (|2 * (q.w * q.y - q.x * q.z)| = 1 → q.x = 0)) :=
  ⟨q.zyx_matrix_iff, q.xyz_matrix_iff⟩

/-! ## Quaternions with the same angles -/

namespace Quat

/-- The quaternion of the opposite sign. -/
def opposite (q : Quat) : Quat := ⟨-q.w, -q.x, -q.y, -q.z⟩

theorem toQuaternion_inj {q r : Quat} : q.toQuaternion = r.toQuaternion ↔ q = r := by
  constructor
  · intro same
    exact Quat.ext (congrArg QuaternionAlgebra.re same) (congrArg QuaternionAlgebra.imI same)
      (congrArg QuaternionAlgebra.imJ same) (congrArg QuaternionAlgebra.imK same)
  · rintro rfl
    rfl

theorem quatToZyx_opposite (q : Quat) : quatToZyx q.opposite = quatToZyx q := by
  simp [quatToZyx, opposite, square]

end Quat

/--
Two unit quaternions whose rotations can be read back have the same angles exactly if they
are the same up to sign.
-/
theorem quatToZyx_eq_iff (q r : UnitQuat) (readable : UnitQuat.Readable q.toQuat)
    (readable' : UnitQuat.Readable r.toQuat) :
    quatToZyx q.toQuat = quatToZyx r.toQuat ↔
      q.toQuat = r.toQuat ∨ q.toQuat = r.toQuat.opposite := by
  constructor
  · intro same
    have rotations : q.rotation = r.rotation := by
      have back := q.zyx_matrix_iff.mpr readable
      rw [same, r.zyx_matrix_iff.mpr readable'] at back
      exact (Option.some.inj back).symm
    have signs := (rotationOf_eq_iff q.normSq_toQuaternion r.normSq_toQuaternion).mp rotations
    exact signs.imp Quat.toQuaternion_inj.mp fun minus => Quat.toQuaternion_inj.mp minus
  · rintro (equal | opposite)
    · rw [equal]
    · rw [opposite, Quat.quatToZyx_opposite]

/-- The attitude at rest has two quaternions. -/
theorem quatToZyx_eq_rest :
    quatToZyx (UnitQuat.toQuat ⟨⟨1, 0, 0, 0⟩, by norm_num⟩) =
      quatToZyx (UnitQuat.toQuat ⟨⟨-1, 0, 0, 0⟩, by norm_num⟩) :=
  (quatToZyx_eq_iff ⟨⟨1, 0, 0, 0⟩, by norm_num⟩ ⟨⟨-1, 0, 0, 0⟩, by norm_num⟩
    ⟨by norm_num [Quat.sinPitch], fun _ => rfl⟩ ⟨by norm_num [Quat.sinPitch], fun _ => rfl⟩).mpr
    (Or.inr (by simp [Quat.opposite]))

/-! ## From the angles to the quaternion -/

/-- The unit quaternion with these Euler angles. -/
noncomputable def ofEuler (yaw pitch roll : ℝ) : UnitQuat where
  w := (quaternionOf yaw pitch roll).re
  x := (quaternionOf yaw pitch roll).imI
  y := (quaternionOf yaw pitch roll).imJ
  z := (quaternionOf yaw pitch roll).imK
  unit := by
    rw [← normSq_def']
    exact normSq_quaternionOf yaw pitch roll

theorem ofEuler_rotation (yaw pitch roll : ℝ) :
    (ofEuler yaw pitch roll).rotation =
      getRotationMatrixFromZyxEulerAngles ![yaw, pitch, roll] := by
  rw [getRotationMatrix_eq_attitude]
  exact rotationOf_quaternionOf yaw pitch roll

/-- The angles of the matrix of a quaternion. -/
theorem UnitQuat.angles_of_rotation {q : UnitQuat} {yaw pitch roll : ℝ}
    (turn : yaw ∈ Set.Ioc (-π) π) (off : pitch ∈ Set.Ioo (-(π / 2)) (π / 2))
    (bank : roll ∈ Set.Ioc (-π) π) (same : q.rotation = attitude yaw pitch roll) :
    q.yaw = yaw ∧ arcsin q.sinPitch = pitch ∧ q.roll = roll := by
  have read := angles_of_attitude turn off bank
  rw [← same] at read
  dsimp only at read
  rw [q.rotation_sinPitch, neg_neg, ← q.yaw_eq, ← q.roll_eq] at read
  exact read

/--
Euler angles with yaw and roll in `(-π, π]` and the pitch strictly between the poles belong to
a unit quaternion, and every unit quaternion with the rotation of these angles is converted
back to them: by `quatToXyz` to these angles, by `quatToZyx` to these with the pitch limited
to `asin 0.99999`.
-/
theorem angles_round_trip {yaw pitch roll : ℝ} (turn : yaw ∈ Set.Ioc (-π) π)
    (off : pitch ∈ Set.Ioo (-(π / 2)) (π / 2)) (bank : roll ∈ Set.Ioc (-π) π) :
    (∃ q : UnitQuat, q.rotation = getRotationMatrixFromZyxEulerAngles ![yaw, pitch, roll]) ∧
      ∀ q : UnitQuat, q.rotation = getRotationMatrixFromZyxEulerAngles ![yaw, pitch, roll] →
        quatToZyx q.toQuat = some ![yaw, min pitch (arcsin 0.99999), roll] ∧
          quatToXyz q.toQuat = some ![roll, pitch, yaw] := by
  refine ⟨⟨_, ofEuler_rotation yaw pitch roll⟩, fun q same => ?_⟩
  rw [getRotationMatrix_eq_attitude] at same
  obtain ⟨yawEq, pitchEq, rollEq⟩ := UnitQuat.angles_of_rotation turn off bank same
  rw [q.quatToZyx_eq, q.quatToXyz_eq, monotone_arcsin.map_min, yawEq, pitchEq, rollEq]
  exact ⟨rfl, rfl⟩

/-- Turned a quarter to the left, level. -/
theorem angles_round_trip_quarter :
    (∃ q : UnitQuat, q.rotation = getRotationMatrixFromZyxEulerAngles ![π / 2, 0, 0]) ∧
      ∀ q : UnitQuat, q.rotation = getRotationMatrixFromZyxEulerAngles ![π / 2, 0, 0] →
        quatToZyx q.toQuat = some ![π / 2, min 0 (arcsin 0.99999), 0] ∧
          quatToXyz q.toQuat = some ![0, 0, π / 2] :=
  angles_round_trip ⟨by linarith [pi_pos], by linarith [pi_pos]⟩
    ⟨by linarith [pi_pos], by linarith [pi_pos]⟩ ⟨by linarith [pi_pos], pi_pos.le⟩

end NoetixE1.Attitude
