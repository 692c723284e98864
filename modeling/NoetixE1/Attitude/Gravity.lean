import Mathlib.Algebra.Quaternion
import NoetixE1.Attitude.RotationTools

/-!
# Projected gravity

For a unit quaternion the projected gravity is the direction of gravity rotated into the
body frame, also where the pitch is -90 degrees and yaw and roll are not determined.  Only
in the cap above the clamp of `quatToZyx` it is off by at most the radius of the cap.
-/

namespace NoetixE1.Attitude

open Polar Real

/-- A quaternion that represents an attitude. -/
structure UnitQuat extends Quat where
  unit : w ^ 2 + x ^ 2 + y ^ 2 + z ^ 2 = 1

/-- The clamp of `quatToZyx` acts at the upper end of the domain of `asin` only. -/
theorem clamp_mem_iff {s : ℝ} : -1 ≤ min s 0.99999 ∧ min s 0.99999 ≤ 1 ↔ -1 ≤ s := by
  constructor
  · intro domain
    exact domain.1.trans (min_le_left _ _)
  · intro lower
    refine ⟨le_min lower (by norm_num), (min_le_right _ _).trans ?_⟩
    norm_num

namespace Quat

variable (q : Quat)

/-- The sine of the pitch of a unit quaternion. -/
def sinPitch : ℝ := 2 * (q.w * q.y - q.x * q.z)

theorem argument_eq_sinPitch : -2 * (q.x * q.z - q.w * q.y) = q.sinPitch := by
  unfold sinPitch
  ring

/-- Gravity in the body frame. -/
def bodyGravity : Fin 3 → ℝ :=
  ![2 * (q.w * q.y - q.x * q.z), -(2 * (q.y * q.z + q.w * q.x)),
    -(q.w ^ 2 - q.x ^ 2 - q.y ^ 2 + q.z ^ 2)]

/-- It is the gravity vector conjugated by the quaternion. -/
theorem bodyGravity_eq_conjugate :
    star (⟨q.w, q.x, q.y, q.z⟩ : Quaternion ℝ) * ⟨0, 0, 0, -1⟩ * ⟨q.w, q.x, q.y, q.z⟩ =
      ⟨0, q.bodyGravity 0, q.bodyGravity 1, q.bodyGravity 2⟩ := by
  ext <;> simp [bodyGravity] <;> ring

noncomputable def yaw : ℝ :=
  atan2 (2 * (q.x * q.y + q.w * q.z)) (square q.w + square q.x - square q.y - square q.z)

noncomputable def roll : ℝ :=
  atan2 (2 * (q.y * q.z + q.w * q.x)) (square q.w - square q.x - square q.y + square q.z)

end Quat

namespace UnitQuat

variable (q : UnitQuat)

theorem unit_gravity :
    q.sinPitch ^ 2 + (2 * (q.y * q.z + q.w * q.x)) ^ 2 +
      (square q.w - square q.x - square q.y + square q.z) ^ 2 = 1 := by
  calc q.sinPitch ^ 2 + (2 * (q.y * q.z + q.w * q.x)) ^ 2 +
        (square q.w - square q.x - square q.y + square q.z) ^ 2
      = (q.w ^ 2 + q.x ^ 2 + q.y ^ 2 + q.z ^ 2) ^ 2 := by
        unfold Quat.sinPitch square
        ring
    _ = 1 := by rw [q.unit, one_pow]

theorem sinPitch_mem : -1 ≤ q.sinPitch ∧ q.sinPitch ≤ 1 := mem_Icc_of_unit q.unit_gravity

/-- Gravity in the body frame is the plumb line of the exact pitch and the roll. -/
theorem bodyGravity_eq_plumb : q.bodyGravity = plumb (arcsin q.sinPitch) q.roll := by
  rw [Quat.roll, plumb_arcsin_atan2 q.unit_gravity, Quat.bodyGravity,
    Quat.sinPitch]
  unfold square
  ring_nf

/-- On the unit sphere the clamp keeps the argument of `asin` in its domain. -/
theorem quatToZyx_eq :
    quatToZyx q.toQuat = some ![q.yaw, arcsin (min q.sinPitch 0.99999), q.roll] := by
  unfold quatToZyx
  dsimp only
  rw [q.argument_eq_sinPitch, asin, if_pos (clamp_mem_iff.mpr q.sinPitch_mem.1)]
  rfl

theorem projectedGravity_eq :
    projectedGravity q.toQuat =
      some (plumb (arcsin (min q.sinPitch 0.99999)) q.roll) := by
  rw [projectedGravity_eq_plumb, quatToZyx_eq]
  rfl

/-- Below the clamp the projected gravity is exact, and in any case it is close. -/
theorem projectedGravity_near :
    ∃ g, projectedGravity q.toQuat = some g ∧ length g = 1 ∧
      (q.sinPitch ≤ 0.99999 → g = q.bodyGravity) ∧ length (g - q.bodyGravity) ≤ 0.0045 := by
  have uncapped : q.sinPitch ≤ 0.99999 →
      plumb (arcsin (min q.sinPitch 0.99999)) q.roll = q.bodyGravity := by
    intro below
    rw [min_eq_left below, q.bodyGravity_eq_plumb]
  refine ⟨_, q.projectedGravity_eq, length_plumb _ _, uncapped, ?_⟩
  rcases le_total q.sinPitch 0.99999 with below | above
  · rw [uncapped below, sub_self]
    exact length_zero.trans_le (by norm_num)
  · have square : length (plumb (arcsin (min q.sinPitch 0.99999)) q.roll - q.bodyGravity) ^ 2 ≤
        2 - 2 * 0.99999 := by
      rw [min_eq_right above, q.bodyGravity_eq_plumb]
      exact length_plumb_cap_sub_le (by norm_num) above q.sinPitch_mem.2 q.roll
    refine (sq_le_sq₀ (length_nonneg _) (by norm_num)).mp (square.trans ?_)
    norm_num

end UnitQuat

/--
The projected gravity of every unit quaternion is a unit vector.  It is gravity in the body
frame if the sine of the pitch is at most 0.99999, and within 0.0045 of it in any case.
-/
theorem projectedGravity_true (q : UnitQuat) :
    ∃ g, projectedGravity q.toQuat = some g ∧ length g = 1 ∧
      (2 * (q.w * q.y - q.x * q.z) ≤ 0.99999 →
        g = ![2 * (q.w * q.y - q.x * q.z), -(2 * (q.y * q.z + q.w * q.x)),
          -(q.w ^ 2 - q.x ^ 2 - q.y ^ 2 + q.z ^ 2)]) ∧
      length (g - ![2 * (q.w * q.y - q.x * q.z), -(2 * (q.y * q.z + q.w * q.x)),
        -(q.w ^ 2 - q.x ^ 2 - q.y ^ 2 + q.z ^ 2)]) ≤ 0.0045 :=
  q.projectedGravity_near

end NoetixE1.Attitude
