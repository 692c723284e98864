import NoetixE1.Attitude.Gravity

/-!
# The two conversions to Euler angles

On the unit sphere the two functions compute the same roll and the same yaw.  The pitches
differ only in the cap above the clamp of `quatToZyx`; at -90 degrees there is no clamp.
-/

namespace NoetixE1.Attitude

open Polar Real

/-- The order of the angles reversed. -/
def backwards (angles : Fin 3 → ℝ) : Fin 3 → ℝ := ![angles 2, angles 1, angles 0]

/-- The `copysign` branch of `quatToXyz` gives what `asin` would. -/
theorem pitch_branches {sinp : ℝ} (lower : -1 ≤ sinp) (upper : sinp ≤ 1) :
    (if |sinp| ≥ 1 then some (copysign (π / 2) sinp) else asin sinp) = some (arcsin sinp) := by
  split_ifs with extreme
  · congr 1
    have quarter : |π / 2| = π / 2 := abs_of_pos pi_div_two_pos
    unfold copysign
    rcases le_abs.mp extreme with top | bottom
    · have pole : sinp = 1 := le_antisymm upper top
      rw [pole, quarter, if_neg zero_le_one.not_gt, arcsin_one]
    · have pole : sinp = -1 := by linarith
      rw [pole, quarter, if_pos (by norm_num), arcsin_neg_one]
  · exact if_pos ⟨lower, upper⟩

namespace UnitQuat

variable (q : UnitQuat)

theorem quatToXyz_eq :
    quatToXyz q.toQuat = some ![q.roll, arcsin q.sinPitch, q.yaw] := by
  have sine : 2 * (q.w * q.y - q.z * q.x) = q.sinPitch := by
    unfold Quat.sinPitch
    ring
  have rollCos : 1 - 2 * (q.x * q.x + q.y * q.y) =
      square q.w - square q.x - square q.y + square q.z := by
    unfold square
    linarith [q.unit]
  have yawCos : 1 - 2 * (q.y * q.y + q.z * q.z) =
      square q.w + square q.x - square q.y - square q.z := by
    unfold square
    linarith [q.unit]
  unfold quatToXyz
  dsimp only
  rw [sine, pitch_branches q.sinPitch_mem.1 q.sinPitch_mem.2, rollCos, yawCos,
    add_comm (q.w * q.x), add_comm (q.w * q.z)]
  rfl

/-- The clamp is without effect exactly on the attitudes below the cap. -/
theorem arcsin_clamp_eq_iff :
    arcsin (min q.sinPitch 0.99999) = arcsin q.sinPitch ↔ q.sinPitch ≤ 0.99999 := by
  have bound := q.sinPitch_mem
  have clamped := clamp_mem_iff.mpr bound.1
  rw [arcsin_inj clamped.1 clamped.2 bound.1 bound.2]
  exact min_eq_left_iff

end UnitQuat

/--
For every unit quaternion both conversions are defined and agree on roll and yaw, and the
pitch of `quatToZyx` is the other one limited to `asin 0.99999`.  So one is the other read
backwards exactly when the sine of the pitch is at most 0.99999.
-/
theorem conversions_agree_iff (q : UnitQuat) :
    ∃ zyx xyz, quatToZyx q.toQuat = some zyx ∧ quatToXyz q.toQuat = some xyz ∧
      xyz 0 = zyx 2 ∧ zyx 1 = min (xyz 1) (arcsin 0.99999) ∧ xyz 2 = zyx 0 ∧
      (xyz = backwards zyx ↔ 2 * (q.w * q.y - q.x * q.z) ≤ 0.99999) := by
  refine ⟨_, _, q.quatToZyx_eq, q.quatToXyz_eq, rfl, monotone_arcsin.map_min, rfl, ?_⟩
  refine Iff.trans ?_ q.arcsin_clamp_eq_iff
  constructor
  · intro same
    exact (congrFun same 1).symm
  · intro same
    change ![q.roll, arcsin q.sinPitch, q.yaw] =
      ![q.roll, arcsin (min q.sinPitch 0.99999), q.yaw]
    rw [same]

/-- The body points straight up. -/
noncomputable def nose : UnitQuat :=
  ⟨⟨1 / 2, -1 / 2, 1 / 2, 1 / 2⟩, by norm_num⟩

/-- There the pitches are `π / 2` and `asin 0.99999`. -/
theorem conversions_differ_nose :
    ¬ ∀ q : UnitQuat,
      quatToXyz q.toQuat = (quatToZyx q.toQuat).map backwards := by
  intro agree
  have same := agree nose
  rw [nose.quatToXyz_eq, nose.quatToZyx_eq] at same
  have pitches := (congrFun (Option.some.inj same) 1).symm
  have below := nose.arcsin_clamp_eq_iff.mp pitches
  norm_num [nose, Quat.sinPitch] at below

end NoetixE1.Attitude
