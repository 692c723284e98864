import NoetixE1.Attitude.Conversions
import NoetixE1.Attitude.Domain
import NoetixE1.Low.ReadBack

/-!
# The attitude the policy observes

The low-level program over exact reals with the attitude functions of `RotationTools.h`:
whatever the state in which a walking tick observes, the gravity entries of its observation
follow the orientation of the status it reads.
-/

namespace NoetixE1.Attitude

open Low Polar

/-- The attitude functions of the program are the ones of `RotationTools.h`, wherever these
have a value. -/
structure UsesRotationTools (P : Program ℝ) : Prop where
  gravity : ∀ ori g, projectedGravity (.ofCoeffs ori) = some g → P.projectedGravity ori = g
  euler : ∀ ori xyz, quatToXyz (.ofCoeffs ori) = some xyz → P.quatToXyz ori = xyz

/-- With any vectors in place of the undefined ones. -/
theorem usesRotationTools_getD (P : Program ℝ) (gravity euler : Fin 3 → ℝ) :
    UsesRotationTools { P with
      projectedGravity := fun ori => (projectedGravity (.ofCoeffs ori)).getD gravity
      quatToXyz := fun ori => (quatToXyz (.ofCoeffs ori)).getD euler } where
  gravity ori g value := by
    dsimp only
    rw [value, Option.getD_some]
  euler ori xyz value := by
    dsimp only
    rw [value, Option.getD_some]

/-- The entry of `proprioObs` for component `i` of the projected gravity. -/
def gravityEntry (i : Fin 3) : Fin (3 + 3 + 3 + 12 + 12 + 12) :=
  Fin.castAdd 12 (Fin.castAdd 12 (Fin.castAdd 12 (Fin.natAdd (3 + 3) i)))

theorem walkSensors_gravity (defaults : Fin 12 → ℝ) (command : Fin 3 → ℝ)
    (propri : Proprioception ℝ) (i : Fin 3) :
    walkSensors defaults command propri
        (Fin.castAdd 12 (Fin.castAdd 12 (Fin.natAdd (3 + 3) i))) = propri.projectedGravity i := by
  rw [walkSensors, Fin.append_left, Fin.append_left, Fin.append_right]

variable {P : Program ℝ}

theorem observation_gravity {t : Tick P.withWalkSensors} {g : Globals P.withWalkSensors}
    {made : Evaluation P.withWalkSensors} (member : made ∈ policyEvaluations t g) (i : Fin 3) :
    made.observation (gravityEntry i) = P.projectedGravity t.reads.imu.imuData.ori i := by
  rw [mem_policyEvaluations member]
  exact (Fin.append_left _ _ _).trans (walkSensors_gravity _ _ _ i)

section Observed

variable {t : Tick P.withWalkSensors} {g : Globals P.withWalkSensors}

theorem observed_gravity_eq (uses : UsesRotationTools P) {gravity : Fin 3 → ℝ}
    (value : projectedGravity (.ofCoeffs t.reads.imu.imuData.ori) = some gravity) :
    ∀ made ∈ (handleUserMode t g).evaluations,
      (fun i => made.observation (gravityEntry i)) = gravity := by
  intro made member
  funext i
  rw [observation_gravity member, uses.gravity _ _ value]

/-- Every observation made with a unit quaternion shows gravity in the body frame to 0.0045. -/
theorem observed_gravity (uses : UsesRotationTools P) {q : UnitQuat}
    (read : Quat.ofCoeffs t.reads.imu.imuData.ori = q.toQuat) :
    ∀ made ∈ (handleUserMode t g).evaluations,
      length ((fun i => made.observation (gravityEntry i)) - q.bodyGravity) ≤ 0.0045 := by
  intro made member
  obtain ⟨gravity, value, _, _, near⟩ := q.projectedGravity_near
  rw [← read] at value
  rw [observed_gravity_eq uses value made member]
  exact near

/-- An orientation off the unit sphere still gives the policy a direction of gravity, unless
the sine of its pitch is below -1. -/
theorem observed_gravity_direction (uses : UsesRotationTools P)
    (lower : -1 ≤ (Quat.ofCoeffs t.reads.imu.imuData.ori).sinPitch) :
    ∀ made ∈ (handleUserMode t g).evaluations,
      length (fun i => made.observation (gravityEntry i)) = 1 := by
  intro made member
  obtain ⟨gravity, value⟩ :=
    Option.isSome_iff_exists.mp ((Quat.projectedGravity_isSome_iff _).mpr lower)
  rw [observed_gravity_eq uses value made member]
  exact Quat.length_projectedGravity _ value

end Observed

/-- The stored Euler angles have the exact pitch, without the clamp. -/
theorem stored_euler (uses : UsesRotationTools P) {reads : Reads ℝ} {q : UnitQuat}
    (read : Quat.ofCoeffs reads.imu.imuData.ori = q.toQuat) :
    (proprioception P reads).baseEulerXyz = ![q.roll, Real.arcsin q.sinPitch, q.yaw] := by
  refine uses.euler _ _ ?_
  rw [read]
  exact q.quatToXyz_eq

end NoetixE1.Attitude
