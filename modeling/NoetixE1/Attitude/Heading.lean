import NoetixE1.Attitude.Observation
import NoetixE1.Attitude.RoundTrip
import NoetixE1.Low.Isolation

/-!
# The heading

The projected gravity leaves the heading out of an orientation, and below the clamp nothing
else.  So the controller does the same in whatever direction the robot faces.
-/

namespace NoetixE1.Attitude

open AxisRotation Low Machine Matrix Polar Quaternion Real

/-! ## Gravity and the heading -/

namespace Quat

variable (q : Quat)

/-- The other orientation is this one turned about the vertical. -/
def Turned (r : Quat) : Prop := ∃ angle, r.toQuaternion = quaternionZ angle * q.toQuaternion

/-- Gravity in the body frame is the downward direction turned back. -/
theorem rotation_transpose_down : q.rotationᵀ *ᵥ ![0, 0, -1] = q.bodyGravity := by
  have conjugated := vector_mulVec (star q.toQuaternion) ![0, 0, -1]
  rw [rotationOf_star, star_star] at conjugated
  exact vector_injective (conjugated.trans q.bodyGravity_eq_conjugate)

/-- The projected gravity depends on the pitch and the roll only. -/
theorem projectedGravity_eq_map :
    projectedGravity q = (asin (min q.sinPitch 0.99999)).map fun pitch => plumb pitch q.roll := by
  rw [projectedGravity_eq_plumb]
  unfold quatToZyx
  dsimp only
  rw [q.argument_eq_sinPitch, Option.map_map]
  rfl

variable {q}

/-- Pitch and roll are read off the last row of the matrix, which a turn keeps. -/
theorem Turned.pitch_roll {r : Quat} (turned : q.Turned r) :
    r.sinPitch = q.sinPitch ∧ r.roll = q.roll := by
  obtain ⟨angle, turn⟩ := turned
  have row (j : Fin 3) : r.rotation 2 j = q.rotation 2 j := by
    unfold rotation
    rw [turn, rotationOf_mul, rotationOf_quaternionZ, mul_apply, Fin.sum_univ_three]
    simp [rotZ]
  constructor
  · rw [← neg_inj, ← rotation_sinPitch, ← rotation_sinPitch, row]
  · rw [roll_eq, roll_eq, row, row]

theorem Turned.projectedGravity {r : Quat} (turned : q.Turned r) :
    projectedGravity r = projectedGravity q := by
  rw [projectedGravity_eq_map, projectedGravity_eq_map, turned.pitch_roll.1, turned.pitch_roll.2]

end Quat

namespace UnitQuat

variable (q r : UnitQuat)

theorem turned_iff : q.Turned r.toQuat ↔ q.bodyGravity = r.bodyGravity := by
  rw [← q.rotation_transpose_down, ← r.rotation_transpose_down]
  exact (down_eq_iff q.normSq_toQuaternion r.normSq_toQuaternion).symm

theorem roll_mem : q.roll ∈ Set.Ioc (-π) π := Complex.arg_mem_Ioc _

end UnitQuat

/--
Two unit quaternions have the same projected gravity exactly if they differ by a turn about
the vertical, or both are clamped and have the same roll.
-/
theorem gravity_eq_iff (q r : UnitQuat) :
    projectedGravity q.toQuat = projectedGravity r.toQuat ↔
      (∃ angle, r.toQuaternion = quaternionZ angle * q.toQuaternion) ∨
        0.99999 ≤ q.sinPitch ∧ 0.99999 ≤ r.sinPitch ∧ q.roll = r.roll := by
  constructor
  · intro same
    obtain ⟨_, value, _, exact, _⟩ := q.projectedGravity_near
    obtain ⟨_, value', _, exact', _⟩ := r.projectedGravity_near
    have plumbs := same
    rw [q.projectedGravity_eq, r.projectedGravity_eq, Option.some_inj] at plumbs
    have pitches : min q.sinPitch 0.99999 = min r.sinPitch 0.99999 := by
      have sines := congrFun plumbs 0
      obtain ⟨lower, upper⟩ := clamp_mem_iff.mpr q.sinPitch_mem.1
      obtain ⟨lower', upper'⟩ := clamp_mem_iff.mpr r.sinPitch_mem.1
      change sin (arcsin _) = sin (arcsin _) at sines
      rwa [sin_arcsin lower upper, sin_arcsin lower' upper'] at sines
    rcases lt_or_ge q.sinPitch 0.99999 with below | above
    · left
      have below' : r.sinPitch ≤ 0.99999 := by
        rw [min_eq_left below.le] at pitches
        rcases min_choice r.sinPitch 0.99999 with left | right
        · exact min_eq_left_iff.mp left
        · rw [right] at pitches
          exact absurd pitches below.ne
      rw [value, value', exact below.le, exact' below', Option.some_inj] at same
      exact (q.turned_iff r).mpr same
    · right
      rw [min_eq_right above] at pitches plumbs
      rw [← pitches] at plumbs
      have off : 0 < cos (arcsin 0.99999) := by
        rw [cos_arcsin]
        exact sqrt_pos.mpr (by norm_num)
      refine ⟨above, min_eq_right_iff.mp pitches.symm, ?_⟩
      rw [← roll_of_plumb off q.roll_mem, plumbs, roll_of_plumb off r.roll_mem]
  · rintro (turned | ⟨above, above', rolls⟩)
    · exact (Quat.Turned.projectedGravity turned).symm
    · rw [q.projectedGravity_eq, r.projectedGravity_eq, min_eq_right above, min_eq_right above',
        rolls]

/-! ## Runs in different directions -/

/-- The ticks agree on all that they deliver but the orientation, which may be turned about
the vertical. -/
structure SameButHeading {P : Program ℝ} (t t' : Tick P) : Prop where
  remote : t.reads.remote.remoteData = t'.reads.remote.remoteData
  lieCapture : t.reads.lieCapture.motorData = t'.reads.lieCapture.motorData
  standCapture : t.reads.standCapture.motorData = t'.reads.standCapture.motorData
  motor : t.reads.motor.motorData = t'.reads.motor.motorData
  arm : ∀ i, (t.reads.arm i).motorData = (t'.reads.arm i).motorData
  angularVel : t.reads.imu.imuData.angularVel = t'.reads.imu.imuData.angularVel
  heading : (Quat.ofCoeffs t.reads.imu.imuData.ori).Turned (.ofCoeffs t'.reads.imu.imuData.ori)
  run : t.run = t'.run

/-- The gravity that the tick reads has a value. -/
def GravityDefined {P : Program ℝ} (t : Tick P) : Prop :=
  (projectedGravity (.ofCoeffs t.reads.imu.imuData.ori)).isSome

section Runs

variable {P : Program ℝ}

theorem SameButHeading.matching (uses : UsesRotationTools P) {t t' : Tick P.withWalkSensors}
    (same : SameButHeading t t') (defined : GravityDefined t) : Matching t t' where
  panel := by
    unfold panelOf Tick.button
    rw [same.remote]
  sensors := by
    obtain ⟨gravity, value⟩ := Option.isSome_iff_exists.mp defined
    have value' := same.heading.projectedGravity.trans value
    have down : P.projectedGravity t.reads.imu.imuData.ori =
        P.projectedGravity t'.reads.imu.imuData.ori :=
      (uses.gravity _ _ value).trans (uses.gravity _ _ value').symm
    unfold sensorsAt commandOf
    rw [same.remote]
    change walkSensors _ _ _ = walkSensors _ _ _
    unfold walkSensors proprioception
    dsimp only [Program.withWalkSensors]
    rw [same.motor, same.angularVel, down]
  run := same.run
  asked := by
    unfold askedBy panelOf Tick.button measuredAngles
    rw [same.remote, same.lieCapture, same.standCapture]
  arm i := by rw [same.arm i]

/--
Two runs of the program whose ticks agree on all but the direction the robot faces, which
may change from tick to tick, hand over the same frames and make the same policy evaluations.
-/
theorem heading_irrelevant (uses : UsesRotationTools P)
    (history history' : Fin P.withWalkSensors.inputSize → ℝ)
    {ticks ticks' : List (Tick P.withWalkSensors)}
    (same : List.Forall₂ SameButHeading ticks ticks') (defined : ∀ t ∈ ticks, GravityDefined t) :
    framesOf (initial history) ticks = framesOf (initial history') ticks' ∧
      emitted step (fun g t => (process t g).evaluations) (initial history) ticks =
        emitted step (fun g t => (process t g).evaluations) (initial history') ticks' := by
  have matched : List.Forall₂ Matching ticks ticks' := by
    induction same with
    | nil => exact .nil
    | cons first _ ih =>
        obtain ⟨here, later⟩ := List.forall_mem_cons.mp defined
        exact .cons (first.matching uses here) (ih later)
  exact matching_runs history history' matched

end Runs

/-- The walking configuration with the attitude functions of `RotationTools.h`. -/
noncomputable def toolProgram : Program ℝ :=
  { walkProgram jointNames.symm (fun _ => 0) fun _ => 0 with
    projectedGravity := fun ori => (projectedGravity (.ofCoeffs ori)).getD 0
    quatToXyz := fun ori => (quatToXyz (.ofCoeffs ori)).getD 0 }

/-- A still tick of a robot that stands level and faces this way. -/
noncomputable def facingTick {P : Program ℝ} (pressed : List (Fin 14)) (angle : ℝ) : Tick P :=
  let status : RobotHardwareStatus ℝ :=
    { stillStatus pressed 1 with
      imuData := ⟨![0, 0, sin (angle / 2), cos (angle / 2)], fun _ => 0⟩ }
  ⟨Reads.single status, fun _ _ => 0⟩

theorem sameButHeading_facing {P : Program ℝ} (pressed : List (Fin 14)) (angle : ℝ) :
    SameButHeading (P := P) (stillTick pressed 1) (facingTick pressed angle) where
  -- `rfl` would compare the orientations too
  remote := by dsimp only [stillTick, facingTick, Reads.single]
  lieCapture := by dsimp only [stillTick, facingTick, Reads.single]
  standCapture := by dsimp only [stillTick, facingTick, Reads.single]
  motor := by dsimp only [stillTick, facingTick, Reads.single]
  arm _ := by dsimp only [stillTick, facingTick, Reads.single]
  angularVel := by dsimp only [stillTick, facingTick, Reads.single, stillStatus]
  heading := by
    have level : (Quat.ofCoeffs ![0, 0, 0, 1]).toQuaternion = 1 := rfl
    refine ⟨angle, ?_⟩
    change quaternionZ angle = quaternionZ angle * (Quat.ofCoeffs ![0, 0, 0, 1]).toQuaternion
    rw [level, mul_one]
  run := rfl

theorem gravityDefined_still {P : Program ℝ} (pressed : List (Fin 14)) :
    GravityDefined (P := P) (stillTick pressed 1) := by
  refine (Quat.projectedGravity_isSome_iff _).mpr ?_
  simp [Quat.sinPitch, Quat.ofCoeffs, stillTick, stillStatus, Reads.single]

/-- Two walking ticks ahead, and the same turned to the left and then about. -/
theorem heading_irrelevant_about :
    let ahead := [stillTick [5, 2] 1, stillTick [] 1]
    let about := [facingTick [5, 2] (π / 2), facingTick [] π]
    let start := initial (P := toolProgram.withWalkSensors) fun _ => 0
    framesOf start ahead = framesOf start about ∧
      emitted step (fun g t => (process t g).evaluations) start ahead =
        emitted step (fun g t => (process t g).evaluations) start about :=
  heading_irrelevant (usesRotationTools_getD _ 0 0) (fun _ => 0) (fun _ => 0)
    (.cons (sameButHeading_facing _ _) (.cons (sameButHeading_facing _ _) .nil))
    (List.forall_mem_cons.mpr ⟨gravityDefined_still _,
      List.forall_mem_singleton.mpr (gravityDefined_still _)⟩)

end NoetixE1.Attitude
