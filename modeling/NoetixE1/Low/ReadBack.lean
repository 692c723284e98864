import NoetixE1.Low.WalkConfig
import NoetixE1.Low.Walking

/-!
# Reading back what was commanded

The sensing path goes from slots through the name table to the observation and subtracts
the default pose; the actuation path goes from the actions through another copy of the leg
list and the name table to slots and adds it.  A robot that follows a walking frame shows
the policy its own scaled actions, whatever the order of the slots.
-/

namespace NoetixE1.Low

variable {K : Type}

/-! ## The entries of the observation -/

/-- The program with the sensor part that `computeObservation` assembles. -/
def Program.withWalkSensors [Field K] (P : Program K) : Program K :=
  { P with sensorSize := 3 + 3 + 3 + 12 + 12, sensorPart := walkSensors P.defaultJointAngles }

/-- The entry of `proprioObs` for the position of leg joint `k`. -/
def positionEntry (k : Fin 12) : Fin (3 + 3 + 3 + 12 + 12 + 12) :=
  Fin.castAdd 12 (Fin.castAdd 12 (Fin.natAdd (3 + 3 + 3) k))

/-- The entry for its velocity. -/
def velocityEntry (k : Fin 12) : Fin (3 + 3 + 3 + 12 + 12 + 12) :=
  Fin.castAdd 12 (Fin.natAdd (3 + 3 + 3 + 12) k)

/-- The status reports every slot at the position commanded for it. -/
def Follows (status : RobotHardwareStatus K) (frame : Frame K) : Prop :=
  ∀ slot, (frame slot).pos = some (status.motorData slot).pos

/-! ## Sensing -/

variable [Field K]

theorem walkSensors_position (defaults : Fin 12 → K) (command : Fin 3 → K)
    (propri : Proprioception K) (k : Fin 12) :
    walkSensors defaults command propri (Fin.castAdd 12 (Fin.natAdd (3 + 3 + 3) k)) =
      propri.jointPos (jointIndicesLeg k) - defaults k := by
  rw [walkSensors, Fin.append_left, Fin.append_right]

theorem walkSensors_velocity (defaults : Fin 12 → K) (command : Fin 3 → K)
    (propri : Proprioception K) (k : Fin 12) :
    walkSensors defaults command propri (Fin.natAdd (3 + 3 + 3 + 12) k) =
      propri.jointVel (jointIndicesLeg k) := by
  rw [walkSensors, Fin.append_right]

variable [LinearOrder K] {P : Program K}

theorem proprioObs_position (t : Tick P.withWalkSensors) (g : Globals P.withWalkSensors)
    (k : Fin 12) :
    proprioObs (updateStateEstimation t g) (positionEntry k) =
      (t.reads.motor.motorData (legIndex P k)).pos - P.defaultJointAngles k :=
  (Fin.append_left _ _ _).trans (walkSensors_position _ _ _ k)

theorem proprioObs_velocity (t : Tick P.withWalkSensors) (g : Globals P.withWalkSensors)
    (k : Fin 12) :
    proprioObs (updateStateEstimation t g) (velocityEntry k) =
      (t.reads.motor.motorData (legIndex P k)).vel :=
  (Fin.append_left _ _ _).trans (walkSensors_velocity _ _ _ k)

/-! ## Sensing after actuation -/

/-- A motor that follows the frame of these actions stands at the scaled action plus the
default angle. -/
theorem Follows.leg {t : Tick P} {g : Globals P} {status : RobotHardwareStatus K}
    (follows : Follows status (userFrame t g)) (k : Fin 12) :
    (status.motorData (legIndex P k)).pos =
      g.actions k * P.actionScale k + P.defaultJointAngles k := by
  have commanded := follows (legIndex P k)
  rw [userFrame_leg] at commanded
  exact (Option.some.inj commanded).symm

theorem mem_policyEvaluations {t : Tick P} {g : Globals P} {made : Evaluation P}
    (member : made ∈ policyEvaluations t g) :
    made.observation = proprioObs (updateStateEstimation t g) := by
  unfold policyEvaluations at member
  dsimp only at member
  split_ifs at member
  · rw [List.mem_singleton.mp member]
    rfl
  · cases member

/-- The observations made show these actions, scaled, as leg positions, and for each leg
joint the velocity of the motor that the status reports for it. -/
structure ReadsBack (actions : Fin 12 → K) (status : RobotHardwareStatus K)
    (evaluations : List (Evaluation P.withWalkSensors)) : Prop where
  position : ∀ made ∈ evaluations, ∀ k,
    made.observation (positionEntry k) = actions k * P.actionScale k
  velocity : ∀ made ∈ evaluations, ∀ k,
    made.observation (velocityEntry k) = (status.motorData (legIndex P k)).vel

theorem reads_back {t t' : Tick P.withWalkSensors} {g : Globals P.withWalkSensors}
    (follows : Follows t'.reads.motor (userFrame t g)) (g' : Globals P.withWalkSensors) :
    ReadsBack g.actions t'.reads.motor (policyEvaluations t' g') := by
  constructor
  · intro made member k
    have standing : (t'.reads.motor.motorData (legIndex P k)).pos =
        g.actions k * P.actionScale k + P.defaultJointAngles k := follows.leg k
    rw [mem_policyEvaluations member, proprioObs_position, standing, add_sub_cancel_right]
  · intro made member k
    rw [mem_policyEvaluations member, proprioObs_velocity]

/--
Whatever the state in which one walking tick sends its frame and the state in which another
observes: if the status read there reports every slot at its commanded position, the leg
positions observed are the scaled actions and the leg velocities those of the same motors.
-/
theorem handleUserMode_reads_back (t t' : Tick P.withWalkSensors)
    (g g' : Globals P.withWalkSensors)
    (follows : ∀ frame ∈ (handleUserMode t g).sent, Follows t'.reads.motor frame) :
    ReadsBack (handleUserMode t g).globals.actions t'.reads.motor
      (handleUserMode t' g').evaluations :=
  reads_back (follows _ (List.mem_singleton_self _)) g'

/-- Actions of different sizes, held between two evaluations. -/
def heldActions : Globals (levelProgram jointNames.symm).withWalkSensors :=
  { zeroInitialised _ with count := 1, actions := fun k => (k.val : ℚ) / 10 }

/-- A status in which every motor has followed the frame of these actions and reports the
number of its slot as its velocity. -/
def followedStatus : RobotHardwareStatus ℚ :=
  { stillStatus [] 0 with
    motorData := fun slot =>
      ⟨((userFrame (stillTick [] 0) heldActions slot).pos).getD 0, slot.val⟩ }

/-- The first observation after that. -/
theorem handleUserMode_reads_back_held :
    ReadsBack (P := levelProgram jointNames.symm)
      (handleUserMode (stillTick [] 0) heldActions).globals.actions followedStatus
      (handleUserMode ⟨.single followedStatus, fun _ _ => 0⟩ (zeroInitialised _)).evaluations :=
  handleUserMode_reads_back (stillTick [] 0) ⟨.single followedStatus, fun _ _ => 0⟩
    heldActions (zeroInitialised _) (by
      intro frame sent
      rw [List.mem_singleton.mp sent]
      intro slot
      revert slot
      decide +kernel)

/-- In every run: whenever an observation is made after a walking tick, if the motors then
stand where the frame of that tick sent them. -/
theorem run_reads_back [IsStrictOrderedRing K] (history : Fin P.withWalkSensors.inputSize → K)
    (before between : List (Tick P.withWalkSensors)) (t t' : Tick P.withWalkSensors)
    (walking : (buttons t (after history before)).mode = .usermode)
    (follows : ∀ frame ∈ (process t (after history before)).sent,
      Follows t'.reads.motor frame) :
    ReadsBack (after history (before ++ [t])).actions t'.reads.motor
      (process t' (after history (before ++ t :: between))).evaluations := by
  have inv := after_invariant history before
  have later := after_invariant history (before ++ t :: between)
  rw [after_concat, step, process_of_walking inv walking]
  rw [process_of_walking inv walking] at follows
  by_cases observing : (buttons t' (after history (before ++ t :: between))).mode = .usermode
  · rw [process_of_walking later observing]
    exact reads_back (follows _ (List.mem_singleton_self _)) _
  · rw [(step_away later observing).2]
    exact ⟨fun _ none => (List.not_mem_nil none).elim, fun _ none => (List.not_mem_nil none).elim⟩

end NoetixE1.Low
