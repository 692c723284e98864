import Mathlib.Algebra.Field.Rat
import Mathlib.Algebra.Order.Ring.Rat
import NoetixE1.Low.Process

/-!
# The walking configuration

The `walk` section of `config/e1_ac.yaml`, which `loadModel` selects, and the
statuses of a robot that stands level and still, for concrete runs.
-/

namespace NoetixE1.Low

variable {K : Type} [Field K]

/-- `getmodelparam` for `modelname = "walk"`. -/
def walkProgram (getJointsIndex : JointName ≃ Fin 24)
    (projectedGravity quatToXyz : (Fin 4 → K) → Fin 3 → K) : Program K where
  getJointsIndex := getJointsIndex
  projectedGravity := projectedGravity
  quatToXyz := quatToXyz
  decimation := 10
  clipObs := 18.0
  clipActions := 18.0
  actionScale := ![0.213, 0.213, 0.213, 0.213, 0.185, 0.185, 0.185, 0.185,
    0.511, 0.511, 0.511, 0.511]
  jointStiffness := ![93.816, 93.816, 93.816, 93.816, 135.364, 135.364, 135.364, 135.364,
    34.248, 34.248, 34.248, 34.248]
  jointDamping := ![4.479, 4.479, 4.479, 4.479, 4.74, 4.74, 4.74, 4.74, 2.18, 2.18, 2.18, 2.18]
  defaultJointAngles := walkDefaults
  scalex := 1.0
  scaley := 0.5
  scalez := 0.8
  stackSize := 5
  sensorSize := 3 + 3 + 3 + 12 + 12
  sensorPart := walkSensors walkDefaults
where
  /-- `default_joint_pos`. -/
  walkDefaults : Fin 12 → K :=
    ![0.0, 0.0, 0.0, 0.0, -0.149, -0.149, 0.322, 0.322, -0.172, -0.172, 0.0, 0.0]

/-- The observation size of the configuration is the configured 45. -/
theorem walkProgram_observationSize (getJointsIndex : JointName ≃ Fin 24)
    (projectedGravity quatToXyz : (Fin 4 → K) → Fin 3 → K) :
    (walkProgram getJointsIndex projectedGravity quatToXyz).observationSize = 45 := rfl

/-- A robot that stands level and still, all joints at `angle`, with the given
buttons pressed. -/
def stillStatus (pressed : List (Fin 14)) (angle : K) : RobotHardwareStatus K where
  imuData := ⟨![0, 0, 0, 1], fun _ => 0⟩
  remoteData := ⟨fun _ => 0, fun index => if index ∈ pressed then 1 else 0⟩
  motorData := fun _ => ⟨angle, 0⟩

/-- A tick that reads this status throughout; the network, if run, returns zeros. -/
def stillTick {P : Program K} (pressed : List (Fin 14)) (angle : K) : Tick P :=
  ⟨Reads.single (stillStatus pressed angle), fun _ _ => 0⟩

/-- The walking configuration over the rationals, for a robot that is level. -/
def levelProgram (getJointsIndex : JointName ≃ Fin 24) : Program ℚ :=
  walkProgram getJointsIndex (fun _ => ![0, 0, -1]) fun _ => ![0, 0, 0]

/-- The globals of that program after a run. -/
def levelAfter (getJointsIndex : JointName ≃ Fin 24)
    (ticks : List (Tick (levelProgram getJointsIndex))) : Globals (levelProgram getJointsIndex) :=
  after (fun _ => 0) ticks

end NoetixE1.Low
