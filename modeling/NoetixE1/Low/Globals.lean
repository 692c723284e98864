import Mathlib.Algebra.Order.Field.Basic
import Mathlib.Data.Rat.Cast.OfScientific
import NoetixE1.Low.Types

/-!
# Program, globals and inputs of the low-level controller

`Program` collects what is fixed while the controller runs: the joint map of
the closed library, the attitude functions and the walking configuration.
`Globals` is the mutable state of `example_low.cpp`, and a `Tick` is what one
call of `process` reads from outside.
-/

namespace NoetixE1.Low

variable (K : Type)

/--
What is fixed during a run.  `sensorPart` is the part of `proprioObs` in front
of the actions; Eigen's comma initialiser insists that it fills the vector
exactly, so the observation size is its length plus the twelve actions.
-/
structure Program where
  getJointsIndex : JointName ≃ Fin 24
  projectedGravity : (Fin 4 → K) → Fin 3 → K
  quatToXyz : (Fin 4 → K) → Fin 3 → K
  decimation : ℕ
  clipObs : K
  clipActions : K
  actionScale : Fin 12 → K
  jointStiffness : Fin 12 → K
  jointDamping : Fin 12 → K
  defaultJointAngles : Fin 12 → K
  scalex : K
  scaley : K
  scalez : K
  stackSize : ℕ
  sensorSize : ℕ
  sensorPart : (Fin 3 → K) → Proprioception K → Fin sensorSize → K

/--
The copies that one call of `process` takes of `latest_hw_status`, one per
place in the code that reads it.  The subscription callback may replace the
status between any two of them.
-/
structure Reads where
  remote : RobotHardwareStatus K
  lieCapture : RobotHardwareStatus K
  standCapture : RobotHardwareStatus K
  motor : RobotHardwareStatus K
  imu : RobotHardwareStatus K
  arm : Fin 12 → RobotHardwareStatus K

variable {K}

/-- Every read of the tick sees the same status. -/
def Reads.single (status : RobotHardwareStatus K) : Reads K :=
  ⟨status, status, status, status, status, fun _ => status⟩

namespace Program

def observationSize (P : Program K) : ℕ := P.sensorSize + 12

def inputSize (P : Program K) : ℕ := P.stackSize * P.observationSize

end Program

/-- One call of `process`: the statuses it reads and what the policy network
returns if it is run. -/
structure Tick (P : Program K) where
  reads : Reads K
  run : (Fin P.inputSize → K) → Fin 12 → K

def Tick.button {P : Program K} (t : Tick P) (index : Fin 14) : Int :=
  t.reads.remote.remoteData.button index

/-- The globals that only `handleUserMode` uses. -/
structure PolicyGlobals (P : Program K) where
  count : ℕ
  command : Fin 3 → K
  propri : Proprioception K
  actions : Fin 12 → K
  lastActions : Fin 12 → K
  proprioHistoryBuffer : Fin P.inputSize → K
  policyObservations : Fin P.inputSize → K

/-- The mutable globals, `keyflag` of `process` included. -/
structure Globals (P : Program K) extends PolicyGlobals P where
  initfinish : Int
  mode : WorkMode
  startcontrol : Bool
  isChangeMode : Bool
  keyflag : Fin 14 → Int
  standPercent : K
  currentJointAngles : Fin 24 → K

/-! ## Posture targets -/

section Targets

variable [Field K]

/-- `standDuration`, set by `init` and again by `getmodelparam`. -/
def standDuration : K := 1000

/-- `standjointState_`; the initialiser is positional in the order of `jointNames`. -/
def standjointState : JointName → K
  | .legL3Joint | .legR3Joint => -0.1495
  | .legL4Joint | .legR4Joint => 0.3215
  | .legL5Joint | .legR5Joint => -0.1720
  | _ => 0

/-- `liejointState_`. -/
def liejointState : JointName → K := fun _ => 0

def standJointAngles (j : Fin 24) : K := standjointState (jointNames j)

def lieJointAngles (j : Fin 24) : K := liejointState (jointNames j)

/-! ## Initial state -/

variable (P : Program K)

/-- The globals before `main`.  `mode_` has no initialiser, so it is `stand`. -/
def zeroInitialised : Globals P where
  count := 0
  command := fun _ => 0
  propri := ⟨fun _ => 0, fun _ => 0, fun _ => 0, fun _ => 0, fun _ => 0⟩
  actions := fun _ => 0
  lastActions := fun _ => 0
  proprioHistoryBuffer := fun _ => 0
  policyObservations := fun _ => 0
  initfinish := 0
  mode := .stand
  startcontrol := false
  isChangeMode := false
  keyflag := fun _ => 0
  standPercent := 0
  currentJointAngles := fun _ => 0

variable {P}

/-- `init`: the posture globals. -/
def init (g : Globals P) : Globals P :=
  { g with standPercent := 0, currentJointAngles := fun _ => 0 }

/-- `loadModel` with `getmodelparam`.  The history buffer is resized and not
cleared, so its content is arbitrary. -/
def loadModel (history : Fin P.inputSize → K) (g : Globals P) : Globals P :=
  { g with
    count := 0
    standPercent := 0
    actions := fun _ => 0
    lastActions := fun _ => 0
    policyObservations := fun _ => 0
    proprioHistoryBuffer := history
    initfinish := 1 }

/-- The state in which `main` enters its loop. -/
def initial (history : Fin P.inputSize → K) : Globals P :=
  loadModel history (init (zeroInitialised P))

end Targets

end NoetixE1.Low
