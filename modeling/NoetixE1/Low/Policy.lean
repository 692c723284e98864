import NoetixE1.Library.HistoryStack
import NoetixE1.Library.Interpolation
import NoetixE1.Low.Globals

/-!
# Observation and policy evaluation

The functions of `handleUserMode` that read the sensors, assemble the stacked
observation and run the policy network.
-/

namespace NoetixE1.Low

open Interpolation HistoryStack

variable {K : Type}

/-! ## Sensors -/

section Sensors

variable {P : Program K}

/-- `setparameter`.  The pointer `isfirstRecObs_` always refers to `isChangeMode_`. -/
def setparameter (cmd : Command K) (g : Globals P) : Globals P :=
  { g with command := ![cmd.x, cmd.y, cmd.yaw] }

/-- The `Proprioception` that `updateStateEstimation` stores. -/
def proprioception (P : Program K) (reads : Reads K) : Proprioception K where
  jointPos i := (reads.motor.motorData (P.getJointsIndex (walkjointNames i))).pos
  jointVel i := (reads.motor.motorData (P.getJointsIndex (walkjointNames i))).vel
  baseAngVel := reads.imu.imuData.angularVel
  baseEulerXyz := P.quatToXyz reads.imu.imuData.ori
  projectedGravity := P.projectedGravity reads.imu.imuData.ori

/-- `updateStateEstimation`; it always returns `true`. -/
def updateStateEstimation (t : Tick P) (g : Globals P) : Globals P :=
  { g with propri := proprioception P t.reads }

end Sensors

variable [Field K] [LinearOrder K]

/-- The rules of `computeObservation` for the velocity command, in source order. -/
def shapeCommand (P : Program K) (command : Fin 3 → K) : Fin 3 → K :=
  let commX := command 0 * P.scalex
  let commY := command 1 * P.scaley
  let commZ := command 2 * P.scalez
  let commX := if |commX| < 0.3 then 0 else commX
  let commY := if |commY| < 0.3 then 0 else commY
  let commZ := if |commZ| < 0.3 then 0 else commZ
  let commZ := if commX < 0 then 0 else commZ
  -- a sideways command above the threshold clears the two others
  let sideways := |commY| > 0.3
  let commX := if sideways then 0 else commX
  let commZ := if sideways then 0 else commZ
  let commY := if |commX| > 0.3 ∧ |commZ| > 0.3 then 0 else commY
  let commX := if commX < -1 then -1 else commX
  ![commX, commY, commZ]

/-- What `computeObservation` puts in front of the actions: 3 command entries, 3
angular velocities, 3 of gravity, 12 leg positions, 12 leg velocities. -/
def walkSensors (defaultJointAngles : Fin 12 → K) (command : Fin 3 → K)
    (propri : Proprioception K) : Fin (3 + 3 + 3 + 12 + 12) → K :=
  Fin.append
    (Fin.append
      (Fin.append (Fin.append command propri.baseAngVel) propri.projectedGravity)
      (fun k => propri.jointPos (jointIndicesLeg k) - defaultJointAngles k))
    (fun k => propri.jointVel (jointIndicesLeg k))

/-! ## The stacked observation -/

variable {P : Program K}

/-- `proprioObs`: sensors and last actions, the actions cleared in the first
observation after a mode change. -/
def proprioObs (g : Globals P) : Fin P.observationSize → K :=
  Fin.append (P.sensorPart (shapeCommand P g.command) g.propri)
    (if g.isChangeMode then fun _ => 0 else g.lastActions)

/-- The history after `computeObservation`: filled on the first observation, then
shifted by one segment with the new observation behind. -/
def stackedHistory (g : Globals P) : Fin P.inputSize → K :=
  let history := if g.isChangeMode then fill g.proprioHistoryBuffer (proprioObs g)
    else g.proprioHistoryBuffer
  push history (proprioObs g)

/-- `computeObservation`. -/
def computeObservation (g : Globals P) : Globals P :=
  let history := stackedHistory g
  { g with
    isChangeMode := false
    proprioHistoryBuffer := history
    policyObservations := fun i => clamp (-P.clipObs) P.clipObs (history i) }

/-! ## Policy evaluation -/

/-- `computeActions`: run the network on the clamped history. -/
def computeActions (t : Tick P) (g : Globals P) : Globals P :=
  { g with actions := t.run g.policyObservations }

/-- The action limits that follow `computeActions` in `handleUserMode`. -/
def limitActions (g : Globals P) : Globals P :=
  { g with actions := fun j => clamp (-P.clipActions) P.clipActions (g.actions j) }

/-- The block of `handleUserMode` under `count % decimation == 0`. -/
def evaluatePolicy (t : Tick P) (g : Globals P) : Globals P :=
  limitActions (computeActions t (computeObservation { g with count := 0 }))

/-- Record of one evaluation: the observation pushed, the input handed to the
network, and the limited action. -/
structure Evaluation (P : Program K) where
  observation : Fin P.observationSize → K
  input : Fin P.inputSize → K
  action : Fin 12 → K

def evaluationOf (t : Tick P) (g : Globals P) : Evaluation P where
  observation := proprioObs g
  input := (evaluatePolicy t g).policyObservations
  action := (evaluatePolicy t g).actions

end NoetixE1.Low
