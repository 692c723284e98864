import Mathlib.Data.List.FinRange
import NoetixE1.Library.Scatter
import NoetixE1.Low.Policy

/-!
# Mode handlers

The four handlers of the mode switch.  Each assembles one frame by writing
joint commands into slots chosen through `getJointsIndex`, and hands it to
`set_joint`.
-/

namespace NoetixE1.Low

open Interpolation Scatter

variable {K : Type} [Field K] [LinearOrder K] {P : Program K}

/-- What a call leaves behind: the globals, the frames handed to `set_joint` in
order, and the policy evaluations made. -/
structure Outcome (P : Program K) where
  globals : Globals P
  sent : List (Frame K)
  evaluations : List (Evaluation P)

/-- A write of a frame loop. -/
abbrev CmdWrite (K : Type) := SlotWrite (Fin 24) (MotorCmd K)

/-! ## Default mode -/

/-- The loop of `handleDefautMode`. -/
def defautWrites : List (CmdWrite K) :=
  (List.finRange 24).map fun j =>
    { slot := j
      write := fun cmd =>
        { cmd with kd := some 0.1, pos := some 0, kp := some 0, motorId := some j.val,
                   vel := some 0, tau := some 0 } }

def defautFrame : Frame K := scatter defautWrites fun _ => .uninitialised

/-- `handleDefautMode`. -/
def handleDefautMode (g : Globals P) : Outcome P := ⟨g, [defautFrame], []⟩

/-! ## Posture modes -/

/-- The value-initialised frame of a posture handler after the loop "init all motor_ids". -/
def postureStart (P : Program K) : Frame K :=
  fun j => { MotorCmd.zero with motorId := some (P.getJointsIndex (jointNames j)).val }

/-- The joint loop of a posture handler: `assign` writes joint `j` given its setpoint. -/
def postureWrites (target : Fin 24 → K) (assign : Fin 24 → K → MotorCmd K → MotorCmd K)
    (g : Globals P) : List (CmdWrite K) :=
  (List.finRange 24).map fun j =>
    { slot := P.getJointsIndex (jointNames j)
      write := assign j (blend (g.currentJointAngles j) (target j) g.standPercent) }

def postureFrame (target : Fin 24 → K) (assign : Fin 24 → K → MotorCmd K → MotorCmd K)
    (g : Globals P) : Frame K :=
  scatter (postureWrites target assign g) (postureStart P)

/-- The common body of `handleStandMode` and `handleLieMode`. -/
def handlePosture (target : Fin 24 → K) (assign : Fin 24 → K → MotorCmd K → MotorCmd K)
    (g : Globals P) : Outcome P :=
  if g.standPercent ≤ 1 then
    ⟨{ g with standPercent := advance standDuration g.standPercent },
      [postureFrame target assign g], []⟩
  else ⟨g, [], []⟩

/-- The branches of `handleStandMode` for joint `j`: `waist_2` is only damped. -/
def standAssign (j : Fin 24) (posDes : K) (cmd : MotorCmd K) : MotorCmd K :=
  if j = 23 then
    { cmd with kd := some 5, vel := some 0, tau := some 0 }
  else if j = 15 ∨ j = 16 ∨ j = 19 ∨ j = 20 then
    { cmd with pos := some posDes, kp := some 50, kd := some 1, vel := some 0, tau := some 0 }
  else
    { cmd with pos := some posDes, kp := some 50, kd := some 5, vel := some 0, tau := some 0 }

/-- The branches of `handleLieMode` for joint `j`. -/
def lieAssign (j : Fin 24) (posDes : K) (cmd : MotorCmd K) : MotorCmd K :=
  if j = 23 then
    { cmd with pos := some posDes, kp := some 200, kd := some 5, vel := some 0, tau := some 0 }
  else if j = 15 ∨ j = 16 ∨ j = 19 ∨ j = 20 then
    { cmd with pos := some posDes, kp := some 50, kd := some 1, vel := some 0, tau := some 0 }
  else
    { cmd with pos := some posDes, kp := some 70, kd := some 5, vel := some 0, tau := some 0 }

/-- `handleStandMode`. -/
def handleStandMode (g : Globals P) : Outcome P := handlePosture standJointAngles standAssign g

/-- `handleLieMode`. -/
def handleLieMode (g : Globals P) : Outcome P := handlePosture lieJointAngles lieAssign g

/-! ## Walking mode -/

/-- The stiffness of arm-loop entry `i`: the two waist joints come first. -/
def armKp (i : Fin 12) : K := if i.val < 2 then 400 else 150

/-- The rest position of arm-loop entry `i`. -/
def armRest (i : Fin 12) : K :=
  if i.val < 2 then 0
  else if jointIndicesArm i = 12 then 0.267
  else if jointIndicesArm i = 13 then -0.267
  else 0

/-- The setpoint of a joint the policy does not drive: a small step from the
measured position towards the rest position. -/
def armSetpoint (pos curPos : K) : K :=
  if |pos - curPos| > 0.5 then 0.98 * curPos + 0.02 * pos else 0.95 * curPos + 0.05 * pos

def armIndex (P : Program K) (i : Fin 12) : Fin 24 :=
  P.getJointsIndex (walkjointNames (jointIndicesArm i))

def legIndex (P : Program K) (j : Fin 12) : Fin 24 :=
  P.getJointsIndex (walkjointNames (jointIndicesLeg j))

/-- The first loop of `handleUserMode`; every iteration reads the status anew. -/
def armWrites (t : Tick P) : List (CmdWrite K) :=
  (List.finRange 12).map fun i =>
    { slot := armIndex P i
      write := fun cmd =>
        { cmd with pos := some (armSetpoint (armRest i) ((t.reads.arm i).motorData (armIndex P i)).pos)
                   kp := some (armKp i), kd := some 5, motorId := some (armIndex P i).val
                   vel := some 0, tau := some 0 } }

/-- The second loop of `handleUserMode`. -/
def legWrites (g : Globals P) : List (CmdWrite K) :=
  (List.finRange 12).map fun j =>
    { slot := legIndex P j
      write := fun cmd =>
        { cmd with pos := some (g.actions j * P.actionScale j + P.defaultJointAngles j)
                   kp := some (P.jointStiffness j), kd := some (P.jointDamping j)
                   motorId := some (legIndex P j).val, vel := some 0, tau := some 0 } }

/-- The frame of `handleUserMode`; its array is declared without initialiser. -/
def userFrame (t : Tick P) (g : Globals P) : Frame K :=
  scatter (armWrites t ++ legWrites g) fun _ => .uninitialised

/-- The state in which `handleUserMode` assembles the frame. -/
def policyStep (t : Tick P) (g : Globals P) : Globals P :=
  let g := updateStateEstimation t g
  if g.count % P.decimation = 0 then evaluatePolicy t g else g

/-- The evaluation made by `handleUserMode`, if any. -/
def policyEvaluations (t : Tick P) (g : Globals P) : List (Evaluation P) :=
  let g := updateStateEstimation t g
  if g.count % P.decimation = 0 then [evaluationOf t g] else []

/-- `handleUserMode`. -/
def handleUserMode (t : Tick P) (g : Globals P) : Outcome P :=
  let evaluations := policyEvaluations t g
  let g := policyStep t g
  let motorcmd := userFrame t g
  ⟨{ g with lastActions := g.actions, count := g.count + 1 }, [motorcmd], evaluations⟩

end NoetixE1.Low
