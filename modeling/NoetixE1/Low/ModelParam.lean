import NoetixE1.Library.SizedVector
import NoetixE1.Low.WalkConfig

/-!
# The sizes in the configuration

`getmodelparam` takes the sizes of all vectors of the walking controller from a section of
`e1_ac.yaml`, and `handleUserMode` uses them with loops of fixed length.  Here the same
functions run on vectors of run-time size and fail at the first overflow of a size, index out
of range, size mismatch or division by zero.
-/

namespace NoetixE1.Low

open Interpolation Scatter SizedVector

/-- What the `as` calls of `getmodelparam` return for one section; `as<int>` returns an `int`. -/
structure ModelParam (K : Type) where
  actionScale : List K
  defaultJointPos : List K
  jointDamping : List K
  jointStiffness : List K
  decimation : ℤ
  clipObs : K
  clipActions : K
  actionsSize : ℤ
  observationSize : ℤ
  stackSize : ℤ
  scalez : K
  scaley : K
  scalex : K
  ints : ∀ n ∈ [decimation, actionsSize, observationSize, stackSize], IsInt n

/-- What the controller takes from elsewhere: the joint map of the closed library and the
attitude functions. -/
structure Robot (K : Type) where
  getJointsIndex : JointName ≃ Fin 24
  projectedGravity : (Fin 4 → K) → Fin 3 → K
  quatToXyz : (Fin 4 → K) → Fin 3 → K

/-- The vectors of the walking controller, sized as `getmodelparam` sizes them. -/
structure Vectors (K : Type) where
  count : ℕ
  actions : SizedVector K
  lastActions : SizedVector K
  defaultJointAngles : SizedVector K
  proprioHistoryBuffer : SizedVector K
  policyObservations : SizedVector K

namespace ModelParam

variable {K : Type} [Field K]

def pose (m : ModelParam K) (j : Fin 12) : K := m.defaultJointPos.getD j 0

/-- The program that the section describes if its sizes are the ones the loops expect. -/
def program (m : ModelParam K) (r : Robot K) : Program K where
  getJointsIndex := r.getJointsIndex
  projectedGravity := r.projectedGravity
  quatToXyz := r.quatToXyz
  decimation := m.decimation.natAbs
  clipObs := m.clipObs
  clipActions := m.clipActions
  actionScale j := m.actionScale.getD j 0
  jointStiffness j := m.jointStiffness.getD j 0
  jointDamping j := m.jointDamping.getD j 0
  defaultJointAngles := m.pose
  scalex := m.scalex
  scaley := m.scaley
  scalez := m.scalez
  stackSize := m.stackSize.toNat
  sensorSize := 3 + 3 + 3 + 12 + 12
  sensorPart := walkSensors m.pose

/-- The sizes are the ones the loops expect. -/
structure Fits (m : ModelParam K) : Prop where
  decimation : m.decimation ≠ 0
  actions : m.actionsSize = 12
  observation : m.observationSize = 45
  stack : 1 ≤ m.stackSize
  inputSize : m.observationSize * m.stackSize ≤ 2147483647
  pose : 12 ≤ m.defaultJointPos.length
  scale : 12 ≤ m.actionScale.length
  stiffness : 12 ≤ m.jointStiffness.length
  damping : 12 ≤ m.jointDamping.length

/-! ## The `walk` section -/

/-- The `walk` section of `e1_ac.yaml`. -/
def walk : ModelParam K where
  actionScale := [0.213, 0.213, 0.213, 0.213, 0.185, 0.185, 0.185, 0.185,
    0.511, 0.511, 0.511, 0.511]
  defaultJointPos := [0.0, 0.0, 0.0, 0.0, -0.149, -0.149, 0.322, 0.322, -0.172, -0.172, 0.0, 0.0]
  jointDamping := [4.479, 4.479, 4.479, 4.479, 4.74, 4.74, 4.74, 4.74, 2.18, 2.18, 2.18, 2.18]
  jointStiffness := [93.816, 93.816, 93.816, 93.816, 135.364, 135.364, 135.364, 135.364,
    34.248, 34.248, 34.248, 34.248]
  decimation := 10
  clipObs := 18.0
  clipActions := 18.0
  actionsSize := 12
  observationSize := 45
  stackSize := 5
  scalez := 0.8
  scaley := 0.5
  scalex := 1.0
  ints := by decide

theorem walk_fits : (walk : ModelParam K).Fits where
  decimation := show (10 : ℤ) ≠ 0 by decide
  actions := rfl
  observation := rfl
  stack := show (1 : ℤ) ≤ 5 by decide
  inputSize := show (45 : ℤ) * 5 ≤ 2147483647 by decide
  pose := Nat.le_refl 12
  scale := Nat.le_refl 12
  stiffness := Nat.le_refl 12
  damping := Nat.le_refl 12

/-- It describes the program whose walking configuration is written out. -/
theorem walk_program (r : Robot K) :
    (walk : ModelParam K).program r =
      walkProgram r.getJointsIndex r.projectedGravity r.quatToXyz := by
  have table {list : List K} {cells : Fin 12 → K} (same : list = List.ofFn cells) :
      (fun j : Fin 12 => list.getD j 0) = cells := by
    subst same
    funext j
    rw [List.getD_eq_getElem?_getD, List.getElem?_ofFn, dif_pos j.isLt]
    rfl
  have pose : (walk : ModelParam K).pose = walkProgram.walkDefaults := table rfl
  unfold program
  rw [pose]
  unfold walkProgram
  congr 1
  · exact table rfl
  · exact table rfl
  · exact table rfl

/-! ## Loading -/

/-- The part of `getmodelparam` after the reads.  The history buffer keeps what the memory
held before. -/
def getmodelparam (m : ModelParam K) (memory : ℕ → K) : Option (Vectors K) := do
  let actions ← resize m.actionsSize fun _ => 0
  let size ← product m.observationSize m.stackSize
  let observations ← resize size fun _ => 0
  let inputSize ← product m.stackSize m.observationSize
  let buffer ← resize inputSize memory
  let pose ← tabulate m.actionsSize fun i => m.defaultJointPos[i]?
  some ⟨0, actions, actions, pose, buffer, observations⟩

/-! ## One call of `handleUserMode` -/

variable [LinearOrder K] {m : ModelParam K} {r : Robot K}

/-- The sensors as the comma initialiser of `computeObservation` takes them. -/
def sensors (t : Tick (m.program r)) (v : Vectors K) : Option (SizedVector K) := do
  let propri := proprioception (m.program r) t.reads
  let cmd := commandOf t
  let command := shapeCommand (m.program r) ![cmd.x, cmd.y, cmd.yaw]
  let posError ← combine (· - ·) ⟨12, fun k => propri.jointPos (jointIndicesLeg k)⟩
    v.defaultJointAngles
  some <| ((append (append ⟨3, command⟩ ⟨3, propri.baseAngVel⟩) ⟨3, propri.projectedGravity⟩).append
    posError).append ⟨12, fun k => propri.jointVel (jointIndicesLeg k)⟩

/-- `computeObservation`; `first` is `*isfirstRecObs_`. -/
def computeObservation (t : Tick (m.program r)) (first : Bool) (v : Vectors K) :
    Option (Vectors K) := do
  let sensors ← sensors t v
  let proprioObs ← checked m.observationSize (sensors.append v.lastActions)
  let proprioObs ←
    (if first then overwriteFrom (m.observationSize - m.actionsSize) 0 proprioObs
      else some proprioObs)
  let history ←
    (if first then fill m.stackSize.toNat v.proprioHistoryBuffer proprioObs
      else some v.proprioHistoryBuffer)
  let observations := if first then v.policyObservations.map fun _ => 0 else v.policyObservations
  let history ← push history proprioObs
  let size ← product m.observationSize m.stackSize
  let observations ← copyTo size.toNat history observations
  some { v with
    proprioHistoryBuffer := history
    policyObservations := observations.map (clamp (-m.clipObs) m.clipObs) }

/-- `computeActions`; the network takes inputs of one size and gives twelve outputs. -/
def computeActions (t : Tick (m.program r)) (v : Vectors K) : Option (Vectors K) := do
  let outputs ←
    (if fits : v.policyObservations.size = (m.program r).inputSize then
        some (t.run fun i => v.policyObservations.cells (i.cast fits.symm))
      else none)
  let actions ← copyTo m.actionsSize.toNat ⟨12, outputs⟩ v.actions
  some { v with actions := actions }

/-- The block under `count % decimation == 0`. -/
def evaluatePolicy (t : Tick (m.program r)) (first : Bool) (v : Vectors K) :
    Option (Vectors K) := do
  let v ← computeObservation t first { v with count := 0 }
  let v ← computeActions t v
  some { v with actions := v.actions.map (clamp (-m.clipActions) m.clipActions) }

/-- Iteration `j` of the leg loop. -/
def legWrite (m : ModelParam K) (r : Robot K) (v : Vectors K) (j : Fin 12) :
    Option (CmdWrite K) := do
  let action ← v.actions.get j
  let scale ← m.actionScale[j.val]?
  let pose ← v.defaultJointAngles.get j
  let stiffness ← m.jointStiffness[j.val]?
  let damping ← m.jointDamping[j.val]?
  some {
    slot := legIndex (m.program r) j
    write := fun cmd =>
      { cmd with pos := some (action * scale + pose)
                 kp := some stiffness, kd := some damping
                 motorId := some (legIndex (m.program r) j).val, vel := some 0, tau := some 0 } }

/-- `handleUserMode`: the vectors it leaves behind and the frame it hands over. -/
def handleUserMode (t : Tick (m.program r)) (first : Bool) (v : Vectors K) :
    Option (Vectors K × Frame K) := do
  let due ←
    (if m.decimation = 0 then none else some (decide ((v.count : ℤ).tmod m.decimation = 0)))
  let v ← (if due then evaluatePolicy t first v else some v)
  let legs ← every (legWrite m r v)
  let lastActions ← copyTo 12 v.actions v.lastActions
  some ({ v with lastActions := lastActions, count := v.count + 1 },
    scatter (armWrites t ++ (List.finRange 12).map legs) fun _ => .uninitialised)

/-- The frames of a sequence of calls, each with the value of `*isfirstRecObs_`. -/
def frames : Vectors K → List (Tick (m.program r) × Bool) → Option (List (Frame K))
  | _, [] => some []
  | v, (t, first) :: rest => do
      let (v, frame) ← handleUserMode t first v
      let later ← frames v rest
      some (frame :: later)

end ModelParam

end NoetixE1.Low
