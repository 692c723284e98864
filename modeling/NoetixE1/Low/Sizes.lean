import NoetixE1.Low.ModelParam
import NoetixE1.Low.Settling

/-!
# Which sizes are safe

The loops of `handleUserMode` stay inside the vectors that `getmodelparam` sizes exactly
when the configured sizes are the ones they expect, and then the functions on vectors of
run-time size are the model of the walking controller.
-/

namespace NoetixE1.Low

open Interpolation Machine Scatter SizedVector

namespace ModelParam

variable {K : Type} [Field K]

/-! ## Loading with fitting sizes -/

/-- The vectors that the globals hold. -/
def vectorsOf {m : ModelParam K} {r : Robot K} (g : Globals (m.program r)) : Vectors K where
  count := g.count
  actions := ⟨12, g.actions⟩
  lastActions := ⟨12, g.lastActions⟩
  defaultJointAngles := ⟨12, m.pose⟩
  proprioHistoryBuffer := ⟨(m.program r).inputSize, g.proprioHistoryBuffer⟩
  policyObservations := ⟨(m.program r).inputSize, g.policyObservations⟩

theorem getElem?_of_length {list : List K} (long : 12 ≤ list.length) (j : Fin 12) :
    list[j.val]? = some (list.getD j 0) := by
  have inside : j.val < list.length := j.isLt.trans_le long
  rw [List.getD_eq_getElem?_getD, List.getElem?_eq_getElem inside]
  rfl

theorem Fits.toNat_inputSize {m : ModelParam K} (fits : m.Fits) (r : Robot K) :
    (m.observationSize * m.stackSize).toNat = (m.program r).inputSize ∧
      (m.stackSize * m.observationSize).toNat = (m.program r).inputSize := by
  have stack := fits.stack
  have size : (m.program r).inputSize = m.stackSize.toNat * 45 := rfl
  rw [fits.observation, size]
  constructor <;> omega

omit [Field K] in
/-- Neither product of the sizes overflows. -/
theorem Fits.product {m : ModelParam K} (fits : m.Fits) :
    product m.observationSize m.stackSize = some (m.observationSize * m.stackSize) ∧
      product m.stackSize m.observationSize = some (m.stackSize * m.observationSize) := by
  have stack := fits.stack
  have upper := fits.inputSize
  rw [fits.observation] at upper ⊢
  constructor
  · exact product_eq ⟨by omega, upper⟩
  · exact product_eq ⟨by omega, by omega⟩

/-- With fitting sizes the program starts with the vectors that the model starts with. -/
theorem getmodelparam_eq {m : ModelParam K} (fits : m.Fits) (r : Robot K) (memory : ℕ → K) :
    getmodelparam m memory =
      some (vectorsOf (initial fun i : Fin (m.program r).inputSize => memory i)) := by
  have stack := fits.stack
  have twelve : m.actionsSize.toNat = 12 := congrArg Int.toNat fits.actions
  have actions : 0 ≤ m.actionsSize := by rw [fits.actions]; decide
  have total : 0 ≤ m.observationSize * m.stackSize ∧ 0 ≤ m.stackSize * m.observationSize := by
    rw [fits.observation]
    omega
  unfold getmodelparam
  rw [resize_of_toNat actions twelve, fits.product.1, fits.product.2,
    tabulate_eq_some twelve fun i => getElem?_of_length fits.pose i]
  simp only [Option.bind_eq_bind, Option.bind_some]
  rw [resize_of_toNat total.1 (fits.toNat_inputSize r).1,
    resize_of_toNat total.2 (fits.toNat_inputSize r).2]
  rfl

variable [LinearOrder K] {m : ModelParam K} {r : Robot K}

/-! ## Calls with fitting sizes -/

/-- The globals with which `handleUserMode` is called. -/
def prepared (t : Tick (m.program r)) (first : Bool) (g : Globals (m.program r)) :
    Globals (m.program r) :=
  setparameter (commandOf t) { g with isChangeMode := first }

/-- The globals when `handleUserMode` has read the sensors. -/
def called (t : Tick (m.program r)) (first : Bool) (g : Globals (m.program r)) :
    Globals (m.program r) :=
  updateStateEstimation t (prepared t first g)

theorem sensors_eq (t : Tick (m.program r)) (first : Bool) (g : Globals (m.program r)) :
    sensors t (vectorsOf g) =
      some ⟨3 + 3 + 3 + 12 + 12,
        walkSensors m.pose (shapeCommand (m.program r) (called t first g).command)
          (called t first g).propri⟩ := by
  unfold sensors
  dsimp only [vectorsOf]
  rw [combine_mk]
  rfl

theorem computeObservation_eq (fits : m.Fits) (t : Tick (m.program r)) (first : Bool)
    (g : Globals (m.program r)) :
    computeObservation t first (vectorsOf g) =
      some (vectorsOf (Low.computeObservation (called t first g))) := by
  have deep : 0 < (m.program r).stackSize := by
    have stack := fits.stack
    change 0 < m.stackSize.toNat
    omega
  have start : m.observationSize - m.actionsSize = (3 + 3 + 3 + 12 + 12 : ℕ) := by
    rw [fits.observation, fits.actions]
    rfl
  have size : ((3 + 3 + 3 + 12 + 12 + 12 : ℕ) : ℤ) = m.observationSize := fits.observation.symm
  have pushed (history : Fin (m.program r).inputSize → K)
      (record : Fin (m.program r).observationSize → K) :
      push ⟨(m.program r).inputSize, history⟩ ⟨3 + 3 + 3 + 12 + 12 + 12, record⟩ =
        some ⟨(m.program r).inputSize, HistoryStack.push history record⟩ :=
    push_mk deep history record
  have filled (history : Fin (m.program r).inputSize → K)
      (record : Fin (m.program r).observationSize → K) :
      fill m.stackSize.toNat ⟨(m.program r).inputSize, history⟩ ⟨3 + 3 + 3 + 12 + 12 + 12, record⟩ =
        some ⟨(m.program r).inputSize, HistoryStack.fill history record⟩ :=
    fill_mk history record
  have copied (source target : Fin (m.program r).inputSize → K) :=
    copyTo_mk (fits.toNat_inputSize r).1 source target
  simp only [computeObservation, Option.bind_eq_bind, Option.bind_eq_some_iff]
  refine ⟨_, sensors_eq t first g, _, if_pos size, ?_⟩
  cases first with
  | false => exact ⟨_, rfl, _, rfl, _, pushed _ _, _, fits.product.1, _, copied _ _, rfl⟩
  | true =>
      exact ⟨_, overwriteFrom_mk 0 start _ _, _, filled _ _, _, pushed _ _, _, fits.product.1, _,
        copied _ _, rfl⟩

theorem evaluatePolicy_eq (fits : m.Fits) (t : Tick (m.program r)) (first : Bool)
    (g : Globals (m.program r)) :
    evaluatePolicy t first (vectorsOf g) =
      some (vectorsOf (Low.evaluatePolicy t (called t first g))) := by
  have twelve : m.actionsSize.toNat = 12 := congrArg Int.toNat fits.actions
  simp only [evaluatePolicy, computeActions, Option.bind_eq_bind, Option.bind_eq_some_iff]
  exact ⟨_, computeObservation_eq fits t first { g with count := 0 },
    _, ⟨_, dif_pos rfl, _, copyTo_mk twelve _ _, rfl⟩, rfl⟩

omit [LinearOrder K] in
theorem legWrite_eq (fits : m.Fits) (g : Globals (m.program r)) (j : Fin 12) :
    legWrite m r (vectorsOf g) j = some {
      slot := legIndex (m.program r) j
      write := fun cmd =>
        { cmd with pos := some (g.actions j * (m.program r).actionScale j +
                     (m.program r).defaultJointAngles j)
                   kp := some ((m.program r).jointStiffness j)
                   kd := some ((m.program r).jointDamping j)
                   motorId := some (legIndex (m.program r) j).val
                   vel := some 0, tau := some 0 } } := by
  simp only [legWrite, Option.bind_eq_bind, Option.bind_eq_some_iff]
  exact ⟨_, get_mk _ j, _, getElem?_of_length fits.scale j, _, get_mk _ j,
    _, getElem?_of_length fits.stiffness j, _, getElem?_of_length fits.damping j, rfl⟩

omit [LinearOrder K] in
/-- `int64_t % int` truncates, but it is 0 for the same counts. -/
theorem due_eq (fits : m.Fits) (count : ℕ) :
    (if m.decimation = 0 then none else some (decide ((count : ℤ).tmod m.decimation = 0))) =
      some (decide (count % (m.program r).decimation = 0)) := by
  have same : (count : ℤ).tmod m.decimation = 0 ↔ count % m.decimation.natAbs = 0 := by
    rw [← Int.dvd_iff_tmod_eq_zero, Int.dvd_natCast, Nat.dvd_iff_mod_eq_zero]
  rw [if_neg fits.decimation]
  exact congrArg some (decide_eq_decide.mpr same)

/-- With fitting sizes a call fails nowhere and does what `handleUserMode` of the model does. -/
theorem handleUserMode_eq (fits : m.Fits) (t : Tick (m.program r)) (first : Bool)
    (g : Globals (m.program r)) :
    handleUserMode t first (vectorsOf g) =
      some (vectorsOf (Low.handleUserMode t (prepared t first g)).globals,
        userFrame t (policyStep t (prepared t first g))) := by
  have stepped :
      (if decide (g.count % (m.program r).decimation = 0) then evaluatePolicy t first (vectorsOf g)
        else some (vectorsOf g)) =
      some (vectorsOf (policyStep t (prepared t first g))) := by
    by_cases due : g.count % (m.program r).decimation = 0
    · have taken : policyStep t (prepared t first g) =
          Low.evaluatePolicy t (called t first g) := if_pos due
      rw [if_pos (decide_eq_true due), evaluatePolicy_eq fits, taken]
    · have kept : policyStep t (prepared t first g) = called t first g := if_neg due
      rw [if_neg fun yes => due (of_decide_eq_true yes), kept]
      rfl
  simp only [handleUserMode, Option.bind_eq_bind, Option.bind_eq_some_iff]
  exact ⟨_, due_eq (r := r) fits g.count, _, stepped, _, every_eq_some (legWrite_eq fits _),
    _, copyTo_mk rfl _ _, rfl⟩

/-! ## Calls with other sizes -/

omit [LinearOrder K] in
theorem sizes_of_loaded {memory : ℕ → K} {v : Vectors K}
    (loaded : getmodelparam m memory = some v) :
    v.count = 0 ∧ v.lastActions.size = m.actionsSize.toNat ∧
      v.defaultJointAngles.size = m.actionsSize.toNat ∧
      v.proprioHistoryBuffer.size = (m.stackSize * m.observationSize).toNat ∧
      m.observationSize * m.stackSize ≤ 2147483647 ∧
      m.actionsSize.toNat ≤ m.defaultJointPos.length := by
  simp only [getmodelparam, Option.bind_eq_bind, Option.bind_eq_some_iff] at loaded
  obtain ⟨actions, resized, _, multiplied, _, _, _, total, buffer, stacked, pose, tabulated,
    made⟩ := loaded
  obtain rfl := Option.some_inj.mp made
  obtain ⟨size, each⟩ := size_of_tabulate tabulated
  obtain ⟨small, _⟩ := product_eq_some_iff.mp multiplied
  obtain ⟨_, rfl⟩ := product_eq_some_iff.mp total
  refine ⟨rfl, size_of_resize resized, size, size_of_resize stacked, small.2, ?_⟩
  by_contra! short
  have inside := each m.defaultJointPos.length short
  rw [List.getElem?_eq_none (Nat.le_refl _)] at inside
  cases inside

theorem sizes_of_observed {t : Tick (m.program r)} {first : Bool} {v w : Vectors K}
    (observed : computeObservation t first v = some w) :
    v.defaultJointAngles.size = 12 ∧
      ((3 + 3 + 3 + 12 + 12 + v.lastActions.size : ℕ) : ℤ) = m.observationSize ∧
      3 + 3 + 3 + 12 + 12 + v.lastActions.size ≤ v.proprioHistoryBuffer.size := by
  simp only [computeObservation, sensors, Option.bind_eq_bind, Option.bind_eq_some_iff] at observed
  obtain ⟨sensors, ⟨posError, combined, gathered⟩, proprioObs, whole, record, cleared, history,
    filled, _, pushed, _⟩ := observed
  obtain ⟨twelve, errors⟩ := size_of_combine combined
  obtain rfl := Option.some_inj.mp gathered
  obtain ⟨size, rfl⟩ := size_of_checked whole
  have total : posError.size = 12 := errors
  have room := size_le_of_push pushed
  have kept : record.size = 3 + 3 + 3 + posError.size + 12 + v.lastActions.size ∧
      history.size = v.proprioHistoryBuffer.size := by
    cases first with
    | false =>
        obtain rfl := Option.some_inj.mp cleared
        obtain rfl := Option.some_inj.mp filled
        exact ⟨rfl, rfl⟩
    | true => exact ⟨size_of_overwriteFrom cleared, size_of_fill filled⟩
  rw [kept.1, kept.2, total] at room
  refine ⟨twelve.symm, ?_, room⟩
  rw [← size]
  change _ = ((3 + 3 + 3 + posError.size + 12 + v.lastActions.size : ℕ) : ℤ)
  rw [total]

omit [LinearOrder K] in
theorem lengths_of_legs {v : Vectors K} {legs : Fin 12 → CmdWrite K}
    (made : every (legWrite m r v) = some legs) :
    12 ≤ m.actionScale.length ∧ 12 ≤ m.jointStiffness.length ∧ 12 ≤ m.jointDamping.length := by
  obtain ⟨write, last⟩ := Option.isSome_iff_exists.mp (isSome_of_every made 11)
  simp only [legWrite, Option.bind_eq_bind, Option.bind_eq_some_iff] at last
  obtain ⟨_, _, _, scale, _, _, _, stiffness, _, damping, _⟩ := last
  obtain ⟨scale, _⟩ := List.getElem?_eq_some_iff.mp scale
  obtain ⟨stiffness, _⟩ := List.getElem?_eq_some_iff.mp stiffness
  obtain ⟨damping, _⟩ := List.getElem?_eq_some_iff.mp damping
  exact ⟨scale, stiffness, damping⟩

/-- A first call that does not fail leaves no other choice of the sizes: at count 0 it
evaluates the policy. -/
theorem fits_of_first {memory : ℕ → K} {v : Vectors K} (loaded : getmodelparam m memory = some v)
    {t : Tick (m.program r)} {first : Bool} (succeeds : (handleUserMode t first v).isSome) :
    m.Fits := by
  obtain ⟨start, lastActions, defaults, buffer, total, pose⟩ := sizes_of_loaded loaded
  obtain ⟨result, made⟩ := Option.isSome_iff_exists.mp succeeds
  simp only [handleUserMode, evaluatePolicy, Option.bind_eq_bind, Option.bind_eq_some_iff] at made
  obtain ⟨due, divided, _, evaluated, legs, written, _⟩ := made
  obtain ⟨scale, stiffness, damping⟩ := lengths_of_legs written
  have nonzero : m.decimation ≠ 0 := by
    intro zero
    rw [if_pos zero] at divided
    cases divided
  rw [if_neg nonzero, start] at divided
  obtain rfl := Option.some_inj.mp divided
  rw [if_pos (by simp)] at evaluated
  obtain ⟨_, observed, _⟩ := Option.bind_eq_some_iff.mp evaluated
  obtain ⟨twelve, size, room⟩ := sizes_of_observed observed
  have actions : m.actionsSize = 12 := by
    change v.defaultJointAngles.size = 12 at twelve
    omega
  have observation : m.observationSize = 45 := by
    rw [← size]
    change ((3 + 3 + 3 + 12 + 12 + v.lastActions.size : ℕ) : ℤ) = 45
    rw [lastActions, actions]
    rfl
  have stack : 1 ≤ m.stackSize := by
    change 3 + 3 + 3 + 12 + 12 + v.lastActions.size ≤ v.proprioHistoryBuffer.size at room
    rw [lastActions, buffer, actions, observation] at room
    omega
  rw [actions] at pose
  exact ⟨nonzero, actions, observation, stack, total, pose, scale, stiffness, damping⟩

/-! ## Runs -/

/-- With fitting sizes no sequence of calls fails. -/
theorem frames_isSome (fits : m.Fits) (calls : List (Tick (m.program r) × Bool))
    (g : Globals (m.program r)) : (frames (vectorsOf g) calls).isSome := by
  induction calls generalizing g with
  | nil => rfl
  | cons call rest ih =>
      obtain ⟨later, made⟩ := Option.isSome_iff_exists.mp
        (ih (Low.handleUserMode call.1 (prepared call.1 call.2 g)).globals)
      rw [frames, handleUserMode_eq fits]
      simp only [Option.bind_eq_bind, Option.bind_some, made, Option.isSome_some]

/--
After loading, any sequence of calls stays inside all vectors if and only if the sizes of
the section fit; otherwise already the first call fails.
-/
theorem frames_isSome_iff (m : ModelParam K) (r : Robot K) (memory : ℕ → K)
    (t : Tick (m.program r)) (first : Bool) (rest : List (Tick (m.program r) × Bool)) :
    ((getmodelparam m memory).bind fun v => frames v ((t, first) :: rest)).isSome ↔ m.Fits := by
  constructor
  · intro succeeds
    obtain ⟨result, made⟩ := Option.isSome_iff_exists.mp succeeds
    obtain ⟨v, loaded, called⟩ := Option.bind_eq_some_iff.mp made
    obtain ⟨_, called, _⟩ := Option.bind_eq_some_iff.mp called
    exact fits_of_first loaded (Option.isSome_iff_exists.mpr ⟨_, called⟩)
  · intro fits
    rw [getmodelparam_eq fits r, Option.bind_some]
    exact frames_isSome fits _ _

section Refinement

/-- The calls of `handleUserMode` in a stretch of ticks of the program. -/
def callsOf (g : Globals (m.program r)) (ticks : List (Tick (m.program r))) :
    List (Tick (m.program r) × Bool) :=
  emitted step (fun g t => if Walks g t then [(t, (buttons t g).isChangeMode)] else []) g ticks

/-- The frames handed over in the walking ticks of a stretch. -/
def walkFrames (g : Globals (m.program r)) (ticks : List (Tick (m.program r))) : List (Frame K) :=
  emitted step (fun g t => if Walks g t then (process t g).sent else []) g ticks

omit [LinearOrder K] in
theorem vectorsOf_congr {g g' : Globals (m.program r)}
    (same : g.toPolicyGlobals = g'.toPolicyGlobals) : vectorsOf g = vectorsOf g' := by
  unfold vectorsOf
  rw [same]

variable [IsStrictOrderedRing K]

theorem frames_callsOf (fits : m.Fits) (ticks : List (Tick (m.program r)))
    {g : Globals (m.program r)} (inv : Invariant g) :
    frames (vectorsOf g) (callsOf g ticks) = some (walkFrames g ticks) := by
  induction ticks generalizing g with
  | nil => rfl
  | cons t rest ih =>
      have later := ih (inv.step t)
      unfold callsOf walkFrames at later ⊢
      rw [emitted, emitted]
      by_cases walks : Walks g t
      · have outcome := process_of_walking inv walks
        have left := congrArg Outcome.globals outcome
        have sent := congrArg Outcome.sent outcome
        have made := handleUserMode_eq fits t (buttons t g).isChangeMode (buttons t g)
        rw [vectorsOf_congr (buttons_policy t g)] at made
        rw [if_pos walks, if_pos walks, List.singleton_append, frames, sent]
        refine Option.bind_eq_some_iff.mpr ⟨_, made, Option.bind_eq_some_iff.mpr ⟨_, ?_, rfl⟩⟩
        exact (congrArg (fun g => frames (vectorsOf g) _) left.symm).trans later
      · rw [if_neg walks, if_neg walks, List.nil_append, List.nil_append,
          ← vectorsOf_congr (step_away inv walks).1]
        exact later

/--
With fitting sizes the frames of the walking ticks of any run are those of the calls on
vectors of run-time size.
-/
theorem frames_of_run (fits : m.Fits) (r : Robot K) (memory : ℕ → K)
    (ticks : List (Tick (m.program r))) :
    ((getmodelparam m memory).bind fun v =>
        frames v (callsOf (initial fun i => memory i) ticks)) =
      some (walkFrames (initial fun i => memory i) ticks) := by
  rw [getmodelparam_eq fits r, Option.bind_some]
  exact frames_callsOf fits ticks (initial_invariant _)

/-- The `walk` section, in a run that reaches walking mode. -/
theorem frames_of_run_walk :
    let r : Robot ℚ := ⟨jointNames.symm, fun _ => ![0, 0, -1], fun _ => ![0, 0, 0]⟩
    let ticks : List (Tick (walk.program r)) :=
      [stillTick [9] 1, stillTick [10, 2] 1, stillTick [5, 2] 1]
    ((getmodelparam walk fun _ => 0).bind fun v =>
        frames v (callsOf (initial fun _ => 0) ticks)) =
      some (walkFrames (initial fun _ => 0) ticks) :=
  frames_of_run walk_fits ⟨jointNames.symm, fun _ => ![0, 0, -1], fun _ => ![0, 0, 0]⟩
    (fun _ => 0) [stillTick [9] 1, stillTick [10, 2] 1, stillTick [5, 2] 1]

end Refinement

end ModelParam

end NoetixE1.Low
