import NoetixE1.Low.Frames
import NoetixE1.Low.Transitions

/-!
# One tick and the walking globals

What a tick does to the globals that only `handleUserMode` uses, in terms of the
globals before the tick: nothing in the other modes, and in walking mode one of two
things, depending on whether the policy is evaluated.
-/

namespace NoetixE1.Low

open HistoryStack Interpolation

variable {K : Type} [Field K] [LinearOrder K] {P : Program K}

/-- The sensor part of the observation a tick would make. -/
def sensorsAt (t : Tick P) : Fin P.sensorSize → K :=
  P.sensorPart
    (shapeCommand P ![(commandOf t).x, (commandOf t).y, (commandOf t).yaw])
    (proprioception P t.reads)

/-- The globals in which `handleUserMode` tests the counter. -/
def walkState (t : Tick P) (g : Globals P) : Globals P :=
  updateStateEstimation t (setparameter (commandOf t) (buttons t g))

/-- The evaluation a tick makes if the counter asks for one. -/
def evaluationAt (t : Tick P) (g : Globals P) : Evaluation P := evaluationOf t (walkState t g)

/-- The counter asks for an evaluation. -/
def Due (g : Globals P) : Prop := g.count % P.decimation = 0

instance (g : Globals P) : Decidable (Due g) := inferInstanceAs (Decidable (_ = _))

theorem evaluationAt_observation (t : Tick P) (g : Globals P) :
    (evaluationAt t g).observation =
      Fin.append (sensorsAt t)
        (if (buttons t g).isChangeMode then fun _ => 0 else g.lastActions) := by
  have kept := congrArg PolicyGlobals.lastActions (buttons_policy t g)
  change Fin.append (sensorsAt t) (ite _ _ (buttons t g).lastActions) = _
  rw [kept]
  rfl

/-- The history after the evaluation a tick would make. -/
theorem stackedHistory_walkState (t : Tick P) (g : Globals P) :
    stackedHistory (walkState t g) =
      push (if (buttons t g).isChangeMode then
          fill g.proprioHistoryBuffer (evaluationAt t g).observation
        else g.proprioHistoryBuffer) (evaluationAt t g).observation := by
  have kept := congrArg PolicyGlobals.proprioHistoryBuffer (buttons_policy t g)
  change push (ite _ (fill (buttons t g).proprioHistoryBuffer _)
    (buttons t g).proprioHistoryBuffer) _ = _
  rw [kept]
  rfl

theorem evaluationAt_action (t : Tick P) (g : Globals P) :
    (evaluationAt t g).action =
      fun j => clamp (-P.clipActions) P.clipActions (t.run (evaluationAt t g).input j) := rfl

theorem evaluationAt_input (t : Tick P) (g : Globals P) :
    (evaluationAt t g).input =
      fun i => clamp (-P.clipObs) P.clipObs (stackedHistory (walkState t g) i) := rfl

/-! ## Ticks in the other modes -/

theorem handlePosture_away (target : Fin 24 → K)
    (assign : Fin 24 → K → MotorCmd K → MotorCmd K) (g : Globals P) :
    (handlePosture target assign g).globals.toPolicyGlobals = g.toPolicyGlobals ∧
      (handlePosture target assign g).globals.isChangeMode = g.isChangeMode ∧
      (handlePosture target assign g).evaluations = [] := by
  unfold handlePosture
  split <;> exact ⟨rfl, rfl, rfl⟩

theorem dispatch_away (t : Tick P) {g : Globals P} (away : g.mode ≠ .usermode) :
    (dispatch t g).globals.toPolicyGlobals = g.toPolicyGlobals ∧
      (dispatch t g).globals.isChangeMode = g.isChangeMode ∧
      (dispatch t g).evaluations = [] := by
  unfold dispatch
  cases mode : g.mode with
  | stand => exact handlePosture_away standJointAngles standAssign g
  | lie => exact handlePosture_away lieJointAngles lieAssign g
  | default => exact ⟨rfl, rfl, rfl⟩
  | usermode => exact absurd mode away

/-- Outside walking mode a tick leaves the walking globals alone. -/
theorem step_away {g : Globals P} (inv : Invariant g) {t : Tick P}
    (away : (buttons t g).mode ≠ .usermode) :
    (step g t).toPolicyGlobals = g.toPolicyGlobals ∧ (process t g).evaluations = [] := by
  obtain ⟨policy, _, evaluations⟩ := dispatch_away t away
  rw [step_eq inv, process_eq inv]
  exact ⟨policy.trans (buttons_policy t g), evaluations⟩

/-! ## Ticks in walking mode -/

/-- What a tick in walking mode does to the walking globals. -/
structure WalkTick (t : Tick P) (g : Globals P) : Prop where
  count : (step g t).count = (if Due g then 0 else g.count) + 1
  actions : (step g t).actions = if Due g then (evaluationAt t g).action else g.actions
  lastActions : (step g t).lastActions = (step g t).actions
  isChangeMode : (step g t).isChangeMode = if Due g then false else (buttons t g).isChangeMode
  history : (step g t).proprioHistoryBuffer =
    if Due g then stackedHistory (walkState t g) else g.proprioHistoryBuffer
  evaluations : (process t g).evaluations = if Due g then [evaluationAt t g] else []

omit [LinearOrder K] in
theorem due_walkState (t : Tick P) (g : Globals P) :
    (walkState t g).count % P.decimation = 0 ↔ Due g := by
  have kept := congrArg PolicyGlobals.count (buttons_policy t g)
  change (buttons t g).count % P.decimation = 0 ↔ _
  rw [kept]
  exact Iff.rfl

theorem policyStep_walkState (t : Tick P) (g : Globals P) :
    policyStep t (setparameter (commandOf t) (buttons t g)) =
      if Due g then evaluatePolicy t (walkState t g) else walkState t g :=
  if_congr (due_walkState t g) rfl rfl

theorem policyEvaluations_walkState (t : Tick P) (g : Globals P) :
    policyEvaluations t (setparameter (commandOf t) (buttons t g)) =
      if Due g then [evaluationAt t g] else [] :=
  if_congr (due_walkState t g) rfl rfl

theorem process_of_walking {g : Globals P} (inv : Invariant g) {t : Tick P}
    (walking : (buttons t g).mode = .usermode) :
    process t g = handleUserMode t (setparameter (commandOf t) (buttons t g)) := by
  rw [process_eq inv]
  unfold dispatch
  rw [walking]

theorem walk_tick {g : Globals P} (inv : Invariant g) {t : Tick P}
    (walking : (buttons t g).mode = .usermode) : WalkTick t g := by
  have outcome := process_of_walking inv walking
  have globals : step g t = (handleUserMode t (setparameter (commandOf t) (buttons t g))).globals :=
    congrArg Outcome.globals outcome
  have evaluations : (process t g).evaluations = if Due g then [evaluationAt t g] else [] :=
    (congrArg Outcome.evaluations outcome).trans (policyEvaluations_walkState t g)
  unfold handleUserMode at globals
  rw [policyStep_walkState] at globals
  by_cases due : Due g
  · rw [if_pos due] at globals
    exact {
      count := by rw [globals, if_pos due]; rfl
      actions := by rw [globals, if_pos due]; rfl
      lastActions := by rw [globals]
      isChangeMode := by rw [globals, if_pos due]; rfl
      history := by rw [globals, if_pos due]; rfl
      evaluations := evaluations }
  · rw [if_neg due] at globals
    have kept := buttons_policy t g
    have held : (buttons t g).count = g.count ∧ (buttons t g).actions = g.actions ∧
        (buttons t g).proprioHistoryBuffer = g.proprioHistoryBuffer := by
      rw [kept]
      exact ⟨rfl, rfl, rfl⟩
    exact {
      count := by rw [globals, if_neg due]; exact congrArg (· + 1) held.1
      actions := by rw [globals, if_neg due]; exact held.2.1
      lastActions := by rw [globals]
      isChangeMode := by rw [globals, if_neg due]; rfl
      history := by rw [globals, if_neg due]; exact held.2.2
      evaluations := evaluations }

/-- The frame of a walking tick drives each leg joint by the action held after the tick. -/
theorem walk_leg [IsStrictOrderedRing K] {g : Globals P} (inv : Invariant g) {t : Tick P}
    (walking : (buttons t g).mode = .usermode) {frame : Frame K} (sent : frame ∈ (process t g).sent)
    (j : Fin 12) :
    frame (legIndex P j) =
      { pos := some ((step g t).actions j * P.actionScale j + P.defaultJointAngles j)
        vel := some 0, tau := some 0, kp := some (P.jointStiffness j)
        kd := some (P.jointDamping j), motorId := some (legIndex P j).val } := by
  have outcome := process_of_walking inv walking
  rw [outcome] at sent
  rw [List.mem_singleton.mp sent, userFrame_leg, step, outcome]
  rfl

/-- And every other joint by a small step from its measured position. -/
theorem walk_arm [IsStrictOrderedRing K] {g : Globals P} (inv : Invariant g) {t : Tick P}
    (walking : (buttons t g).mode = .usermode) {frame : Frame K} (sent : frame ∈ (process t g).sent)
    (i : Fin 12) :
    frame (armIndex P i) =
      { pos := some (armSetpoint (armRest i) ((t.reads.arm i).motorData (armIndex P i)).pos)
        vel := some 0, tau := some 0, kp := some (armKp i), kd := some 5
        motorId := some (armIndex P i).val } := by
  rw [process_of_walking inv walking] at sent
  rw [List.mem_singleton.mp sent, userFrame_arm]

end NoetixE1.Low
