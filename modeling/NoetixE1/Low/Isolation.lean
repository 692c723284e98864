import NoetixE1.Low.Plan
import NoetixE1.Low.ReadBack
import NoetixE1.Low.Stop
import NoetixE1.Low.WalkSession

/-!
# What walking depends on

Two runs of one program side by side.  What the policy is given and what it commands
depends on the buttons and on what the ticks show the policy, and on nothing else: not on
other joints, and not on what the history buffer held before the program wrote to it.  The
postures in turn depend on the buttons and the captured poses, and not on the policy.
-/

namespace NoetixE1.Low

open HistoryStack Machine Scatter

variable {K : Type} [Field K] [LinearOrder K] {P : Program K}

/-! ## Ticks and states that look alike to the policy -/

/-- The ticks have the same buttons, show the policy the same and run the same network. -/
structure Alike (t t' : Tick P) : Prop where
  panel : panelOf t = panelOf t'
  sensors : sensorsAt t = sensorsAt t'
  run : t.run = t'.run

/-- The next observation, if one is made in walking mode, fills the history buffer. -/
def Refills (g : Globals P) : Prop := g.mode = .usermode → g.isChangeMode = true

/-- The globals agree in all that decides what the policy does next. -/
structure Twin (g g' : Globals P) : Prop where
  left : Invariant g
  right : Invariant g'
  console : consoleOf g = consoleOf g'
  isChangeMode : g.isChangeMode = g'.isChangeMode
  count : g.count = g'.count
  actions : g.actions = g'.actions
  lastActions : g.lastActions = g'.lastActions
  history : g.proprioHistoryBuffer = g'.proprioHistoryBuffer ∨ Refills g

/-! ## The button branches -/

/-- Whether the next observation is a first one is decided by the console. -/
theorem buttons_flag {g : Globals P} (inv : Invariant g) (t : Tick P) :
    (buttons t g).isChangeMode =
      ((consoleOf g).walks (panelOf t) || (consoleOf g).leaves (panelOf t) || g.isChangeMode) := by
  have walks := (walks_iff inv t).trans (fires5_iff inv t)
  have leaves := leaves_iff inv t
  rw [buttons_isChangeMode inv]
  by_cases either : ChordWalks t g ∨ ElevenLeaves t g
  · rw [if_pos either]
    rcases either with walking | leaving
    · simp [walks.mpr walking]
    · simp [leaves.mpr leaving]
  · obtain ⟨still, stays⟩ := not_or.mp either
    rw [if_neg either, Bool.eq_false_of_not_eq_true (walks.not.mpr still),
      Bool.eq_false_of_not_eq_true (leaves.not.mpr stays)]
    rfl

/-- Walking goes on or is entered afresh, so a buffer to be refilled still is. -/
theorem Refills.buttons {g : Globals P} (inv : Invariant g) (refills : Refills g) {t : Tick P}
    (walking : (buttons t g).mode = .usermode) : (Low.buttons t g).isChangeMode = true := by
  rw [buttons_isChangeMode inv]
  split_ifs with either
  · rfl
  · rcases ((buttons_usermode_iff inv t).mp walking).2 with walks | ⟨_, _, mode⟩
    · exact absurd (Or.inl walks) either
    · exact refills mode

theorem step_isChangeMode_away {g : Globals P} (inv : Invariant g) {t : Tick P}
    (away : (buttons t g).mode ≠ .usermode) :
    (step g t).isChangeMode = (buttons t g).isChangeMode := by
  rw [step_eq inv]
  exact (dispatch_away t away).2.1

omit [Field K] [LinearOrder K] in
theorem evaluation_eq {made made' : Evaluation P}
    (observation : made.observation = made'.observation)
    (input : made.input = made'.input) (action : made.action = made'.action) : made = made' := by
  cases made
  cases made'
  simp_all

namespace Twin

variable {g g' : Globals P} {t t' : Tick P}

theorem mode_eq (twin : Twin g g') (alike : Alike t t') :
    (buttons t g).mode = (buttons t' g').mode := by
  rw [← next_mode twin.left, ← next_mode twin.right, twin.console, alike.panel]

theorem flag_eq (twin : Twin g g') (alike : Alike t t') :
    (buttons t g).isChangeMode = (buttons t' g').isChangeMode := by
  rw [buttons_flag twin.left, buttons_flag twin.right, twin.console, alike.panel,
    twin.isChangeMode]

theorem due_iff (twin : Twin g g') : Due g ↔ Due g' := by
  unfold Due
  rw [twin.count]

/-- The evaluation a tick would make in walking mode. -/
theorem evaluationAt_eq (twin : Twin g g') (alike : Alike t t')
    (walking : (buttons t g).mode = .usermode) : evaluationAt t g = evaluationAt t' g' ∧
      stackedHistory (walkState t g) = stackedHistory (walkState t' g') := by
  have observation : (evaluationAt t g).observation = (evaluationAt t' g').observation := by
    rw [evaluationAt_observation, evaluationAt_observation, alike.sensors, twin.flag_eq alike,
      twin.lastActions]
  have stacked : stackedHistory (walkState t g) = stackedHistory (walkState t' g') := by
    rw [stackedHistory_walkState, stackedHistory_walkState, ← observation, ← twin.flag_eq alike]
    rcases twin.history with same | refills
    · rw [same]
    · rw [refills.buttons twin.left walking]
      exact congrArg (push · _) (fill_eq_fill _ _ _)
  have input : (evaluationAt t g).input = (evaluationAt t' g').input := by
    rw [evaluationAt_input, evaluationAt_input, stacked]
  have action : (evaluationAt t g).action = (evaluationAt t' g').action := by
    rw [evaluationAt_action, evaluationAt_action, input, alike.run]
  exact ⟨evaluation_eq observation input action, stacked⟩

variable [IsStrictOrderedRing K]

/-- Matching ticks keep the globals alike and make the same evaluations. -/
theorem step (twin : Twin g g') (alike : Alike t t') :
    Twin (step g t) (step g' t') ∧ (process t g).evaluations = (process t' g').evaluations := by
  have console : consoleOf (Low.step g t) = consoleOf (Low.step g' t') := by
    rw [consoleOf_step twin.left, consoleOf_step twin.right, twin.console, alike.panel]
  have same := twin.mode_eq alike
  have flag := twin.flag_eq alike
  by_cases walking : (buttons t g).mode = .usermode
  · have tick := walk_tick twin.left walking
    have tick' := walk_tick twin.right (same ▸ walking)
    obtain ⟨made, stacked⟩ := twin.evaluationAt_eq alike walking
    have actions : (Low.step g t).actions = (Low.step g' t').actions := by
      rw [tick.actions, tick'.actions, made, twin.actions]
      exact if_congr twin.due_iff rfl rfl
    refine ⟨⟨twin.left.step t, twin.right.step t', console, ?_, ?_, actions, ?_, ?_⟩, ?_⟩
    · rw [tick.isChangeMode, tick'.isChangeMode, flag]
      exact if_congr twin.due_iff rfl rfl
    · rw [tick.count, tick'.count, twin.count]
      exact congrArg (· + 1) (if_congr twin.due_iff rfl rfl)
    · rw [tick.lastActions, tick'.lastActions, actions]
    · -- the buffers agree once an observation has been made; until then it is still to come
      rw [tick.history, tick'.history, ← stacked]
      by_cases due : Due g
      · exact Or.inl ((if_pos due).trans (if_pos (twin.due_iff.mp due)).symm)
      · rw [if_neg due, if_neg (twin.due_iff.not.mp due)]
        refine twin.history.imp_right fun refills _ => ?_
        rw [tick.isChangeMode, if_neg due]
        exact refills.buttons twin.left walking
    · rw [tick.evaluations, tick'.evaluations, made]
      exact if_congr twin.due_iff rfl rfl
  · obtain ⟨policy, evaluations⟩ := step_away twin.left walking
    obtain ⟨policy', evaluations'⟩ := step_away twin.right (same ▸ walking)
    have kept := step_isChangeMode_away twin.left walking
    have kept' := step_isChangeMode_away twin.right (same ▸ walking)
    refine ⟨⟨twin.left.step t, twin.right.step t', console, ?_, ?_, ?_, ?_, Or.inr ?_⟩, ?_⟩
    · rw [kept, kept', flag]
    · rw [policy, policy', twin.count]
    · rw [policy, policy', twin.actions]
    · rw [policy, policy', twin.lastActions]
    · intro mode
      exact absurd ((step_console twin.left t).mode.symm.trans mode) walking
    · rw [evaluations, evaluations']

/-- In walking mode matching ticks command the legs alike. -/
theorem leg_eq (twin : Twin g g') (alike : Alike t t') (walking : (buttons t g).mode = .usermode)
    {frame frame' : Frame K} (sent : frame ∈ (process t g).sent)
    (sent' : frame' ∈ (process t' g').sent) (j : Fin 12) :
    frame (legIndex P j) = frame' (legIndex P j) := by
  have same := twin.mode_eq alike
  rw [walk_leg twin.left walking sent, walk_leg twin.right (same ▸ walking) sent',
    (twin.step alike).1.actions]

end Twin

/-! ## Runs on what the policy sees -/

/-- The commands for the legs that the walking ticks of a run hand over. -/
def legCommands (g : Globals P) (t : Tick P) : List (Fin 12 → MotorCmd K) :=
  if (buttons t g).mode = .usermode then
    (process t g).sent.map fun frame j => frame (legIndex P j)
  else []

/-- The program starts in the same state, but for the history buffer that is to be filled. -/
theorem initial_twin [IsStrictOrderedRing K] (history history' : Fin P.inputSize → K) :
    Twin (initial history) (initial history') where
  left := initial_invariant history
  right := initial_invariant history'
  console := rfl
  isChangeMode := rfl
  count := rfl
  actions := rfl
  lastActions := rfl
  history := Or.inr fun absurd => by cases absurd

section Runs

variable [IsStrictOrderedRing K]

theorem twin_simulates : Simulates step step (Twin (P := P)) Alike :=
  fun _ _ twin _ _ alike => (twin.step alike).1

theorem Twin.legCommands_eq {g g' : Globals P} (twin : Twin g g') {t t' : Tick P}
    (alike : Alike t t') : legCommands g t = legCommands g' t' := by
  have same := twin.mode_eq alike
  have sent := process_sent twin.left t
  have sent' := process_sent twin.right t'
  unfold legCommands
  by_cases walking : (buttons t g).mode = .usermode
  · rw [if_pos walking, if_pos (same ▸ walking), sent, sent', List.map_singleton,
      List.map_singleton]
    refine congrArg (fun cmds => [cmds]) (funext fun j => ?_)
    exact twin.leg_eq alike walking (by rw [sent]; exact List.mem_singleton_self _)
      (by rw [sent']; exact List.mem_singleton_self _) j
  · rw [if_neg walking, if_neg (same ▸ walking)]

end Runs

/-- The ticks agree on the buttons, the sticks, the inertial unit, the leg motors and the
network; the other joints, and what a posture motion would capture, may differ. -/
structure SameForLegs (t t' : Tick P) : Prop where
  button : ∀ index, t.button index = t'.button index
  axes : t.reads.remote.remoteData.axes = t'.reads.remote.remoteData.axes
  imu : t.reads.imu.imuData = t'.reads.imu.imuData
  legs : ∀ k, t.reads.motor.motorData (legIndex P k) = t'.reads.motor.motorData (legIndex P k)
  run : t.run = t'.run

theorem SameForLegs.alike {t t' : Tick P.withWalkSensors} (same : SameForLegs t t') :
    Alike t t' where
  panel := by
    unfold panelOf
    rw [same.button, same.button, same.button, same.button, same.button]
  sensors := by
    have command : commandOf t = commandOf t' := by
      unfold commandOf
      dsimp only
      rw [same.axes]
    have position (k : Fin 12) :
        (proprioception P.withWalkSensors t.reads).jointPos (jointIndicesLeg k) =
        (proprioception P.withWalkSensors t'.reads).jointPos (jointIndicesLeg k) :=
      congrArg MotorState.pos (same.legs k)
    have velocity (k : Fin 12) :
        (proprioception P.withWalkSensors t.reads).jointVel (jointIndicesLeg k) =
        (proprioception P.withWalkSensors t'.reads).jointVel (jointIndicesLeg k) :=
      congrArg MotorState.vel (same.legs k)
    have body : (proprioception P.withWalkSensors t.reads).baseAngVel =
          (proprioception P.withWalkSensors t'.reads).baseAngVel ∧
        (proprioception P.withWalkSensors t.reads).projectedGravity =
          (proprioception P.withWalkSensors t'.reads).projectedGravity := by
      unfold proprioception
      rw [same.imu]
      exact ⟨rfl, rfl⟩
    unfold sensorsAt
    rw [command]
    change walkSensors _ _ _ = walkSensors _ _ _
    unfold walkSensors
    rw [body.1, body.2, funext velocity]
    simp only [position]
  run := same.run

variable [IsStrictOrderedRing K]

/--
Two runs that agree tick by tick on the buttons, the sticks, the inertial unit, the leg
motors and the network make the same policy evaluations and give the legs the same
commands in walking mode, whatever the other joints measure, whatever was captured, and
whatever the history buffer held at the start.
-/
theorem walking_isolated (history history' : Fin P.withWalkSensors.inputSize → K)
    {ticks ticks' : List (Tick P.withWalkSensors)} (same : List.Forall₂ SameForLegs ticks ticks') :
    emitted step (fun g t => (process t g).evaluations) (initial history) ticks =
        emitted step (fun g t => (process t g).evaluations) (initial history') ticks' ∧
      emitted step legCommands (initial history) ticks =
        emitted step legCommands (initial history') ticks' := by
  have alike : List.Forall₂ Alike ticks ticks' := same.imp fun _ _ agree => agree.alike
  have start := initial_twin history history'
  constructor
  · exact twin_simulates.emitted (fun _ _ twin _ _ alike => (twin.step alike).2) alike start
  · exact twin_simulates.emitted (fun _ _ twin _ _ alike => twin.legCommands_eq alike) alike start

/-- The status of a still robot whose legs are at `angle` and whose other joints are elsewhere. -/
def elsewhereTick {P : Program K} (pressed : List (Fin 14)) (angle elsewhere : K) : Tick P :=
  let status : RobotHardwareStatus K :=
    { stillStatus pressed angle with
      motorData := fun slot => if ∃ k, legIndex P k = slot then ⟨angle, 0⟩ else ⟨elsewhere, 0⟩ }
  ⟨Reads.single status, fun _ _ => 0⟩

omit [LinearOrder K] [IsStrictOrderedRing K] in
theorem sameForLegs_elsewhere (pressed : List (Fin 14)) (angle elsewhere : K) :
    SameForLegs (P := P) (stillTick pressed angle) (elsewhereTick pressed angle elsewhere) where
  button _ := rfl
  axes := rfl
  imu := rfl
  legs k := (if_pos ⟨k, rfl⟩).symm
  run := rfl

/-- A walk with the arms at rest, and one with the arms and the captured pose elsewhere. -/
theorem walking_isolated_level :
    let walk := [stillTick [9] 1, stillTick [10, 2] 1, stillTick [5, 2] 1]
    let elsewhere := [elsewhereTick [9] 1 2, elsewhereTick [10, 2] 1 3, elsewhereTick [5, 2] 1 4]
    let start := initial (P := (levelProgram jointNames.symm).withWalkSensors) fun _ => 0
    let start' := initial (P := (levelProgram jointNames.symm).withWalkSensors) fun _ => 1
    emitted step (fun g t => (process t g).evaluations) start walk =
        emitted step (fun g t => (process t g).evaluations) start' elsewhere ∧
      emitted step legCommands start walk = emitted step legCommands start' elsewhere :=
  walking_isolated (fun _ => 0) (fun _ => 1)
    (.cons (sameForLegs_elsewhere _ _ _) (.cons (sameForLegs_elsewhere _ _ _)
      (.cons (sameForLegs_elsewhere _ _ _) .nil)))

/-! ## The uninitialised history buffer -/

omit [LinearOrder K] [IsStrictOrderedRing K] in
/-- A posture frame depends on the captured joints and the progress only. -/
theorem postureFrame_congr (target : Fin 24 → K) (assign : Fin 24 → K → MotorCmd K → MotorCmd K)
    {g g' : Globals P} (angles : g.currentJointAngles = g'.currentJointAngles)
    (percent : g.standPercent = g'.standPercent) :
    postureFrame target assign g = postureFrame target assign g' := by
  unfold postureFrame postureWrites
  rw [angles, percent]

/-- Away from walking, the frame depends on the mode, the captured joints and the progress. -/
theorem sent_eq_of_posture {g g' : Globals P} (inv : Invariant g) (inv' : Invariant g')
    {t t' : Tick P} (away : (buttons t g).mode ≠ .usermode)
    (same : (buttons t g).mode = (buttons t' g').mode)
    (angles : (buttons t g).currentJointAngles = (buttons t' g').currentJointAngles)
    (percent : (buttons t g).standPercent = (buttons t' g').standPercent) :
    (process t g).sent = (process t' g').sent := by
  rw [process_sent inv t, process_sent inv' t']
  unfold frameWrites frameStart
  rw [← same]
  cases mode : (buttons t g).mode with
  | stand => exact congrArg (fun frame => [frame]) (postureFrame_congr _ _ angles percent)
  | lie => exact congrArg (fun frame => [frame]) (postureFrame_congr _ _ angles percent)
  | default => rfl
  | usermode => exact absurd mode away

/-- The ticks look alike to the policy, and they capture the same poses and find the arms at
the same places. -/
structure Matching (t t' : Tick P) : Prop extends Alike t t' where
  asked : askedBy t = askedBy t'
  arm : ∀ i, ((t.reads.arm i).motorData (armIndex P i)).pos =
    ((t'.reads.arm i).motorData (armIndex P i)).pos

omit [IsStrictOrderedRing K] in
theorem Matching.refl (t : Tick P) : Matching t t := ⟨⟨rfl, rfl, rfl⟩, rfl, fun _ => rfl⟩

/-- Twins that show the same plan hand over the same frame in matching ticks. -/
theorem Twin.sent_eq {g g' : Globals P} (twin : Twin g g') {plan : Plan K} (shows : Shows g plan)
    (shows' : Shows g' plan) {t t' : Tick P} (matching : Matching t t') :
    (process t g).sent = (process t' g').sent := by
  have alike := matching.toAlike
  have same := twin.mode_eq alike
  have angles : (buttons t g).currentJointAngles = (buttons t' g').currentJointAngles := by
    rw [← shows.originAt twin.left, ← shows'.originAt twin.right, matching.asked]
  have percent : (buttons t g).standPercent = (buttons t' g').standPercent := by
    rw [shows.progressAt twin.left, shows'.progressAt twin.right, matching.asked]
  by_cases walking : (buttons t g).mode = .usermode
  · have walking' := same ▸ walking
    have sent := process_sent twin.left t
    have sent' := process_sent twin.right t'
    rw [sent, sent']
    refine congrArg (fun frame => [frame]) (funext fun slot => ?_)
    have member := List.mem_singleton_self
      (scatter (frameWrites t (buttons t g)) (frameStart (buttons t g)))
    have member' := List.mem_singleton_self
      (scatter (frameWrites t' (buttons t' g')) (frameStart (buttons t' g')))
    rw [← sent] at member
    rw [← sent'] at member'
    rcases exists_user_slot P slot with ⟨i, rfl⟩ | ⟨j, rfl⟩
    · rw [walk_arm twin.left walking member, walk_arm twin.right walking' member',
        matching.arm i]
    · exact twin.leg_eq alike walking member member' j
  · exact sent_eq_of_posture twin.left twin.right walking same angles percent

/-- Twins that show the same plan. -/
def PlannedTwin (g g' : Globals P) : Prop :=
  Twin g g' ∧ ∃ plan : Plan K, Shows g plan ∧ Shows g' plan

theorem initial_plannedTwin (history history' : Fin P.inputSize → K) :
    PlannedTwin (initial history) (initial history') :=
  ⟨initial_twin history history', _, initial_shows history, initial_shows history'⟩

theorem plannedTwin_simulates : Simulates step step (PlannedTwin (P := P)) Matching := by
  rintro g g' ⟨twin, plan, shows, shows'⟩ t t' matching
  have followed := shows'.step twin.right t'
  rw [← matching.asked] at followed
  exact ⟨(twin.step matching.toAlike).1, _, shows.step twin.left t, followed⟩

/-- Matching runs hand over the same frames and make the same evaluations. -/
theorem matching_runs (history history' : Fin P.inputSize → K) {ticks ticks' : List (Tick P)}
    (matched : List.Forall₂ Matching ticks ticks') :
    framesOf (initial history) ticks = framesOf (initial history') ticks' ∧
      emitted step (fun g t => (process t g).evaluations) (initial history) ticks =
        emitted step (fun g t => (process t g).evaluations) (initial history') ticks' := by
  have start := initial_plannedTwin history history'
  constructor
  · refine plannedTwin_simulates.emitted ?_ matched start
    rintro g g' ⟨twin, _, shows, shows'⟩ t t' matching
    exact twin.sent_eq shows shows' matching
  · refine plannedTwin_simulates.emitted ?_ matched start
    rintro g g' ⟨twin, _⟩ t t' matching
    exact (twin.step matching.toAlike).2

/--
What the history buffer holds before the program first writes to it never shows: every run
hands over the same frames and makes the same policy evaluations from any two contents.
-/
theorem uninitialised_history (history history' : Fin P.inputSize → K) (ticks : List (Tick P)) :
    framesOf (initial history) ticks = framesOf (initial history') ticks ∧
      evaluationsOf (initial history) ticks = evaluationsOf (initial history') ticks := by
  have matched : List.Forall₂ Matching ticks ticks := List.forall₂_same.mpr fun t _ => .refl t
  constructor
  · exact (matching_runs history history' matched).1
  · have simulates : Simulates step step (Twin (P := P)) Eq := by
      rintro g g' twin t _ rfl
      exact (twin.step (Matching.refl t).toAlike).1
    refine simulates.emitted ?_ (List.forall₂_same.mpr fun _ _ => rfl)
      (initial_twin history history')
    rintro g g' twin t _ rfl
    exact congrArg (List.map (t, ·)) (twin.step (Matching.refl t).toAlike).2

/-- Walking at once, from a history of zeros and from one of ones. -/
theorem uninitialised_history_level :
    let ticks : List (Tick (levelProgram jointNames.symm)) :=
      [stillTick [5, 2] 1, stillTick [] 0]
    framesOf (initial fun _ => 0) ticks = framesOf (initial fun _ => 1) ticks ∧
      evaluationsOf (initial fun _ => 0) ticks = evaluationsOf (initial fun _ => 1) ticks :=
  uninitialised_history (fun _ => 0) (fun _ => 1) [stillTick [5, 2] 1, stillTick [] 0]

/-! ## Postures -/

/-- The ticks agree on the panel, and on the joint positions where a button that captures
them is pressed; all else may differ. -/
structure SameForPosture (t t' : Tick P) : Prop where
  panel : panelOf t = panelOf t'
  lieCapture : t.button 9 = 1 →
    measuredAngles P t.reads.lieCapture = measuredAngles P t'.reads.lieCapture
  standCapture : t.button 10 = 1 → t.button 2 = 1 →
    measuredAngles P t.reads.standCapture = measuredAngles P t'.reads.standCapture

omit [IsStrictOrderedRing K] [LinearOrder K] [Field K] in
theorem SameForPosture.refl (t : Tick P) : SameForPosture t t := ⟨rfl, fun _ => rfl, fun _ _ => rfl⟩

omit [IsStrictOrderedRing K] [LinearOrder K] [Field K] in
/-- The plan takes over a pose only where a button captures it. -/
theorem SameForPosture.originAt {t t' : Tick P} (same : SameForPosture t t') (plan : Plan K) :
    plan.originAt (askedBy t) = plan.originAt (askedBy t') := by
  have panel : (askedBy t).toPanel = (askedBy t').toPanel := same.panel
  unfold Plan.originAt
  rw [← panel]
  split_ifs with rises toggles
  · simp only [Console.rises, askedBy, panelOf, Bool.and_eq_true, decide_eq_true_iff] at rises
    exact same.standCapture rises.1.1.1 rises.1.1.2
  · simp only [Console.toggles, askedBy, panelOf, Bool.and_eq_true, decide_eq_true_iff,
      Level.of_eq_pressed] at toggles
    exact same.lieCapture toggles.1.1
  · rfl

omit [IsStrictOrderedRing K] [LinearOrder K] [Field K] in
theorem SameForPosture.next {t t' : Tick P} (same : SameForPosture t t') (plan : Plan K) :
    plan.elapsedAt (askedBy t) = plan.elapsedAt (askedBy t') ∧
      plan.next (askedBy t) = plan.next (askedBy t') := by
  have panel : (askedBy t).toPanel = (askedBy t').toPanel := same.panel
  have elapsed : plan.elapsedAt (askedBy t) = plan.elapsedAt (askedBy t') := by
    unfold Plan.elapsedAt
    rw [panel]
  refine ⟨elapsed, ?_⟩
  unfold Plan.next
  rw [same.originAt plan, elapsed, panel]

/-- The frames handed over outside walking mode. -/
def postureFrames (g : Globals P) (t : Tick P) : List (Frame K) :=
  if (buttons t g).mode = .usermode then [] else (process t g).sent

/-- Both runs follow the same plan. -/
def SamePlan (g g' : Globals P) : Prop :=
  Invariant g ∧ Invariant g' ∧ ∃ plan : Plan K, Shows g plan ∧ Shows g' plan

theorem initial_samePlan (history history' : Fin P.inputSize → K) :
    SamePlan (initial history) (initial history') :=
  ⟨initial_invariant history, initial_invariant history', _, initial_shows history,
    initial_shows history'⟩

theorem samePlan_simulates : Simulates step step (SamePlan (P := P)) SameForPosture := by
  rintro g g' ⟨inv, inv', plan, shows, shows'⟩ t t' same
  have followed := shows'.step inv' t'
  rw [← (same.next plan).2] at followed
  exact ⟨inv.step t, inv'.step t', _, shows.step inv t, followed⟩

namespace SamePlan

variable {g g' : Globals P} {t t' : Tick P}

omit [IsStrictOrderedRing K] in
theorem mode_eq (both : SamePlan g g') (same : SameForPosture t t') :
    (buttons t g).mode = (buttons t' g').mode := by
  obtain ⟨inv, inv', plan, shows, shows'⟩ := both
  rw [← next_mode inv, ← next_mode inv', shows.console, shows'.console, same.panel]

theorem postureFrames_eq (both : SamePlan g g') (same : SameForPosture t t') :
    postureFrames g t = postureFrames g' t' := by
  have mode := both.mode_eq same
  obtain ⟨inv, inv', plan, shows, shows'⟩ := both
  unfold postureFrames
  rw [← mode]
  split_ifs with walking
  · rfl
  · refine sent_eq_of_posture inv inv' walking mode ?_ ?_
    · rw [← shows.originAt inv, ← shows'.originAt inv', same.originAt plan]
    · rw [shows.progressAt inv, shows'.progressAt inv', (same.next plan).1]

end SamePlan

/--
Two runs with the same buttons that measure the same joint positions wherever a button
captures them are in the same modes and hand over the same frames in all ticks outside
walking mode, whatever the sticks, the inertial unit, the other measurements and the network.
-/
theorem posture_isolated (history history' : Fin P.inputSize → K) {ticks ticks' : List (Tick P)}
    (same : List.Forall₂ SameForPosture ticks ticks') :
    emitted step (fun g t => [(buttons t g).mode]) (initial history) ticks =
        emitted step (fun g t => [(buttons t g).mode]) (initial history') ticks' ∧
      emitted step postureFrames (initial history) ticks =
        emitted step postureFrames (initial history') ticks' := by
  have start := initial_samePlan history history'
  constructor
  · refine samePlan_simulates.emitted (fun g g' both t t' agree => ?_) same start
    exact congrArg (fun mode => [mode]) (both.mode_eq agree)
  · exact samePlan_simulates.emitted (fun _ _ both _ _ agree => both.postureFrames_eq agree) same
      start

/-- A walking tick in which the joints have moved and the network returns ones. -/
def movingTick (angle : ℚ) : Tick (levelProgram jointNames.symm) where
  reads := Reads.single (stillStatus [5, 2] angle)
  run := fun _ _ => 1

theorem sameForPosture_moving (angle : ℚ) :
    SameForPosture (stillTick [5, 2] 1) (movingTick angle) where
  panel := rfl
  lieCapture pressed := absurd pressed (by decide)
  standCapture pressed := absurd pressed (by decide)

/-- Two walks between the same postures. -/
theorem posture_isolated_level :
    let still (pressed : List (Fin 14)) : Tick (levelProgram jointNames.symm) :=
      stillTick pressed 1
    let start := initial (P := levelProgram jointNames.symm) fun _ => 0
    emitted step postureFrames start [still [9], still [10, 2], still [5, 2], still [11]] =
      emitted step postureFrames start [still [9], still [10, 2], movingTick 3, still [11]] :=
  (posture_isolated (fun _ => 0) (fun _ => 0)
    (.cons (.refl _) (.cons (.refl _) (.cons (sameForPosture_moving 3)
      (.cons (.refl _) .nil))))).2

end NoetixE1.Low
