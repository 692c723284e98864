import NoetixE1.Low.Posture

/-!
# The course of a posture motion

While one posture mode is dispatched tick after tick the setpoints run along a
ramp.  Only leaving the stand mode and coming back within one tick breaks it.
-/

namespace NoetixE1.Low

open Interpolation Machine

variable {K : Type} [Field K] [LinearOrder K] {P : Program K}

/-! ## Ticks of one motion -/

/-- The mode switch finds this mode, and the tick ends with control armed or not. -/
def HeldIn (mode : WorkMode) (armed : Bool) (g : Globals P) (t : Tick P) : Prop :=
  (buttons t g).mode = mode ∧ (buttons t g).startcontrol = armed

instance (mode : WorkMode) (armed : Bool) (g : Globals P) (t : Tick P) :
    Decidable (HeldIn mode armed g t) :=
  inferInstanceAs (Decidable (_ ∧ _))

/-- Standing is left for walking and entered again within the tick: the walk chord is
fresh and button 11 pressed. -/
def Rebounds (t : Tick P) (g : Globals P) : Prop :=
  g.mode = .stand ∧ WalkChord t ∧ g.keyflag 5 = 0 ∧ t.button 11 = 1

instance (t : Tick P) (g : Globals P) : Decidable (Rebounds t g) :=
  inferInstanceAs (Decidable (_ ∧ _))

/-- The globals between two ticks of one motion that started at `start`. -/
structure Moving (mode : WorkMode) (armed : Bool) (start : Fin 24 → K) (g : Globals P) : Prop
    extends Invariant g where
  mode_eq : g.mode = mode
  armed_eq : g.startcontrol = armed
  start_eq : g.currentJointAngles = start

namespace Moving

variable {mode : WorkMode} {armed : Bool} {start : Fin 24 → K} {g : Globals P} {t : Tick P}

theorem unfired9 (moving : Moving mode armed start g) (held : HeldIn mode armed g t) :
    ¬ Fires9 t g := by
  intro fires
  have kept := held.2
  rw [buttons_startcontrol, if_pos fires, moving.armed_eq] at kept
  cases armed <;> cases kept

theorem unchorded (moving : Moving mode armed start g) (held : HeldIn mode armed g t)
    (posture : IsPosture mode) : ¬ ChordStands t g := by
  intro chord
  have away := chord.2
  rw [if_neg (moving.unfired9 held), moving.mode_eq] at away
  have lying := posture.resolve_left away.2
  have dispatched := held.1
  rw [buttons_mode_of_standing moving.toInvariant (Or.inl chord), lying] at dispatched
  split_ifs at dispatched

/-- Within a motion only a rebound sets the progress back. -/
theorem restarts_iff (moving : Moving mode armed start g) (held : HeldIn mode armed g t)
    (posture : IsPosture mode) : Restarts t g ↔ Rebounds t g := by
  have quiet := moving.unfired9 held
  have unchorded := moving.unchorded held posture
  unfold Restarts Rebounds
  rw [moving.mode_eq]
  rcases posture with stand | lie
  · have standing : Standing t g := Or.inr ⟨quiet, moving.mode_eq.trans stand⟩
    have dispatched := held.1
    rw [buttons_mode_of_standing moving.toInvariant standing, stand] at dispatched
    have together : ChordWalks t g → t.button 11 = 1 := by
      intro walks
      by_contra released
      rw [if_pos ⟨walks, released⟩] at dispatched
      cases dispatched
    constructor
    · rintro (⟨fires, _⟩ | chord | walks | leaves)
      · exact absurd fires quiet
      · exact absurd chord unchorded
      · exact ⟨stand, walks.1, walks.2.1, together walks⟩
      · obtain ⟨pressed, walks⟩ := (elevenLeaves_of_standing standing).mp leaves
        exact ⟨stand, walks.1, walks.2.1, pressed⟩
    · rintro ⟨_, chord, fresh, _⟩
      exact Or.inr (Or.inr (Or.inl ⟨chord, fresh, standing⟩))
  · have standing : ¬ Standing t g := by
      rintro (chord | ⟨_, stand⟩)
      · exact unchorded chord
      · exact absurd (stand.symm.trans (moving.mode_eq.trans lie)) (by decide)
    unfold ElevenLeaves ChordWalks
    rw [if_neg standing]
    simp [quiet, unchorded, standing, moving.mode_eq, lie]

theorem start_at (moving : Moving mode armed start g) (held : HeldIn mode armed g t)
    (posture : IsPosture mode) : (buttons t g).currentJointAngles = start := by
  have quiet := moving.unfired9 held
  rw [buttons_currentJointAngles moving.toInvariant, if_neg (moving.unchorded held posture),
    if_neg (fun fires => quiet fires.1), moving.start_eq]

variable [IsStrictOrderedRing K]

theorem standPercent_at (moving : Moving mode armed start g) (held : HeldIn mode armed g t)
    (posture : IsPosture mode) :
    (buttons t g).standPercent = if Rebounds t g then 0 else g.standPercent := by
  rw [buttons_standPercent moving.toInvariant]
  exact if_congr (moving.restarts_iff held posture) rfl rfl

/-- One tick of the motion. -/
theorem step (moving : Moving mode armed start g) (held : HeldIn mode armed g t)
    (posture : IsPosture mode) : Moving mode armed start (step g t) where
  toInvariant := moving.toInvariant.step t
  mode_eq := (step_console moving.toInvariant t).mode.trans held.1
  armed_eq := (step_console moving.toInvariant t).startcontrol.trans held.2
  start_eq := (step_console moving.toInvariant t).currentJointAngles.trans
    (moving.start_at held posture)

/-- What the tick commands: the blend at the progress so far, or the start again. -/
theorem commands (moving : Moving mode armed start g) (held : HeldIn mode armed g t)
    (posture : IsPosture mode) {j : Fin 24} (controlled : PositionControlled mode j) (pos : K) :
    Commands g t j pos ↔
      blend (start j) (postureTarget mode j) (if Rebounds t g then 0 else g.standPercent) =
        pos := by
  rw [commands_iff moving.toInvariant held.1 posture controlled, moving.start_at held posture,
    moving.standPercent_at held posture]

end Moving

variable [IsStrictOrderedRing K]

/-- The first tick of a motion leads to its course. -/
theorem moving_of_held {mode : WorkMode} {armed : Bool} {g : Globals P} (inv : Invariant g)
    {t : Tick P} (held : HeldIn mode armed g t) :
    Moving mode armed (buttons t g).currentJointAngles (step g t) where
  toInvariant := inv.step t
  mode_eq := (step_console inv t).mode.trans held.1
  armed_eq := (step_console inv t).startcontrol.trans held.2
  start_eq := (step_console inv t).currentJointAngles

/-- A posture tick makes one step of progress. -/
theorem step_standPercent {g : Globals P} (inv : Invariant g) {t : Tick P} {mode : WorkMode}
    (dispatched : (buttons t g).mode = mode) (posture : IsPosture mode) :
    (step g t).standPercent = advance standDuration (buttons t g).standPercent := by
  subst dispatched
  rw [step_eq inv, dispatch_standPercent t (inv.buttons t).percent_le_one]
  exact if_pos posture

/-- A motion that runs without a rebound makes one step of progress a tick. -/
theorem ramp_standPercent {mode : WorkMode} {armed : Bool} {start : Fin 24 → K}
    (posture : IsPosture mode) {ticks : List (Tick P)} {g : Globals P}
    (moving : Moving mode armed start g) (held : Along step (HeldIn mode armed) g ticks)
    (smooth : Along step (fun g t => ¬ Rebounds t g) g ticks) :
    (run step g ticks).standPercent = (advance standDuration)^[ticks.length] g.standPercent := by
  induction ticks generalizing g with
  | nil => rfl
  | cons t rest ih =>
      rw [run_cons, ih (moving.step held.1 posture) held.2 smooth.2,
        step_standPercent moving.toInvariant held.1.1 posture, moving.standPercent_at held.1 posture, if_neg smooth.1]
      rfl

/-! ## Slew limit and ramp -/

/-- Between the two ticks the setpoint of every joint moves by at most its share of the
way, and not away from the target. -/
def Slews (mode : WorkMode) (g : Globals P) (first second : Tick P) : Prop :=
  ∀ j, PositionControlled mode j → ∃ pos pos' : K,
    Commands g first j pos ∧ Commands (step g first) second j pos' ∧
      |pos' - pos| ≤
        |postureTarget mode j - (step g first).currentJointAngles j| / standDuration ∧
      |postureTarget mode j - pos'| ≤ |postureTarget mode j - pos|

/-- The setpoint `count` ticks after the start: that share of the way to the target, at
most all of it. -/
def rampAt (mode : WorkMode) (start : Fin 24 → K) (count : ℕ) (j : Fin 24) : K :=
  start j + min ((count : K) / standDuration) 1 * (postureTarget mode j - start j)

omit [IsStrictOrderedRing K] in
theorem rampAt_eq_start {mode : WorkMode} {start : Fin 24 → K} {j : Fin 24}
    (there : start j = postureTarget mode j) (count : ℕ) : rampAt mode start count j = start j := by
  rw [rampAt, there, sub_self, mul_zero, add_zero]

/-- The ramp leaves its start unless there is no way to go. -/
theorem rampAt_succ_eq_start_iff {mode : WorkMode} {start : Fin 24 → K} {count : ℕ} {j : Fin 24} :
    rampAt mode start (count + 1) j = start j ↔ start j = postureTarget mode j := by
  have begun : (0 : K) < min (((count + 1 : ℕ) : K) / standDuration) 1 :=
    lt_min (div_pos (Nat.cast_pos.mpr (Nat.succ_pos count)) standDuration_pos) one_pos
  constructor
  · intro same
    rw [rampAt, add_eq_left, mul_eq_zero, sub_eq_zero] at same
    exact (same.resolve_left begun.ne').symm
  · intro there
    exact rampAt_eq_start there (count + 1)

/-- After the standing time the ramp stays at the target. -/
theorem rampAt_of_le {mode : WorkMode} {start : Fin 24 → K} {count : ℕ}
    (long : (standDuration : K) ≤ count) (j : Fin 24) :
    rampAt mode start count j = postureTarget mode j := by
  have full : min ((count : K) / standDuration) 1 = 1 :=
    min_eq_right ((one_le_div standDuration_pos).mpr long)
  rw [rampAt, full, one_mul, add_sub_cancel]

/-- Every tick of the stretch commands its place on the ramp, and from tick
`standDuration` on the target. -/
def FollowsRamp (mode : WorkMode) (start : Fin 24 → K) (g : Globals P) (ticks : List (Tick P)) :
    Prop :=
  ∀ earlier t later, ticks = earlier ++ t :: later → ∀ j, PositionControlled mode j →
    Commands (run step g earlier) t j (rampAt mode start earlier.length j) ∧
      ((standDuration : K) ≤ earlier.length →
        Commands (run step g earlier) t j (postureTarget mode j))

/-- Every position-controlled joint starts at its target. -/
def StartsAtTarget (mode : WorkMode) (start : Fin 24 → K) : Prop :=
  ∀ j, PositionControlled mode j → start j = postureTarget mode j

instance (mode : WorkMode) (start : Fin 24 → K) : Decidable (StartsAtTarget mode start) :=
  inferInstanceAs (Decidable (∀ _, _ → _))

theorem slews_iff {mode : WorkMode} {armed : Bool} (posture : IsPosture mode) {g : Globals P}
    (inv : Invariant g) {first second : Tick P} (held : HeldIn mode armed g first)
    (held' : HeldIn mode armed (step g first) second) :
    Slews mode g first second ↔
      ¬ Rebounds second (step g first) ∨ (step g first).standPercent = 1 / standDuration ∨
        StartsAtTarget mode (step g first).currentJointAngles := by
  have moving := moving_of_held inv held
  have lower := (inv.buttons first).percent_nonneg
  have upper := (inv.buttons first).percent_le_one
  have grown := step_standPercent inv held.1 posture
  have pair : Slews mode g first second ↔ ∀ j, PositionControlled mode j →
      let start := (buttons first g).currentJointAngles j
      let pos := blend start (postureTarget mode j) (buttons first g).standPercent
      let pos' := blend start (postureTarget mode j)
        (if Rebounds second (step g first) then 0
          else advance standDuration (buttons first g).standPercent)
      |pos' - pos| ≤ |postureTarget mode j - start| / standDuration ∧
        |postureTarget mode j - pos'| ≤ |postureTarget mode j - pos| := by
    unfold Slews
    refine forall₂_congr fun j controlled => ?_
    simp only [commands_iff inv held.1 posture controlled,
      moving.commands held' posture controlled, moving.start_eq, grown]
    simp
  rw [pair, grown, advance_eq_inv_iff one_lt_standDuration, moving.start_eq]
  unfold StartsAtTarget
  split_ifs with rebounds
  · simp only [blend_zero, fall_back_iff standDuration_pos lower upper, rebounds]
    by_cases unmoved : (buttons first g).standPercent = 0
    · simp [unmoved]
    · simp [unmoved]
  · refine iff_of_true (fun j _ => ⟨?_, ?_⟩) (Or.inl rebounds)
    · exact abs_blend_advance_sub _ _ standDuration_pos upper
    · exact abs_target_sub_blend_anti _ _ (le_advance standDuration_pos upper)
        (advance_le_one _ _)

section Ramp

variable {mode : WorkMode} {armed : Bool} {g : Globals P} {first : Tick P} {rest : List (Tick P)}

/-- The globals before a later tick of a held stretch, and what that tick commands. -/
theorem held_later (posture : IsPosture mode) (inv : Invariant g)
    (held : Along step (HeldIn mode armed) g (first :: rest)) {before later : List (Tick P)}
    {t : Tick P} (split : rest = before ++ t :: later) :
    Moving mode armed (buttons first g).currentJointAngles (run step (step g first) before) ∧
      HeldIn mode armed (run step (step g first) before) t := by
  obtain ⟨opening, keeping⟩ := held
  rw [split, along_append, along_cons] at keeping
  refine ⟨?_, keeping.2.1⟩
  exact keeping.1.run_invariant step (fun _ _ moving held => moving.step held posture)
    (moving_of_held inv opening)

theorem follows_ramp_of_smooth (posture : IsPosture mode) (inv : Invariant g)
    (still : (buttons first g).standPercent = 0)
    (held : Along step (HeldIn mode armed) g (first :: rest))
    (smooth : Along step (fun g t => ¬ Rebounds t g) (step g first) rest)
    {earlier later : List (Tick P)} {t : Tick P} (split : first :: rest = earlier ++ t :: later)
    {j : Fin 24} (controlled : PositionControlled mode j) :
    Commands (run step g earlier) t j
      (rampAt mode (buttons first g).currentJointAngles earlier.length j) := by
  cases earlier with
  | nil =>
      obtain ⟨rfl, rfl⟩ := List.cons.inj split
      rw [run_nil, commands_iff inv held.1.1 posture controlled, still]
      simp [rampAt]
  | cons opening before =>
      obtain ⟨rfl, tail⟩ : first = opening ∧ rest = before ++ t :: later := List.cons.inj split
      obtain ⟨moving, heldHere⟩ := held_later posture inv held tail
      have kept := held.2
      rw [tail, along_append] at smooth kept
      have progress := ramp_standPercent posture (moving_of_held inv held.1) kept.1 smooth.1
      rw [step_standPercent inv held.1.1 posture, still, ← Function.iterate_succ_apply,
        advance_iterate standDuration_pos] at progress
      rw [run_cons, moving.commands heldHere posture controlled, if_neg smooth.2.1, progress,
        blend_eq_add]
      rfl

theorem follows_ramp_at_target (posture : IsPosture mode) (inv : Invariant g)
    (held : Along step (HeldIn mode armed) g (first :: rest))
    (atTarget : StartsAtTarget mode (buttons first g).currentJointAngles)
    {earlier later : List (Tick P)} {t : Tick P} (split : first :: rest = earlier ++ t :: later)
    {j : Fin 24} (controlled : PositionControlled mode j) :
    Commands (run step g earlier) t j
      (rampAt mode (buttons first g).currentJointAngles earlier.length j) := by
  have there := atTarget j controlled
  cases earlier with
  | nil =>
      obtain ⟨rfl, rfl⟩ := List.cons.inj split
      rw [run_nil, commands_iff inv held.1.1 posture controlled, rampAt_eq_start there, there]
      exact blend_self _ _
  | cons opening before =>
      obtain ⟨rfl, tail⟩ : first = opening ∧ rest = before ++ t :: later := List.cons.inj split
      obtain ⟨moving, heldHere⟩ := held_later posture inv held tail
      rw [run_cons, moving.commands heldHere posture controlled, rampAt_eq_start there, there]
      exact blend_self _ _

/-- A stretch of one posture mode follows the ramp from its start exactly when nothing in it
rebounds, or there is no way to go. -/
theorem follows_ramp_iff (posture : IsPosture mode) (inv : Invariant g)
    (still : (buttons first g).standPercent = 0)
    (held : Along step (HeldIn mode armed) g (first :: rest)) :
    FollowsRamp mode (buttons first g).currentJointAngles g (first :: rest) ↔
      Along step (fun g t => ¬ Rebounds t g) (step g first) rest ∨
        StartsAtTarget mode (buttons first g).currentJointAngles := by
  constructor
  · intro follows
    rw [or_iff_not_imp_right, along_iff_forall_split]
    intro apart before t later split rebounds
    apply apart
    intro j controlled
    obtain ⟨moving, heldHere⟩ := held_later posture inv held split
    obtain ⟨onRamp, _⟩ := follows (first :: before) t later (congrArg (first :: ·) split) j controlled
    rw [run_cons, moving.commands heldHere posture controlled, if_pos rebounds, blend_zero] at onRamp
    exact rampAt_succ_eq_start_iff.mp onRamp.symm
  · intro condition earlier t later split j controlled
    have onRamp : Commands (run step g earlier) t j
        (rampAt mode (buttons first g).currentJointAngles earlier.length j) := by
      rcases condition with smooth | atTarget
      · exact follows_ramp_of_smooth posture inv still held smooth split controlled
      · exact follows_ramp_at_target posture inv held atTarget split controlled
    refine ⟨onRamp, fun long => ?_⟩
    rw [rampAt_of_le long] at onRamp
    exact onRamp

end Ramp

/--
In every run, two consecutive ticks of one posture motion keep the slew limit exactly
when the second does not rebound, or follows the first tick of the motion, or there is
no way to go; and a motion follows its ramp exactly when no later tick rebounds, or
there is no way to go.
-/
theorem slew_limit_iff (history : Fin P.inputSize → K) (before : List (Tick P))
    (mode : WorkMode) (posture : IsPosture mode) (armed : Bool) :
    (∀ first second, Along step (HeldIn mode armed) (after history before) [first, second] →
      (Slews mode (after history before) first second ↔
        ¬ Rebounds second (after history (before ++ [first])) ∨
          (after history (before ++ [first])).standPercent = 1 / standDuration ∨
            StartsAtTarget mode (after history (before ++ [first])).currentJointAngles)) ∧
    ∀ first rest, (before = [] ∨ Reassigned first (after history before)) →
      Along step (HeldIn mode armed) (after history before) (first :: rest) →
      let start := (buttons first (after history before)).currentJointAngles
      (FollowsRamp mode start (after history before) (first :: rest) ↔
        Along step (fun g t => ¬ Rebounds t g) (after history (before ++ [first])) rest ∨
          StartsAtTarget mode start) := by
  have inv := after_invariant history before
  constructor
  · intro first second held
    rw [after_concat]
    exact slews_iff posture inv held.1 held.2.1
  · intro first rest begun held
    rw [after_concat]
    have still := begun_standPercent begun (by rw [held.1.1]; exact posture)
    exact follows_ramp_iff posture inv still held

/-- Standing up after control was started, with the buttons released meanwhile. -/
theorem slew_limit_level :
    Slews .stand (levelAfter jointNames.symm [stillTick [9] 1]) (stillTick [10, 2] 1)
        (stillTick [] 1) ∧
      FollowsRamp .stand
        (buttons (stillTick [10, 2] 1) (levelAfter jointNames.symm [stillTick [9] 1])).currentJointAngles
        (levelAfter jointNames.symm [stillTick [9] 1])
        [stillTick [10, 2] 1, stillTick [] 1, stillTick [10, 2] 1] := by
  have limit := slew_limit_iff (P := levelProgram jointNames.symm) (fun _ => 0) [stillTick [9] 1]
    .stand (Or.inl rfl) true
  constructor
  · exact (limit.1 (stillTick [10, 2] 1) (stillTick [] 1) (by decide +kernel)).mpr
      (Or.inl (by decide +kernel))
  · exact (limit.2 (stillTick [10, 2] 1) [stillTick [] 1, stillTick [10, 2] 1]
      (Or.inr ⟨.ten, by decide +kernel⟩) (by decide +kernel)).mpr (Or.inl (by decide +kernel))

/-- Buttons 5, 2 and 11 pressed together on the way up: both ticks stand, and the
setpoints fall back to the start. -/
theorem not_slews_rebound :
    Along step (HeldIn .stand true)
        (levelAfter jointNames.symm [stillTick [9] 0, stillTick [10, 2] 0])
        [stillTick [] 0, stillTick [5, 2, 11] 0] ∧
      ¬ Slews .stand (levelAfter jointNames.symm [stillTick [9] 0, stillTick [10, 2] 0])
        (stillTick [] 0) (stillTick [5, 2, 11] 0) := by
  have held : Along step (HeldIn .stand true)
      (levelAfter jointNames.symm [stillTick [9] 0, stillTick [10, 2] 0])
      [stillTick [] 0, stillTick [5, 2, 11] 0] := by
    decide +kernel
  refine ⟨held, fun slews => ?_⟩
  have condition := (slews_iff (Or.inl rfl) (after_invariant _ _) held.1 held.2.1).mp slews
  exact absurd condition (by decide +kernel)

end NoetixE1.Low
