import NoetixE1.Low.Frames
import NoetixE1.Low.Transitions

/-!
# Posture motions

A posture motion moves the joints from the captured angles to a fixed pose.  It
starts where the joints are if the tick that begins it captures them, which not
every branch does.
-/

namespace NoetixE1.Low

open Interpolation Machine Scatter

variable {K : Type} [Field K] {P : Program K}

/-! ## Commands of a posture tick -/

/-- The two modes that move the robot to a fixed pose. -/
def IsPosture (mode : WorkMode) : Prop := mode = .stand ∨ mode = .lie

/-- The pose that a posture mode moves to. -/
def postureTarget : WorkMode → Fin 24 → K
  | .stand => standJointAngles
  | _ => lieJointAngles

/-- Joint `j` is moved to its target; standing only damps `waist_2`. -/
def PositionControlled (mode : WorkMode) (j : Fin 24) : Prop := mode = .stand → j ≠ 23

instance (mode : WorkMode) : Decidable (IsPosture mode) := inferInstanceAs (Decidable (_ ∨ _))

instance (mode : WorkMode) (j : Fin 24) : Decidable (PositionControlled mode j) :=
  inferInstanceAs (Decidable (_ → _))

variable [LinearOrder K]

/-- The one frame of the tick commands position `pos` for joint `j`. -/
def Commands (g : Globals P) (t : Tick P) (j : Fin 24) (pos : K) : Prop :=
  ∃ frame : Frame K, (process t g).sent = [frame] ∧
    (frame (P.getJointsIndex (jointNames j))).pos = some pos

/-- The position written for joint `j` of a posture frame. -/
theorem frame_pos (t : Tick P) {g : Globals P} (posture : IsPosture g.mode) {j : Fin 24}
    (controlled : PositionControlled g.mode j) :
    (scatter (frameWrites t g) (frameStart g) (P.getJointsIndex (jointNames j))).pos =
      some (blend (g.currentJointAngles j) (postureTarget g.mode j) g.standPercent) := by
  unfold frameWrites frameStart
  rcases posture with mode | mode
  · rw [mode] at controlled ⊢
    change (postureFrame standJointAngles standAssign g _).pos = _
    rw [postureFrame_apply, standAssign, if_neg (controlled rfl)]
    split_ifs <;> rfl
  · rw [mode]
    change (postureFrame lieJointAngles lieAssign g _).pos = _
    rw [postureFrame_apply]
    unfold lieAssign
    split_ifs <;> rfl

variable [IsStrictOrderedRing K]

theorem commands_iff {g : Globals P} (inv : Invariant g) {t : Tick P} {mode : WorkMode}
    (dispatched : (buttons t g).mode = mode) (posture : IsPosture mode) {j : Fin 24}
    (controlled : PositionControlled mode j) (pos : K) :
    Commands g t j pos ↔
      blend ((buttons t g).currentJointAngles j) (postureTarget mode j)
        (buttons t g).standPercent = pos := by
  subst dispatched
  unfold Commands
  rw [process_sent inv]
  constructor
  · rintro ⟨frame, sent, commanded⟩
    rw [← List.head_eq_of_cons_eq sent, frame_pos t posture controlled] at commanded
    exact Option.some.inj commanded
  · intro same
    refine ⟨_, rfl, ?_⟩
    rw [frame_pos t posture controlled, same]

/-! ## The start of a motion -/

/-- The tick captures the joints: control is started, or the stand chord takes effect. -/
def Recaptures (t : Tick P) (g : Globals P) : Prop :=
  Fires9 t g ∧ g.startcontrol = false ∨ ChordStands t g

instance (t : Tick P) (g : Globals P) : Decidable (Recaptures t g) :=
  inferInstanceAs (Decidable (_ ∨ _))

/-- A motion that has just begun has made no progress. -/
theorem begun_standPercent {history : Fin P.inputSize → K} {before : List (Tick P)} {t : Tick P}
    (begun : before = [] ∨ Reassigned t (after history before))
    (posture : IsPosture (buttons t (after history before)).mode) :
    (buttons t (after history before)).standPercent = 0 := by
  have inv := after_invariant history before
  rw [buttons_standPercent inv]
  split_ifs with restarts
  · rfl
  · rcases begun with start | reassigned
    · subst start
      rfl
    · have awake : (buttons t (after history before)).mode ≠ .default := by
        intro mode
        rw [mode] at posture
        rcases posture with absurd | absurd <;> cases absurd
      exact absurd (restarts_of_reassigned inv reassigned awake) restarts

namespace Recaptures

variable {t : Tick P} {g : Globals P}

omit [LinearOrder K] [IsStrictOrderedRing K] in
/-- A tick that captures the joints leaves control armed. -/
theorem armed (captures : Recaptures t g) : (buttons t g).startcontrol = true := by
  rw [buttons_startcontrol]
  rcases captures with ⟨fires, disarmed⟩ | chord
  · rw [if_pos fires, disarmed]
    rfl
  · have effect := chord.2
    split_ifs at effect ⊢ with fires
    · rw [effect]
      rfl
    · exact effect.1

theorem posture (captures : Recaptures t g) (inv : Invariant g)
    (away : (buttons t g).mode ≠ .usermode) : IsPosture (buttons t g).mode := by
  have awake : (buttons t g).mode ≠ .default := by
    intro mode
    have disarmed := (inv.buttons t).default_disarmed mode
    rw [captures.armed] at disarmed
    cases disarmed
  cases mode : (buttons t g).mode with
  | stand => exact Or.inl rfl
  | lie => exact Or.inr rfl
  | usermode => exact absurd mode away
  | default => exact absurd mode awake

/-- The first frame after a capture commands the captured joints. -/
theorem commands_iff (captures : Recaptures t g) (inv : Invariant g)
    (away : (buttons t g).mode ≠ .usermode) {j : Fin 24}
    (controlled : PositionControlled (buttons t g).mode j) (pos : K) :
    Commands g t j pos ↔ (buttons t g).currentJointAngles j = pos := by
  have restarts : Restarts t g := captures.elim Or.inl fun chord => Or.inr (Or.inl chord)
  rw [NoetixE1.Low.commands_iff inv rfl (captures.posture inv away) controlled,
    buttons_standPercent inv, if_pos restarts, blend_zero]

end Recaptures

/-- Every position-controlled joint is commanded to stay where `status` measures it. -/
def BumpFree (g : Globals P) (t : Tick P) (status : RobotHardwareStatus K) : Prop :=
  ∀ j, PositionControlled (buttons t g).mode j → Commands g t j (measuredAngles P status j)

/--
The first frame of a posture motion commands every joint to stay where it is
measured exactly when the tick captures the joints, or the last capture happens
to agree with the measurement.
-/
theorem bump_free_iff (history : Fin P.inputSize → K) (before : List (Tick P)) (t : Tick P)
    (status : RobotHardwareStatus K) (single : t.reads = Reads.single status)
    (begun : before = [] ∨ Reassigned t (after history before))
    (posture : IsPosture (buttons t (after history before)).mode) :
    BumpFree (after history before) t status ↔
      Recaptures t (after history before) ∨
        ∀ j, PositionControlled (buttons t (after history before)).mode j →
          (after history before).currentJointAngles j = measuredAngles P status j := by
  have inv := after_invariant history before
  have still := begun_standPercent begun posture
  have first (j) (controlled : PositionControlled (buttons t (after history before)).mode j) :
      Commands (after history before) t j (measuredAngles P status j) ↔
        (buttons t (after history before)).currentJointAngles j = measuredAngles P status j := by
    rw [commands_iff inv rfl posture controlled, still, blend_zero]
  have captured := buttons_currentJointAngles inv t
  rw [single] at captured
  change _ = ite _ (measuredAngles P status) (ite _ (measuredAngles P status) _) at captured
  unfold BumpFree Recaptures
  rw [forall₂_congr first, captured]
  split_ifs with chord started
  · exact iff_of_true (fun _ _ => rfl) (Or.inl (Or.inr chord))
  · exact iff_of_true (fun _ _ => rfl) (Or.inl (Or.inl started))
  · exact (or_iff_right fun either => either.elim started chord).symm

/-- Standing up right after control was started captures the joints. -/
theorem bump_free_chord :
    BumpFree (levelAfter jointNames.symm [stillTick [9] 0]) (stillTick [10, 2] 1)
      (stillStatus [10, 2] 1) :=
  (bump_free_iff (fun _ => 0) [stillTick [9] 0] (stillTick [10, 2] 1) (stillStatus [10, 2] 1) rfl
    (Or.inr ⟨.ten, by decide +kernel⟩) (by decide +kernel)).mpr (Or.inl (by decide +kernel))

/-- The globals of a robot that walks, its joints captured at the angle 0. -/
def walkingAtZero : Globals (levelProgram jointNames.symm) :=
  levelAfter jointNames.symm [stillTick [9] 0, stillTick [10, 2] 0, stillTick [5, 2] 0]

/-- The first tick of the program, and button 11 while walking, with the joints away
from the last capture. -/
theorem not_bump_free :
    (IsPosture (buttons (stillTick [] 1) (levelAfter jointNames.symm [])).mode ∧
      ¬ BumpFree (levelAfter jointNames.symm []) (stillTick [] 1) (stillStatus [] 1)) ∧
    Reassigned (stillTick [11] 1) walkingAtZero ∧
      IsPosture (buttons (stillTick [11] 1) walkingAtZero).mode ∧
      ¬ BumpFree walkingAtZero (stillTick [11] 1) (stillStatus [11] 1) := by
  refine ⟨⟨by decide +kernel, fun every => ?_⟩, ⟨.eleven, by decide +kernel⟩, by decide +kernel,
    fun every => ?_⟩
  · have first := (commands_iff (after_invariant _ []) rfl (by decide +kernel)
      (by decide +kernel) _).mp (every 0 (by decide +kernel))
    exact absurd first (by decide +kernel)
  · have first := (commands_iff (after_invariant _ _) rfl (by decide +kernel)
      (by decide +kernel) _).mp (every 0 (by decide +kernel))
    exact absurd first (by decide +kernel)

end NoetixE1.Low
