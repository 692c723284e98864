import Mathlib.Algebra.Order.Field.Basic
import NoetixE1.Low.Buttons

/-!
# The invariant of every run

What holds in every state the program reaches, branch by branch and handler by
handler, and what one call of `process` does to the globals.
-/

namespace NoetixE1.Low

open Interpolation

variable {K : Type} [Field K] [LinearOrder K] {P : Program K}

/-- Holds whenever `process` is called, and again when the mode switch is dispatched. -/
structure Invariant (g : Globals P) : Prop where
  ready : g.initfinish = 1
  percent_nonneg : 0 ≤ g.standPercent
  percent_le_one : g.standPercent ≤ 1
  keyflag10 : g.keyflag 10 = 0
  keyflag11 : g.keyflag 11 = 0
  default_disarmed : g.mode = .default → g.startcontrol = false
  usermode_percent : g.mode = .usermode → g.standPercent = 0

/-! ## Handlers leave the button state alone -/

/-- The fields that only the button branches write agree. -/
structure SameConsole (g g' : Globals P) : Prop where
  initfinish : g'.initfinish = g.initfinish
  mode : g'.mode = g.mode
  startcontrol : g'.startcontrol = g.startcontrol
  keyflag : g'.keyflag = g.keyflag
  currentJointAngles : g'.currentJointAngles = g.currentJointAngles

theorem handlePosture_console (target : Fin 24 → K)
    (assign : Fin 24 → K → MotorCmd K → MotorCmd K) (g : Globals P) :
    SameConsole g (handlePosture target assign g).globals := by
  unfold handlePosture
  split <;> exact ⟨rfl, rfl, rfl, rfl, rfl⟩

theorem policyStep_console (t : Tick P) (g : Globals P) : SameConsole g (policyStep t g) := by
  unfold policyStep
  dsimp only
  split <;> exact ⟨rfl, rfl, rfl, rfl, rfl⟩

theorem policyStep_standPercent (t : Tick P) (g : Globals P) :
    (policyStep t g).standPercent = g.standPercent := by
  unfold policyStep
  dsimp only
  split <;> rfl

theorem handleUserMode_console (t : Tick P) (g : Globals P) :
    SameConsole g (handleUserMode t g).globals :=
  let kept := policyStep_console t g
  ⟨kept.initfinish, kept.mode, kept.startcontrol, kept.keyflag, kept.currentJointAngles⟩

theorem dispatch_console (t : Tick P) (g : Globals P) :
    SameConsole g (dispatch t g).globals := by
  unfold dispatch
  split
  · exact handlePosture_console standJointAngles standAssign g
  · exact handlePosture_console lieJointAngles lieAssign g
  · exact ⟨rfl, rfl, rfl, rfl, rfl⟩
  · have kept := handleUserMode_console t (setparameter (commandOf t) g)
    exact ⟨kept.initfinish, kept.mode, kept.startcontrol, kept.keyflag, kept.currentJointAngles⟩

/-- Within the range of progress a posture handler always sends its frame. -/
theorem handlePosture_eq {g : Globals P} (bound : g.standPercent ≤ 1) (target : Fin 24 → K)
    (assign : Fin 24 → K → MotorCmd K → MotorCmd K) :
    handlePosture target assign g =
      ⟨{ g with standPercent := advance standDuration g.standPercent },
        [postureFrame target assign g], []⟩ := if_pos bound

/-- Only the posture modes move the progress. -/
theorem dispatch_standPercent (t : Tick P) {g : Globals P} (bound : g.standPercent ≤ 1) :
    (dispatch t g).globals.standPercent =
      if g.mode = .stand ∨ g.mode = .lie then advance standDuration g.standPercent
      else g.standPercent := by
  cases mode : g.mode with
  | stand => simp [dispatch, mode, handleStandMode, handlePosture_eq bound]
  | lie => simp [dispatch, mode, handleLieMode, handlePosture_eq bound]
  | default => simp [dispatch, mode, handleDefautMode]
  | usermode =>
      simp only [dispatch, mode, reduceCtorEq, or_self, if_false]
      exact policyStep_standPercent t _

/-! ## The invariant is kept by every branch -/

theorem one_lt_standDuration [IsStrictOrderedRing K] : (1 : K) < standDuration := by
  norm_num [standDuration]

theorem standDuration_pos [IsStrictOrderedRing K] : (0 : K) < standDuration :=
  one_pos.trans one_lt_standDuration

namespace Invariant

variable {g : Globals P}

theorem setKey_other (inv : Invariant g) (index : Fin 14) (not10 : 10 ≠ index)
    (not11 : 11 ≠ index) (value : Int) : Invariant (setKey g index value) where
  ready := inv.ready
  percent_nonneg := inv.percent_nonneg
  percent_le_one := inv.percent_le_one
  keyflag10 := (setKey_keyflag_of_ne g not10 value).trans inv.keyflag10
  keyflag11 := (setKey_keyflag_of_ne g not11 value).trans inv.keyflag11
  default_disarmed := inv.default_disarmed
  usermode_percent := inv.usermode_percent

variable [IsStrictOrderedRing K]

theorem button9 (inv : Invariant g) (t : Tick P) : Invariant (button9 t g) := by
  have marked := inv.setKey_other 9 (by decide) (by decide)
  rw [button9_eq]
  split_ifs
  · exact { marked 1 with
      percent_nonneg := le_refl _
      percent_le_one := zero_le_one
      default_disarmed := fun absurd => by cases absurd
      usermode_percent := fun absurd => by cases absurd }
  · exact { marked 1 with
      default_disarmed := fun _ => rfl
      usermode_percent := fun absurd => by cases absurd }
  · exact marked 0
  · exact inv

theorem button10 (inv : Invariant g) (t : Tick P) : Invariant (button10 t g) := by
  rw [button10_eq]
  split_ifs
  · exact { inv with
      percent_nonneg := le_refl _
      percent_le_one := zero_le_one
      default_disarmed := fun absurd => by cases absurd
      usermode_percent := fun absurd => by cases absurd }
  · exact { inv with
      keyflag10 := setKey_keyflag_self g 10 0
      keyflag11 := (setKey_keyflag_of_ne g (by decide) 0).trans inv.keyflag11 }
  · exact inv

theorem button5 (inv : Invariant g) (t : Tick P) : Invariant (button5 t g) := by
  have marked := inv.setKey_other 5 (by decide) (by decide)
  rw [button5_eq]
  split_ifs
  · exact { marked 1 with
      percent_nonneg := le_refl _
      percent_le_one := zero_le_one
      default_disarmed := fun absurd => by cases absurd
      usermode_percent := fun _ => rfl }
  · exact marked 0
  · exact inv

theorem button11 (inv : Invariant g) (t : Tick P) : Invariant (button11 t g) := by
  rw [button11_eq]
  split_ifs
  · exact { inv with
      default_disarmed := fun absurd => by cases absurd
      usermode_percent := fun absurd => by cases absurd }
  · exact { inv with
      percent_nonneg := le_refl _
      percent_le_one := zero_le_one
      default_disarmed := fun absurd => by cases absurd
      usermode_percent := fun absurd => by cases absurd }
  · exact inv

theorem buttons (inv : Invariant g) (t : Tick P) : Invariant (buttons t g) :=
  (((inv.button9 t).button10 t).button5 t).button11 t

theorem dispatch (inv : Invariant g) (t : Tick P) : Invariant (dispatch t g).globals := by
  have kept := dispatch_console t g
  have percent := dispatch_standPercent t inv.percent_le_one
  refine ⟨kept.initfinish.trans inv.ready, ?_, ?_, ?_, ?_, ?_, ?_⟩
  · rw [percent]
    split_ifs
    · exact (advance_pos standDuration_pos inv.percent_nonneg).le
    · exact inv.percent_nonneg
  · rw [percent]
    split_ifs
    · exact advance_le_one _ _
    · exact inv.percent_le_one
  · rw [kept.keyflag]
    exact inv.keyflag10
  · rw [kept.keyflag]
    exact inv.keyflag11
  · rw [kept.mode, kept.startcontrol]
    exact inv.default_disarmed
  · intro mode
    rw [kept.mode] at mode
    rw [percent, if_neg (by simp [mode])]
    exact inv.usermode_percent mode

end Invariant

/-! ## One call of `process` -/

/-- After start-up the guard of `process` never stops it. -/
theorem process_eq {g : Globals P} (inv : Invariant g) (t : Tick P) :
    process t g = dispatch t (buttons t g) := by
  unfold process
  rw [inv.ready]
  exact if_neg one_ne_zero

theorem step_eq {g : Globals P} (inv : Invariant g) (t : Tick P) :
    step g t = (dispatch t (buttons t g)).globals :=
  congrArg Outcome.globals (process_eq inv t)

theorem step_console {g : Globals P} (inv : Invariant g) (t : Tick P) :
    SameConsole (buttons t g) (step g t) := by
  rw [step_eq inv]
  exact dispatch_console t (buttons t g)

variable [IsStrictOrderedRing K]

theorem Invariant.step {g : Globals P} (inv : Invariant g) (t : Tick P) :
    Invariant (step g t) := by
  rw [step_eq inv]
  exact (inv.buttons t).dispatch t

theorem initial_invariant (history : Fin P.inputSize → K) : Invariant (initial history) where
  ready := rfl
  percent_nonneg := le_refl _
  percent_le_one := zero_le_one
  keyflag10 := rfl
  keyflag11 := rfl
  default_disarmed := fun absurd => by cases absurd
  usermode_percent := fun absurd => by cases absurd

/-- The invariant holds after every run of the program. -/
theorem after_invariant (history : Fin P.inputSize → K) (ticks : List (Tick P)) :
    Invariant (after history ticks) :=
  Machine.run_invariant NoetixE1.Low.step (fun _ t inv => inv.step t) ticks
    (initial_invariant history)

end NoetixE1.Low
