import NoetixE1.Low.Console
import NoetixE1.Low.Posture

/-!
# The motion plan

What the posture part of the controller is for: a motion begins at a captured pose and
moves every joint to its target in a fixed number of posture ticks, counted in whole
ticks.  The program, which adds up shares of the way instead, follows the plan.
-/

namespace NoetixE1.Low

open Interpolation Machine

/-! ## The plan -/

/-- What a tick asks of the plan: its buttons, and the poses it would capture. -/
structure Asked (K : Type) extends Panel where
  lieCapture : Fin 24 → K
  standCapture : Fin 24 → K

/-- The console, the pose at which the motion began and the posture ticks since then. -/
structure Plan (K : Type) extends Console where
  elapsed : ℕ
  origin : Fin 24 → K

namespace Console

variable (c : Console) (p : Panel)

/-- Buttons 10 and 2 make the robot stand that did not. -/
def rises : Bool := p.ten && p.two && c.armedNext p && c.toggled p ≠ .stand

/-- Button 11 ends walking or the passive mode. -/
def leaves : Bool := p.eleven && (c.walked p = .usermode || c.walked p = .default)

/-- The tick begins a motion. -/
def begins : Bool := (c.toggles p && !c.armed) || c.rises p || c.walks p || c.leaves p

end Console

variable {K : Type}

namespace Plan

def initial [Zero K] : Plan K := { Console.start with elapsed := 0, origin := fun _ => 0 }

variable (plan : Plan K) (asked : Asked K)

/-- Motions begun by button 9 or by buttons 10 and 2 start where the joints are. -/
def originAt : Fin 24 → K :=
  if plan.rises asked.toPanel then asked.standCapture
  else if plan.toggles asked.toPanel && !plan.armed then asked.lieCapture
  else plan.origin

/-- Posture ticks of the motion before this one. -/
def elapsedAt : ℕ := if plan.begins asked.toPanel then 0 else plan.elapsed

/-- One tick of the plan. -/
def next : Plan K where
  toConsole := plan.toConsole.next asked.toPanel
  elapsed :=
    plan.elapsedAt asked +
      if IsPosture (plan.toConsole.next asked.toPanel).mode then 1 else 0
  origin := plan.originAt asked

/-- Where the plan wants joint `j` in this tick, if it moves the joint at all. -/
def setpoint [Field K] [LinearOrder K] (j : Fin 24) : K :=
  plan.originAt asked j + min ((plan.elapsedAt asked : K) / standDuration) 1 *
    (postureTarget (plan.toConsole.next asked.toPanel).mode j - plan.originAt asked j)

end Plan

/-! ## The program follows the plan -/

variable {P : Program K}

def askedBy (t : Tick P) : Asked K where
  toPanel := panelOf t
  lieCapture := measuredAngles P t.reads.lieCapture
  standCapture := measuredAngles P t.reads.standCapture

variable [Field K] [LinearOrder K] {g : Globals P}

/-- The globals show this state of the plan. -/
structure Shows (g : Globals P) (plan : Plan K) : Prop where
  console : consoleOf g = plan.toConsole
  progress : g.standPercent = min ((plan.elapsed : K) / standDuration) 1
  origin : g.currentJointAngles = plan.origin

theorem rises_iff (inv : Invariant g) (t : Tick P) :
    (consoleOf g).rises (panelOf t) = true ↔ ChordStands t g := by
  rw [← fires10_iff inv]
  have armed := armedNext_eq t g
  rw [buttons_startcontrol, ← button9_startcontrol] at armed
  have unset : (button9 t g).keyflag 10 = 0 :=
    (button9_keyflag_of_ne t g (by decide)).trans inv.keyflag10
  unfold Console.rises Fires10
  rw [toggled_eq, armed]
  simp [panelOf, unset, and_assoc]

theorem leaves_iff (inv : Invariant g) (t : Tick P) :
    (consoleOf g).leaves (panelOf t) = true ↔ ElevenLeaves t g := by
  rw [← fires11_iff inv]
  have unset := keyflag_before_eleven inv t
  unfold Console.leaves Fires11
  rw [walked_eq inv]
  simp [panelOf, unset]

/-- A motion begins when the progress is set back. -/
theorem begins_iff (inv : Invariant g) (t : Tick P) :
    (consoleOf g).begins (panelOf t) = true ↔ Restarts t g := by
  have walks := (walks_iff inv t).trans (fires5_iff inv t)
  unfold Console.begins Restarts
  rw [Bool.or_eq_true, Bool.or_eq_true, Bool.or_eq_true, Bool.and_eq_true, toggles_iff,
    rises_iff inv, leaves_iff inv, walks, or_assoc, or_assoc]
  simp [consoleOf]

namespace Shows

variable {plan : Plan K}

/-- The pose the motion of this tick began at. -/
theorem originAt (shows : Shows g plan) (inv : Invariant g) (t : Tick P) :
    plan.originAt (askedBy t) = (buttons t g).currentJointAngles := by
  have rises := rises_iff inv t
  have begun : ((consoleOf g).toggles (panelOf t) && !(consoleOf g).armed) = true ↔
      Fires9 t g ∧ g.startcontrol = false := by
    rw [Bool.and_eq_true, toggles_iff]
    simp [consoleOf]
  rw [buttons_currentJointAngles inv]
  unfold Plan.originAt
  rw [← shows.console, ← shows.origin]
  exact if_congr rises rfl (if_congr begun rfl rfl)

/-- The mode switch finds the mode the plan has for this tick. -/
theorem modeAt (shows : Shows g plan) (inv : Invariant g) (t : Tick P) :
    (plan.toConsole.next (askedBy t).toPanel).mode = (buttons t g).mode := by
  rw [← shows.console]
  exact next_mode inv t

variable [IsStrictOrderedRing K]

theorem progressAt (shows : Shows g plan) (inv : Invariant g) (t : Tick P) :
    (buttons t g).standPercent = min ((plan.elapsedAt (askedBy t) : K) / standDuration) 1 := by
  rw [buttons_standPercent inv]
  unfold Plan.elapsedAt
  rw [← shows.console]
  by_cases restarts : Restarts t g
  · have begins : (consoleOf g).begins (askedBy t).toPanel = true := (begins_iff inv t).mpr restarts
    rw [if_pos restarts, if_pos begins, Nat.cast_zero, zero_div, min_eq_left zero_le_one]
  · have keeps : ¬ (consoleOf g).begins (askedBy t).toPanel = true :=
      (begins_iff inv t).not.mpr restarts
    rw [if_neg restarts, if_neg keeps, shows.progress]

/-- One tick of the program follows one tick of the plan. -/
theorem step (shows : Shows g plan) (inv : Invariant g) (t : Tick P) :
    Shows (step g t) (plan.next (askedBy t)) where
  console := by
    rw [consoleOf_step inv, shows.console]
    rfl
  progress := by
    have found := shows.modeAt inv t
    have counted := shows.progressAt inv t
    unfold Plan.next
    dsimp only
    rw [found, step_eq inv, dispatch_standPercent t (inv.buttons t).percent_le_one, counted,
      ← advance_iterate standDuration_pos, ← advance_iterate standDuration_pos]
    by_cases posture : IsPosture (buttons t g).mode
    · rw [if_pos posture, Function.iterate_succ_apply']
      exact if_pos posture
    · rw [if_neg posture]
      exact if_neg posture
  origin := (step_console inv t).currentJointAngles.trans (shows.originAt inv t).symm

/-- Position-controlled joints are commanded to where the plan wants them. -/
theorem commands (shows : Shows g plan) (inv : Invariant g) {t : Tick P}
    (posture : IsPosture (buttons t g).mode) {j : Fin 24}
    (controlled : PositionControlled (buttons t g).mode j) :
    Commands g t j (plan.setpoint (askedBy t) j) := by
  rw [commands_iff inv rfl posture controlled, blend_eq_add, shows.progressAt inv t]
  unfold Plan.setpoint
  rw [shows.originAt inv t, shows.modeAt inv t]

end Shows

variable [IsStrictOrderedRing K]

theorem initial_shows (history : Fin P.inputSize → K) : Shows (initial history) Plan.initial where
  console := rfl
  progress := by
    change (0 : K) = min (((0 : ℕ) : K) / standDuration) 1
    rw [Nat.cast_zero, zero_div, min_eq_left zero_le_one]
  origin := rfl

/-- The plan after a run. -/
def planAfter (ticks : List (Tick P)) : Plan K :=
  run Plan.next Plan.initial (ticks.map askedBy)

/-- After every run the globals show the plan. -/
theorem after_shows (history : Fin P.inputSize → K) (ticks : List (Tick P)) :
    Shows (after history ticks) (planAfter ticks) := by
  induction ticks using List.reverseRecOn with
  | nil => exact initial_shows history
  | append_singleton ticks t ih =>
      have followed := ih.step (after_invariant history ticks) t
      rw [after_concat, planAfter, List.map_append, run_append]
      exact followed

/--
In every run the program follows the plan: the mode, arming and flags are the plan's, and
so is the mode found by the next tick; the progress is the plan's count of posture ticks
over the duration, at most one; and a posture tick commands each position-controlled joint
to that share of the way from the pose where the plan began the motion to the target.
-/
theorem plan_followed (history : Fin P.inputSize → K) (ticks : List (Tick P)) (t : Tick P) :
    let plan : Plan K := planAfter ticks
    Shows (after history ticks) plan ∧
      (plan.next (askedBy t)).mode = (buttons t (after history ticks)).mode ∧
      (IsPosture (plan.next (askedBy t)).mode → ∀ j,
        PositionControlled (plan.next (askedBy t)).mode j →
          Commands (after history ticks) t j (plan.setpoint (askedBy t) j)) := by
  intro plan
  have inv := after_invariant history ticks
  have shows := after_shows history ticks
  have found := shows.modeAt inv t
  refine ⟨shows, found, fun posture j controlled => ?_⟩
  change IsPosture (plan.toConsole.next (askedBy t).toPanel).mode at posture
  change PositionControlled (plan.toConsole.next (askedBy t).toPanel).mode j at controlled
  rw [found] at posture controlled
  exact shows.commands inv posture controlled

/-- The first press of button 9: joint 0 is commanded to where it is measured. -/
theorem plan_followed_level :
    Commands (levelAfter jointNames.symm []) (stillTick [9] 1) 0 1 := by
  let pressed : Tick (levelProgram jointNames.symm) := stillTick [9] 1
  have followed := (plan_followed (fun _ => 0) [] pressed).2.2
  have value : (planAfter ([] : List (Tick (levelProgram jointNames.symm)))).setpoint
      (askedBy pressed) 0 = 1 := by
    decide +kernel
  have commanded := followed (by decide +kernel) 0 (by decide +kernel)
  rw [value] at commanded
  exact commanded

end NoetixE1.Low
