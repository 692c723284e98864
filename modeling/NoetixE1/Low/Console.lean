import NoetixE1.Low.Debounce
import NoetixE1.Machine.Simulation

/-!
# The control console

What the buttons alone decide: the mode, whether control is armed, and for
buttons 9 and 5 whether the press has been used up.  The console is a finite
machine; the program runs it whatever the sensors and the network deliver.
-/

namespace NoetixE1.Low

open Machine

/-! ## The console -/

/-- A button is compared with 1 and, for its release, with 0. -/
inductive Level where
  | released
  | pressed
  | other
  deriving DecidableEq

def Level.of (value : Int) : Level :=
  if value = 1 then .pressed else if value = 0 then .released else .other

/-- What the console sees of a tick. -/
structure Panel where
  nine : Level
  five : Level
  two : Bool
  ten : Bool
  eleven : Bool
  deriving DecidableEq

/-- What the console keeps between two ticks. -/
structure Console where
  mode : WorkMode
  armed : Bool
  used9 : Bool
  used5 : Bool
  deriving DecidableEq

namespace Console

/-- Standing, disarmed, no press used up. -/
def start : Console := ⟨.stand, false, false, false⟩

variable (c : Console) (p : Panel)

/-- A fresh press of button 9 switches control on or off. -/
def toggles : Bool := p.nine = .pressed && !c.used9

def armedNext : Bool := xor c.armed (c.toggles p)

/-- Switched on the robot lies down, switched off it is passive. -/
def toggled : WorkMode :=
  if c.toggles p then if c.armed then .default else .lie else c.mode

/-- With control on, buttons 10 and 2 make the robot stand. -/
def raised : WorkMode := if p.ten && p.two && c.armedNext p then .stand else c.toggled p

/-- From standing, a fresh press of button 5 together with button 2 makes it walk. -/
def walks : Bool := p.five = .pressed && p.two && !c.used5 && c.raised p = .stand

def walked : WorkMode := if c.walks p then .usermode else c.raised p

/-- Button 11 ends walking and the passive mode. -/
def dismiss : WorkMode → WorkMode
  | .usermode => .stand
  | .default => .lie
  | .stand => .stand
  | .lie => .lie

/-- One tick of the console. -/
def next : Console where
  mode := if p.eleven then dismiss (c.walked p) else c.walked p
  armed := c.armedNext p
  used9 := c.toggles p || (c.used9 && p.nine ≠ .released)
  used5 := c.walks p || (c.used5 && p.five ≠ .released)

end Console

/-! ## The program runs the console -/

variable {K : Type} {P : Program K}

def panelOf (t : Tick P) : Panel where
  nine := Level.of (t.button 9)
  five := Level.of (t.button 5)
  two := t.button 2 = 1
  ten := t.button 10 = 1
  eleven := t.button 11 = 1

def consoleOf (g : Globals P) : Console where
  mode := g.mode
  armed := g.startcontrol
  used9 := g.keyflag 9 ≠ 0
  used5 := g.keyflag 5 ≠ 0

@[simp] theorem Level.of_eq_pressed {value : Int} : Level.of value = .pressed ↔ value = 1 := by
  unfold Level.of
  split_ifs <;> simp_all

@[simp] theorem Level.of_eq_released {value : Int} : Level.of value = .released ↔ value = 0 := by
  unfold Level.of
  split_ifs <;> simp_all

section View

theorem toggles_iff (t : Tick P) (g : Globals P) :
    (consoleOf g).toggles (panelOf t) = true ↔ Fires9 t g := by
  simp [Console.toggles, consoleOf, panelOf, Fires9]

variable [Field K]

theorem toggled_eq (t : Tick P) (g : Globals P) :
    (consoleOf g).toggled (panelOf t) = (button9 t g).mode := by
  unfold Console.toggled
  simp only [toggles_iff, button9_mode]
  refine if_congr Iff.rfl ?_ rfl
  cases armed : g.startcontrol <;> simp [consoleOf, armed]

theorem armedNext_eq (t : Tick P) (g : Globals P) :
    (consoleOf g).armedNext (panelOf t) = (buttons t g).startcontrol := by
  rw [buttons_startcontrol]
  unfold Console.armedNext
  by_cases fires : Fires9 t g
  · rw [(toggles_iff t g).mpr fires, if_pos fires]
    exact Bool.xor_true _
  · rw [Bool.eq_false_of_not_eq_true ((toggles_iff t g).not.mpr fires), if_neg fires]
    exact Bool.xor_false _

variable [LinearOrder K] {g : Globals P}

theorem raised_eq (inv : Invariant g) (t : Tick P) :
    (consoleOf g).raised (panelOf t) = (button10 t (button9 t g)).mode := by
  have armed := armedNext_eq t g
  rw [buttons_startcontrol, ← button9_startcontrol] at armed
  have unset : (button9 t g).keyflag 10 = 0 :=
    (button9_keyflag_of_ne t g (by decide)).trans inv.keyflag10
  have chord : ((panelOf t).ten && (panelOf t).two && (button9 t g).startcontrol) = true ↔
      StandChord t ∧ (button9 t g).startcontrol = true := by
    simp [panelOf, StandChord]
  have fires : Fires10 t (button9 t g) ↔
      (StandChord t ∧ (button9 t g).startcontrol = true) ∧ (button9 t g).mode ≠ .stand := by
    simp [Fires10, StandChord, unset, and_assoc]
  unfold Console.raised
  rw [button10_mode, toggled_eq, armed]
  simp only [chord, fires]
  by_cases asked : StandChord t ∧ (button9 t g).startcontrol = true
  · by_cases standing : (button9 t g).mode = .stand
    · simp [standing]
    · simp [asked, standing]
  · simp only [asked, false_and, if_false]

theorem walks_iff (inv : Invariant g) (t : Tick P) :
    (consoleOf g).walks (panelOf t) = true ↔ Fires5 t (button10 t (button9 t g)) := by
  have kept : (button10 t (button9 t g)).keyflag 5 = g.keyflag 5 := by
    rw [button10_keyflag_of_ne t _ (by decide), button9_keyflag_of_ne t g (by decide)]
  unfold Console.walks Fires5
  rw [raised_eq inv, kept]
  simp [panelOf, consoleOf, and_assoc]

theorem walked_eq (inv : Invariant g) (t : Tick P) :
    (consoleOf g).walked (panelOf t) = (button5 t (button10 t (button9 t g))).mode := by
  unfold Console.walked
  rw [raised_eq inv, button5_mode]
  exact if_congr (walks_iff inv t) rfl rfl

theorem next_mode (inv : Invariant g) (t : Tick P) :
    ((consoleOf g).next (panelOf t)).mode = (buttons t g).mode := by
  have unset := keyflag_before_eleven inv t
  unfold Console.next buttons
  rw [walked_eq inv, button11_mode]
  unfold Fires11
  by_cases pressed : t.button 11 = 1
  · simp only [panelOf, pressed, unset, decide_true, if_true, true_and]
    cases mode : (button5 t (button10 t (button9 t g))).mode <;> simp [Console.dismiss]
  · simp [panelOf, pressed]

/-- A press is used up when its branch acts, and forgotten when the button is released. -/
theorem used_step {trigger : Trigger} (latched : trigger.Latched) (inv : Invariant g) (t : Tick P)
    {acts : Bool} (fires : acts = true ↔ SetsMode t g trigger) :
    decide ((step g t).keyflag trigger.index ≠ 0) =
      (acts || (decide (g.keyflag trigger.index ≠ 0) &&
        decide (Level.of (t.button trigger.index) ≠ .released))) := by
  rw [step_keyflag latched inv]
  by_cases sets : SetsMode t g trigger
  · simp [fires.mpr sets, sets]
  · have idle : acts = false := Bool.eq_false_of_not_eq_true (fires.not.mpr sets)
    by_cases released : t.button trigger.index = 0
    · simp [idle, sets, released]
    · simp [idle, sets, released]

/-- One tick of the program is one tick of its console. -/
theorem consoleOf_step (inv : Invariant g) (t : Tick P) :
    consoleOf (step g t) = (consoleOf g).next (panelOf t) := by
  have kept := step_console inv t
  have mode : (step g t).mode = ((consoleOf g).next (panelOf t)).mode :=
    kept.mode.trans (next_mode inv t).symm
  have armed : (step g t).startcontrol = (consoleOf g).armedNext (panelOf t) :=
    kept.startcontrol.trans (armedNext_eq t g).symm
  have nine : decide ((step g t).keyflag 9 ≠ 0) = ((consoleOf g).next (panelOf t)).used9 :=
    used_step (Or.inl rfl : Trigger.nine.Latched) inv t (toggles_iff t g)
  have five : decide ((step g t).keyflag 5 ≠ 0) = ((consoleOf g).next (panelOf t)).used5 :=
    used_step (Or.inr rfl : Trigger.five.Latched) inv t (walks_iff inv t)
  unfold consoleOf
  rw [mode, armed, nine, five]
  rfl

variable [IsStrictOrderedRing K]

/-- Every run of the program is a run of its console. -/
theorem consoleOf_after (history : Fin P.inputSize → K) (ticks : List (Tick P)) :
    consoleOf (after history ticks) = run Console.next Console.start (ticks.map panelOf) :=
  run_view (fun _ t inv => inv.step t) (fun _ t inv => consoleOf_step inv t)
    (initial_invariant history) ticks

end View

end NoetixE1.Low
