import NoetixE1.Low.Handlers
import NoetixE1.Machine.Runs

/-!
# The control tick

`process` of `example_low.cpp`: four button branches run one after another on
the mode the earlier ones left, then the mode switch calls one handler.
-/

namespace NoetixE1.Low

variable {K : Type} {P : Program K}

/-! ## Button branches -/

/-- The capture loop: measured positions in the order of `jointNames`. -/
def measuredAngles (P : Program K) (status : RobotHardwareStatus K) : Fin 24 → K :=
  fun i => (status.motorData (P.getJointsIndex (jointNames i))).pos

def setKey (g : Globals P) (index : Fin 14) (value : Int) : Globals P :=
  { g with keyflag := Function.update g.keyflag index value }

theorem setKey_keyflag_self (g : Globals P) (index : Fin 14) (value : Int) :
    (setKey g index value).keyflag index = value := Function.update_self _ _ _

theorem setKey_keyflag_of_ne (g : Globals P) {index other : Fin 14} (apart : other ≠ index)
    (value : Int) : (setKey g index value).keyflag other = g.keyflag other :=
  Function.update_of_ne apart _ _

variable [Field K]

/-- Button 9: start and stop control. -/
def button9 (t : Tick P) (g : Globals P) : Globals P :=
  if t.button 9 = 1 ∧ g.keyflag 9 = 0 then
    if g.startcontrol = false then
      { setKey g 9 1 with
        startcontrol := true
        standPercent := 0
        mode := .lie
        currentJointAngles := measuredAngles P t.reads.lieCapture }
    else
      { setKey g 9 1 with startcontrol := false, mode := .default }
  else if t.button 9 = 0 then setKey g 9 0
  else g

/-- Buttons 10 and 2: stand.  `keyflag[10]` is tested and cleared, never set. -/
def button10 (t : Tick P) (g : Globals P) : Globals P :=
  if t.button 10 = 1 ∧ t.button 2 = 1 ∧ g.keyflag 10 = 0 then
    if g.startcontrol = true then
      if g.mode ≠ .stand then
        { g with
          standPercent := 0
          mode := .stand
          currentJointAngles := measuredAngles P t.reads.standCapture }
      -- never reached: `mode` is `stand` here
      else if g.mode = .lie then
        { g with standPercent := 0, mode := .stand }
      else g
    else g
  else if t.button 10 = 0 then setKey g 10 0
  else g

/-- Buttons 5 and 2: walk. -/
def button5 (t : Tick P) (g : Globals P) : Globals P :=
  if t.button 5 = 1 ∧ t.button 2 = 1 ∧ g.keyflag 5 = 0 then
    if g.mode = .stand then
      { setKey g 5 1 with standPercent := 0, isChangeMode := true, mode := .usermode }
    else g
  else if t.button 5 = 0 then setKey g 5 0
  else g

/-- Button 11: from walking to standing, from default to lying.  There is no
branch for its release. -/
def button11 (t : Tick P) (g : Globals P) : Globals P :=
  if t.button 11 = 1 ∧ g.keyflag 11 = 0 then
    if g.mode = .usermode then
      { g with isChangeMode := true, mode := .stand }
    else if g.mode = .default then
      { g with standPercent := 0, isChangeMode := true, mode := .lie }
    else g
  else g

/-- The globals when the mode switch is dispatched. -/
def buttons (t : Tick P) (g : Globals P) : Globals P :=
  button11 t (button5 t (button10 t (button9 t g)))

/-! ## Mode switch -/

/-- The velocity command read from the sticks. -/
def commandOf (t : Tick P) : Command K :=
  let remoteData := t.reads.remote.remoteData
  { x := remoteData.axes 1, y := 0, yaw := remoteData.axes 0 }

variable [LinearOrder K]

/-- The mode switch. -/
def dispatch (t : Tick P) (g : Globals P) : Outcome P :=
  match g.mode with
  | .stand => handleStandMode g
  | .lie => handleLieMode g
  | .default => handleDefautMode g
  | .usermode => handleUserMode t (setparameter (commandOf t) g)

/-- `process`. -/
def process (t : Tick P) (g : Globals P) : Outcome P :=
  if g.initfinish = 0 then ⟨g, [], []⟩ else dispatch t (buttons t g)

/-! ## Runs -/

/-- The globals after one call of `process`. -/
def step (g : Globals P) (t : Tick P) : Globals P := (process t g).globals

/-- The globals after a run of the program from its initial state. -/
def after (history : Fin P.inputSize → K) (ticks : List (Tick P)) : Globals P :=
  Machine.run step (initial history) ticks

theorem after_concat (history : Fin P.inputSize → K) (ticks : List (Tick P)) (t : Tick P) :
    after history (ticks ++ [t]) = step (after history ticks) t :=
  Machine.run_concat step (initial history) ticks t

theorem after_append (history : Fin P.inputSize → K) (first second : List (Tick P)) :
    after history (first ++ second) = Machine.run step (after history first) second :=
  Machine.run_append step (initial history) first second

end NoetixE1.Low
