import NoetixE1.Low.Process

/-!
# What the button branches can do

Each branch assigns `mode_` under one condition, its firing condition.  The
lemmas give every field after a branch in terms of that condition, so later
proofs never open the branches.
-/

namespace NoetixE1.Low

variable {K : Type} [Field K] {P : Program K}

/-! ## Firing conditions -/

/-- The branch of button 9 assigns `mode_`. -/
def Fires9 (t : Tick P) (g : Globals P) : Prop := t.button 9 = 1 ∧ g.keyflag 9 = 0

/-- The branch of buttons 10 and 2 assigns `mode_`. -/
def Fires10 (t : Tick P) (g : Globals P) : Prop :=
  t.button 10 = 1 ∧ t.button 2 = 1 ∧ g.keyflag 10 = 0 ∧ g.startcontrol = true ∧ g.mode ≠ .stand

/-- The branch of buttons 5 and 2 assigns `mode_`. -/
def Fires5 (t : Tick P) (g : Globals P) : Prop :=
  t.button 5 = 1 ∧ t.button 2 = 1 ∧ g.keyflag 5 = 0 ∧ g.mode = .stand

/-- The branch of button 11 assigns `mode_`. -/
def Fires11 (t : Tick P) (g : Globals P) : Prop :=
  t.button 11 = 1 ∧ g.keyflag 11 = 0 ∧ (g.mode = .usermode ∨ g.mode = .default)

instance (t : Tick P) (g : Globals P) : Decidable (Fires9 t g) :=
  inferInstanceAs (Decidable (_ ∧ _))

instance (t : Tick P) (g : Globals P) : Decidable (Fires10 t g) :=
  inferInstanceAs (Decidable (_ ∧ _))

instance (t : Tick P) (g : Globals P) : Decidable (Fires5 t g) :=
  inferInstanceAs (Decidable (_ ∧ _))

instance (t : Tick P) (g : Globals P) : Decidable (Fires11 t g) :=
  inferInstanceAs (Decidable (_ ∧ _))

/-- The four buttons that guard a branch. -/
inductive Trigger where
  | nine
  | ten
  | five
  | eleven
  deriving DecidableEq

/-- The button a trigger reads. -/
def Trigger.index : Trigger → Fin 14
  | .nine => 9
  | .ten => 10
  | .five => 5
  | .eleven => 11

/-- In this tick the branch guarded by the trigger assigns `mode_`. -/
def SetsMode (t : Tick P) (g : Globals P) : Trigger → Prop
  | .nine => Fires9 t g
  | .ten => Fires10 t (button9 t g)
  | .five => Fires5 t (button10 t (button9 t g))
  | .eleven => Fires11 t (button5 t (button10 t (button9 t g)))

instance (t : Tick P) (g : Globals P) : (trigger : Trigger) → Decidable (SetsMode t g trigger)
  | .nine => inferInstanceAs (Decidable (Fires9 t g))
  | .ten => inferInstanceAs (Decidable (Fires10 t _))
  | .five => inferInstanceAs (Decidable (Fires5 t _))
  | .eleven => inferInstanceAs (Decidable (Fires11 t _))

/-- Some branch assigns `mode_` in this tick. -/
def Reassigned (t : Tick P) (g : Globals P) : Prop := ∃ trigger, SetsMode t g trigger

theorem reassigned_iff_or (t : Tick P) (g : Globals P) :
    Reassigned t g ↔
      SetsMode t g .nine ∨ SetsMode t g .ten ∨ SetsMode t g .five ∨ SetsMode t g .eleven := by
  constructor
  · rintro ⟨trigger, sets⟩
    cases trigger with
    | nine => exact Or.inl sets
    | ten => exact Or.inr (Or.inl sets)
    | five => exact Or.inr (Or.inr (Or.inl sets))
    | eleven => exact Or.inr (Or.inr (Or.inr sets))
  · rintro (sets | sets | sets | sets)
    · exact ⟨.nine, sets⟩
    · exact ⟨.ten, sets⟩
    · exact ⟨.five, sets⟩
    · exact ⟨.eleven, sets⟩

instance (t : Tick P) (g : Globals P) : Decidable (Reassigned t g) :=
  decidable_of_iff _ (reassigned_iff_or t g).symm

/-! ## The branch of button 9 -/

section Button9

variable (t : Tick P) (g : Globals P)

theorem button9_eq :
    button9 t g =
      if Fires9 t g then
        if g.startcontrol = false then
          { setKey g 9 1 with
            startcontrol := true, standPercent := 0, mode := .lie
            currentJointAngles := measuredAngles P t.reads.lieCapture }
        else { setKey g 9 1 with startcontrol := false, mode := .default }
      else if t.button 9 = 0 then setKey g 9 0
      else g := rfl

theorem button9_mode :
    (button9 t g).mode =
      if Fires9 t g then if g.startcontrol = false then .lie else .default else g.mode := by
  rw [button9_eq]
  split_ifs <;> rfl

theorem button9_startcontrol :
    (button9 t g).startcontrol = if Fires9 t g then !g.startcontrol else g.startcontrol := by
  rw [button9_eq]
  cases armed : g.startcontrol <;> split_ifs <;> first | rfl | exact armed | contradiction

theorem button9_standPercent :
    (button9 t g).standPercent =
      if Fires9 t g then if g.startcontrol = false then 0 else g.standPercent
      else g.standPercent := by
  rw [button9_eq]
  split_ifs <;> rfl

theorem button9_currentJointAngles :
    (button9 t g).currentJointAngles =
      if Fires9 t g then
        if g.startcontrol = false then measuredAngles P t.reads.lieCapture
        else g.currentJointAngles
      else g.currentJointAngles := by
  rw [button9_eq]
  split_ifs <;> rfl

theorem button9_keyflag_self :
    (button9 t g).keyflag 9 =
      if Fires9 t g then 1 else if t.button 9 = 0 then 0 else g.keyflag 9 := by
  rw [button9_eq]
  split_ifs <;> rfl

theorem button9_keyflag_of_ne {index : Fin 14} (other : index ≠ 9) :
    (button9 t g).keyflag index = g.keyflag index := by
  rw [button9_eq]
  split_ifs <;> first | rfl | exact Function.update_of_ne other _ _

theorem button9_isChangeMode : (button9 t g).isChangeMode = g.isChangeMode := by
  rw [button9_eq]
  split_ifs <;> rfl

theorem button9_policy : (button9 t g).toPolicyGlobals = g.toPolicyGlobals := by
  rw [button9_eq]
  split_ifs <;> rfl

end Button9

/-! ## The branch of buttons 10 and 2 -/

section Button10

variable (t : Tick P) (g : Globals P)

/-- The inner test for `lie` is dead: the branch acts only through its first inner case. -/
theorem button10_eq :
    button10 t g =
      if Fires10 t g then
        { g with
          standPercent := 0, mode := .stand
          currentJointAngles := measuredAngles P t.reads.standCapture }
      else if t.button 10 = 0 then setKey g 10 0
      else g := by
  unfold button10 Fires10
  split_ifs <;> grind

theorem button10_mode :
    (button10 t g).mode = if Fires10 t g then .stand else g.mode := by
  rw [button10_eq]
  split_ifs <;> rfl

theorem button10_startcontrol : (button10 t g).startcontrol = g.startcontrol := by
  rw [button10_eq]
  split_ifs <;> rfl

theorem button10_standPercent :
    (button10 t g).standPercent = if Fires10 t g then 0 else g.standPercent := by
  rw [button10_eq]
  split_ifs <;> rfl

theorem button10_currentJointAngles :
    (button10 t g).currentJointAngles =
      if Fires10 t g then measuredAngles P t.reads.standCapture else g.currentJointAngles := by
  rw [button10_eq]
  split_ifs <;> rfl

theorem button10_keyflag_of_ne {index : Fin 14} (other : index ≠ 10) :
    (button10 t g).keyflag index = g.keyflag index := by
  rw [button10_eq]
  split_ifs <;> first | rfl | exact Function.update_of_ne other _ _

theorem button10_isChangeMode : (button10 t g).isChangeMode = g.isChangeMode := by
  rw [button10_eq]
  split_ifs <;> rfl

theorem button10_policy : (button10 t g).toPolicyGlobals = g.toPolicyGlobals := by
  rw [button10_eq]
  split_ifs <;> rfl

end Button10

/-! ## The branch of buttons 5 and 2 -/

section Button5

variable (t : Tick P) (g : Globals P)

theorem button5_eq :
    button5 t g =
      if Fires5 t g then
        { setKey g 5 1 with standPercent := 0, isChangeMode := true, mode := .usermode }
      else if t.button 5 = 0 then setKey g 5 0
      else g := by
  unfold button5 Fires5
  split_ifs <;> grind

theorem button5_mode :
    (button5 t g).mode = if Fires5 t g then .usermode else g.mode := by
  rw [button5_eq]
  split_ifs <;> rfl

theorem button5_startcontrol : (button5 t g).startcontrol = g.startcontrol := by
  rw [button5_eq]
  split_ifs <;> rfl

theorem button5_standPercent :
    (button5 t g).standPercent = if Fires5 t g then 0 else g.standPercent := by
  rw [button5_eq]
  split_ifs <;> rfl

theorem button5_currentJointAngles :
    (button5 t g).currentJointAngles = g.currentJointAngles := by
  rw [button5_eq]
  split_ifs <;> rfl

theorem button5_keyflag_self :
    (button5 t g).keyflag 5 =
      if Fires5 t g then 1 else if t.button 5 = 0 then 0 else g.keyflag 5 := by
  rw [button5_eq]
  split_ifs <;> rfl

theorem button5_keyflag_of_ne {index : Fin 14} (other : index ≠ 5) :
    (button5 t g).keyflag index = g.keyflag index := by
  rw [button5_eq]
  split_ifs <;> first | rfl | exact Function.update_of_ne other _ _

theorem button5_isChangeMode :
    (button5 t g).isChangeMode = if Fires5 t g then true else g.isChangeMode := by
  rw [button5_eq]
  split_ifs <;> rfl

theorem button5_policy : (button5 t g).toPolicyGlobals = g.toPolicyGlobals := by
  rw [button5_eq]
  split_ifs <;> rfl

end Button5

/-! ## The branch of button 11 -/

section Button11

variable (t : Tick P) (g : Globals P)

theorem button11_eq :
    button11 t g =
      if Fires11 t g then
        if g.mode = .usermode then { g with isChangeMode := true, mode := .stand }
        else { g with standPercent := 0, isChangeMode := true, mode := .lie }
      else g := by
  unfold button11 Fires11
  split_ifs <;> grind

theorem button11_mode :
    (button11 t g).mode =
      if Fires11 t g then if g.mode = .usermode then .stand else .lie else g.mode := by
  rw [button11_eq]
  split_ifs <;> rfl

theorem button11_startcontrol : (button11 t g).startcontrol = g.startcontrol := by
  rw [button11_eq]
  split_ifs <;> rfl

theorem button11_standPercent :
    (button11 t g).standPercent =
      if Fires11 t g then if g.mode = .usermode then g.standPercent else 0
      else g.standPercent := by
  rw [button11_eq]
  split_ifs <;> rfl

/-- The branch of button 11 starts a motion without capturing the joints. -/
theorem button11_currentJointAngles :
    (button11 t g).currentJointAngles = g.currentJointAngles := by
  rw [button11_eq]
  split_ifs <;> rfl

theorem button11_keyflag : (button11 t g).keyflag = g.keyflag := by
  rw [button11_eq]
  split_ifs <;> rfl

theorem button11_isChangeMode :
    (button11 t g).isChangeMode = if Fires11 t g then true else g.isChangeMode := by
  rw [button11_eq]
  split_ifs <;> rfl

theorem button11_policy : (button11 t g).toPolicyGlobals = g.toPolicyGlobals := by
  rw [button11_eq]
  split_ifs <;> rfl

end Button11

end NoetixE1.Low
