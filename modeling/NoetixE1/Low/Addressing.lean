import NoetixE1.Low.Frames

/-!
# Which joint a slot commands

What a frame should say is stated per joint name, without slots.  In every mode
the command of a joint sits in the slot that `getJointsIndex` gives for it.  The
motor id of that slot agrees in the walking and default modes; the posture
handlers fill it from the position in `jointNames` instead.
-/

namespace NoetixE1.Low

open Interpolation Scatter

variable {K : Type} [Field K] {P : Program K}

/-! ## Commands per joint -/

/-- The target and the gains of one joint. -/
structure JointCommand (K : Type) where
  pos : K
  vel : K
  tau : K
  kp : K
  kd : K

/-- The slot carries this command. -/
def MotorCmd.Carries (cmd : MotorCmd K) (meant : JointCommand K) : Prop :=
  cmd.pos = some meant.pos ∧ cmd.vel = some meant.vel ∧ cmd.tau = some meant.tau ∧
    cmd.kp = some meant.kp ∧ cmd.kd = some meant.kd

def isAnkle : JointName → Bool
  | .legL5Joint | .legR5Joint | .legL6Joint | .legR6Joint => true
  | _ => false

/-- Standing: all joints move to the stand pose, `waist_2` is only damped. -/
def standMeant (g : Globals P) (name : JointName) : JointCommand K :=
  if name = .waist2Joint then ⟨0, 0, 0, 0, 5⟩
  else
    { pos := blend (g.currentJointAngles (jointNames.symm name)) (standjointState name)
        g.standPercent
      vel := 0, tau := 0, kp := 50, kd := if isAnkle name then 1 else 5 }

/-- Lying: all joints move to the lie pose. -/
def lieMeant (g : Globals P) (name : JointName) : JointCommand K where
  pos := blend (g.currentJointAngles (jointNames.symm name)) (liejointState name) g.standPercent
  vel := 0
  tau := 0
  kp := if name = .waist2Joint then 200 else if isAnkle name then 50 else 70
  kd := if isAnkle name then 1 else 5

variable [LinearOrder K]

/-- Walking: the policy drives the legs, the other joints drift to their rest pose. -/
def userMeant (t : Tick P) (g : Globals P) (name : JointName) : JointCommand K :=
  match driveOf (walkjointNames.symm name) with
  | .inl j =>
      ⟨g.actions j * P.actionScale j + P.defaultJointAngles j, 0, 0, P.jointStiffness j,
        P.jointDamping j⟩
  | .inr i =>
      ⟨armSetpoint (armRest i) ((t.reads.arm i).motorData (P.getJointsIndex name)).pos, 0, 0,
        armKp i, 5⟩

/-- The command meant for each joint when the mode switch is dispatched in `g`. -/
def meantFor (t : Tick P) (g : Globals P) (name : JointName) : JointCommand K :=
  match g.mode with
  | .stand => standMeant g name
  | .lie => lieMeant g name
  | .default => ⟨0, 0, 0, 0, 0.1⟩
  | .usermode => userMeant t (policyStep t (setparameter (commandOf t) g)) name

/-- Slot and motor id address the same joint, the one the command is meant for. -/
structure Addressed (P : Program K) (meant : JointName → JointCommand K) (frame : Frame K) :
    Prop where
  ownId : ∀ slot, (frame slot).motorId = some slot.val
  carries : ∀ name, (frame (P.getJointsIndex name)).Carries (meant name)

/-! ## Commands sit in the slots of their joints -/

omit [LinearOrder K] in
theorem standFrame_carries (g : Globals P) (name : JointName) :
    (postureFrame standJointAngles standAssign g (P.getJointsIndex name)).Carries
      (standMeant g name) := by
  obtain ⟨j, rfl⟩ := jointNames.surjective name
  rw [postureFrame_apply, standMeant, Equiv.symm_apply_apply]
  have waist : jointNames j = .waist2Joint ↔ j = 23 := by revert j; decide
  have ankle : isAnkle (jointNames j) = true ↔ j = 15 ∨ j = 16 ∨ j = 19 ∨ j = 20 := by
    revert j
    decide
  unfold standAssign
  simp only [waist, ankle]
  split_ifs
  · exact ⟨rfl, rfl, rfl, rfl, rfl⟩
  · exact ⟨rfl, rfl, rfl, rfl, rfl⟩
  · exact ⟨rfl, rfl, rfl, rfl, rfl⟩

omit [LinearOrder K] in
theorem lieFrame_carries (g : Globals P) (name : JointName) :
    (postureFrame lieJointAngles lieAssign g (P.getJointsIndex name)).Carries
      (lieMeant g name) := by
  obtain ⟨j, rfl⟩ := jointNames.surjective name
  rw [postureFrame_apply, lieMeant, Equiv.symm_apply_apply]
  have waist : jointNames j = .waist2Joint ↔ j = 23 := by revert j; decide
  have ankle : isAnkle (jointNames j) = true ↔ j = 15 ∨ j = 16 ∨ j = 19 ∨ j = 20 := by
    revert j
    decide
  unfold lieAssign
  simp only [waist, ankle]
  split_ifs with last side
  · rcases side with h | h | h | h <;> exact absurd (last.symm.trans h) (by decide)
  · exact ⟨rfl, rfl, rfl, rfl, rfl⟩
  · exact ⟨rfl, rfl, rfl, rfl, rfl⟩
  · exact ⟨rfl, rfl, rfl, rfl, rfl⟩

theorem userFrame_carries (t : Tick P) (g : Globals P) (name : JointName) :
    (userFrame t g (P.getJointsIndex name)).Carries (userMeant t g name) := by
  obtain ⟨index, rfl⟩ := walkjointNames.surjective name
  have place := driveOf_spec index
  rw [userMeant, Equiv.symm_apply_apply]
  cases drive : driveOf index with
  | inl j =>
      rw [drive] at place
      rw [← place]
      change (userFrame t g (legIndex P j)).Carries _
      rw [userFrame_leg]
      exact ⟨rfl, rfl, rfl, rfl, rfl⟩
  | inr i =>
      rw [drive] at place
      rw [← place]
      change (userFrame t g (armIndex P i)).Carries _
      rw [userFrame_arm]
      exact ⟨rfl, rfl, rfl, rfl, rfl⟩

/-- In every mode the command meant for a joint sits in the slot of that joint. -/
theorem frame_carries (t : Tick P) (g : Globals P) (name : JointName) :
    (scatter (frameWrites t g) (frameStart g) (P.getJointsIndex name)).Carries
      (meantFor t g name) := by
  unfold frameWrites frameStart meantFor
  cases g.mode with
  | stand => exact standFrame_carries g name
  | lie => exact lieFrame_carries g name
  | default =>
      change ((defautFrame : Frame K) (P.getJointsIndex name)).Carries _
      rw [defautFrame_apply]
      exact ⟨rfl, rfl, rfl, rfl, rfl⟩
  | usermode => exact userFrame_carries t _ name

/-! ## When the motor ids agree -/

/-- The frames of this tick are consistently addressed. -/
def TickAddressed (g : Globals P) (t : Tick P) : Prop :=
  ∀ frame ∈ (process t g).sent, Addressed P (meantFor t (buttons t g)) frame

/-- The slots of the robot follow the order of `jointNames`. -/
def Aligned (P : Program K) : Prop := ∀ j, P.getJointsIndex (jointNames j) = j

instance (P : Program K) : Decidable (Aligned P) :=
  inferInstanceAs (Decidable (∀ j, P.getJointsIndex (jointNames j) = j))

omit [Field K] [LinearOrder K] in
theorem frameIds_own_iff (P : Program K) (mode : WorkMode) :
    (∀ slot : Fin 24, (frameIds P mode slot).val = slot.val) ↔
      (mode = .usermode ∨ mode = .default) ∨ Aligned P := by
  cases mode with
  | stand => simp [frameIds, Aligned, Fin.ext_iff]
  | lie => simp [frameIds, Aligned, Fin.ext_iff]
  | default => simp [frameIds]
  | usermode => simp [frameIds]

variable [IsStrictOrderedRing K]

/-- The frame of a tick is consistently addressed in the walking and default modes,
and in the posture modes if the slots follow `jointNames`. -/
theorem tick_addressed_iff {g : Globals P} (inv : Invariant g) (t : Tick P) :
    TickAddressed g t ↔
      ((buttons t g).mode = .usermode ∨ (buttons t g).mode = .default) ∨ Aligned P := by
  rw [TickAddressed, process_sent inv, List.forall_mem_singleton, ← frameIds_own_iff]
  have ids := fun slot => (frame_complete t (buttons t g) slot).2
  constructor
  · intro addressed slot
    exact Option.some.inj ((ids slot).symm.trans (addressed.ownId slot))
  · intro own
    exact ⟨fun slot => (ids slot).trans (congrArg some (own slot)), frame_carries t _⟩

/--
Every frame of every run is consistently addressed exactly when the slots of
the robot follow `jointNames`; tick by tick, the frames of the walking and
default modes always are, and those of the posture modes exactly then.
-/
theorem addressed_iff_aligned (history : Fin P.inputSize → K) :
    ((∀ ticks t, TickAddressed (after history ticks) t) ↔ Aligned P) ∧
    ∀ ticks t, TickAddressed (after history ticks) t ↔
      ((buttons t (after history ticks)).mode = .usermode ∨
        (buttons t (after history ticks)).mode = .default) ∨ Aligned P := by
  have perTick := fun ticks t => tick_addressed_iff (after_invariant history ticks) t
  refine ⟨⟨fun every => ?_, fun aligned ticks t => (perTick ticks t).mpr (Or.inr aligned)⟩, perTick⟩
  -- a program that is started and left alone stands
  have standing : (buttons (stillTick [] 0) (after history [])).mode = .stand := rfl
  rcases (perTick [] (stillTick [] 0)).mp (every [] (stillTick [] 0)) with moving | aligned
  · rw [standing] at moving
    rcases moving with absurd | absurd <;> cases absurd
  · exact aligned

/-- A robot whose slots follow `jointNames` is addressed consistently while it lies down. -/
theorem addressed_level :
    TickAddressed (levelAfter jointNames.symm []) (stillTick [9] 1) :=
  (addressed_iff_aligned fun _ => 0).1.mpr (by decide) [] (stillTick [9] 1)

/-- A robot whose slots follow `walkjointNames` is not, already in its first tick. -/
theorem not_addressed_walk_order :
    ¬ TickAddressed (levelAfter walkjointNames.symm []) (stillTick [] 0) := by
  rw [levelAfter, tick_addressed_iff (after_invariant _ [])]
  decide

end NoetixE1.Low
