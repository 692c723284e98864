import NoetixE1.Low.Invariant
import NoetixE1.Low.WalkConfig

/-!
# The frame of a tick

Every handler fills its frame by one list of writes that addresses each of the
24 slots once: the posture loops through `jointNames`, the walking loops
through two index lists that split `walkjointNames`.
-/

namespace NoetixE1.Low

open Interpolation Scatter

variable {K : Type} {P : Program K}

/-! ## Which joint a slot belongs to -/

/-- Every slot is the slot of one joint of `jointNames`. -/
theorem exists_posture_slot (P : Program K) (slot : Fin 24) :
    ∃ j, P.getJointsIndex (jointNames j) = slot :=
  ⟨jointNames.symm (P.getJointsIndex.symm slot), by simp⟩

/-- How `handleUserMode` drives a joint of `walkjointNames`: leg-loop entry or arm-loop entry. -/
def driveOf : Fin 24 → Fin 12 ⊕ Fin 12 :=
  ![.inl 0, .inl 1, .inr 0, .inl 2, .inl 3, .inr 1, .inl 4, .inl 5, .inr 2, .inr 3, .inl 6,
    .inl 7, .inr 4, .inr 5, .inl 8, .inl 9, .inr 6, .inr 7, .inl 10, .inl 11, .inr 8, .inr 9,
    .inr 10, .inr 11]

theorem driveOf_spec (index : Fin 24) :
    Sum.elim jointIndicesLeg jointIndicesArm (driveOf index) = index := by
  revert index
  decide

/-- Every slot is the slot of one arm-loop entry or of one leg-loop entry. -/
theorem exists_user_slot (P : Program K) (slot : Fin 24) :
    (∃ i, armIndex P i = slot) ∨ ∃ j, legIndex P j = slot := by
  have place := driveOf_spec (walkjointNames.symm (P.getJointsIndex.symm slot))
  cases drive : driveOf (walkjointNames.symm (P.getJointsIndex.symm slot)) with
  | inl j =>
      rw [drive] at place
      refine Or.inr ⟨j, ?_⟩
      rw [legIndex, show jointIndicesLeg j = _ from place]
      simp
  | inr i =>
      rw [drive] at place
      refine Or.inl ⟨i, ?_⟩
      rw [armIndex, show jointIndicesArm i = _ from place]
      simp

variable [Field K]

/-! ## Default frames -/

theorem defautWrites_nodup : (slots (defautWrites : List (CmdWrite K))).Nodup := by
  rw [slots, defautWrites, List.map_map]
  exact (List.nodup_finRange 24).map fun _ _ same => same

theorem defautFrame_apply (j : Fin 24) :
    (defautFrame : Frame K) j =
      { pos := some 0, vel := some 0, tau := some 0, kp := some 0, kd := some 0.1
        motorId := some j.val } :=
  scatter_of_mem defautWrites_nodup (List.mem_map_of_mem (List.mem_finRange j)) _

theorem defautFrame_complete (slot : Fin 24) :
    ((defautFrame : Frame K) slot).Complete ∧
      ((defautFrame : Frame K) slot).motorId = some slot.val := by
  rw [defautFrame_apply]
  exact ⟨⟨rfl, rfl, rfl, rfl, rfl, rfl⟩, rfl⟩

/-! ## Posture frames -/

theorem slots_postureWrites (target : Fin 24 → K)
    (assign : Fin 24 → K → MotorCmd K → MotorCmd K) (g : Globals P) :
    slots (postureWrites target assign g) =
      (List.finRange 24).map fun j => P.getJointsIndex (jointNames j) := by
  rw [slots, postureWrites, List.map_map]
  rfl

theorem postureWrites_nodup (target : Fin 24 → K)
    (assign : Fin 24 → K → MotorCmd K → MotorCmd K) (g : Globals P) :
    (slots (postureWrites target assign g)).Nodup := by
  rw [slots_postureWrites]
  exact (List.nodup_finRange 24).map (P.getJointsIndex.injective.comp jointNames.injective)

/-- The slot of joint `j` holds exactly what the loop assigns for `j`. -/
theorem postureFrame_apply (target : Fin 24 → K)
    (assign : Fin 24 → K → MotorCmd K → MotorCmd K) (g : Globals P) (j : Fin 24) :
    postureFrame target assign g (P.getJointsIndex (jointNames j)) =
      assign j (blend (g.currentJointAngles j) (target j) g.standPercent)
        (postureStart P (P.getJointsIndex (jointNames j))) :=
  scatter_of_mem (postureWrites_nodup target assign g)
    (List.mem_map_of_mem (List.mem_finRange j)) (postureStart P)

theorem standAssign_keeps (j : Fin 24) (pos : K) {cmd : MotorCmd K} (complete : cmd.Complete) :
    (standAssign j pos cmd).Complete ∧ (standAssign j pos cmd).motorId = cmd.motorId := by
  obtain ⟨hpos, hvel, htau, hkp, hkd, hid⟩ := complete
  unfold standAssign
  split_ifs
  · exact ⟨⟨hpos, rfl, rfl, hkp, rfl, hid⟩, rfl⟩
  · exact ⟨⟨rfl, rfl, rfl, rfl, rfl, hid⟩, rfl⟩
  · exact ⟨⟨rfl, rfl, rfl, rfl, rfl, hid⟩, rfl⟩

theorem lieAssign_keeps (j : Fin 24) (pos : K) {cmd : MotorCmd K} (complete : cmd.Complete) :
    (lieAssign j pos cmd).Complete ∧ (lieAssign j pos cmd).motorId = cmd.motorId := by
  obtain ⟨_, _, _, _, _, hid⟩ := complete
  unfold lieAssign
  split_ifs
  · exact ⟨⟨rfl, rfl, rfl, rfl, rfl, hid⟩, rfl⟩
  · exact ⟨⟨rfl, rfl, rfl, rfl, rfl, hid⟩, rfl⟩
  · exact ⟨⟨rfl, rfl, rfl, rfl, rfl, hid⟩, rfl⟩

theorem postureStart_complete (P : Program K) (slot : Fin 24) : (postureStart P slot).Complete :=
  ⟨rfl, rfl, rfl, rfl, rfl, rfl⟩

/-- A posture frame is complete and keeps the motor ids of its first loop. -/
theorem postureFrame_complete {target : Fin 24 → K}
    {assign : Fin 24 → K → MotorCmd K → MotorCmd K}
    (keeps : ∀ j pos {cmd : MotorCmd K}, cmd.Complete →
      (assign j pos cmd).Complete ∧ (assign j pos cmd).motorId = cmd.motorId)
    (g : Globals P) (slot : Fin 24) :
    (postureFrame target assign g slot).Complete ∧
      (postureFrame target assign g slot).motorId =
        some (P.getJointsIndex (jointNames slot)).val := by
  obtain ⟨j, rfl⟩ := exists_posture_slot P slot
  rw [postureFrame_apply]
  exact keeps j _ (postureStart_complete P _)

/-! ## Walking frames -/

/-- The two index lists of `handleUserMode` together visit each joint once. -/
theorem walkIndices_nodup :
    ((List.finRange 12).map jointIndicesArm ++ (List.finRange 12).map jointIndicesLeg).Nodup := by
  decide

variable [LinearOrder K]

theorem slots_userWrites (t : Tick P) (g : Globals P) :
    slots (armWrites t ++ legWrites g) =
      ((List.finRange 12).map jointIndicesArm ++ (List.finRange 12).map jointIndicesLeg).map
        fun index => P.getJointsIndex (walkjointNames index) := by
  rw [slots_append, slots, slots, armWrites, legWrites, List.map_map, List.map_map,
    List.map_append, List.map_map, List.map_map]
  rfl

theorem userWrites_nodup (t : Tick P) (g : Globals P) :
    (slots (armWrites t ++ legWrites g)).Nodup := by
  rw [slots_userWrites]
  exact walkIndices_nodup.map (P.getJointsIndex.injective.comp walkjointNames.injective)

theorem userFrame_arm (t : Tick P) (g : Globals P) (i : Fin 12) :
    userFrame t g (armIndex P i) =
      { pos := some (armSetpoint (armRest i) ((t.reads.arm i).motorData (armIndex P i)).pos)
        vel := some 0, tau := some 0, kp := some (armKp i), kd := some 5
        motorId := some (armIndex P i).val } :=
  scatter_of_mem (userWrites_nodup t g)
    (List.mem_append_left _ (List.mem_map_of_mem (List.mem_finRange i))) _

theorem userFrame_leg (t : Tick P) (g : Globals P) (j : Fin 12) :
    userFrame t g (legIndex P j) =
      { pos := some (g.actions j * P.actionScale j + P.defaultJointAngles j)
        vel := some 0, tau := some 0, kp := some (P.jointStiffness j)
        kd := some (P.jointDamping j), motorId := some (legIndex P j).val } :=
  scatter_of_mem (userWrites_nodup t g)
    (List.mem_append_right _ (List.mem_map_of_mem (List.mem_finRange j))) _

/-- A walking frame is complete and every slot carries its own number. -/
theorem userFrame_complete (t : Tick P) (g : Globals P) (slot : Fin 24) :
    (userFrame t g slot).Complete ∧ (userFrame t g slot).motorId = some slot.val := by
  rcases exists_user_slot P slot with ⟨i, rfl⟩ | ⟨j, rfl⟩
  · rw [userFrame_arm]
    exact ⟨⟨rfl, rfl, rfl, rfl, rfl, rfl⟩, rfl⟩
  · rw [userFrame_leg]
    exact ⟨⟨rfl, rfl, rfl, rfl, rfl, rfl⟩, rfl⟩

/-! ## The frame sent -/

/-- The writes of the frame assembled in the dispatched mode. -/
def frameWrites (t : Tick P) (g : Globals P) : List (CmdWrite K) :=
  match g.mode with
  | .stand => postureWrites standJointAngles standAssign g
  | .lie => postureWrites lieJointAngles lieAssign g
  | .default => defautWrites
  | .usermode =>
      armWrites t ++ legWrites (policyStep t (setparameter (commandOf t) g))

/-- The frame array before those writes. -/
def frameStart (g : Globals P) : Frame K :=
  match g.mode with
  | .stand => postureStart P
  | .lie => postureStart P
  | .default => fun _ => .uninitialised
  | .usermode => fun _ => .uninitialised

theorem dispatch_sent (t : Tick P) {g : Globals P} (bound : g.standPercent ≤ 1) :
    (dispatch t g).sent = [scatter (frameWrites t g) (frameStart g)] := by
  unfold dispatch frameWrites frameStart
  cases g.mode with
  | stand => exact congrArg Outcome.sent (handlePosture_eq bound _ _)
  | lie => exact congrArg Outcome.sent (handlePosture_eq bound _ _)
  | default => rfl
  | usermode => rfl

theorem frameWrites_nodup (t : Tick P) (g : Globals P) : (slots (frameWrites t g)).Nodup := by
  unfold frameWrites
  cases g.mode with
  | stand => exact postureWrites_nodup _ _ _
  | lie => exact postureWrites_nodup _ _ _
  | default => exact defautWrites_nodup
  | usermode => exact userWrites_nodup _ _

/-- The motor ids of a frame: through the joint table in the posture modes, the
slot's own number in the two others. -/
def frameIds (P : Program K) (mode : WorkMode) : Equiv.Perm (Fin 24) :=
  match mode with
  | .stand | .lie => jointNames.trans P.getJointsIndex
  | .default | .usermode => Equiv.refl _

theorem frame_complete (t : Tick P) (g : Globals P) (slot : Fin 24) :
    (scatter (frameWrites t g) (frameStart g) slot).Complete ∧
      (scatter (frameWrites t g) (frameStart g) slot).motorId =
        some (frameIds P g.mode slot).val := by
  unfold frameWrites frameStart frameIds
  cases g.mode with
  | stand => exact postureFrame_complete standAssign_keeps g slot
  | lie => exact postureFrame_complete lieAssign_keeps g slot
  | default => exact defautFrame_complete slot
  | usermode => exact userFrame_complete t _ slot

variable [IsStrictOrderedRing K]

/-- Each call of `process` in a run hands over one frame. -/
theorem process_sent {g : Globals P} (inv : Invariant g) (t : Tick P) :
    (process t g).sent =
      [scatter (frameWrites t (buttons t g)) (frameStart (buttons t g))] := by
  rw [process_eq inv]
  exact dispatch_sent t (inv.buttons t).percent_le_one

/--
Every call of `process` in every run hands exactly one frame to `set_joint`.
Its writes address no slot twice, all fields of all slots have been given a
value, and the motor ids are a permutation of the slot numbers.
-/
theorem one_complete_frame (history : Fin P.inputSize → K) (ticks : List (Tick P)) (t : Tick P) :
    let g := buttons t (after history ticks)
    ∃ frame : Frame K, (process t (after history ticks)).sent = [frame] ∧
      frame = scatter (frameWrites t g) (frameStart g) ∧
      (slots (frameWrites t g)).Nodup ∧
      (∀ slot, (frame slot).Complete) ∧
      ∃ ids : Equiv.Perm (Fin 24), ∀ slot, (frame slot).motorId = some (ids slot).val := by
  intro g
  refine ⟨_, process_sent (after_invariant history ticks) t, rfl, frameWrites_nodup t g, ?_, ?_⟩
  · exact fun slot => (frame_complete t g slot).1
  · exact ⟨frameIds P g.mode, fun slot => (frame_complete t g slot).2⟩

theorem one_complete_frame_level :
    let g := buttons (stillTick [10, 2] 1) (levelAfter jointNames.symm [stillTick [9] 1])
    ∃ frame : Frame ℚ,
      (process (stillTick [10, 2] 1) (levelAfter jointNames.symm [stillTick [9] 1])).sent = [frame] ∧
      frame = scatter (frameWrites (stillTick [10, 2] 1) g) (frameStart g) ∧
      (slots (frameWrites (stillTick [10, 2] 1) g)).Nodup ∧
      (∀ slot, (frame slot).Complete) ∧
      ∃ ids : Equiv.Perm (Fin 24), ∀ slot, (frame slot).motorId = some (ids slot).val :=
  one_complete_frame (fun _ => 0) [stillTick [9] 1] (stillTick [10, 2] 1)

end NoetixE1.Low
