import NoetixE1.Low.Posture
import NoetixE1.Low.Walking

/-!
# The setpoint envelope

How far a commanded position can be from where the joint is, starts or belongs,
whatever the buttons, the sensors and the policy network deliver.
-/

namespace NoetixE1.Low

open Interpolation Machine Scatter

variable {K : Type} [Field K] [LinearOrder K] {P : Program K}

/-! ## The smoothing of the undriven joints -/

section Smoothing

variable [IsStrictOrderedRing K]

/-- `armSetpoint` is a blend towards the rest position. -/
theorem armSetpoint_eq_blend (pos curPos : K) :
    armSetpoint pos curPos = blend curPos pos (if |pos - curPos| > 0.5 then 0.02 else 0.05) := by
  have large : (1 - 0.02 : K) = 0.98 := by norm_num
  have small : (1 - 0.05 : K) = 0.95 := by norm_num
  unfold armSetpoint blend
  split_ifs
  · rw [large, mul_comm curPos, mul_comm pos]
  · rw [small, mul_comm curPos, mul_comm pos]

theorem armSetpoint_mem_uIcc (pos curPos : K) : armSetpoint pos curPos ∈ Set.uIcc curPos pos := by
  rw [armSetpoint_eq_blend]
  split_ifs
  · exact blend_mem_uIcc (by norm_num) (by norm_num)
  · exact blend_mem_uIcc (by norm_num) (by norm_num)

theorem abs_armSetpoint_sub_le (pos curPos : K) :
    |armSetpoint pos curPos - curPos| ≤ max 0.025 (0.02 * |pos - curPos|) := by
  have moved (share : K) (nonneg : 0 ≤ share) :
      |blend curPos pos share - curPos| = share * |pos - curPos| := by
    rw [blend_eq_add, add_sub_cancel_left, abs_mul, abs_of_nonneg nonneg]
  rw [armSetpoint_eq_blend]
  split_ifs with far
  · rw [moved _ (by norm_num)]
    exact le_max_right _ _
  · rw [moved _ (by norm_num)]
    have near : |pos - curPos| ≤ 0.5 := not_lt.mp far
    refine le_max_of_le_left ?_
    linarith

end Smoothing

/-! ## The limit of the actions -/

/-- Every action in use is within the clipping range. -/
def ActionsLimited (g : Globals P) : Prop := ∀ j, |g.actions j| ≤ P.clipActions

variable [IsStrictOrderedRing K]

/-- A tick leaves limited actions behind, freshly evaluated or held. -/
theorem ActionsLimited.step (clip : 0 ≤ P.clipActions) {g : Globals P} (inv : Invariant g)
    (limited : ActionsLimited g) (t : Tick P) : ActionsLimited (step g t) := by
  intro j
  by_cases walking : (buttons t g).mode = .usermode
  · rw [(walk_tick inv walking).actions]
    split_ifs
    · rw [evaluationAt_action]
      exact abs_clamp_le clip _
    · exact limited j
  · rw [(step_away inv walking).1]
    exact limited j

theorem after_actionsLimited (clip : 0 ≤ P.clipActions) (history : Fin P.inputSize → K)
    (ticks : List (Tick P)) : ActionsLimited (after history ticks) := by
  have start : ActionsLimited (initial (P := P) history) := by
    intro j
    change |(0 : K)| ≤ P.clipActions
    rw [abs_zero]
    exact clip
  have kept (g : Globals P) (t : Tick P) (both : Invariant g ∧ ActionsLimited g) :
      Invariant (step g t) ∧ ActionsLimited (step g t) :=
    ⟨both.1.step t, both.2.step clip both.1 t⟩
  exact (run_invariant Low.step kept ticks ⟨initial_invariant history, start⟩).2

/-! ## The envelope of a frame -/

/-- Position `pos` in this slot is within the envelope of the dispatched mode. -/
def WithinEnvelope (t : Tick P) (g : Globals P) (slot : Fin 24) (pos : K) : Prop :=
  match g.mode with
  | .stand =>
      ∃ j, slot = P.getJointsIndex (jointNames j) ∧
        pos ∈ Set.uIcc (g.currentJointAngles j) (standJointAngles j)
  | .lie =>
      ∃ j, slot = P.getJointsIndex (jointNames j) ∧
        pos ∈ Set.uIcc (g.currentJointAngles j) (lieJointAngles j)
  | .default => False
  | .usermode =>
      (∃ k, slot = legIndex P k ∧
        |pos - P.defaultJointAngles k| ≤ P.clipActions * P.actionScale k) ∨
      ∃ i, slot = armIndex P i ∧
        let measured := ((t.reads.arm i).motorData slot).pos
        pos ∈ Set.uIcc measured (armRest i) ∧
          |pos - measured| ≤ max 0.025 (0.02 * |armRest i - measured|)

/-- Every driven slot of every frame of the tick is within the envelope. -/
def KeepsEnvelope (g : Globals P) (t : Tick P) : Prop :=
  ∀ frame ∈ (process t g).sent, ∀ slot, (frame slot).kp ≠ some 0 →
    ∃ pos, (frame slot).pos = some pos ∧ WithinEnvelope t (buttons t g) slot pos

omit [IsStrictOrderedRing K] in
/-- Every driven slot of a posture frame belongs to a position-controlled joint. -/
theorem controlled_of_driven (t : Tick P) {g : Globals P} {j : Fin 24}
    (driven : (scatter (frameWrites t g) (frameStart g) (P.getJointsIndex (jointNames j))).kp ≠
      some 0) : PositionControlled g.mode j := by
  intro mode last
  subst last
  apply driven
  unfold frameWrites frameStart
  rw [mode]
  change (postureFrame standJointAngles standAssign g _).kp = _
  rw [postureFrame_apply, standAssign, if_pos rfl]
  rfl

/-- A driven slot of a posture frame is commanded between the captured start and the target. -/
theorem posture_within {g : Globals P} (inv : Invariant g) (t : Tick P) (posture : IsPosture g.mode)
    {slot : Fin 24} (driven : (scatter (frameWrites t g) (frameStart g) slot).kp ≠ some 0) :
    ∃ pos, (scatter (frameWrites t g) (frameStart g) slot).pos = some pos ∧
      ∃ j, slot = P.getJointsIndex (jointNames j) ∧
        pos ∈ Set.uIcc (g.currentJointAngles j) (postureTarget g.mode j) := by
  obtain ⟨j, rfl⟩ := exists_posture_slot P slot
  exact ⟨_, frame_pos t posture (controlled_of_driven t driven), j, rfl,
    blend_mem_uIcc inv.percent_nonneg inv.percent_le_one⟩

/-- A setpoint of limited actions is within reach of the default position. -/
theorem abs_leg_sub_le {g : Globals P} (limited : ActionsLimited g) {k : Fin 12}
    (nonneg : 0 ≤ P.actionScale k) :
    |g.actions k * P.actionScale k + P.defaultJointAngles k - P.defaultJointAngles k| ≤
      P.clipActions * P.actionScale k := by
  rw [add_sub_cancel_right, abs_mul, abs_of_nonneg nonneg]
  exact mul_le_mul_of_nonneg_right (limited k) nonneg

/--
In every run, whatever the policy network returns, each driven slot of each frame
is commanded within the envelope: between the captured start and the target in the
posture modes, at most the clipping range away from the default position for a leg
joint that walks, and a small step from the measured position towards the rest
position for every other joint.
-/
theorem within_envelope (clip : 0 ≤ P.clipActions) (scale : ∀ k, 0 ≤ P.actionScale k)
    (history : Fin P.inputSize → K) (ticks : List (Tick P)) (t : Tick P) :
    KeepsEnvelope (after history ticks) t := by
  intro frame sent slot driven
  have inv := after_invariant history ticks
  have limited := (after_actionsLimited clip history ticks).step clip inv t
  have assembled := sent
  rw [process_sent inv, List.mem_singleton] at assembled
  unfold WithinEnvelope
  cases mode : (buttons t (after history ticks)).mode with
  | stand =>
      rw [assembled] at driven ⊢
      have within := posture_within (inv.buttons t) t (Or.inl mode) driven
      rw [mode] at within
      exact within
  | lie =>
      rw [assembled] at driven ⊢
      have within := posture_within (inv.buttons t) t (Or.inr mode) driven
      rw [mode] at within
      exact within
  | default =>
      have passive : frame = defautFrame := by
        rw [assembled]
        unfold frameWrites frameStart
        rw [mode]
        rfl
      rw [passive, defautFrame_apply] at driven
      exact absurd rfl driven
  | usermode =>
      rcases exists_user_slot P slot with ⟨i, rfl⟩ | ⟨k, rfl⟩
      · rw [walk_arm inv mode sent]
        exact ⟨_, rfl, Or.inr ⟨i, rfl, armSetpoint_mem_uIcc _ _, abs_armSetpoint_sub_le _ _⟩⟩
      · rw [walk_leg inv mode sent]
        exact ⟨_, rfl, Or.inl ⟨k, rfl, abs_leg_sub_le limited (scale k)⟩⟩

/-- The first walking tick of a robot that stood up. -/
theorem within_envelope_level :
    KeepsEnvelope (levelAfter jointNames.symm [stillTick [9] 1, stillTick [10, 2] 1])
      (stillTick [5, 2] 1) :=
  within_envelope (by decide +kernel) (by decide +kernel) (fun _ => 0)
    [stillTick [9] 1, stillTick [10, 2] 1] (stillTick [5, 2] 1)

end NoetixE1.Low
