import NoetixE1.Low.Addressing
import NoetixE1.Low.Transitions

/-!
# Control armed and disarmed

`startcontrol` says whether control is armed, `mode_` which handler drives the
robot.  The two are separate globals: disarming selects the default mode, whose
frame drives no joint, but neither the start-up mode nor the branch of button 11
looks at `startcontrol`.
-/

namespace NoetixE1.Low

open Machine Scatter

variable {K : Type} [Field K]

/-- A frame that drives no joint. -/
def Passive (frame : Frame K) : Prop := ∀ slot, (frame slot).kp = some 0 ∧ (frame slot).tau = some 0

variable {P : Program K}

/-- Control is disarmed when the tick ends: it was armed and button 9 stops it, or it
was not and button 9 does not start it. -/
def EndsDisarmed (g : Globals P) (t : Tick P) : Prop :=
  if Fires9 t g then g.startcontrol = true else g.startcontrol = false

instance (g : Globals P) (t : Tick P) : Decidable (EndsDisarmed g t) :=
  inferInstanceAs (Decidable (ite _ _ _))

/-- The mode switch of a tick that ends disarmed finds the default mode. -/
def DefaultWhenDisarmed (g : Globals P) (t : Tick P) : Prop :=
  (buttons t g).startcontrol = false → (buttons t g).mode = .default

variable [LinearOrder K]

/-- A tick that ends disarmed hands over passive frames only. -/
def PassiveWhenDisarmed (g : Globals P) (t : Tick P) : Prop :=
  (step g t).startcontrol = false → ∀ frame ∈ (process t g).sent, Passive frame

/-! ## Passive frames -/

omit [LinearOrder K] in
theorem defautFrame_passive : Passive (defautFrame : Frame K) := by
  intro slot
  rw [defautFrame_apply]
  exact ⟨rfl, rfl⟩

section Passive

variable [IsStrictOrderedRing K]

/-- Outside the default mode the first waist joint is driven. -/
theorem meantFor_waist1_kp (t : Tick P) (g : Globals P) :
    (meantFor t g .waist1Joint).kp = 0 ↔ g.mode = .default := by
  unfold meantFor
  cases g.mode with
  | stand => simp [standMeant]
  | lie => simp [lieMeant, isAnkle]
  | default => simp
  | usermode =>
      have arm : driveOf (walkjointNames.symm .waist1Joint) = .inr 0 := by decide
      simp [userMeant, arm, armKp]

/-- The frame assembled in a mode is passive exactly in the default mode. -/
theorem frame_passive_iff (t : Tick P) (g : Globals P) :
    Passive (scatter (frameWrites t g) (frameStart g)) ↔ g.mode = .default := by
  constructor
  · intro passive
    obtain ⟨_, _, _, kp, _⟩ := frame_carries t g .waist1Joint
    rw [← meantFor_waist1_kp t g]
    exact Option.some.inj (kp.symm.trans (passive _).1)
  · intro mode
    unfold frameWrites frameStart
    rw [mode]
    exact defautFrame_passive

theorem passiveWhenDisarmed_iff {g : Globals P} (inv : Invariant g) (t : Tick P) :
    PassiveWhenDisarmed g t ↔ DefaultWhenDisarmed g t := by
  unfold PassiveWhenDisarmed DefaultWhenDisarmed
  rw [(step_console inv t).startcontrol, process_sent inv, List.forall_mem_singleton,
    frame_passive_iff]

end Passive

/-! ## The default mode at dispatch -/

omit [LinearOrder K] in
theorem endsDisarmed_iff (t : Tick P) (g : Globals P) :
    (buttons t g).startcontrol = false ↔ EndsDisarmed g t := by
  unfold EndsDisarmed
  rw [buttons_startcontrol]
  split_ifs
  · rw [Bool.not_eq_false']
  · exact Iff.rfl

omit [LinearOrder K] in
theorem button5_default_iff (t : Tick P) (g : Globals P) :
    (button5 t g).mode = .default ↔ g.mode = .default := by
  rw [button5_mode]
  split_ifs with fires
  · have standing := fires.2.2.2
    simp [standing]
  · exact Iff.rfl

/-- In the default mode control is disarmed, so the branch of buttons 10 and 2 does nothing. -/
theorem button10_default_iff {g : Globals P} (inv : Invariant g) (t : Tick P) :
    (button10 t g).mode = .default ↔ g.mode = .default := by
  rw [button10_mode]
  split_ifs with fires
  · have armed := fires.2.2.2.1
    refine iff_of_false (by simp) fun mode => ?_
    exact absurd (armed.symm.trans (inv.default_disarmed mode)) (by decide)
  · exact Iff.rfl

theorem button11_default_iff {g : Globals P} (inv : Invariant g) (t : Tick P) :
    (button11 t g).mode = .default ↔ g.mode = .default ∧ t.button 11 ≠ 1 := by
  rw [button11_mode]
  split_ifs with fires walking
  · exact iff_of_false (by simp) fun both => both.2 fires.1
  · exact iff_of_false (by simp) fun both => both.2 fires.1
  · constructor
    · intro mode
      exact ⟨mode, fun pressed => fires ⟨pressed, inv.keyflag11, Or.inr mode⟩⟩
    · exact fun both => both.1

variable [IsStrictOrderedRing K]

/-- Only button 11 leaves the default mode once button 9 has been handled. -/
theorem buttons_default_iff {g : Globals P} (inv : Invariant g) (t : Tick P) :
    (buttons t g).mode = .default ↔ (button9 t g).mode = .default ∧ t.button 11 ≠ 1 := by
  have inv9 := inv.button9 t
  unfold buttons
  rw [button11_default_iff ((inv9.button10 t).button5 t), button5_default_iff,
    button10_default_iff inv9]

/-- Disarmed control goes with the default mode, in the state before a tick. -/
structure Idle (g : Globals P) : Prop extends Invariant g where
  disarmed_default : g.startcontrol = false → g.mode = .default

theorem defaultWhenDisarmed_iff {g : Globals P} (inv : Invariant g) (t : Tick P) :
    DefaultWhenDisarmed g t ↔
      (EndsDisarmed g t → (Fires9 t g ∨ g.mode = .default) ∧ t.button 11 ≠ 1) := by
  unfold DefaultWhenDisarmed
  rw [endsDisarmed_iff, buttons_default_iff inv, button9_mode]
  refine imp_congr_right fun ends => and_congr_left fun _ => ?_
  unfold EndsDisarmed at ends
  split_ifs at ends ⊢ with fires disarmed
  · exact absurd (disarmed.symm.trans ends) (by decide)
  · exact iff_of_true rfl (Or.inl fires)
  · exact (or_iff_right fires).symm

theorem Idle.agree {g : Globals P} (idle : Idle g) (t : Tick P) :
    DefaultWhenDisarmed g t ↔ (EndsDisarmed g t → t.button 11 ≠ 1) := by
  rw [defaultWhenDisarmed_iff idle.toInvariant]
  refine imp_congr_right fun ends => and_iff_right ?_
  by_cases fires : Fires9 t g
  · exact Or.inl fires
  · rw [EndsDisarmed, if_neg fires] at ends
    exact Or.inr (idle.disarmed_default ends)

/-- A tick that dispatches the default mode when disarmed leaves the globals in order. -/
theorem Idle.step {g : Globals P} (inv : Invariant g) (t : Tick P)
    (holds : DefaultWhenDisarmed g t) : Idle (step g t) where
  toInvariant := inv.step t
  disarmed_default := by
    have kept := step_console inv t
    rw [kept.startcontrol, kept.mode]
    exact holds

/-- From a state in order it is enough to leave button 11 alone. -/
theorem Idle.along_iff {g : Globals P} (idle : Idle g) (ticks : List (Tick P)) :
    Along Low.step DefaultWhenDisarmed g ticks ↔
      Along Low.step (fun g t => EndsDisarmed g t → t.button 11 ≠ 1) g ticks :=
  along_iff_of_invariant Low.step (fun _ t idle => idle.agree t)
    (fun _ t idle met => Idle.step idle.toInvariant t ((idle.agree t).mpr met)) idle ticks

/-- The first tick of the program: only starting control avoids the start-up mode. -/
theorem defaultWhenDisarmed_initial (history : Fin P.inputSize → K) (t : Tick P) :
    DefaultWhenDisarmed (initial history) t ↔ t.button 9 = 1 := by
  rw [defaultWhenDisarmed_iff (initial_invariant history)]
  have fires : Fires9 t (initial history) ↔ t.button 9 = 1 := and_iff_left rfl
  have standing : (initial history).mode ≠ .default := by
    intro absurd
    cases absurd
  constructor
  · intro holds
    by_contra released
    have notFires := mt fires.mp released
    rcases (holds (by rw [EndsDisarmed, if_neg notFires]; rfl)).1 with pressed | mode
    · exact notFires pressed
    · exact standing mode
  · intro pressed ends
    rw [EndsDisarmed, if_pos (fires.mpr pressed)] at ends
    cases ends

/-- Control is started in the first tick, and button 11 is left alone in every tick that
ends disarmed. -/
def Guarded (history : Fin P.inputSize → K) (ticks : List (Tick P)) : Prop :=
  (∀ first ∈ ticks.head?, first.button 9 = 1) ∧
    Along step (fun g t => EndsDisarmed g t → t.button 11 ≠ 1) (initial history) ticks

instance (history : Fin P.inputSize → K) (ticks : List (Tick P)) :
    Decidable (Guarded history ticks) :=
  inferInstanceAs (Decidable (_ ∧ _))

theorem along_default_iff_guarded (history : Fin P.inputSize → K) (ticks : List (Tick P)) :
    Along step DefaultWhenDisarmed (initial history) ticks ↔ Guarded history ticks := by
  unfold Guarded
  cases ticks with
  | nil => simp
  | cons first rest =>
      have start := defaultWhenDisarmed_initial history first
      have later (holds : DefaultWhenDisarmed (initial history) first) :=
        (Idle.step (initial_invariant history) first holds).along_iff rest
      simp only [along_cons, List.head?_cons, Option.mem_some_iff, forall_eq', ← start]
      constructor
      · rintro ⟨holds, rest⟩
        have released := (defaultWhenDisarmed_iff (initial_invariant history) first).mp holds
        exact ⟨holds, fun ends => (released ends).2, (later holds).mp rest⟩
      · rintro ⟨holds, _, rest⟩
        exact ⟨holds, (later holds).mpr rest⟩

/--
In a run, every tick that ends disarmed hands over passive frames, or finds the
default mode at its mode switch, exactly when button 9 is pressed in the first
tick and button 11 in no tick that ends disarmed.
-/
theorem along_passive_iff_guarded (history : Fin P.inputSize → K) (ticks : List (Tick P)) :
    (Along step PassiveWhenDisarmed (initial history) ticks ↔ Guarded history ticks) ∧
      (Along step DefaultWhenDisarmed (initial history) ticks ↔ Guarded history ticks) := by
  have defaults := along_default_iff_guarded history ticks
  refine ⟨?_, defaults⟩
  rw [← defaults]
  exact along_iff_of_invariant step
    (fun (g : Globals P) t (inv : Invariant g) => passiveWhenDisarmed_iff inv t)
    (fun _ t inv _ => inv.step t) (initial_invariant history) ticks

/-- Control is started in the first tick, stopped in the third, and left alone. -/
theorem along_passive_level :
    Along step PassiveWhenDisarmed (levelAfter jointNames.symm [])
      [stillTick [9] 1, stillTick [] 1, stillTick [9] 1, stillTick [] 1] :=
  (along_passive_iff_guarded (fun _ => 0) _).1.mpr (by decide +kernel)

/-- The first tick of a program nobody touches, and button 11 after control was stopped. -/
theorem not_passive_disarmed :
    ¬ PassiveWhenDisarmed (levelAfter jointNames.symm []) (stillTick [] 0) ∧
      ¬ PassiveWhenDisarmed
          (levelAfter jointNames.symm [stillTick [9] 0, stillTick [] 0, stillTick [9] 0])
          (stillTick [11] 0) := by
  unfold levelAfter
  rw [passiveWhenDisarmed_iff (after_invariant _ _), passiveWhenDisarmed_iff (after_invariant _ _)]
  unfold DefaultWhenDisarmed
  decide +kernel

end NoetixE1.Low
