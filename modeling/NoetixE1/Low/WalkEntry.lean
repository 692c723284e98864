import NoetixE1.Low.Transitions
import NoetixE1.Low.WalkConfig

/-!
# How walking is engaged

The branch of buttons 5 and 2 asks for the stand mode and for nothing else: neither for
the progress of standing up, nor for a tick spent standing.
-/

namespace NoetixE1.Low

variable {K : Type} [Field K] {P : Program K}

/-- A tick in stand mode leaves some progress behind. -/
theorem step_standPercent_pos [LinearOrder K] [IsStrictOrderedRing K] {g : Globals P}
    (inv : Invariant g) {t : Tick P} (standing : (buttons t g).mode = .stand) :
    0 < (step g t).standPercent := by
  rw [step_eq inv, dispatch_standPercent t (inv.buttons t).percent_le_one, if_pos (Or.inl standing)]
  exact Interpolation.advance_pos standDuration_pos (inv.buttons t).percent_nonneg

/-- What lets the walk chord find the stand mode after a tick dispatched in `mode`: that tick
stood and control is not restarted or stopped, or the stand chord acts in the same tick, from
lying with control armed or with button 9 arming it. -/
def StandsAfter (mode : WorkMode) (g : Globals P) (t : Tick P) : Prop :=
  (mode = .stand ∧ ¬ Fires9 t g) ∨
    (StandChord t ∧
      if Fires9 t g then g.startcontrol = false else mode = .lie ∧ g.startcontrol = true)

instance (mode : WorkMode) (g : Globals P) (t : Tick P) : Decidable (StandsAfter mode g t) :=
  inferInstanceAs (Decidable (_ ∨ _ ∧ ite _ _ _))

theorem standing_iff_standsAfter [LinearOrder K] {g : Globals P} (inv : Invariant g) (t : Tick P)
    (away : g.mode ≠ .usermode) : Standing t g ↔ StandsAfter g.mode g t := by
  unfold Standing ChordStands StandsAfter
  by_cases fires : Fires9 t g
  · simp [fires]
  · simp only [fires, if_false, not_false_eq_true, true_and, and_true]
    cases mode : g.mode with
    | stand => simp
    | lie => simp
    | default => simp [inv.default_disarmed mode]
    | usermode => exact absurd mode away

/-- From outside walking mode only the walk chord leads to it. -/
theorem engaged_iff [LinearOrder K] {g : Globals P} (inv : Invariant g) (t : Tick P)
    (away : g.mode ≠ .usermode) :
    (buttons t g).mode = .usermode ↔
      WalkChord t ∧ g.keyflag 5 = 0 ∧ t.button 11 ≠ 1 ∧ StandsAfter g.mode g t := by
  have entered : ChordWalks t g ∨ ¬ Fires9 t g ∧ ¬ ChordStands t g ∧ g.mode = .usermode ↔
      ChordWalks t g := or_iff_left fun stays => away stays.2.2
  rw [buttons_usermode_iff inv, entered, ← standing_iff_standsAfter inv t away]
  unfold ChordWalks
  tauto

variable [LinearOrder K] [IsStrictOrderedRing K]

/--
In every run, a tick that follows one dispatched outside walking mode is dispatched in
walking mode exactly when buttons 5 and 2 are pressed with their flag clear, button 11 is
not pressed, and the preceding tick stood, at whatever progress, or buttons 10 and 2
bring the robot to stand in the same tick.
-/
theorem walk_engaged_iff (history : Fin P.inputSize → K) (before : List (Tick P))
    (previous t : Tick P) (away : (buttons previous (after history before)).mode ≠ .usermode) :
    let g := after history (before ++ [previous])
    ((buttons t g).mode = .usermode ↔
      WalkChord t ∧ g.keyflag 5 = 0 ∧ t.button 11 ≠ 1 ∧
        StandsAfter (buttons previous (after history before)).mode g t) ∧
      ((buttons previous (after history before)).mode = .stand →
        0 < g.standPercent ∧ g.standPercent ≤ 1) := by
  intro g
  have inv := after_invariant history before
  have reached : g = step (after history before) previous := after_concat history before previous
  have kept : g.mode = (buttons previous (after history before)).mode := by
    rw [reached]
    exact (step_console inv previous).mode
  constructor
  · rw [← kept] at away ⊢
    exact engaged_iff (after_invariant history (before ++ [previous])) t away
  · intro stood
    rw [reached]
    exact ⟨step_standPercent_pos inv stood, (inv.step previous).percent_le_one⟩

/-- A robot that lies down with control armed walks after one tick with buttons 10, 2 and 5. -/
theorem walk_engaged_lying :
    (buttons (stillTick [10, 2, 5] 1) (levelAfter jointNames.symm [stillTick [9] 1])).mode =
      .usermode :=
  ((walk_engaged_iff (fun _ => 0) [] (stillTick [9] 1) (stillTick [10, 2, 5] 1)
    (by decide +kernel)).1).mpr (by decide +kernel)

/-- One tick after standing up began, and from lying within a tick. -/
theorem walk_engaged_early :
    ((buttons (stillTick [10, 2] 1) (levelAfter jointNames.symm [stillTick [9] 1])).mode = .stand ∧
      (levelAfter jointNames.symm [stillTick [9] 1, stillTick [10, 2] 1]).standPercent ≠ 1 ∧
      (buttons (stillTick [5, 2] 1)
        (levelAfter jointNames.symm [stillTick [9] 1, stillTick [10, 2] 1])).mode = .usermode) ∧
    (buttons (stillTick [9] 1) (levelAfter jointNames.symm [])).mode = .lie ∧
      (buttons (stillTick [10, 2, 5] 1) (levelAfter jointNames.symm [stillTick [9] 1])).mode =
        .usermode := by
  decide +kernel

end NoetixE1.Low
