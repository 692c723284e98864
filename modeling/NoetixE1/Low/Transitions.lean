import NoetixE1.Low.Invariant

/-!
# Which branches fire in a tick

The branches run on the mode the earlier ones left.  Here the four assignments of
`mode_`, and what they leave in the posture globals, are read off the globals
before the tick and the buttons alone.
-/

namespace NoetixE1.Low

variable {K : Type} {P : Program K}

/-- Buttons 10 and 2 are pressed. -/
def StandChord (t : Tick P) : Prop := t.button 10 = 1 ∧ t.button 2 = 1

/-- Buttons 5 and 2 are pressed. -/
def WalkChord (t : Tick P) : Prop := t.button 5 = 1 ∧ t.button 2 = 1

instance (t : Tick P) : Decidable (StandChord t) := inferInstanceAs (Decidable (_ ∧ _))

instance (t : Tick P) : Decidable (WalkChord t) := inferInstanceAs (Decidable (_ ∧ _))

variable [Field K]

/-- The stand chord takes effect: after button 9, control is armed and the robot not standing. -/
def ChordStands (t : Tick P) (g : Globals P) : Prop :=
  StandChord t ∧
    if Fires9 t g then g.startcontrol = false else g.startcontrol = true ∧ g.mode ≠ .stand

instance (t : Tick P) (g : Globals P) : Decidable (ChordStands t g) :=
  inferInstanceAs (Decidable (_ ∧ ite _ _ _))

/-- The branch of buttons 5 and 2 finds the stand mode. -/
def Standing (t : Tick P) (g : Globals P) : Prop :=
  ChordStands t g ∨ ¬ Fires9 t g ∧ g.mode = .stand

instance (t : Tick P) (g : Globals P) : Decidable (Standing t g) :=
  inferInstanceAs (Decidable (_ ∨ _))

/-- The walk chord takes effect. -/
def ChordWalks (t : Tick P) (g : Globals P) : Prop :=
  WalkChord t ∧ g.keyflag 5 = 0 ∧ Standing t g

instance (t : Tick P) (g : Globals P) : Decidable (ChordWalks t g) :=
  inferInstanceAs (Decidable (_ ∧ _))

/-- Button 11 takes effect: the tick would otherwise end up walking or in the default mode. -/
def ElevenLeaves (t : Tick P) (g : Globals P) : Prop :=
  t.button 11 = 1 ∧
    if Standing t g then WalkChord t ∧ g.keyflag 5 = 0
    else if Fires9 t g then g.startcontrol = true
    else g.mode ≠ .lie

instance (t : Tick P) (g : Globals P) : Decidable (ElevenLeaves t g) :=
  inferInstanceAs (Decidable (_ ∧ ite _ _ (ite _ _ _)))

/-! ## The four assignments -/

variable [LinearOrder K] {g : Globals P}

theorem fires10_iff (inv : Invariant g) (t : Tick P) :
    Fires10 t (button9 t g) ↔ ChordStands t g := by
  have unset : (button9 t g).keyflag 10 = 0 :=
    (button9_keyflag_of_ne t g (by decide)).trans inv.keyflag10
  have effect : (button9 t g).startcontrol = true ∧ (button9 t g).mode ≠ .stand ↔
      if Fires9 t g then g.startcontrol = false else g.startcontrol = true ∧ g.mode ≠ .stand := by
    rw [button9_startcontrol, button9_mode]
    split_ifs with fires disarmed
    · simp [disarmed]
    · simp [disarmed]
    · exact Iff.rfl
  unfold Fires10 ChordStands StandChord
  rw [effect, and_iff_right unset, and_assoc]

/-- The mode that the branch of buttons 5 and 2 finds. -/
theorem mode_before_walk (inv : Invariant g) (t : Tick P) :
    (button10 t (button9 t g)).mode =
      if Standing t g then .stand
      else if Fires9 t g then if g.startcontrol = false then .lie else .default
      else g.mode := by
  rw [button10_mode, button9_mode]
  simp only [fires10_iff inv t]
  by_cases chords : ChordStands t g
  · have standing : Standing t g := Or.inl chords
    rw [if_pos chords, if_pos standing]
  · rw [if_neg chords]
    by_cases fires : Fires9 t g
    · have standing : ¬ Standing t g := by
        rintro (chord | ⟨quiet, _⟩)
        · exact chords chord
        · exact quiet fires
      rw [if_neg standing]
    · rw [if_neg fires]
      split_ifs with standing
      · exact (standing.resolve_left chords).2
      · rfl

theorem standing_iff (inv : Invariant g) (t : Tick P) :
    (button10 t (button9 t g)).mode = .stand ↔ Standing t g := by
  rw [mode_before_walk inv]
  split_ifs with standing fires disarmed
  · exact iff_of_true rfl standing
  · exact iff_of_false (by simp) standing
  · exact iff_of_false (by simp) standing
  · exact iff_of_false (fun mode => standing (Or.inr ⟨fires, mode⟩)) standing

theorem fires5_iff (inv : Invariant g) (t : Tick P) :
    Fires5 t (button10 t (button9 t g)) ↔ ChordWalks t g := by
  have kept : (button10 t (button9 t g)).keyflag 5 = g.keyflag 5 := by
    rw [button10_keyflag_of_ne t _ (by decide), button9_keyflag_of_ne t g (by decide)]
  unfold Fires5 ChordWalks WalkChord
  rw [standing_iff inv, kept, and_assoc]

/-- The mode that the branch of button 11 finds. -/
theorem mode_before_eleven (inv : Invariant g) (t : Tick P) :
    (button5 t (button10 t (button9 t g))).mode =
      if ChordWalks t g then .usermode else (button10 t (button9 t g)).mode := by
  rw [button5_mode]
  simp only [fires5_iff inv t]

theorem keyflag_before_eleven (inv : Invariant g) (t : Tick P) :
    (button5 t (button10 t (button9 t g))).keyflag 11 = 0 := by
  rw [button5_keyflag_of_ne t _ (by decide), button10_keyflag_of_ne t _ (by decide),
    button9_keyflag_of_ne t g (by decide)]
  exact inv.keyflag11

theorem fires11_iff (inv : Invariant g) (t : Tick P) :
    Fires11 t (button5 t (button10 t (button9 t g))) ↔ ElevenLeaves t g := by
  unfold Fires11 ElevenLeaves
  rw [and_iff_right (keyflag_before_eleven inv t), mode_before_eleven inv, mode_before_walk inv]
  refine and_congr_right fun _ => ?_
  unfold ChordWalks
  by_cases standing : Standing t g
  · by_cases chord : WalkChord t ∧ g.keyflag 5 = 0
    · simp [standing, chord]
    · simp [standing, chord]
  · by_cases fires : Fires9 t g
    · cases armed : g.startcontrol <;> simp [standing, fires]
    · have away : g.mode ≠ .stand := fun mode => standing (Or.inr ⟨fires, mode⟩)
      cases mode : g.mode <;> simp_all

/-- The branch of the trigger acts, read off the globals before the tick. -/
def Acts (t : Tick P) (g : Globals P) : Trigger → Prop
  | .nine => Fires9 t g
  | .ten => ChordStands t g
  | .five => ChordWalks t g
  | .eleven => ElevenLeaves t g

instance (t : Tick P) (g : Globals P) : (trigger : Trigger) → Decidable (Acts t g trigger)
  | .nine => inferInstanceAs (Decidable (Fires9 t g))
  | .ten => inferInstanceAs (Decidable (ChordStands t g))
  | .five => inferInstanceAs (Decidable (ChordWalks t g))
  | .eleven => inferInstanceAs (Decidable (ElevenLeaves t g))

theorem setsMode_iff_acts (inv : Invariant g) (t : Tick P) (trigger : Trigger) :
    SetsMode t g trigger ↔ Acts t g trigger := by
  cases trigger with
  | nine => exact Iff.rfl
  | ten => exact fires10_iff inv t
  | five => exact fires5_iff inv t
  | eleven => exact fires11_iff inv t

/-- Every assignment of `mode_`, read off the globals before the tick. -/
theorem reassigned_iff (inv : Invariant g) (t : Tick P) :
    Reassigned t g ↔ Fires9 t g ∨ ChordStands t g ∨ ChordWalks t g ∨ ElevenLeaves t g := by
  rw [reassigned_iff_or, setsMode_iff_acts inv, setsMode_iff_acts inv, setsMode_iff_acts inv,
    setsMode_iff_acts inv]
  exact Iff.rfl

/-! ## The globals at the mode switch -/

omit [LinearOrder K] in
theorem buttons_startcontrol (t : Tick P) (g : Globals P) :
    (buttons t g).startcontrol = if Fires9 t g then !g.startcontrol else g.startcontrol := by
  unfold buttons
  rw [button11_startcontrol, button5_startcontrol, button10_startcontrol, button9_startcontrol]

/-- The mode that the mode switch finds. -/
theorem buttons_mode (inv : Invariant g) (t : Tick P) :
    (buttons t g).mode =
      if ElevenLeaves t g then
        if (button5 t (button10 t (button9 t g))).mode = .usermode then .stand else .lie
      else (button5 t (button10 t (button9 t g))).mode := by
  unfold buttons
  rw [button11_mode]
  simp only [fires11_iff inv t]

omit [Field K] [LinearOrder K] in
theorem elevenLeaves_of_standing {t : Tick P} (standing : Standing t g) :
    ElevenLeaves t g ↔ t.button 11 = 1 ∧ ChordWalks t g := by
  unfold ElevenLeaves ChordWalks
  rw [if_pos standing]
  exact and_congr_right fun _ => and_congr_right fun _ => (and_iff_left standing).symm

/-- From standing the tick ends up walking or standing. -/
theorem buttons_mode_of_standing (inv : Invariant g) {t : Tick P} (standing : Standing t g) :
    (buttons t g).mode =
      if ChordWalks t g ∧ t.button 11 ≠ 1 then .usermode else .stand := by
  rw [buttons_mode inv, mode_before_eleven inv, mode_before_walk inv, if_pos standing]
  have leaves := elevenLeaves_of_standing standing
  by_cases walks : ChordWalks t g
  · by_cases pressed : t.button 11 = 1
    · simp [leaves, walks, pressed]
    · simp [leaves, walks, pressed]
  · simp [leaves, walks]

theorem walking_before_eleven (inv : Invariant g) (t : Tick P) :
    (button5 t (button10 t (button9 t g))).mode = .usermode ↔
      ChordWalks t g ∨ ¬ Fires9 t g ∧ ¬ ChordStands t g ∧ g.mode = .usermode := by
  rw [mode_before_eleven inv, mode_before_walk inv]
  split_ifs with walks standing fires disarmed
  · exact iff_of_true rfl (Or.inl walks)
  · refine iff_of_false (by simp) ?_
    rintro (walking | ⟨quiet, unchanged, mode⟩)
    · exact walks walking
    · rcases standing with chord | ⟨_, stand⟩
      · exact unchanged chord
      · exact absurd (stand.symm.trans mode) (by decide)
  · exact iff_of_false (by simp) fun either => either.elim walks fun quiet => quiet.1 fires
  · exact iff_of_false (by simp) fun either => either.elim walks fun quiet => quiet.1 fires
  · have unchanged : ¬ ChordStands t g := fun chord => standing (Or.inl chord)
    simp [walks, fires, unchanged]

/-- Walking is dispatched when the walk chord takes effect, or when nothing ends it. -/
theorem buttons_usermode_iff (inv : Invariant g) (t : Tick P) :
    (buttons t g).mode = .usermode ↔
      t.button 11 ≠ 1 ∧
        (ChordWalks t g ∨ ¬ Fires9 t g ∧ ¬ ChordStands t g ∧ g.mode = .usermode) := by
  rw [← walking_before_eleven inv, buttons_mode inv]
  split_ifs with leaves walking
  · exact iff_of_false (by simp) fun both => both.1 leaves.1
  · exact iff_of_false (by simp) fun both => both.1 leaves.1
  · refine ⟨fun walking => ⟨fun pressed => leaves ?_, walking⟩, fun both => both.2⟩
    rw [← fires11_iff inv]
    exact ⟨pressed, keyflag_before_eleven inv t, Or.inl walking⟩

theorem buttons_isChangeMode (inv : Invariant g) (t : Tick P) :
    (buttons t g).isChangeMode =
      if ChordWalks t g ∨ ElevenLeaves t g then true else g.isChangeMode := by
  unfold buttons
  rw [button11_isChangeMode, button5_isChangeMode, button10_isChangeMode, button9_isChangeMode]
  simp only [fires5_iff inv t, fires11_iff inv t]
  by_cases eleven : ElevenLeaves t g
  · rw [if_pos eleven, if_pos (Or.inr eleven)]
  · rw [if_neg eleven]
    exact if_congr (or_iff_left eleven).symm rfl rfl

theorem buttons_isChangeMode_of_quiet (inv : Invariant g) {t : Tick P}
    (quiet : ¬ Reassigned t g) : (buttons t g).isChangeMode = g.isChangeMode := by
  rw [reassigned_iff inv] at quiet
  rw [buttons_isChangeMode inv]
  exact if_neg fun either => quiet (Or.inr (Or.inr either))

omit [LinearOrder K] in
/-- No branch touches what only the walking handler uses. -/
theorem buttons_policy (t : Tick P) (g : Globals P) :
    (buttons t g).toPolicyGlobals = g.toPolicyGlobals := by
  unfold buttons
  rw [button11_policy, button5_policy, button10_policy, button9_policy]

/-- The joints are captured by the two branches that start a motion from outside walking. -/
theorem buttons_currentJointAngles (inv : Invariant g) (t : Tick P) :
    (buttons t g).currentJointAngles =
      if ChordStands t g then measuredAngles P t.reads.standCapture
      else if Fires9 t g ∧ g.startcontrol = false then measuredAngles P t.reads.lieCapture
      else g.currentJointAngles := by
  unfold buttons
  rw [button11_currentJointAngles, button5_currentJointAngles, button10_currentJointAngles,
    button9_currentJointAngles]
  simp only [fires10_iff inv t]
  by_cases fires : Fires9 t g
  · simp [fires]
  · simp [fires]

/-- The tick sets the progress back: any assignment of `mode_` but the stop of control. -/
def Restarts (t : Tick P) (g : Globals P) : Prop :=
  Fires9 t g ∧ g.startcontrol = false ∨ ChordStands t g ∨ ChordWalks t g ∨ ElevenLeaves t g

instance (t : Tick P) (g : Globals P) : Decidable (Restarts t g) :=
  inferInstanceAs (Decidable (_ ∨ _))

/-- Only the stop of control assigns a mode without setting the progress back. -/
theorem restarts_of_reassigned (inv : Invariant g) {t : Tick P} (reassigned : Reassigned t g)
    (awake : (buttons t g).mode ≠ .default) : Restarts t g := by
  rcases (reassigned_iff inv t).mp reassigned with fires | others
  · by_contra quiet
    have armed : g.startcontrol ≠ false := fun disarmed => quiet (Or.inl ⟨fires, disarmed⟩)
    have still : ¬ ChordStands t g := fun chord => quiet (Or.inr (Or.inl chord))
    have walks : ¬ ChordWalks t g := fun chord => quiet (Or.inr (Or.inr (Or.inl chord)))
    have leaves : ¬ ElevenLeaves t g := fun eleven => quiet (Or.inr (Or.inr (Or.inr eleven)))
    have standing : ¬ Standing t g := fun either => either.elim still fun quiet => quiet.1 fires
    apply awake
    rw [buttons_mode inv, if_neg leaves, mode_before_eleven inv, if_neg walks,
      mode_before_walk inv, if_neg standing, if_pos fires, if_neg armed]
  · exact Or.inr others

variable [IsStrictOrderedRing K]

theorem buttons_standPercent (inv : Invariant g) (t : Tick P) :
    (buttons t g).standPercent = if Restarts t g then 0 else g.standPercent := by
  have inv5 := ((inv.button9 t).button10 t).button5 t
  unfold buttons
  rw [button11_standPercent]
  simp only [fires11_iff inv t]
  by_cases eleven : ElevenLeaves t g
  · have restarts : Restarts t g := Or.inr (Or.inr (Or.inr eleven))
    rw [if_pos eleven, if_pos restarts]
    split_ifs with walking
    · exact inv5.usermode_percent walking
    · rfl
  · have others : Restarts t g ↔
        Fires9 t g ∧ g.startcontrol = false ∨ ChordStands t g ∨ ChordWalks t g :=
      or_congr_right (or_congr_right (or_iff_left eleven))
    rw [if_neg eleven, button5_standPercent, button10_standPercent, button9_standPercent]
    simp only [fires5_iff inv t, fires10_iff inv t, others]
    by_cases walks : ChordWalks t g
    · simp [walks]
    · by_cases chord : ChordStands t g
      · simp [chord]
      · by_cases fires : Fires9 t g
        · simp [walks, chord, fires]
        · simp [walks, chord, fires]

end NoetixE1.Low
