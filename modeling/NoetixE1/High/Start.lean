import NoetixE1.High.Lockstep

/-!
# Where the two programs start

The script starts from zero; the locals of the C++ program hold whatever was on the stack.
What the first snapshot overwrites does no harm.  Everything else that the chain asks for
has to be as if it were zero, or there is a run in which the programs part.
-/

namespace NoetixE1.High

open Low Machine

variable {K : Type}

/-! ## Harmless contents -/

/-- The first iteration of the script publishes `RUN`. -/
def RunsFirst (button : Fin 14 → Int) : Prop :=
  button key2 = 1 ∧ button key6 = 1 ∧ button key1 ≠ 1 ∧ button key5 ≠ 1 ∧ button key9 ≠ 1 ∧
    button key10 ≠ 1

/-- It publishes `PLAYTEACH`. -/
def PlaysFirst (button : Fin 14 → Int) : Prop :=
  button key1 = 1 ∧ button key8 = 1 ∧ button key5 ≠ 1 ∧ button key6 ≠ 1 ∧ button key7 ≠ 1 ∧
    button key9 ≠ 1 ∧ button key10 ≠ 1

instance (button : Fin 14 → Int) : Decidable (PlaysFirst button) :=
  inferInstanceAs (Decidable (_ ∧ _))

/--
The contents of the uninitialised locals do no harm if the first snapshot has these buttons.
The first iteration overwrites some of them: the level of a key that is 0 or 1, the use of a
key that is 0 or that `RUN` marks without a test, and the index if it is a playback.
-/
structure Started (l : Locals) (button : Fin 14 → Int) : Prop where
  modifier : ∀ key, Modifier key → button key = 0 ∨ button key = 1 ∨ l.keyUpdown key = 0
  updown : ∀ b : Binding, button b.key = 0 ∨ button b.key = 1 ∨ l.keyUpdown b.key ≠ 1
  inuse : ∀ b : Binding, button b.key = 0 ∨ l.keyInuse b.key = 0 ∨
    b.key = key6 ∧ RunsFirst button
  fileindex : l.fileindex.setWidth 16 = 0 ∨ PlaysFirst button

/-! ## The first iteration of the script -/

section First

variable {button : Fin 14 → Int}

theorem initial_scan_down (button : Fin 14 → Int) (key : Fin 14) :
    (Script.initial.scan button button).keyUpdown key = 1 ↔ button key = 1 := by
  unfold Latch.scan
  dsimp only
  split_ifs with up down
  · rw [up]
  · exact iff_of_true rfl down
  · exact iff_of_false zero_ne_one down

theorem initial_scan_up (button : Fin 14 → Int) (key : Fin 14) :
    (Script.initial.scan button button).keyUpdown key = 0 ↔ button key ≠ 1 := by
  unfold Latch.scan
  dsimp only
  split_ifs with up down
  · rw [up]
    exact iff_of_true rfl zero_ne_one
  · exact iff_of_false one_ne_zero (not_not.mpr down)
  · exact iff_of_true rfl down

theorem initial_scan_fresh (button : Fin 14 → Int) (key : Fin 14) :
    (Script.initial.scan button button).keyInuse key = 0 :=
  ite_self _

/-- At first no key is in use. -/
theorem initial_enabled_iff {b : Binding} :
    b.Enabled (Script.initial.scan button button) ↔
      b.Modified (Script.initial.scan button button).keyUpdown ∧ button b.key = 1 := by
  unfold Binding.Enabled
  rw [initial_scan_down, and_iff_left (Or.inr (initial_scan_fresh button b.key))]

/-- A branch that is passed over with its modifiers as asked does not have its key pressed. -/
theorem released_of_initial_picks {taken : Binding}
    (picked : Script.initial.picks button = some taken) (earlier : Binding)
    (before : earlier.Before taken)
    (modified : earlier.Modified (Script.initial.scan button button).keyUpdown) :
    button earlier.key ≠ 1 := by
  intro down
  exact (Latch.chosen_eq_some_iff.mp picked).2 earlier before
    (initial_enabled_iff.mpr ⟨modified, down⟩)

theorem initial_picks_run :
    Script.initial.picks button = some .run ↔ RunsFirst button := by
  have down1 := initial_scan_down button key1
  have down2 := initial_scan_down button key2
  have up2 := initial_scan_up button key2
  constructor
  · intro picked
    have released := released_of_initial_picks picked
    obtain ⟨running, down⟩ := initial_enabled_iff.mp (Latch.enabled_of_chosen picked)
    refine ⟨down2.mp running, down, ?_, ?_, ?_, ?_⟩
    · intro saving
      exact released .saveteach (by decide) (down1.mpr saving) down
    · exact released .walk (by decide) running
    · exact released .start (by decide) True.intro
    · exact released .switch (by decide) True.intro
  · rintro ⟨running, down, one, five, nine, ten⟩
    refine Latch.chosen_eq_some_iff.mpr
      ⟨initial_enabled_iff.mpr ⟨down2.mpr running, down⟩, fun earlier before enabled => ?_⟩
    obtain ⟨modified, pressed⟩ := initial_enabled_iff.mp enabled
    cases earlier with
    | startteach => exact five pressed
    | swing => exact up2.mp modified.1 running
    | shake => exact up2.mp modified.1 running
    | cheer => exact up2.mp modified.1 running
    | start => exact nine pressed
    | switch => exact ten pressed
    | walk => exact five pressed
    | saveteach => exact one (down1.mp modified)
    | endteach => exact one (down1.mp modified)
    | playteach => exact one (down1.mp modified)
    | run => exact Binding.not_before_of_run _ before

theorem initial_picks_playteach :
    Script.initial.picks button = some .playteach ↔ PlaysFirst button := by
  have down1 := initial_scan_down button key1
  have down2 := initial_scan_down button key2
  have up1 := initial_scan_up button key1
  have up2 := initial_scan_up button key2
  constructor
  · intro picked
    have released := released_of_initial_picks picked
    obtain ⟨teaching, down⟩ := initial_enabled_iff.mp (Latch.enabled_of_chosen picked)
    refine ⟨down1.mp teaching, down, ?_, ?_, ?_, ?_, ?_⟩
    · by_cases two : button key2 = 1
      · exact released .walk (by decide) (down2.mpr two)
      · exact released .startteach (by decide) (up2.mpr two)
    · exact released .saveteach (by decide) teaching
    · exact released .endteach (by decide) teaching
    · exact released .start (by decide) True.intro
    · exact released .switch (by decide) True.intro
  · rintro ⟨teaching, down, five, six, seven, nine, ten⟩
    refine Latch.chosen_eq_some_iff.mpr
      ⟨initial_enabled_iff.mpr ⟨down1.mpr teaching, down⟩, fun earlier before enabled => ?_⟩
    obtain ⟨modified, pressed⟩ := initial_enabled_iff.mp enabled
    cases earlier with
    | startteach => exact five pressed
    | swing => exact six pressed
    | shake => exact seven pressed
    | cheer => exact up1.mp modified.2 teaching
    | start => exact nine pressed
    | switch => exact ten pressed
    | walk => exact five pressed
    | saveteach => exact six pressed
    | endteach => exact seven pressed
    | playteach => exact Nat.lt_irrefl _ before
    | run => exact Binding.not_before_of_run _ before

end First

/-! ## Harmless contents are enough -/

namespace Started

variable {l : Locals} {button : Fin 14 → Int}

theorem released (started : Started l button) {key : Fin 14} (modifier : Modifier key) :
    (l.scan button button).keyUpdown key = 0 ↔
      (Script.initial.scan button button).keyUpdown key = 0 := by
  refine Latch.scan_level_iff ?_
  refine (started.modifier key modifier).imp_right (Or.imp_right fun zero => ?_)
  exact iff_of_true zero rfl

theorem held (started : Started l button) {key : Fin 14} (modifier : Modifier key) :
    (l.scan button button).keyUpdown key = 1 ↔
      (Script.initial.scan button button).keyUpdown key = 1 := by
  refine Latch.scan_level_iff ?_
  refine (started.modifier key modifier).imp_right (Or.imp_right fun zero => ?_)
  rw [zero]
  exact Iff.rfl

theorem down (started : Started l button) (b : Binding) :
    (l.scan button button).keyUpdown b.key = 1 ↔
      (Script.initial.scan button button).keyUpdown b.key = 1 := by
  refine Latch.scan_level_iff ?_
  refine (started.updown b).imp_right (Or.imp_right fun apart => ?_)
  exact iff_of_false apart zero_ne_one

theorem modified (started : Started l button) (b : Binding) :
    b.Modified (l.scan button button).keyUpdown ↔
      b.Modified (Script.initial.scan button button).keyUpdown :=
  b.modified_congr (fun _ modifier => started.released modifier)
    fun _ modifier => started.held modifier

/-- After the scan all keys are fresh, but for key 6 where `RUN` does not ask. -/
theorem fresh (started : Started l button) (b : Binding) :
    (l.scan button button).keyInuse b.key = 0 ∨ b.key = key6 ∧ RunsFirst button := by
  unfold Latch.scan
  dsimp only
  split_ifs with up
  · exact Or.inl rfl
  · exact (started.inuse b).resolve_left up

theorem picks_eq (started : Started l button) :
    l.picks button = Script.initial.picks button := by
  have weaker (b : Binding) (enabled : b.Enabled (l.scan button button)) :
      b.Enabled (Script.initial.scan button button) :=
    ⟨(started.modified b).mp enabled.1, (started.down b).mp enabled.2.1,
      Or.inr (initial_scan_fresh button b.key)⟩
  by_cases first : RunsFirst button
  · have running := initial_picks_run.mpr first
    obtain ⟨⟨modified, down, _⟩, idle⟩ := Latch.chosen_eq_some_iff.mp running
    rw [running]
    refine Latch.chosen_eq_some_iff.mpr ⟨?_, fun b before enabled => ?_⟩
    · exact ⟨(started.modified _).mpr modified, (started.down _).mpr down, Or.inl rfl⟩
    · exact idle b before (weaker b enabled)
  · refine Latch.chosen_congr fun b => ⟨weaker b, fun enabled => ?_⟩
    have unused := (started.fresh b).resolve_right fun both => first both.2
    exact ⟨(started.modified b).mpr enabled.1, (started.down b).mpr enabled.2.1, Or.inr unused⟩

theorem alike (started : Started l button) :
    Alike (l.advance button) (Script.initial.advance button) := by
  unfold Latch.advance
  rw [started.picks_eq]
  refine Alike.of_mark (fun _ => started.released) (fun _ => started.held) started.down ?_
  intro b unmarked
  refine iff_of_true ?_ (initial_scan_fresh button b.key)
  refine (started.fresh b).resolve_right fun first => ?_
  exact unmarked .run (initial_picks_run.mpr first.2) first.1

theorem agree {snapshot : Joydata K} (started : Started l snapshot.button) :
    Agree l Script.initial snapshot := by
  have same := started.picks_eq
  refine ⟨same, ?_⟩
  rw [next_fileindex, Script.next_fileindex, same]
  rcases started.fileindex with zero | first
  · exact recount_congr zero _
  · rw [initial_picks_playteach.mpr first]
    rfl

theorem lockstep {snapshot : Joydata K} (started : Started l snapshot.button) :
    Lockstep (next l snapshot) (Script.next Script.initial snapshot) := by
  refine ⟨?_, started.agree.2⟩
  rw [next_toLatch, Script.next_toLatch]
  exact started.alike

end Started

theorem initial_inRange : Script.InRange Script.initial :=
  ⟨le_refl 0, by decide⟩

/-- From harmless contents the programs publish the same commands as long as the index fits. -/
theorem Started.published_eq_iff (caster : Script.IndexCaster) {l : Locals}
    {snapshot : Joydata K} (started : Started l snapshot.button) (rest : List (Joydata K)) :
    published l (snapshot :: rest) = Script.published caster Script.initial (snapshot :: rest) ↔
      Along Script.next Script.Fits Script.initial (snapshot :: rest) := by
  rw [published_cons_eq_iff caster initial_inRange, along_cons]
  refine and_congr_right fun fits => ?_
  rw [and_iff_right started.agree]
  exact started.lockstep.published_eq_iff caster
    ((Script.next_inRange_iff initial_inRange).mpr fits) rest

end NoetixE1.High
