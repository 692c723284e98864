import Mathlib.Algebra.Order.Ring.Int
import NoetixE1.High.Bindings

/-!
# One press, one action

The chain marks the key of every branch it takes, and only reading the key as 0 clears
the mark.  Ten branches test the mark of their key.  The eleventh, `RUN`, does not: it is
published again in every iteration while keys 2 and 6 stay pressed.
-/

namespace NoetixE1.High

open Low Machine

variable {K : Type}

/-- The key whose press triggers a command. -/
def triggerKey : ControlCmd → Option (Fin 14)
  | .startteach | .walk => some key5
  | .swing | .saveteach | .run => some key6
  | .shake | .endteach => some key7
  | .cheer | .playteach => some key8
  | .start => some key9
  | .switch => some key10
  | .taiji | .dance | .default => none

theorem triggerKey_actionOf (taken : Option Binding) :
    triggerKey (actionOf taken) = taken.map Binding.key := by
  cases taken with
  | none => rfl
  | some b => cases b <;> rfl

/-- The iteration publishes an action triggered by the key. -/
def Triggers (key : Fin 14) (l : Locals) (snapshot : Joydata K) : Prop :=
  triggerKey (publishes l snapshot).action = some key

instance (key : Fin 14) (l : Locals) (snapshot : Joydata K) : Decidable (Triggers key l snapshot) :=
  inferInstanceAs (Decidable (_ = _))

/-- Between two iterations that publish an action of the key, some iteration reads it as 0. -/
def OnePress (key : Fin 14) (l : Locals) (snapshots : List (Joydata K)) : Prop :=
  ∀ before first between second after,
    snapshots = before ++ first :: between ++ second :: after →
    Triggers key (run next l before) first →
    Triggers key (run next l (before ++ first :: between)) second →
    ∃ snapshot ∈ between, snapshot.button key = 0

/-- With these scanned latches the chain arrives at `RUN` while key 6 is in use. -/
structure RunsInUse (l : Latch) : Prop where
  modifier : l.keyUpdown key2 = 1
  pressed : l.keyUpdown key6 = 1
  inUse : l.keyInuse key6 ≠ 0
  passed : ∀ b : Binding, b.Before .run → ¬ b.Enabled l

/-! ## The mark of a key -/

theorem triggers_iff {key : Fin 14} {l : Locals} {snapshot : Joydata K} :
    Triggers key l snapshot ↔ ∃ b, l.picks snapshot.button = some b ∧ b.key = key := by
  unfold Triggers
  rw [publishes_eq, triggerKey_actionOf, Option.map_eq_some_iff]

/-- A triggered key is not read as 0. -/
theorem Triggers.pressed {key : Fin 14} {l : Locals} {snapshot : Joydata K}
    (triggers : Triggers key l snapshot) : snapshot.button key ≠ 0 := by
  obtain ⟨b, picked, rfl⟩ := triggers_iff.mp triggers
  exact Latch.pressed_of_picks picked

theorem Triggers.marks {key : Fin 14} {l : Locals} {snapshot : Joydata K}
    (triggers : Triggers key l snapshot) : (next l snapshot).keyInuse key = 1 := by
  obtain ⟨b, picked, rfl⟩ := triggers_iff.mp triggers
  rw [next_toLatch, Latch.advance, picked]
  exact Latch.mark_keyInuse_self b _

theorem next_keyInuse_of_not_triggers {key : Fin 14} {l : Locals} {snapshot : Joydata K}
    (quiet : ¬ Triggers key l snapshot) :
    (next l snapshot).keyInuse key = if snapshot.button key = 0 then 0 else l.keyInuse key := by
  rw [next_toLatch, Latch.advance]
  refine Latch.mark_keyInuse_of_ne (fun b picked same => quiet ?_) _
  exact triggers_iff.mpr ⟨b, picked, same.symm⟩

/-- The mark stays while the key is not read as 0. -/
theorem run_keyInuse {key : Fin 14} {snapshots : List (Joydata K)}
    (held : ∀ snapshot ∈ snapshots, snapshot.button key ≠ 0) {l : Locals}
    (marked : l.keyInuse key ≠ 0) : (run next l snapshots).keyInuse key ≠ 0 := by
  induction snapshots generalizing l with
  | nil => exact marked
  | cons snapshot rest ih =>
      refine ih (fun later member => held later (List.mem_cons_of_mem snapshot member)) ?_
      by_cases triggers : Triggers key l snapshot
      · rw [triggers.marks]
        exact one_ne_zero
      · rw [next_keyInuse_of_not_triggers triggers,
          if_neg (held snapshot List.mem_cons_self)]
        exact marked

/-- A mark comes from an iteration that triggered the key and was not cleared since. -/
theorem triggered_of_keyInuse {key : Fin 14} {fileindex : BitVec 32}
    {snapshots : List (Joydata K)}
    (marked : (run next (.cleared fileindex) snapshots).keyInuse key ≠ 0) :
    ∃ before first between, snapshots = before ++ first :: between ∧
      Triggers key (run next (.cleared fileindex) before) first ∧
      ∀ snapshot ∈ between, snapshot.button key ≠ 0 := by
  induction snapshots using List.reverseRecOn with
  | nil => exact absurd rfl marked
  | append_singleton earlier last ih =>
      rw [run_concat] at marked
      by_cases triggers : Triggers key (run next (.cleared fileindex) earlier) last
      · exact ⟨earlier, last, [], rfl, triggers, fun _ member => absurd member List.not_mem_nil⟩
      · rw [next_keyInuse_of_not_triggers triggers] at marked
        have pressed : last.button key ≠ 0 := fun released => marked (if_pos released)
        rw [if_neg pressed] at marked
        obtain ⟨before, first, between, rfl, opened, held⟩ := ih marked
        refine ⟨before, first, between ++ [last], ?_, opened, ?_⟩
        · rw [List.append_assoc, List.cons_append]
        · intro snapshot member
          rcases List.mem_append.mp member with within | final
          · exact held snapshot within
          · rw [List.mem_singleton.mp final]
            exact pressed

/-! ## Runs -/

/-- A key in use is triggered only by the `RUN` branch. -/
theorem runsInUse_of_triggers {key : Fin 14} {l : Locals} {snapshot : Joydata K}
    (triggers : Triggers key l snapshot) (marked : l.keyInuse key ≠ 0) :
    key = key6 ∧ RunsInUse (l.scan snapshot.button snapshot.button) := by
  have pressed := triggers.pressed
  obtain ⟨b, picked, rfl⟩ := triggers_iff.mp triggers
  obtain ⟨⟨modified, down, free⟩, passed⟩ := Latch.chosen_eq_some_iff.mp picked
  have inUse : (l.scan snapshot.button snapshot.button).keyInuse b.key ≠ 0 := by
    rw [Latch.scan_keyInuse_keep pressed]
    exact marked
  obtain rfl := free.resolve_right inUse
  exact ⟨rfl, modified, down, inUse, passed⟩

theorem triggers_of_runsInUse {l : Locals} {snapshot : Joydata K}
    (runs : RunsInUse (l.scan snapshot.button snapshot.button)) : Triggers key6 l snapshot := by
  refine triggers_iff.mpr ⟨.run, ?_, rfl⟩
  exact Latch.chosen_eq_some_iff.mpr
    ⟨⟨runs.modifier, runs.pressed, Or.inl rfl⟩, runs.passed⟩

theorem marked_of_runsInUse {l : Locals} {snapshot : Joydata K}
    (runs : RunsInUse (l.scan snapshot.button snapshot.button)) : l.keyInuse key6 ≠ 0 := by
  have inUse := runs.inUse
  rw [Latch.scan_keyInuse_keep (triggers_of_runsInUse runs).pressed] at inUse
  exact inUse

/-- A key that is triggered and then held is in use. -/
theorem Triggers.held_marks {key : Fin 14} {l : Locals} {first : Joydata K}
    (triggers : Triggers key l first) {between : List (Joydata K)}
    (held : ∀ snapshot ∈ between, snapshot.button key ≠ 0) :
    (run next l (first :: between)).keyInuse key ≠ 0 := by
  rw [run_cons]
  refine run_keyInuse held ?_
  rw [triggers.marks]
  exact one_ne_zero

/--
From cleared key arrays, a key triggers at most one action per press in a run exactly
when the key is not 6, or the run never arrives at `RUN` while key 6 is in use.
-/
theorem one_action_iff (key : Fin 14) (fileindex : BitVec 32) (snapshots : List (Joydata K)) :
    OnePress key (.cleared fileindex) snapshots ↔
      key ≠ key6 ∨
        Along next (fun l snapshot => ¬ RunsInUse (l.scan snapshot.button snapshot.button))
          (.cleared fileindex) snapshots := by
  constructor
  · intro once
    refine or_iff_not_imp_left.mpr fun six => ?_
    obtain rfl := not_not.mp six
    refine (along_iff_forall_split next).mpr fun earlier second after split runs => ?_
    obtain ⟨before, first, between, rfl, opened, held⟩ :=
      triggered_of_keyInuse (marked_of_runsInUse runs)
    obtain ⟨snapshot, member, released⟩ :=
      once before first between second after split opened (triggers_of_runsInUse runs)
    exact held snapshot member released
  · rintro latched before first between second after split opened again
    by_contra never
    have marked : (run next (.cleared fileindex) (before ++ first :: between)).keyInuse key ≠ 0 := by
      rw [run_append]
      refine opened.held_marks ?_
      intro snapshot member released
      exact never ⟨snapshot, member, released⟩
    obtain ⟨six, runs⟩ := runsInUse_of_triggers again marked
    obtain other | never := latched
    · exact other six
    · exact (along_iff_forall_split next).mp never _ second after split runs

/-- Keys 2 and 6 held for two iterations publish `RUN` twice. -/
theorem not_one_action :
    ¬ ∀ key ∈ [key5, key6, key7, key8, key9, key10], ∀ snapshots : List (Joydata ℤ),
      OnePress key (.cleared 0) snapshots := by
  intro once
  obtain ⟨_, member, _⟩ := once key6 (by decide) [keys [2, 6], keys [2, 6]] [] (keys [2, 6]) []
    (keys [2, 6]) [] rfl (by decide) (by decide)
  cases member

end NoetixE1.High
