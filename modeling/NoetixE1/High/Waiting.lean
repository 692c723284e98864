import NoetixE1.High.Holds
import NoetixE1.Machine.Accounts
import NoetixE1.High.Presses

/-!
# Bounded waiting

A binding that stays enabled while the rest of the remote changes can only be passed over
by bindings of other keys.  Each of these marks its key, so it needs a press of its own,
and the wait is bounded by the presses that the other keys show meanwhile.
-/

namespace NoetixE1.High

open Low Machine

variable {K : Type}

/-- The snapshot asks for the binding: its key is pressed and the modifiers are as it needs. -/
def Asks (b : Binding) (snapshot : Joydata K) : Prop :=
  b.Modified snapshot.button ∧ snapshot.button b.key = 1

instance (b : Binding) (snapshot : Joydata K) : Decidable (Asks b snapshot) :=
  inferInstanceAs (Decidable (_ ∧ _))

/-- The keys that trigger a command. -/
def triggerKeys : Finset (Fin 14) := {key5, key6, key7, key8, key9, key10}

/-- Whether the key was read as 0 last. -/
def released (key : Fin 14) (_ : Bool) (snapshot : Joydata K) : Bool := snapshot.button key = 0

/-- The snapshot starts a press of the key. -/
def Begins (key : Fin 14) (up : Bool) (snapshot : Joydata K) : Prop :=
  up = true ∧ snapshot.button key ≠ 0

instance (key : Fin 14) (up : Bool) (snapshot : Joydata K) : Decidable (Begins key up snapshot) :=
  inferInstanceAs (Decidable (_ ∧ _))

/-- The presses of a key that the snapshots show, one that is already there included. -/
def presses (key : Fin 14) (snapshots : List (Joydata K)) : ℕ :=
  tally (released key) (Begins key) true snapshots

/-- The iteration takes a branch of the key other than `RUN`. -/
def Spends (key : Fin 14) (l : Locals) (snapshot : Joydata K) : Prop :=
  ∃ b ∈ l.picks snapshot.button, b ≠ .run ∧ b.key = key

instance (key : Fin 14) (l : Locals) (snapshot : Joydata K) : Decidable (Spends key l snapshot) :=
  inferInstanceAs (Decidable (∃ b ∈ l.picks snapshot.button, _))

/-! ## One press pays for one branch -/

theorem Spends.triggers {key : Fin 14} {l : Locals} {snapshot : Joydata K}
    (spends : Spends key l snapshot) : Triggers key l snapshot := by
  obtain ⟨b, picked, _, same⟩ := spends
  exact triggers_iff.mpr ⟨b, picked, same⟩

theorem Spends.fresh {key : Fin 14} {l : Locals} {snapshot : Joydata K}
    (spends : Spends key l snapshot) : l.keyInuse key = 0 := by
  have pressed := spends.triggers.pressed
  obtain ⟨b, picked, other, rfl⟩ := spends
  have free := (Latch.enabled_of_chosen picked).2.2.resolve_left other
  rwa [Latch.scan_keyInuse_keep pressed] at free

/-- A key that is pressed and fresh after an iteration was fresh before it. -/
theorem fresh_of_next {key : Fin 14} {l : Locals} {snapshot : Joydata K}
    (pressed : snapshot.button key ≠ 0) (fresh : (next l snapshot).keyInuse key = 0) :
    l.keyInuse key = 0 := by
  have quiet : ¬ Triggers key l snapshot := by
    intro triggers
    rw [triggers.marks] at fresh
    exact one_ne_zero fresh
  rwa [next_keyInuse_of_not_triggers quiet, if_neg pressed] at fresh

/-- A press that has begun and has not been acted on is still to be paid for. -/
def credit (key : Fin 14) (l : Locals) (up : Bool) : ℕ :=
  if up = false ∧ l.keyInuse key = 0 then 1 else 0

theorem credit_le_one (key : Fin 14) (l : Locals) (up : Bool) : credit key l up ≤ 1 := by
  unfold credit
  split <;> omega

theorem credit_pays (key : Fin 14) (l : Locals) (up : Bool) (snapshot : Joydata K) :
    (if Spends key l snapshot then 1 else 0) +
        credit key (next l snapshot) (released key up snapshot) ≤
      credit key l up + if Begins key up snapshot then 1 else 0 := by
  by_cases lifted : snapshot.button key = 0
  · have quiet : ¬ Spends key l snapshot := fun spends => spends.triggers.pressed lifted
    have idle : credit key (next l snapshot) (released key up snapshot) = 0 :=
      if_neg fun both => of_decide_eq_false both.1 lifted
    rw [if_neg quiet, idle]
    exact Nat.zero_le _
  · by_cases spends : Spends key l snapshot
    · have spent : credit key (next l snapshot) (released key up snapshot) = 0 := by
        refine if_neg fun both => ?_
        rw [spends.triggers.marks] at both
        exact one_ne_zero both.2
      rw [if_pos spends, spent]
      cases up with
      | true => exact (if_pos ⟨rfl, lifted⟩).symm.le.trans (Nat.le_add_left _ _)
      | false => exact (if_pos ⟨rfl, spends.fresh⟩).symm.le.trans (Nat.le_add_right _ _)
    · rw [if_neg spends, Nat.zero_add]
      cases up with
      | true =>
          rw [if_pos ⟨rfl, lifted⟩]
          exact (credit_le_one _ _ _).trans (Nat.le_add_left _ _)
      | false =>
          refine le_trans ?_ (Nat.le_add_right _ _)
          by_cases fresh : (next l snapshot).keyInuse key = 0
          · exact (credit_le_one _ _ _).trans (if_pos ⟨rfl, fresh_of_next lifted fresh⟩).symm.le
          · exact (if_neg fun both => fresh both.2).le.trans (Nat.zero_le _)

theorem spends_le_presses (key : Fin 14) (l : Locals) (snapshots : List (Joydata K)) :
    tally next (Spends key) l snapshots ≤ presses key snapshots := by
  have paid := tally_add_le (credit key) (credit_pays key) l true snapshots
  have start : credit key l true = 0 := if_neg fun both => Bool.noConfusion both.1
  rw [start, Nat.zero_add] at paid
  exact le_trans (Nat.le_add_right _ _) paid

/-! ## What passes a binding over -/

theorem Binding.key_mem_triggerKeys (b : Binding) : b.key ∈ triggerKeys := by
  cases b <;> decide

theorem Binding.before_run {b : Binding} (other : b ≠ .run) : b.Before .run := by
  cases b <;> first | decide | exact absurd rfl other

/-- What the modifiers are as read, they are after the scan. -/
theorem Binding.Modified.scan {b : Binding} {button : Fin 14 → Int} (modified : b.Modified button)
    (l : Latch) : b.Modified (l.scan button button).keyUpdown := by
  cases b with
  | startteach => exact (Latch.scan_released modified).1
  | swing | shake | cheer =>
      exact ⟨(Latch.scan_released modified.1).1, (Latch.scan_released modified.2).1⟩
  | start | switch => exact True.intro
  | walk | saveteach | endteach | playteach | run => exact Latch.scan_pressed modified

section Asked

variable {b : Binding} {l : Locals} {snapshot : Joydata K}

theorem Asks.pressed (asks : Asks b snapshot) : snapshot.button b.key ≠ 0 := by
  rw [asks.2]
  exact one_ne_zero

theorem Asks.enabled (asks : Asks b snapshot) (fresh : l.keyInuse b.key = 0) :
    b.Enabled (l.scan snapshot.button snapshot.button) := by
  refine ⟨asks.1.scan l.toLatch, Latch.scan_pressed asks.2, Or.inr ?_⟩
  rwa [Latch.scan_keyInuse_keep asks.pressed]

/-- A binding that is passed over loses to one of another key. -/
theorem Asks.passed_over (asks : Asks b snapshot) (other : b ≠ .run)
    (fresh : l.keyInuse b.key = 0) (passed : l.picks snapshot.button ≠ some b) :
    ∃ first, l.picks snapshot.button = some first ∧ first ≠ .run ∧ first.key ≠ b.key := by
  have enabled := asks.enabled fresh
  cases picked : l.picks snapshot.button with
  | none => exact absurd enabled (Latch.chosen_eq_none_iff.mp picked b)
  | some first =>
      obtain ⟨taken, earlier⟩ := Latch.chosen_eq_some_iff.mp picked
      have ordinary : first ≠ .run := by
        rintro rfl
        exact earlier b (Binding.before_run other) enabled
      refine ⟨first, rfl, ordinary, fun same => passed ?_⟩
      rw [picked, Binding.eq_of_key_eq ordinary other taken.1 enabled.1 same]

theorem Asks.spends (asks : Asks b snapshot) (other : b ≠ .run)
    (fresh : l.keyInuse b.key = 0) (passed : l.picks snapshot.button ≠ some b) :
    ∃ key ∈ triggerKeys.erase b.key, Spends key l snapshot := by
  obtain ⟨first, picked, ordinary, apart⟩ := asks.passed_over other fresh passed
  exact ⟨first.key, Finset.mem_erase.mpr ⟨apart, first.key_mem_triggerKeys⟩,
    first, picked, ordinary, rfl⟩

/-- Passing a binding over leaves its key fresh. -/
theorem Asks.stays_fresh (asks : Asks b snapshot) (other : b ≠ .run)
    (fresh : l.keyInuse b.key = 0) (passed : l.picks snapshot.button ≠ some b) :
    (next l snapshot).keyInuse b.key = 0 := by
  obtain ⟨first, picked, _, apart⟩ := asks.passed_over other fresh passed
  have quiet : ¬ Triggers b.key l snapshot := by
    intro triggers
    obtain ⟨same, again, key⟩ := triggers_iff.mp triggers
    obtain rfl := Option.some.inj (picked.symm.trans again)
    exact apart key
  rwa [next_keyInuse_of_not_triggers quiet, if_neg asks.pressed]

/-- After its branch is taken a binding is not taken again while its key stays pressed. -/
theorem not_picked_again (other : b ≠ .run) {snapshots : List (Joydata K)}
    (asked : ∀ snapshot ∈ snapshots, Asks b snapshot) (marked : l.keyInuse b.key ≠ 0) :
    Along next (fun l snapshot => ¬ l.picks snapshot.button = some b) l snapshots := by
  induction snapshots generalizing l with
  | nil => exact True.intro
  | cons snapshot rest ih =>
      have asks := asked snapshot List.mem_cons_self
      have later : ∀ snapshot ∈ rest, Asks b snapshot :=
        fun later member => asked later (List.mem_cons_of_mem snapshot member)
      refine ⟨fun picked => ?_, ih later ?_⟩
      · exact marked (Spends.fresh ⟨b, picked, other, rfl⟩)
      · exact fun fresh => marked (fresh_of_next asks.pressed fresh)

end Asked

/-! ## Runs -/

section Runs

variable {b : Binding} {l : Locals} {snapshots : List (Joydata K)}

theorem count_actions (b : Binding) (l : Locals) (snapshots : List (Joydata K)) :
    (actions l snapshots).count b.action =
      tally next (fun l snapshot => l.picks snapshot.button = some b) l snapshots := by
  induction snapshots generalizing l with
  | nil => rfl
  | cons snapshot rest ih =>
      change ((publishes l snapshot).action :: actions (next l snapshot) rest).count b.action = _
      rw [List.count_cons, ih, tally, Nat.add_comm, publishes_eq]
      refine congrArg (· + _) (if_congr ?_ rfl rfl)
      rw [beq_iff_eq]
      exact ⟨fun same => actionOf_injective same, fun picked => congrArg actionOf picked⟩

/-- While the snapshots ask for the binding its branch is taken at most once. -/
theorem picked_at_most_once (other : b ≠ .run) (asked : ∀ snapshot ∈ snapshots, Asks b snapshot) :
    tally next (fun l snapshot => l.picks snapshot.button = some b) l snapshots ≤ 1 := by
  induction snapshots generalizing l with
  | nil => exact Nat.zero_le 1
  | cons snapshot rest ih =>
      have later : ∀ snapshot ∈ rest, Asks b snapshot :=
        fun later member => asked later (List.mem_cons_of_mem snapshot member)
      rw [tally]
      by_cases picked : l.picks snapshot.button = some b
      · have marked : (next l snapshot).keyInuse b.key ≠ 0 := by
          rw [(triggers_iff.mpr ⟨b, picked, rfl⟩ : Triggers b.key l snapshot).marks]
          exact one_ne_zero
        rw [if_pos picked, tally_eq_zero_iff.mpr (not_picked_again other later marked)]
      · rw [if_neg picked, Nat.zero_add]
        exact ih later

/-- As long as the binding is passed over, the other keys pay for every iteration. -/
theorem length_le_presses (other : b ≠ .run) (fresh : l.keyInuse b.key = 0)
    (asked : ∀ snapshot ∈ snapshots, Asks b snapshot)
    (passed : Along next (fun l snapshot => ¬ l.picks snapshot.button = some b) l snapshots) :
    snapshots.length ≤ ∑ key ∈ triggerKeys.erase b.key, presses key snapshots := by
  have every : Along next
      (fun l snapshot => ∃ key ∈ triggerKeys.erase b.key, Spends key l snapshot) l snapshots := by
    induction snapshots generalizing l with
    | nil => exact True.intro
    | cons snapshot rest ih =>
        have asks := asked snapshot List.mem_cons_self
        refine ⟨asks.spends other fresh passed.1, ?_⟩
        refine ih (asks.stays_fresh other fresh passed.1) (fun later member => ?_) passed.2
        exact asked later (List.mem_cons_of_mem snapshot member)
  calc snapshots.length
      ≤ ∑ key ∈ triggerKeys.erase b.key, tally next (Spends key) l snapshots :=
        length_le_sum_tally every
    _ ≤ ∑ key ∈ triggerKeys.erase b.key, presses key snapshots :=
        Finset.sum_le_sum fun key _ => spends_le_presses key l snapshots

/--
Snapshots that all ask for a binding other than `RUN` whose key is not in use, more of
them than the other keys show presses: the binding is published, and once.
-/
theorem bounded_waiting (other : b ≠ .run) (fresh : l.keyInuse b.key = 0)
    (asked : ∀ snapshot ∈ snapshots, Asks b snapshot)
    (long : ∑ key ∈ triggerKeys.erase b.key, presses key snapshots < snapshots.length) :
    (actions l snapshots).count b.action = 1 := by
  rw [count_actions]
  refine Nat.le_antisymm (picked_at_most_once other asked) (Nat.one_le_iff_ne_zero.mpr ?_)
  intro never
  have short := length_le_presses other fresh asked (tally_eq_zero_iff.mp never)
  exact Nat.not_lt.mpr short long

/-- `START` asked for while keys 6 and 7 are pressed in turn: it waits for two swings, a
shake and nothing else. -/
theorem bounded_waiting_start :
    (actions (.cleared 0) [keys [9, 6], keys [9, 7], keys [9, 6], keys [9]]).count .start = 1 :=
  bounded_waiting (b := .start) (by decide) rfl (by decide) (by decide)

end Runs

end NoetixE1.High
