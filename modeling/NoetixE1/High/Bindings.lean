import Mathlib.Algebra.Order.Ring.Int
import NoetixE1.High.Decoder
import NoetixE1.High.Script
import NoetixE1.Library.Priority

/-!
# Key bindings

Both loops are the same priority decoder: a table of eleven bindings, each a key with
what it asks of the modifiers 1 and 2, and a latch that says which presses have been
acted on.  The first enabled binding of the table is published and its key marked.
-/

namespace NoetixE1.High

open Low

/-- The branches of the chain, in source order. -/
inductive Binding where
  | startteach | swing | shake | cheer | start | switch | walk | saveteach | endteach
  | playteach | run
  deriving DecidableEq, Repr

namespace Binding

def order : List Binding :=
  [startteach, swing, shake, cheer, start, switch, walk, saveteach, endteach, playteach, run]

theorem mem_order (b : Binding) : b ∈ order := by
  cases b <;> decide

theorem order_nodup : order.Nodup := by
  decide

/-- What is asked of all branches can be decided. -/
instance decidableForall (asked : Binding → Prop) [∀ b, Decidable (asked b)] :
    Decidable (∀ b, asked b) :=
  decidable_of_iff (∀ b ∈ order, asked b)
    ⟨fun every b => every b b.mem_order, fun every b _ => every b⟩

/-- The branch of `first` is tested before that of `second`. -/
def Before (first second : Binding) : Prop := order.idxOf first < order.idxOf second

instance (first second : Binding) : Decidable (first.Before second) :=
  inferInstanceAs (Decidable (_ < _))

/-- `run` is the last branch. -/
theorem not_before_of_run (b : Binding) : ¬ run.Before b := by
  cases b <;> decide

/-- The key whose latch the branch marks. -/
def key : Binding → Fin 14
  | startteach | walk => key5
  | swing | saveteach | run => key6
  | shake | endteach => key7
  | cheer | playteach => key8
  | start => key9
  | switch => key10

def action : Binding → ControlCmd
  | startteach => .startteach
  | swing => .swing
  | shake => .shake
  | cheer => .cheer
  | start => .start
  | switch => .switch
  | walk => .walk
  | saveteach => .saveteach
  | endteach => .endteach
  | playteach => .playteach
  | run => .run

theorem action_injective : Function.Injective action := by
  intro first second same
  cases first <;> cases second <;> first | rfl | cases same

theorem action_ne_default (b : Binding) : b.action ≠ .default := by
  cases b <;> decide

/-- What the branch asks of the modifiers. -/
def Modified (updown : Fin 14 → Int) : Binding → Prop
  | startteach => updown key2 = 0
  | swing | shake | cheer => updown key2 = 0 ∧ updown key1 = 0
  | start | switch => True
  | walk | run => updown key2 = 1
  | saveteach | endteach | playteach => updown key1 = 1

instance (updown : Fin 14 → Int) : (b : Binding) → Decidable (b.Modified updown)
  | startteach | walk | run | saveteach | endteach | playteach =>
      inferInstanceAs (Decidable (_ = _))
  | swing | shake | cheer => inferInstanceAs (Decidable (_ ∧ _))
  | start | switch => inferInstanceAs (Decidable True)

/-- The modifiers leave each key at most one binding other than `RUN`. -/
theorem eq_of_key_eq {button : Fin 14 → Int} {first second : Binding} (firstOther : first ≠ .run)
    (secondOther : second ≠ .run) (firstModified : first.Modified button)
    (secondModified : second.Modified button) (same : first.key = second.key) :
    first = second := by
  have apart {key : Fin 14} (up : button key = 0) (down : button key = 1) : False := by
    rw [up] at down
    exact zero_ne_one down
  cases first <;> cases second <;> first
    | rfl
    | exact absurd rfl firstOther
    | exact absurd rfl secondOther
    | exact absurd same (by decide)
    | exact (apart firstModified secondModified).elim
    | exact (apart secondModified firstModified).elim
    | exact (apart firstModified.2 secondModified).elim
    | exact (apart secondModified.2 firstModified).elim

/-- The condition of the branch.  `run` alone ignores whether its key is in use. -/
def Enabled (l : Latch) (b : Binding) : Prop :=
  b.Modified l.keyUpdown ∧ l.keyUpdown b.key = 1 ∧ (b = run ∨ l.keyInuse b.key = 0)

instance (l : Latch) (b : Binding) : Decidable (b.Enabled l) :=
  inferInstanceAs (Decidable (_ ∧ _ ∧ (_ ∨ _)))

end Binding

/-- The action published for the branch taken. -/
def actionOf : Option Binding → ControlCmd
  | none => .default
  | some b => b.action

theorem actionOf_injective : Function.Injective actionOf := by
  intro first second same
  cases first with
  | none =>
      cases second with
      | none => rfl
      | some b => exact absurd same.symm b.action_ne_default
  | some a =>
      cases second with
      | none => exact absurd same a.action_ne_default
      | some b => exact congrArg some (Binding.action_injective same)

/-- What the branch taken does to `fileindex`. -/
def recount {Index : Type} [Add Index] [OfNat Index 1] : Option Binding → Index → Index
  | some .saveteach, index => index + 1
  | some .playteach, _ => 1
  | _, index => index

/-! ## The decoder on its latches -/

namespace Latch

/-- The scan loop; `first` and `second` are the values of the two accesses to a button. -/
def scan (first second : Fin 14 → Int) (l : Latch) : Latch where
  keyUpdown i := if first i = 0 then 0 else if second i = 1 then 1 else l.keyUpdown i
  keyInuse i := if first i = 0 then 0 else l.keyInuse i

/-- The branch the chain takes. -/
def chosen (l : Latch) : Option Binding := Binding.order.find? fun b => decide (b.Enabled l)

def mark : Option Binding → Latch → Latch
  | none, l => l
  | some b, l => { l with keyInuse := Function.update l.keyInuse b.key 1 }

@[simp] theorem mark_keyUpdown (taken : Option Binding) (l : Latch) :
    (l.mark taken).keyUpdown = l.keyUpdown := by
  cases taken <;> rfl

theorem mark_keyInuse_self (b : Binding) (l : Latch) : (l.mark (some b)).keyInuse b.key = 1 :=
  Function.update_self _ _ _

theorem mark_keyInuse_of_ne {taken : Option Binding} {key : Fin 14}
    (apart : ∀ b, taken = some b → key ≠ b.key) (l : Latch) :
    (l.mark taken).keyInuse key = l.keyInuse key := by
  cases taken with
  | none => rfl
  | some b => exact Function.update_of_ne (apart b rfl) _ _

theorem mark_fresh_iff (taken : Option Binding) (l : Latch) (key : Fin 14) :
    (l.mark taken).keyInuse key = 0 ↔
      (∀ b, taken = some b → key ≠ b.key) ∧ l.keyInuse key = 0 := by
  by_cases apart : ∀ b, taken = some b → key ≠ b.key
  · rw [mark_keyInuse_of_ne apart, and_iff_right apart]
  · refine iff_of_false ?_ fun both => apart both.1
    push Not at apart
    obtain ⟨b, rfl, rfl⟩ := apart
    rw [mark_keyInuse_self]
    exact one_ne_zero

/-- The branch taken by an iteration that reads these buttons. -/
def picks (button : Fin 14 → Int) (l : Latch) : Option Binding := (l.scan button button).chosen

/-- The latches after such an iteration. -/
def advance (button : Fin 14 → Int) (l : Latch) : Latch :=
  (l.scan button button).mark (l.picks button)

/-- The branch taken is the first whose condition holds. -/
theorem chosen_eq_some_iff {l : Latch} {b : Binding} :
    l.chosen = some b ↔ b.Enabled l ∧ ∀ earlier : Binding, earlier.Before b → ¬ earlier.Enabled l := by
  unfold chosen
  rw [Priority.find?_eq_some_iff, and_iff_right b.mem_order, decide_eq_true_iff]
  refine and_congr_right fun _ => ?_
  constructor
  · intro idle earlier before
    exact of_decide_eq_false (idle earlier earlier.mem_order before)
  · intro idle earlier _ before
    exact decide_eq_false (idle earlier before)

theorem enabled_of_chosen {l : Latch} {b : Binding} (taken : l.chosen = some b) : b.Enabled l :=
  (chosen_eq_some_iff.mp taken).1

theorem chosen_eq_none_iff {l : Latch} : l.chosen = none ↔ ∀ b : Binding, ¬ b.Enabled l := by
  unfold chosen
  rw [List.find?_eq_none]
  constructor
  · intro idle b enabled
    exact idle b b.mem_order (decide_eq_true enabled)
  · intro idle b _ enabled
    exact idle b (of_decide_eq_true enabled)

/-! ### Scanning -/

section Scan

variable {button : Fin 14 → Int} {key : Fin 14} {l : Latch}

theorem scan_released (up : button key = 0) :
    (l.scan button button).keyUpdown key = 0 ∧ (l.scan button button).keyInuse key = 0 :=
  ⟨if_pos up, if_pos up⟩

theorem scan_pressed (down : button key = 1) : (l.scan button button).keyUpdown key = 1 := by
  unfold scan
  dsimp only
  rw [down, if_neg one_ne_zero, if_pos rfl]

/-- A level other than 0 and 1 is not taken over. -/
theorem scan_keyUpdown_keep (up : button key ≠ 0) (down : button key ≠ 1) :
    (l.scan button button).keyUpdown key = l.keyUpdown key := by
  unfold scan
  dsimp only
  rw [if_neg up, if_neg down]

theorem scan_keyInuse_keep (up : button key ≠ 0) :
    (l.scan button button).keyInuse key = l.keyInuse key :=
  if_neg up

theorem pressed_of_scan (down : (l.scan button button).keyUpdown key = 1) : button key ≠ 0 := by
  intro up
  rw [(scan_released up).1] at down
  exact zero_ne_one down

/-- The key of the branch taken is not read as 0. -/
theorem pressed_of_picks {b : Binding} (picked : l.picks button = some b) : button b.key ≠ 0 :=
  pressed_of_scan (enabled_of_chosen picked).2.1

end Scan

/-- Two latches that enable the same bindings take the same branch. -/
theorem chosen_congr {first second : Latch}
    (same : ∀ b : Binding, b.Enabled first ↔ b.Enabled second) : first.chosen = second.chosen := by
  unfold chosen
  refine congrArg Binding.order.find? (funext fun b => ?_)
  exact decide_eq_decide.mpr (same b)

/-- The eleven conditions as both sources write them. -/
theorem chosen_branches {Result : Type} (l : Latch) (result : Option Binding → Result) :
    result l.chosen =
      if l.keyUpdown key2 = 0 ∧ l.keyUpdown key5 = 1 ∧ l.keyInuse key5 = 0 then
        result (some .startteach)
      else if l.keyUpdown key6 = 1 ∧ l.keyUpdown key2 = 0 ∧ l.keyInuse key6 = 0 ∧
          l.keyUpdown key1 = 0 then
        result (some .swing)
      else if l.keyUpdown key7 = 1 ∧ l.keyUpdown key2 = 0 ∧ l.keyInuse key7 = 0 ∧
          l.keyUpdown key1 = 0 then
        result (some .shake)
      else if l.keyUpdown key8 = 1 ∧ l.keyUpdown key2 = 0 ∧ l.keyInuse key8 = 0 ∧
          l.keyUpdown key1 = 0 then
        result (some .cheer)
      else if l.keyUpdown key9 = 1 ∧ l.keyInuse key9 = 0 then result (some .start)
      else if l.keyUpdown key10 = 1 ∧ l.keyInuse key10 = 0 then result (some .switch)
      else if l.keyUpdown key2 = 1 ∧ l.keyUpdown key5 = 1 ∧ l.keyInuse key5 = 0 then
        result (some .walk)
      else if l.keyUpdown key1 = 1 ∧ l.keyUpdown key6 = 1 ∧ l.keyInuse key6 = 0 then
        result (some .saveteach)
      else if l.keyUpdown key1 = 1 ∧ l.keyUpdown key7 = 1 ∧ l.keyInuse key7 = 0 then
        result (some .endteach)
      else if l.keyUpdown key1 = 1 ∧ l.keyUpdown key8 = 1 ∧ l.keyInuse key8 = 0 then
        result (some .playteach)
      else if l.keyUpdown key2 = 1 ∧ l.keyUpdown key6 = 1 then result (some .run)
      else result none := by
  have unroll (b : Binding) (rest : List Binding) :
      (b :: rest).find? (fun b => decide (b.Enabled l)) =
        if b.Enabled l then some b else rest.find? fun b => decide (b.Enabled l) := by
    rw [List.find?_cons]
    by_cases enabled : b.Enabled l <;> simp [enabled]
  unfold chosen Binding.order
  simp only [unroll, List.find?_nil, apply_ite result]
  refine if_congr ?_ rfl (if_congr ?_ rfl (if_congr ?_ rfl (if_congr ?_ rfl (if_congr ?_ rfl
    (if_congr ?_ rfl (if_congr ?_ rfl (if_congr ?_ rfl (if_congr ?_ rfl (if_congr ?_ rfl
    (if_congr ?_ rfl rfl))))))))))
  all_goals
    simp only [Binding.Enabled, Binding.Modified, Binding.key, reduceCtorEq, false_or, true_or,
      true_and, and_true, and_assoc]
  -- what is left differs in the order of the conjuncts
  all_goals tauto

end Latch

/-! ## Both loops run this decoder -/

variable {K : Type}

theorem chain_eq (l : Locals) :
    chain l =
      (actionOf l.chosen, { l with toLatch := l.mark l.chosen
                                   fileindex := recount l.chosen l.fileindex }) :=
  (l.chosen_branches fun taken =>
    (actionOf taken, ({ l with toLatch := l.mark taken
                               fileindex := recount taken l.fileindex } : Locals))).symm

theorem next_toLatch (l : Locals) (snapshot : Joydata K) :
    (next l snapshot).toLatch = l.advance snapshot.button := by
  unfold next iteration
  rw [chain_eq]
  rfl

theorem next_fileindex (l : Locals) (snapshot : Joydata K) :
    (next l snapshot).fileindex = recount (l.picks snapshot.button) l.fileindex := by
  unfold next iteration
  rw [chain_eq]
  rfl

theorem publishes_eq (l : Locals) (snapshot : Joydata K) :
    publishes l snapshot =
      ⟨snapshot.axes 1, snapshot.axes 0, actionOf (l.picks snapshot.button),
        (next l snapshot).fileindex.setWidth 16⟩ := by
  unfold publishes next iteration
  rw [chain_eq]
  rfl

namespace Script

theorem chain_eq (g : Globals) :
    chain g =
      (actionOf g.chosen, { g with toLatch := g.mark g.chosen
                                   fileindex := recount g.chosen g.fileindex }) :=
  (g.chosen_branches fun taken =>
    (actionOf taken, ({ g with toLatch := g.mark taken
                               fileindex := recount taken g.fileindex } : Globals))).symm

theorem next_toLatch (g : Globals) (snapshot : Joydata K) :
    (next g snapshot).toLatch = g.advance snapshot.button := by
  unfold next
  rw [chain_eq]
  rfl

theorem next_fileindex (g : Globals) (snapshot : Joydata K) :
    (next g snapshot).fileindex = recount (g.picks snapshot.button) g.fileindex := by
  unfold next
  rw [chain_eq]
  rfl

theorem publishes_eq (caster : IndexCaster) (g : Globals) (snapshot : Joydata K) :
    publishes caster g snapshot =
      (caster.cast (next g snapshot).fileindex).map fun index =>
        ⟨snapshot.axes 1, snapshot.axes 0, actionOf (g.picks snapshot.button), index⟩ := by
  unfold publishes next
  rw [chain_eq]
  rfl

end Script

end NoetixE1.High
