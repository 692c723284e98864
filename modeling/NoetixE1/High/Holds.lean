import Mathlib.Algebra.Order.Ring.Int
import Mathlib.Data.List.Perm.Subperm
import NoetixE1.High.Bindings

/-!
# Steady holds

While one snapshot is read again and again, the decoder is a priority server: the
bindings the snapshot enables wait until their key is marked, and every iteration
publishes the first that waits.  No two of them share a key, so at most six wait.
-/

namespace NoetixE1.High

open Low Machine Priority

variable {K : Type}

/-- Every button reads 0 or 1. -/
def Binary (button : Fin 14 → Int) : Prop := ∀ key, button key = 0 ∨ button key = 1

/-- The buttons enable a binding other than `RUN` whose key is not in use. -/
def Waits (button : Fin 14 → Int) (l : Latch) (b : Binding) : Prop :=
  b ≠ .run ∧ b.Modified button ∧ button b.key = 1 ∧ l.keyInuse b.key = 0

instance (button : Fin 14 → Int) (l : Latch) (b : Binding) : Decidable (Waits button l b) :=
  inferInstanceAs (Decidable (_ ∧ _ ∧ _ ∧ _))

/-- The bindings that wait, in the order of the chain. -/
def pending (button : Fin 14 → Int) (l : Latch) : List Binding :=
  Binding.order.filter fun b => decide (Waits button l b)

/-- What is published while nothing waits. -/
def resting (button : Fin 14 → Int) : ControlCmd :=
  if button key2 = 1 ∧ button key6 = 1 then .run else .default

/-- The actions published in a run. -/
def actions (l : Locals) (snapshots : List (Joydata K)) : List ControlCmd :=
  (published l snapshots).map PublishedCmd.action

/-! ## Bindings of one snapshot -/

theorem pending_nodup (button : Fin 14 → Int) (l : Latch) : (pending button l).Nodup :=
  Binding.order_nodup.filter _

theorem mem_pending {button : Fin 14 → Int} {l : Latch} {b : Binding} :
    b ∈ pending button l ↔ Waits button l b := by
  unfold pending
  rw [List.mem_filter, and_iff_right b.mem_order, decide_eq_true_iff]

/-- The waiting bindings have different keys among six. -/
theorem pending_length (button : Fin 14 → Int) (l : Latch) : (pending button l).length ≤ 6 := by
  have distinct : ((pending button l).map Binding.key).Nodup := by
    refine (pending_nodup button l).map_on fun first member second other same => ?_
    obtain ⟨firstOther, firstModified, _⟩ := mem_pending.mp member
    obtain ⟨secondOther, secondModified, _⟩ := mem_pending.mp other
    exact Binding.eq_of_key_eq firstOther secondOther firstModified secondModified same
  have among : (pending button l).map Binding.key ⊆ [key5, key6, key7, key8, key9, key10] := by
    intro key member
    obtain ⟨b, _, rfl⟩ := List.mem_map.mp member
    cases b <;> decide
  have short := (List.subperm_of_subset distinct among).length_le
  rwa [List.length_map] at short

/-! ## Scanning the snapshot again -/

theorem scan_keyUpdown {button : Fin 14 → Int} (binary : Binary button) (l : Latch) :
    (l.scan button button).keyUpdown = button := by
  funext key
  rcases binary key with up | down
  · rw [(Latch.scan_released up).1, up]
  · rw [Latch.scan_pressed down, down]

theorem enabled_scan_iff {button : Fin 14 → Int} (binary : Binary button) (l : Latch)
    {b : Binding} (other : b ≠ .run) :
    b.Enabled (l.scan button button) ↔ Waits button l b := by
  unfold Binding.Enabled Waits
  rw [scan_keyUpdown binary, and_iff_right other, or_iff_right other]
  refine and_congr_right fun _ => and_congr_right fun down => ?_
  have up : button b.key ≠ 0 := fun up => zero_ne_one (up.symm.trans down)
  rw [Latch.scan_keyInuse_keep up]

theorem enabled_run_iff {button : Fin 14 → Int} (binary : Binary button) (l : Latch) :
    Binding.run.Enabled (l.scan button button) ↔ button key2 = 1 ∧ button key6 = 1 := by
  unfold Binding.Enabled
  rw [scan_keyUpdown binary]
  exact and_congr_right fun _ => and_iff_left (Or.inl rfl)

/-- The iteration takes the first waiting branch, and `RUN` only if none waits. -/
theorem picks_eq {button : Fin 14 → Int} (binary : Binary button) (l : Latch) :
    l.picks button =
      match Binding.order.find? (fun b => decide (Waits button l b)) with
      | some b => some b
      | none => if button key2 = 1 ∧ button key6 = 1 then some .run else none := by
  cases found : Binding.order.find? (fun b => decide (Waits button l b)) with
  | some b =>
      obtain ⟨_, waits, first⟩ := find?_eq_some_iff.mp found
      have waiting : Waits button l b := of_decide_eq_true waits
      refine Latch.chosen_eq_some_iff.mpr
        ⟨(enabled_scan_iff binary l waiting.1).mpr waiting, fun earlier before enabled => ?_⟩
      have other : earlier ≠ .run := by
        rintro rfl
        exact b.not_before_of_run before
      exact of_decide_eq_false (first earlier earlier.mem_order before)
        ((enabled_scan_iff binary l other).mp enabled)
  | none =>
      have idle (b : Binding) (other : b ≠ .run) : ¬ b.Enabled (l.scan button button) := by
        rw [enabled_scan_iff binary l other]
        exact fun waits => List.find?_eq_none.mp found b b.mem_order (decide_eq_true waits)
      have runs := enabled_run_iff binary l
      by_cases held : button key2 = 1 ∧ button key6 = 1
      · rw [if_pos held]
        refine Latch.chosen_eq_some_iff.mpr ⟨runs.mpr held, fun earlier before => idle earlier ?_⟩
        rintro rfl
        exact Binding.not_before_of_run _ before
      · rw [if_neg held]
        refine Latch.chosen_eq_none_iff.mpr fun b enabled => ?_
        by_cases run : b = .run
        · subst run
          exact held (runs.mp enabled)
        · exact idle b run enabled

/-- After an iteration a binding waits if it waited before and its key was not marked. -/
theorem waits_advance_iff {button : Fin 14 → Int} (l : Latch) (b : Binding) :
    Waits button (l.advance button) b ↔
      Waits button l b ∧ ∀ taken, l.picks button = some taken → b.key ≠ taken.key := by
  unfold Waits
  rw [and_assoc, and_assoc, and_assoc]
  refine and_congr_right fun _ => and_congr_right fun _ => and_congr_right fun down => ?_
  have up : button b.key ≠ 0 := fun up => zero_ne_one (up.symm.trans down)
  rw [Latch.advance, Latch.mark_fresh_iff, Latch.scan_keyInuse_keep up]
  exact and_comm

/-- Reading the snapshot again serves exactly the binding published. -/
theorem hold_serves {button : Fin 14 → Int} (binary : Binary button) :
    Serves Binding.order (fun l b => decide (Waits button l b)) (Latch.advance button)
      fun _ => True where
  keeps _ _ := True.intro
  removes l _ b _ := by
    rw [Bool.eq_iff_iff, Bool.and_eq_true, decide_eq_true_iff, decide_eq_true_iff,
      decide_eq_true_iff, waits_advance_iff]
    refine and_congr_right fun waits => ?_
    have picked := picks_eq binary l
    constructor
    · intro unmarked found
      rw [found] at picked
      exact unmarked b picked rfl
    · intro other taken taking same
      cases found : Binding.order.find? (fun b => decide (Waits button l b)) with
      | none =>
          exact List.find?_eq_none.mp found b b.mem_order (decide_eq_true waits)
      | some first =>
          rw [found] at picked other
          obtain rfl := Option.some.inj (picked.symm.trans taking)
          have waiting : Waits button l first := of_decide_eq_true (find?_eq_some_iff.mp found).2.1
          exact other (congrArg some
            (Binding.eq_of_key_eq waits.1 waiting.1 waits.2.1 waiting.2.1 same).symm)

/-! ## The published actions -/

theorem actions_replicate {snapshot : Joydata K} (binary : Binary snapshot.button) (steps : ℕ)
    (l : Locals) :
    actions l (List.replicate steps snapshot) =
      (served Binding.order (fun l b => decide (Waits snapshot.button l b))
        (Latch.advance snapshot.button) l.toLatch steps).map fun item =>
          item.elim (resting snapshot.button) Binding.action := by
  induction steps generalizing l with
  | zero => rfl
  | succ steps ih =>
      rw [List.replicate_succ]
      change (publishes l snapshot).action :: actions (next l snapshot) _ = _
      rw [ih, next_toLatch, publishes_eq, served, List.map_cons, picks_eq binary]
      congr 1
      cases Binding.order.find? (fun b => decide (Waits snapshot.button l.toLatch b)) with
      | some b => rfl
      | none => exact apply_ite actionOf _ _ _

theorem resting_ne_action (button : Fin 14 → Int) {b : Binding} (other : b ≠ .run) :
    resting button ≠ b.action := by
  unfold resting
  split
  · intro same
    have runs : Binding.run.action = b.action := same
    exact other (Binding.action_injective runs).symm
  · exact b.action_ne_default.symm

/--
A snapshot with buttons in {0, 1} that is read in at least six consecutive iterations:
the waiting bindings are published first, in the order of the chain and each exactly
once, and then only `RUN` (keys 2 and 6 held) or `DEFAULT`.
-/
theorem steady_hold (l : Locals) (snapshot : Joydata K) (binary : Binary snapshot.button)
    {steps : ℕ} (six : 6 ≤ steps) :
    (pending snapshot.button l.toLatch).length ≤ 6 ∧
      actions l (List.replicate steps snapshot) =
        (pending snapshot.button l.toLatch).map Binding.action ++
          List.replicate (steps - (pending snapshot.button l.toLatch).length)
            (resting snapshot.button) ∧
      ∀ b, Waits snapshot.button l.toLatch b →
        (actions l (List.replicate steps snapshot)).count b.action = 1 := by
  have short := pending_length snapshot.button l.toLatch
  have decoded : actions l (List.replicate steps snapshot) =
      (pending snapshot.button l.toLatch).map Binding.action ++
        List.replicate (steps - (pending snapshot.button l.toLatch).length)
          (resting snapshot.button) := by
    rw [actions_replicate binary, (hold_serves binary).served_eq Binding.order_nodup True.intro
      (short.trans six), List.map_append, List.map_map, List.map_replicate]
    rfl
  refine ⟨short, decoded, fun b waits => ?_⟩
  have once := (pending_nodup snapshot.button l.toLatch).map Binding.action_injective
  rw [decoded, List.count_append, List.count_replicate,
    if_neg fun same => resting_ne_action snapshot.button waits.1 (eq_of_beq same)]
  exact List.count_eq_one_of_mem once (List.mem_map_of_mem (mem_pending.mpr waits))

theorem keys_binary (pressed : List (Fin 14)) : Binary (keys pressed).button := by
  intro key
  by_cases member : pressed.contains key
  · exact Or.inr (if_pos member)
  · exact Or.inl (if_neg member)

/-- Keys 2, 5, 6 and 9 held with nothing in use: `START`, `WALK`, then `RUN`. -/
theorem steady_hold_four :
    actions (.cleared 0) (List.replicate 6 (keys [2, 5, 6, 9])) =
      [.start, .walk, .run, .run, .run, .run] :=
  (steady_hold (.cleared 0) (keys [2, 5, 6, 9]) (keys_binary [2, 5, 6, 9])
    (Nat.le_refl 6)).2.1.trans (by decide)

end NoetixE1.High
