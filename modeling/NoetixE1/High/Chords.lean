import NoetixE1.High.Bindings
import NoetixE1.Library.SharedCell

/-!
# Key chords and deliveries

The status callback of `example_high.cpp` replaces `remote_data` while the loop reads it
element by element.  An iteration then decodes the chord that its accesses put together,
which need not be the chord of any status.
-/

namespace NoetixE1.High

open Low SharedCell

variable {K : Type}

/-- The accesses of one iteration to `remote_data`. -/
inductive Access where
  | first (key : Fin 14)
  | second (key : Fin 14)
  | axes1
  | axes0

/-- The order in which the loop makes them. -/
def Access.rank : Access → ℕ
  | .first key => 2 * key.val
  | .second key => 2 * key.val + 1
  | .axes1 => 28
  | .axes0 => 29

instance : Preorder Access := Preorder.lift Access.rank

/-- The values an iteration reads in an interleaving with deliveries. -/
def accessesOf (w : Interleaving (Joydata K) Access) : Accesses K where
  first key := (w.seen (.first key)).button key
  second key := (w.seen (.second key)).button key
  axes1 := (w.seen .axes1).axes 1
  axes0 := (w.seen .axes0).axes 0

/-- The iteration publishes the action and leaves the locals that it would have done
reading one of the snapshots held meanwhile throughout. -/
def DecodesOne (w : Interleaving (Joydata K) Access) (l : Locals) : Prop :=
  ∃ n, w.Held n ∧
    (iteration (accessesOf w) l).1.action =
      (iteration (Accesses.whole (w.content n)) l).1.action ∧
    (iteration (accessesOf w) l).2 = (iteration (Accesses.whole (w.content n)) l).2

/-- To the scan loop, two accesses to a button look like one button level: both 0, both 1,
or both neither. -/
def Agrees (first second level : Int) : Prop :=
  (first = 0 ↔ level = 0) ∧ (first ≠ 0 ∧ second = 1 ↔ level = 1)

theorem agrees_self (level : Int) : Agrees level level level :=
  ⟨Iff.rfl, and_iff_right_of_imp fun down => down ▸ by decide⟩

/-- An iteration leaves the levels it has scanned. -/
theorem iteration_keyUpdown (accesses : Accesses K) (l : Locals) :
    (iteration accesses l).2.keyUpdown =
      (l.scan accesses.first accesses.second).keyUpdown := by
  unfold iteration
  rw [chain_eq]
  exact Latch.mark_keyUpdown _ _

theorem scan_eq_of_agrees {first second level : Fin 14 → Int}
    (agree : ∀ key, Agrees (first key) (second key) (level key)) (l : Latch) :
    l.scan first second = l.scan level level := by
  have up : (l.scan first second).keyUpdown = (l.scan level level).keyUpdown := by
    funext key
    change ite _ _ (ite _ _ _) = ite _ _ (ite _ _ _)
    obtain ⟨zero, one⟩ := agree key
    by_cases released : first key = 0
    · rw [if_pos released, if_pos (zero.mp released)]
    · rw [if_neg released, if_neg (fun yes => released (zero.mpr yes))]
      exact if_congr ((and_iff_right released).symm.trans one) rfl rfl
  have use : (l.scan first second).keyInuse = (l.scan level level).keyInuse :=
    funext fun key => if_congr (agree key).1 rfl rfl
  calc l.scan first second = ⟨(l.scan first second).keyUpdown, (l.scan first second).keyInuse⟩ := rfl
    _ = l.scan level level := by rw [up, use]

/-- A level other than 0 and 1 shows what the scan has read. -/
theorem agrees_of_scan {first second level : Int}
    (same : (if first = 0 then 0 else if second = 1 then 1 else 7) =
      (if level = 0 then 0 else if level = 1 then (1 : Int) else 7)) :
    Agrees first second level := by
  unfold Agrees
  split_ifs at same <;> omega

/--
Whatever the latches, an iteration decodes one of the snapshots held during it exactly
when one of them agrees with the two accesses to every button.  It does if no delivery
falls between the accesses.
-/
theorem chord_of_one_snapshot (w : Interleaving (Joydata K) Access) :
    ((∀ l, DecodesOne w l) ↔
      ∃ n, w.Held n ∧ ∀ key, Agrees ((accessesOf w).first key) ((accessesOf w).second key)
        ((w.content n).button key)) ∧
    (Quiet w.before → ∀ l, DecodesOne w l) := by
  have decodes {n : ℕ} (held : w.Held n)
      (agree : ∀ key, Agrees ((accessesOf w).first key) ((accessesOf w).second key)
        ((w.content n).button key)) (l : Locals) : DecodesOne w l := by
    have scanned : scan (accessesOf w) l = scan (Accesses.whole (w.content n)) l :=
      congrArg (fun latch => ({ l with toLatch := latch } : Locals))
        (scan_eq_of_agrees agree l.toLatch)
    refine ⟨n, held, ?_, ?_⟩
    · exact congrArg (fun scanned => (chain scanned).1) scanned
    · exact congrArg (fun scanned => (chain scanned).2) scanned
  refine ⟨⟨fun every => ?_, fun ⟨n, held, agree⟩ => decodes held agree⟩, fun quiet => ?_⟩
  · obtain ⟨n, held, _, left⟩ := every ⟨⟨fun _ => 7, fun _ => 0⟩, 0⟩
    refine ⟨n, held, fun key => agrees_of_scan ?_⟩
    have levels := congrArg (fun l : Locals => l.keyUpdown key) left
    rw [iteration_keyUpdown, iteration_keyUpdown] at levels
    exact levels
  · refine decodes (w.held_before .axes1) fun key => ?_
    change Agrees ((w.seen _).button key) ((w.seen _).button key) _
    rw [w.seen_of_quiet quiet _ .axes1, w.seen_of_quiet quiet _ .axes1]
    exact agrees_self _

/-- A status that presses keys 2 and 5 together arrives after key 2 has been scanned. -/
def lateChord : Interleaving (Joydata ℤ) Access where
  content n := if n = 0 then keys [] else keys [2, 5]
  before :=
    { toFun := fun access => if access.rank < 6 then 0 else 1
      monotone' := by
        intro first second ordered
        change first.rank ≤ second.rank at ordered
        change ite _ _ _ ≤ ite _ _ _
        split_ifs <;> omega }

/-- The iteration publishes `STARTTEACH`, which neither status asks for. -/
theorem chord_of_two_snapshots :
    (iteration (accessesOf lateChord) (.cleared 0)).1.action = .startteach ∧
      ¬ DecodesOne lateChord (.cleared 0) := by
  refine ⟨by decide, ?_⟩
  rintro ⟨n, _, action, _⟩
  cases n with
  | zero => exact absurd action (by decide)
  | succ n => exact absurd (action.trans (by rfl : _ = ControlCmd.walk)) (by decide)

end NoetixE1.High
