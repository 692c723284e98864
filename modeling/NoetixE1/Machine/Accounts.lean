import Mathlib.Algebra.BigOperators.Group.Finset.Piecewise
import Mathlib.Algebra.Order.BigOperators.Group.Finset
import NoetixE1.Machine.Runs

/-!
# Accounts over runs

How often something happens in a run, bounded by how often something else does.  Every
tick that counts draws from a potential, and only ticks that are charged refill it.
-/

namespace NoetixE1.Machine

variable {State Input : Type*} {step : State → Input → State}

theorem tally_eq_zero_iff {counts : State → Input → Prop}
    [∀ state input, Decidable (counts state input)] {state : State} {inputs : List Input} :
    tally step counts state inputs = 0 ↔
      Along step (fun state input => ¬ counts state input) state inputs := by
  induction inputs generalizing state with
  | nil => exact iff_of_true rfl True.intro
  | cons input rest ih =>
      rw [tally, Nat.add_eq_zero_iff, ih, along_cons, ite_eq_right_iff]
      exact and_congr_left fun _ => imp_congr_right fun _ => iff_of_false one_ne_zero id

/-- A watcher reads the same inputs.  If every tick pays for what it counts, out of the
potential and of what the watcher is charged, so does every run. -/
theorem tally_add_le {Watch : Type*} {watch : Watch → Input → Watch}
    {counts : State → Input → Prop} [∀ state input, Decidable (counts state input)]
    {charged : Watch → Input → Prop} [∀ watcher input, Decidable (charged watcher input)]
    (potential : State → Watch → ℕ)
    (pays : ∀ state watcher input,
      (if counts state input then 1 else 0) + potential (step state input) (watch watcher input) ≤
        potential state watcher + if charged watcher input then 1 else 0)
    (state : State) (watcher : Watch) (inputs : List Input) :
    tally step counts state inputs + potential (run step state inputs) (run watch watcher inputs) ≤
      potential state watcher + tally watch charged watcher inputs := by
  induction inputs generalizing state watcher with
  | nil => exact Nat.le_of_eq (Nat.add_comm _ _)
  | cons input rest ih =>
      have now := pays state watcher input
      have later := ih (step state input) (watch watcher input)
      rw [tally, tally, run_cons, run_cons]
      omega

/-- When every tick of a run counts for some label, the labels account for its length. -/
theorem length_le_sum_tally {Label : Type*} {counts : Label → State → Input → Prop}
    [∀ label state input, Decidable (counts label state input)] {labels : Finset Label}
    {state : State} {inputs : List Input}
    (every : Along step (fun state input => ∃ label ∈ labels, counts label state input)
      state inputs) :
    inputs.length ≤ ∑ label ∈ labels, tally step (counts label) state inputs := by
  induction inputs generalizing state with
  | nil => exact Nat.zero_le _
  | cons input rest ih =>
      obtain ⟨⟨label, member, counted⟩, later⟩ := every
      have now : 1 ≤ ∑ label ∈ labels, if counts label state input then 1 else 0 := by
        refine le_trans ?_ (Finset.single_le_sum (fun _ _ => Nat.zero_le _) member)
        rw [if_pos counted]
      simp only [tally]
      rw [Finset.sum_add_distrib, List.length_cons, Nat.add_comm]
      exact Nat.add_le_add now (ih later)

end NoetixE1.Machine
