import Mathlib.Order.Hom.Basic

/-!
# A cell that is replaced between reads

A writer replaces the content of a cell at any time while a reader, in one pass through
its program, accesses the cell at several places.  Replacing and accessing are atomic, so
an interleaving of the two says how many replacements come before each access.
-/

namespace NoetixE1.SharedCell

variable {Value Place : Type*} [Preorder Place]

/-- `content n` is in the cell after `n` replacements, `before p` of which come before
the access at place `p`.  Places are ordered as the reader passes them. -/
structure Interleaving (Value Place : Type*) [Preorder Place] where
  content : ℕ → Value
  before : Place →o ℕ

/-- No replacement falls between two of the accesses. -/
def Quiet (before : Place →o ℕ) : Prop := ∀ first second, before first = before second

/-- Without replacements between the first and the last access there are none at all. -/
theorem quiet_of_ends {before : Place →o ℕ} {first last : Place} (lower : ∀ place, first ≤ place)
    (upper : ∀ place, place ≤ last) (same : before last ≤ before first) : Quiet before := by
  have fixed (place : Place) : before place = before first :=
    le_antisymm ((before.monotone (upper place)).trans same) (before.monotone (lower place))
  intro one other
  rw [fixed one, fixed other]

namespace Interleaving

/-- The value an access returns. -/
def seen (w : Interleaving Value Place) (place : Place) : Value := w.content (w.before place)

/-- The `n`-th content is in the cell at some time between two accesses. -/
def Held (w : Interleaving Value Place) (n : ℕ) : Prop :=
  ∃ first last, w.before first ≤ n ∧ n ≤ w.before last

theorem held_before (w : Interleaving Value Place) (place : Place) : w.Held (w.before place) :=
  ⟨place, place, Nat.le_refl _, Nat.le_refl _⟩

/-- In a quiet interleaving every access returns the same value. -/
theorem seen_of_quiet {w : Interleaving Value Place} (quiet : Quiet w.before)
    (place other : Place) : w.seen place = w.content (w.before other) :=
  congrArg w.content (quiet place other)

end Interleaving

end NoetixE1.SharedCell
