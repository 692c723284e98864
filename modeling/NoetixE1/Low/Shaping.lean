import Mathlib.Tactic.Linarith
import NoetixE1.Low.Policy
import NoetixE1.Low.WalkConfig

/-!
# Shaping of the velocity command

The seven rules of `computeObservation` leave every component at zero or at least at the
threshold 0.3, keep turning out of backward walking, and let a sideways command above the
threshold exclude the two others.  The rule that zeroes small components and the rules
that compare with the threshold both leave a component of exactly 0.3 alone.
-/

namespace NoetixE1.Low

variable {K : Type} [Field K] [LinearOrder K]

/-! ## The rules in three steps -/

/-- The rules that zero a component below the threshold. -/
def threshold (component : K) : K := if |component| < 0.3 then 0 else component

/-- No turning while walking backwards. -/
def turning (x z : K) : K := if x < 0 then 0 else z

/-- The rules on exclusion and the limit of `x`, for components above the threshold. -/
def exclude (x y z : K) : Fin 3 → K :=
  if |y| > 0.3 then ![0, y, 0]
  else ![if x < -1 then -1 else x, if |x| > 0.3 ∧ |z| > 0.3 then 0 else y, z]

/-- A command that the rules leave alone. -/
structure Shaped (command : Fin 3 → K) : Prop where
  zero_or_large : ∀ i, command i = 0 ∨ 0.3 ≤ |command i|
  backward_le : -1 ≤ command 0
  straight_back : command 0 < 0 → command 2 = 0
  sideways_alone : command 1 ≠ 0 → |command 1| ≠ 0.3 → command 0 = 0 ∧ command 2 = 0
  turn_excludes : 0.3 < |command 0| → 0.3 < |command 2| → command 1 = 0

theorem threshold_zero_or_large (component : K) :
    threshold component = 0 ∨ 0.3 ≤ |threshold component| := by
  unfold threshold
  split_ifs with below
  · exact Or.inl rfl
  · exact Or.inr (not_lt.mp below)

theorem threshold_of_large {component : K} (large : component = 0 ∨ 0.3 ≤ |component|) :
    threshold component = component := by
  unfold threshold
  split_ifs with below
  · rcases large with zero | above
    · exact zero.symm
    · exact absurd below above.not_gt
  · rfl

theorem turning_zero_or_large {x z : K} (large : z = 0 ∨ 0.3 ≤ |z|) :
    turning x z = 0 ∨ 0.3 ≤ |turning x z| := by
  unfold turning
  split_ifs
  · exact Or.inl rfl
  · exact large

variable [IsStrictOrderedRing K]

theorem threshold_pos : (0 : K) < 0.3 := by
  norm_num

theorem not_large_zero : ¬ (0.3 : K) < |(0 : K)| := by
  rw [abs_zero]
  exact threshold_pos.le.not_gt

theorem shapeCommand_eq (P : Program K) (command : Fin 3 → K) :
    shapeCommand P command =
      exclude (threshold (command 0 * P.scalex)) (threshold (command 1 * P.scaley))
        (turning (threshold (command 0 * P.scalex)) (threshold (command 2 * P.scalez))) := by
  have small : ¬ |(0 : K)| > 0.3 := not_large_zero
  have still : ¬ (0 : K) < -1 := neg_one_lt_zero.not_gt
  unfold shapeCommand exclude
  dsimp only
  rw [← threshold, ← threshold, ← threshold, ← turning]
  by_cases sideways : |threshold (command 1 * P.scaley)| > 0.3
  · simp only [if_pos sideways, small, still, false_and, if_false]
  · simp only [if_neg sideways]

/-! ## Shaped commands -/

theorem sideways_shaped {y : K} (large : y = 0 ∨ 0.3 ≤ |y|) : Shaped ![0, y, 0] where
  zero_or_large i := by
    fin_cases i
    · exact Or.inl rfl
    · exact large
    · exact Or.inl rfl
  backward_le := neg_one_lt_zero.le
  straight_back _ := rfl
  sideways_alone _ _ := ⟨rfl, rfl⟩
  turn_excludes _ turn := absurd turn not_large_zero

/-- Without a sideways component above the threshold the two others are kept. -/
theorem forward_shaped {x y z : K} (xLarge : x = 0 ∨ 0.3 ≤ |x|) (yLarge : y = 0 ∨ 0.3 ≤ |y|)
    (zLarge : z = 0 ∨ 0.3 ≤ |z|) (straight : x < 0 → z = 0) (slow : ¬ |y| > 0.3) :
    Shaped ![if x < -1 then -1 else x, if |x| > 0.3 ∧ |z| > 0.3 then 0 else y, z] where
  zero_or_large i := by
    fin_cases i
    · change ite _ _ _ = 0 ∨ 0.3 ≤ |ite _ _ _|
      split_ifs with fast
      · right
        rw [abs_neg, abs_one]
        norm_num
      · exact xLarge
    · change ite _ _ _ = 0 ∨ 0.3 ≤ |ite _ _ _|
      split_ifs
      · exact Or.inl rfl
      · exact yLarge
    · exact zLarge
  backward_le := by
    change -1 ≤ ite _ _ _
    split_ifs with fast
    · exact le_refl _
    · exact not_lt.mp fast
  straight_back := by
    intro back
    change ite _ _ _ < (0 : K) at back
    split_ifs at back with fast
    · exact straight (fast.trans neg_one_lt_zero)
    · exact straight back
  sideways_alone := by
    intro nonzero apart
    change ite _ _ _ ≠ (0 : K) at nonzero
    change |ite _ _ _| ≠ (0.3 : K) at apart
    split_ifs at nonzero apart
    · exact absurd rfl nonzero
    · have above : 0.3 < |y| := lt_of_le_of_ne (yLarge.resolve_left nonzero) apart.symm
      exact absurd above slow
  turn_excludes := by
    intro fast turn
    change 0.3 < |ite _ _ _| at fast
    change 0.3 < |z| at turn
    split_ifs at fast with limited
    · rw [straight (limited.trans neg_one_lt_zero)] at turn
      exact absurd turn not_large_zero
    · exact if_pos ⟨fast, turn⟩

theorem exclude_shaped {x y z : K} (xLarge : x = 0 ∨ 0.3 ≤ |x|) (yLarge : y = 0 ∨ 0.3 ≤ |y|)
    (zLarge : z = 0 ∨ 0.3 ≤ |z|) (straight : x < 0 → z = 0) : Shaped (exclude x y z) := by
  unfold exclude
  by_cases sideways : |y| > 0.3
  · rw [if_pos sideways]
    exact sideways_shaped yLarge
  · rw [if_neg sideways]
    exact forward_shaped xLarge yLarge zLarge straight sideways

theorem shapeCommand_shaped (P : Program K) (command : Fin 3 → K) :
    Shaped (shapeCommand P command) := by
  rw [shapeCommand_eq]
  exact exclude_shaped (threshold_zero_or_large _) (threshold_zero_or_large _)
    (turning_zero_or_large (threshold_zero_or_large _)) fun back => if_pos back

namespace Shaped

variable {command : Fin 3 → K}

omit [IsStrictOrderedRing K] in
theorem turning_fixed (shaped : Shaped command) :
    turning (command 0) (command 2) = command 2 := by
  unfold turning
  split_ifs with back
  · exact (shaped.straight_back back).symm
  · rfl

theorem exclude_fixed (shaped : Shaped command) :
    exclude (command 0) (command 1) (command 2) = command := by
  unfold exclude
  funext i
  by_cases sideways : |command 1| > 0.3
  · rw [if_pos sideways]
    have nonzero : command 1 ≠ 0 := abs_pos.mp (threshold_pos.trans sideways)
    obtain ⟨still, ahead⟩ := shaped.sideways_alone nonzero sideways.ne'
    fin_cases i
    · exact still.symm
    · rfl
    · exact ahead.symm
  · rw [if_neg sideways]
    fin_cases i
    · exact if_neg shaped.backward_le.not_gt
    · change ite _ _ _ = command 1
      split_ifs with both
      · exact (shaped.turn_excludes both.1 both.2).symm
      · rfl
    · rfl

/-- With unit scales the rules leave a shaped command alone. -/
theorem fixed (shaped : Shaped command) {P : Program K}
    (unit : P.scalex = 1 ∧ P.scaley = 1 ∧ P.scalez = 1) : shapeCommand P command = command := by
  rw [shapeCommand_eq, unit.1, unit.2.1, unit.2.2, mul_one, mul_one, mul_one,
    threshold_of_large (shaped.zero_or_large 0), threshold_of_large (shaped.zero_or_large 1),
    threshold_of_large (shaped.zero_or_large 2), shaped.turning_fixed]
  exact shaped.exclude_fixed

end Shaped

/--
For every command and all scales the observation gets a shaped command, and with unit
scales shaping leaves it unchanged.
-/
theorem shapeCommand_admissible (P unscaled : Program K) (command : Fin 3 → K)
    (unit : unscaled.scalex = 1 ∧ unscaled.scaley = 1 ∧ unscaled.scalez = 1) :
    Shaped (shapeCommand P command) ∧
      shapeCommand unscaled (shapeCommand P command) = shapeCommand P command :=
  ⟨shapeCommand_shaped P command, (shapeCommand_shaped P command).fixed unit⟩

/-- The walking program with unit scales. -/
def unscaledProgram : Program ℚ :=
  { levelProgram jointNames.symm with scalex := 1, scaley := 1, scalez := 1 }

/-- A fast diagonal command keeps its sideways part only. -/
theorem shapeCommand_admissible_diagonal :
    Shaped (shapeCommand unscaledProgram ![0.5, 0.6, 1]) ∧
      shapeCommand unscaledProgram (shapeCommand unscaledProgram ![0.5, 0.6, 1]) =
        shapeCommand unscaledProgram ![0.5, 0.6, 1] :=
  shapeCommand_admissible unscaledProgram unscaledProgram _ ⟨rfl, rfl, rfl⟩

/-- A sideways command of exactly the threshold is neither zeroed nor exclusive. -/
theorem sideways_at_threshold :
    ¬ ∀ command, shapeCommand unscaledProgram command 1 ≠ 0 →
      shapeCommand unscaledProgram command 0 = 0 ∧ shapeCommand unscaledProgram command 2 = 0 := by
  intro excludes
  have forward : shapeCommand unscaledProgram ![0.5, 0.3, 0] = ![0.5, 0.3, 0] := by
    decide +kernel
  have sideways : shapeCommand unscaledProgram ![0.5, 0.3, 0] 1 ≠ 0 := by
    decide +kernel
  have still := (excludes _ sideways).1
  rw [forward] at still
  revert still
  decide +kernel

end NoetixE1.Low
