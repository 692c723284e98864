import NoetixE1.Library.Contraction
import NoetixE1.Low.Envelope
import NoetixE1.Low.Stop

/-!
# The undriven joints settle

While the robot walks, the arm and waist joints are sent a small step from where they are
found towards their rest position.  Wherever the motors really take them, the commands
forget the posture in which walking began and follow the rest position.
-/

namespace NoetixE1.Low

open Contraction Interpolation Machine Scatter

variable {K : Type} [Field K] [LinearOrder K] {P : Program K}

/-- The tick is dispatched in walking mode. -/
def Walks (g : Globals P) (t : Tick P) : Prop := (buttons t g).mode = .usermode

instance (g : Globals P) (t : Tick P) : Decidable (Walks g t) := inferInstanceAs (Decidable (_ = _))

/-- Where arm-loop entry `i` is found in a tick. -/
def armFound (i : Fin 12) (t : Tick P) : K := ((t.reads.arm i).motorData (armIndex P i)).pos

/-- The positions that a stretch of ticks commands for arm-loop entry `i`. -/
def armCommands (i : Fin 12) (g : Globals P) (ticks : List (Tick P)) : List (Option K) :=
  (framesOf g ticks).map fun frame => (frame (armIndex P i)).pos

variable [IsStrictOrderedRing K]

theorem armCommands_of_walks {g : Globals P} (inv : Invariant g) {ticks : List (Tick P)}
    (walking : Along step Walks g ticks) (i : Fin 12) :
    armCommands i g ticks = ticks.map fun t => some (armSetpoint (armRest i) (armFound i t)) := by
  induction ticks generalizing g with
  | nil => rfl
  | cons t rest ih =>
      have sent := process_sent inv t
      have member : scatter (frameWrites t (buttons t g)) (frameStart (buttons t g)) ∈
          (process t g).sent := sent ▸ List.mem_singleton_self _
      have here := congrArg MotorCmd.pos (walk_arm inv walking.1 member i)
      have later := ih (inv.step t) walking.2
      unfold armCommands framesOf at later ⊢
      rw [emitted, List.map_append, later, sent, List.map_singleton, here]
      rfl

/-- The smoothing takes at least a fiftieth of the way. -/
theorem abs_sub_armSetpoint_le (pos curPos : K) :
    |pos - armSetpoint pos curPos| ≤ 0.98 * |pos - curPos| := by
  have nonneg := abs_nonneg (pos - curPos)
  rw [armSetpoint_eq_blend]
  split_ifs
  · rw [abs_target_sub_blend (by norm_num)]
    linarith
  · rw [abs_target_sub_blend (by norm_num)]
    linarith

/--
In any stretch of walking ticks after any run, the distance between the rest position and
the command of tick `n` is at most `0.98 ^ (n + 1)` of the distance at the beginning, plus
what the joint was carried off each earlier command, damped by 0.98 a tick since then;
if it is never carried off by more than `slip`, at most `49 * slip` remain of that.
-/
theorem arm_settles (history : Fin P.inputSize → K) (before ticks : List (Tick P))
    (walking : Along step Walks (after history before) ticks) (i : Fin 12) :
    ∃ found given : ℕ → K,
      ticks.map (armFound i) = (List.range ticks.length).map found ∧
      armCommands i (after history before) ticks =
        (List.range ticks.length).map (fun n => some (given n)) ∧
      ∀ n < ticks.length,
        |armRest i - given n| ≤ 0.98 ^ (n + 1) * |armRest i - found 0| +
          ∑ k ∈ Finset.range n, 0.98 ^ (n - k) * |found (k + 1) - given k| ∧
        ∀ slip, 0 ≤ slip → (∀ k < n, |found (k + 1) - given k| ≤ slip) →
          |armRest i - given n| ≤ 0.98 ^ (n + 1) * |armRest i - found 0| + 49 * slip := by
  have commanded := armCommands_of_walks (after_invariant history before) walking i
  let found (n : ℕ) : K := (ticks.map (armFound i)).getD n 0
  have listed : ticks.map (armFound i) = (List.range ticks.length).map found := by
    apply List.ext_getElem
    · simp
    · intro n within _
      simp [found, List.getElem?_eq_getElem (List.length_map (armFound i) ▸ within)]
  have pulls : Pulls 0.98 (armRest i) found fun n => armSetpoint (armRest i) (found n) :=
    fun n => abs_sub_armSetpoint_le (armRest i) (found n)
  refine ⟨found, fun n => armSetpoint (armRest i) (found n), listed, ?_, fun n _ => ⟨?_, ?_⟩⟩
  · have mapped := congrArg (List.map fun pos => some (armSetpoint (armRest i) pos)) listed
    rw [List.map_map, List.map_map] at mapped
    exact commanded.trans mapped
  · exact pulls.error_le (by norm_num) n
  · intro slip slips small
    have rates : (0.98 : K) / (1 - 0.98) = 49 := by norm_num
    rw [← rates]
    exact pulls.error_le_of_slip (by norm_num) (by norm_num) slips n small

/-- The waist while walking begins: found at 1, and in the next tick at 0. -/
theorem arm_settles_level :
    let before := [stillTick [9] 1, stillTick [10, 2] 1]
    let ticks := [stillTick [5, 2] 1, stillTick [] 0]
    ∃ found given : ℕ → ℚ, ticks.map (armFound 0) = (List.range 2).map found ∧
      armCommands 0 (levelAfter jointNames.symm before) ticks =
        (List.range 2).map (fun n => some (given n)) ∧
      ∀ n < 2, |armRest 0 - given n| ≤ 0.98 ^ (n + 1) * |armRest 0 - found 0| +
        ∑ k ∈ Finset.range n, 0.98 ^ (n - k) * |found (k + 1) - given k| := by
  intro before ticks
  obtain ⟨found, given, listed, commanded, near⟩ :=
    arm_settles (P := levelProgram jointNames.symm) (fun _ => 0) before ticks
      (by decide +kernel) 0
  exact ⟨found, given, listed, commanded, fun n within => (near n within).1⟩

end NoetixE1.Low
