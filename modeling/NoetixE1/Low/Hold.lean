import Mathlib.Algebra.Order.Floor.Div
import NoetixE1.Low.Cadence

/-!
# The policy loop of a whole run

Walking sessions come and go, but the policy is evaluated in one of every `decimation`
walking ticks of the run, and in between the legs are held at the last action.
-/

namespace NoetixE1.Low

open Machine

variable {K : Type} [Field K] [LinearOrder K] {P : Program K}

/--
The evaluations of a run, its walking ticks and the globals.  The counter is the number of
walking ticks since the last evaluation, the one of the evaluation included.
-/
structure PolicyLoop (evaluations : List (Tick P × Evaluation P)) (walked : ℕ)
    (g : Globals P) : Prop where
  unstarted : evaluations = [] → walked = 0 ∧ g.count = 0
  counted : evaluations ≠ [] → 1 ≤ g.count ∧ g.count ≤ P.decimation ∧
    walked + P.decimation = evaluations.length * P.decimation + g.count
  actions : ∀ made ∈ evaluations.getLast?, g.actions = made.2.action

namespace PolicyLoop

variable {evaluations : List (Tick P × Evaluation P)} {walked : ℕ} {g : Globals P}

omit [Field K] [LinearOrder K] in
/-- One evaluation in every period, the first one at its beginning. -/
theorem length_eq (loop : PolicyLoop evaluations walked g) (positive : 0 < P.decimation) :
    evaluations.length = walked ⌈/⌉ P.decimation := by
  rw [Nat.ceilDiv_eq_add_pred_div]
  by_cases none : evaluations = []
  · rw [(loop.unstarted none).1, none, Nat.zero_add]
    exact (Nat.div_eq_of_lt (Nat.sub_lt positive Nat.one_pos)).symm
  · obtain ⟨least, most, total⟩ := loop.counted none
    have whole : walked + P.decimation - 1 =
        g.count - 1 + P.decimation * evaluations.length := by
      rw [total, Nat.mul_comm]
      omega
    have rest : (g.count - 1) / P.decimation = 0 := Nat.div_eq_of_lt (by omega)
    rw [whole, Nat.add_mul_div_left _ _ positive, rest, Nat.zero_add]

omit [Field K] [LinearOrder K] in
/-- An evaluation is due at first, and then when a period is over. -/
theorem due_iff (loop : PolicyLoop evaluations walked g) (some : evaluations ≠ []) :
    Due g ↔ g.count = P.decimation := by
  obtain ⟨least, most, _⟩ := loop.counted some
  unfold Due
  constructor
  · intro whole
    by_contra apart
    rw [Nat.mod_eq_of_lt (by omega)] at whole
    omega
  · intro full
    rw [full, Nat.mod_self]

/-- A walking tick with an evaluation begins a period. -/
theorem evaluate (loop : PolicyLoop evaluations walked g) (positive : 0 < P.decimation)
    {t : Tick P} (tick : WalkTick t g) (due : Due g) :
    PolicyLoop (evaluations ++ [(t, evaluationAt t g)]) (walked + 1) (step g t) where
  unstarted none := absurd none (by simp)
  counted _ := by
    rw [tick.count, if_pos due, List.length_append, List.length_singleton, Nat.add_mul]
    refine ⟨Nat.le_refl 1, positive, ?_⟩
    by_cases none : evaluations = []
    · rw [(loop.unstarted none).1, none, List.length_nil]
      omega
    · have total := (loop.counted none).2.2
      rw [(loop.due_iff none).mp due] at total
      omega
  actions := by
    refine SessionState.forall_last_concat ?_
    rw [tick.actions, if_pos due]

/-- Any other walking tick counts on and holds the action. -/
theorem hold (loop : PolicyLoop evaluations walked g) {t : Tick P} (tick : WalkTick t g)
    (idle : ¬ Due g) : PolicyLoop evaluations (walked + 1) (step g t) := by
  have some : evaluations ≠ [] := by
    intro none
    refine idle ?_
    unfold Due
    rw [(loop.unstarted none).2, Nat.zero_mod]
  refine ⟨fun none => absurd none some, fun _ => ?_, fun made last => ?_⟩
  · obtain ⟨least, most, total⟩ := loop.counted some
    have short : g.count ≠ P.decimation := (loop.due_iff some).not.mp idle
    rw [tick.count, if_neg idle]
    omega
  · rw [tick.actions, if_neg idle]
    exact loop.actions made last

/-- A tick in another mode changes nothing. -/
theorem away (loop : PolicyLoop evaluations walked g) (inv : Invariant g) {t : Tick P}
    (away : (buttons t g).mode ≠ .usermode) : PolicyLoop evaluations walked (step g t) := by
  have kept := (step_away inv away).1
  refine ⟨?_, ?_, ?_⟩
  · rw [kept]
    exact loop.unstarted
  · rw [kept]
    exact loop.counted
  · rw [kept]
    exact loop.actions

end PolicyLoop

variable [IsStrictOrderedRing K]

theorem policyLoop_after (positive : 0 < P.decimation) (history : Fin P.inputSize → K)
    (ticks : List (Tick P)) :
    PolicyLoop (evaluationsOf (initial history) ticks) (walkTicks history ticks)
      (after history ticks) := by
  induction ticks using List.reverseRecOn with
  | nil => exact ⟨fun _ => ⟨rfl, rfl⟩, fun absurd => (absurd rfl).elim, fun _ last => by cases last⟩
  | append_singleton ticks t ih =>
      have inv := after_invariant history ticks
      have counted : walkTicks history (ticks ++ [t]) = walkTicks history ticks +
          if (buttons t (after history ticks)).mode = .usermode then 1 else 0 :=
        tally_concat step _ _ ticks t
      have made : evaluationsOf (initial history) (ticks ++ [t]) =
          evaluationsOf (initial history) ticks ++
            (process t (after history ticks)).evaluations.map (t, ·) :=
        evaluationsOf_concat _ ticks t
      rw [after_concat, counted, made]
      by_cases walking : (buttons t (after history ticks)).mode = .usermode
      · have tick := walk_tick inv walking
        rw [if_pos walking, tick.evaluations]
        by_cases due : Due (after history ticks)
        · rw [if_pos due]
          exact ih.evaluate positive tick due
        · rw [if_neg due, List.map_nil, List.append_nil]
          exact ih.hold tick due
      · rw [if_neg walking, (step_away inv walking).2, List.map_nil, List.append_nil]
        exact ih.away inv walking

/--
In every run the policy has been evaluated once for every period of walking ticks begun,
whatever sessions these ticks belong to, and every walking tick commands the legs by the
action of the last evaluation of the run.
-/
theorem policy_loop (positive : 0 < P.decimation) (history : Fin P.inputSize → K)
    (ticks : List (Tick P)) :
    (evaluationsOf (initial history) ticks).length = walkTicks history ticks ⌈/⌉ P.decimation ∧
      ∀ t, (buttons t (after history ticks)).mode = .usermode →
        ∃ made ∈ (evaluationsOf (initial history) (ticks ++ [t])).getLast?,
          ∀ frame ∈ (process t (after history ticks)).sent, ∀ j, frame (legIndex P j) =
            { pos := some (made.2.action j * P.actionScale j + P.defaultJointAngles j)
              vel := some 0, tau := some 0, kp := some (P.jointStiffness j)
              kd := some (P.jointDamping j), motorId := some (legIndex P j).val } := by
  refine ⟨(policyLoop_after positive history ticks).length_eq positive, fun t walking => ?_⟩
  have loop := policyLoop_after positive history (ticks ++ [t])
  have walked : walkTicks history (ticks ++ [t]) = walkTicks history ticks + 1 :=
    (tally_concat step _ _ ticks t).trans (congrArg _ (if_pos walking))
  have some : evaluationsOf (initial history) (ticks ++ [t]) ≠ [] := by
    intro none
    have unwalked := (loop.unstarted none).1
    omega
  have last := List.getLast?_eq_some_getLast some
  refine ⟨_, last, fun frame sent j => ?_⟩
  have held := loop.actions _ last
  rw [after_concat] at held
  rw [walk_leg (after_invariant history ticks) walking sent, held]

/-- Two sessions of one tick each make one evaluation. -/
theorem policy_loop_level :
    let ticks := [stillTick [9] 1, stillTick [10, 2] 1, stillTick [5, 2] 1, stillTick [11] 1,
      stillTick [5, 2] 1]
    (evaluationsOf (initial (P := levelProgram jointNames.symm) fun _ => 0) ticks).length =
      walkTicks (P := levelProgram jointNames.symm) (fun _ => 0) ticks ⌈/⌉ 10 :=
  (policy_loop (P := levelProgram jointNames.symm) (by decide) (fun _ => 0)
    [stillTick [9] 1, stillTick [10, 2] 1, stillTick [5, 2] 1, stillTick [11] 1,
      stillTick [5, 2] 1]).1

end NoetixE1.Low
