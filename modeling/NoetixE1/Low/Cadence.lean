import NoetixE1.Low.WalkConfig
import NoetixE1.Low.WalkSession

/-!
# The cadence of the policy

`count` runs on through all walking ticks of the program and survives the end of a
session, so a session starts with an evaluation exactly when the walking ticks before
it are a whole number of evaluation periods.
-/

namespace NoetixE1.Low

open Machine

variable {K : Type} [Field K] [LinearOrder K] {P : Program K}

/-! ## The counter -/

/-- Modulo the decimation the counter counts walking ticks. -/
theorem step_count_mod {g : Globals P} (inv : Invariant g) (t : Tick P) :
    (step g t).count % P.decimation =
      (g.count + if (buttons t g).mode = .usermode then 1 else 0) % P.decimation := by
  by_cases walking : (buttons t g).mode = .usermode
  · rw [(walk_tick inv walking).count, if_pos walking]
    split_ifs with due
    · rw [Nat.add_mod g.count, show g.count % P.decimation = 0 from due, Nat.zero_add,
        Nat.zero_add, Nat.mod_mod]
    · rfl
  · rw [(step_away inv walking).1, if_neg walking, Nat.add_zero]

/-- The ticks dispatched in walking mode in a run of the program. -/
def walkTicks (history : Fin P.inputSize → K) (ticks : List (Tick P)) : ℕ :=
  tally step (fun g t => (buttons t g).mode = .usermode) (initial history) ticks

variable [IsStrictOrderedRing K]

theorem after_count_mod (history : Fin P.inputSize → K) (ticks : List (Tick P)) :
    (after history ticks).count % P.decimation = walkTicks history ticks % P.decimation := by
  induction ticks using List.reverseRecOn with
  | nil => rfl
  | append_singleton ticks t ih =>
      rw [after_concat, step_count_mod (after_invariant history ticks), Nat.add_mod, ih,
        ← Nat.add_mod, walkTicks, walkTicks, tally_concat]
      rfl

/-- Along walking ticks the counter advances by one each. -/
theorem run_count_mod {g : Globals P} (inv : Invariant g) {ticks : List (Tick P)}
    (walking : Along step (fun g t => (buttons t g).mode = .usermode) g ticks) :
    (run step g ticks).count % P.decimation = (g.count + ticks.length) % P.decimation := by
  induction ticks generalizing g with
  | nil => rfl
  | cons t rest ih =>
      rw [run_cons, ih (inv.step t) walking.2, Nat.add_mod, step_count_mod inv,
        if_pos walking.1, ← Nat.add_mod, List.length_cons]
      congr 1
      omega

/-! ## Sessions with fresh policy output -/

omit [IsStrictOrderedRing K] in
/-- Every tick of a session is a walking tick. -/
theorem Session.walking {g : Globals P} {ticks : List (Tick P)} (session : Session g ticks) :
    Along step (fun g t => (buttons t g).mode = .usermode) g ticks := by
  cases ticks with
  | nil => exact along_nil step _ g
  | cons first rest => exact ⟨session.1.2, session.2.mono step fun _ _ stays => stays.2⟩

/-- The policy is evaluated on the session's ticks number 0, `decimation`, 2 `decimation`
and so on, and every leg setpoint comes from an action evaluated in the session so far. -/
structure FreshPolicy (g : Globals P) (ticks : List (Tick P)) : Prop where
  cadence : ∀ earlier t later, ticks = earlier ++ t :: later →
    ((process t (run step g earlier)).evaluations ≠ [] ↔ P.decimation ∣ earlier.length)
  fresh : ∀ earlier t later, ticks = earlier ++ t :: later →
    ∀ frame ∈ (process t (run step g earlier)).sent,
      ∃ made ∈ evaluationsOf g (earlier ++ [t]), ∀ j, (frame (legIndex P j)).pos =
        some (made.2.action j * P.actionScale j + P.defaultJointAngles j)

/-- A tick of a session evaluates the policy when the counter at the start and the ticks
since then make up whole periods. -/
theorem evaluates_iff {g : Globals P} (inv : Invariant g) {earlier later : List (Tick P)}
    {t : Tick P} (session : Session g (earlier ++ t :: later)) :
    (process t (run step g earlier)).evaluations ≠ [] ↔
      P.decimation ∣ g.count + earlier.length := by
  obtain ⟨before, walking, _⟩ := (along_append step).mp session.walking
  have tick := walk_tick (run_invariant step (fun _ t inv => inv.step t) earlier inv) walking
  have due : Due (run step g earlier) ↔ P.decimation ∣ g.count + earlier.length := by
    unfold Due
    rw [run_count_mod inv before, Nat.dvd_iff_mod_eq_zero]
  rw [tick.evaluations, ← due]
  split_ifs with counted
  · exact iff_of_true (List.cons_ne_nil _ _) counted
  · exact iff_of_false (fun absurd => absurd rfl) counted

/-- A session that starts on a whole number of periods evaluates the policy at once. -/
theorem evaluated_of_due {g : Globals P} (inv : Invariant g) {ticks : List (Tick P)}
    (session : Session g ticks) (due : P.decimation ∣ g.count) : evaluationsOf g ticks ≠ [] := by
  cases ticks with
  | nil => exact session.elim
  | cons first rest =>
      have start := (evaluates_iff inv (show Session g ([] ++ first :: rest) from session)).mpr due
      change (process first g).evaluations.map (first, ·) ++ _ ≠ []
      intro empty
      exact start (List.map_eq_nil_iff.mp (List.append_eq_nil_iff.mp empty).1)

/-- Once the session has evaluated the policy, its frames use its own actions. -/
theorem leg_of_evaluated {g : Globals P} (inv : Invariant g) {earlier : List (Tick P)}
    {t : Tick P} (session : Session g (earlier ++ [t]))
    (evaluated : evaluationsOf g (earlier ++ [t]) ≠ []) {frame : Frame K}
    (sent : frame ∈ (process t (run step g earlier)).sent) :
    ∃ made ∈ evaluationsOf g (earlier ++ [t]), ∀ j, (frame (legIndex P j)).pos =
      some (made.2.action j * P.actionScale j + P.defaultJointAngles j) := by
  obtain ⟨_, walking, _⟩ := (along_append step).mp session.walking
  have last := List.getLast?_eq_some_getLast evaluated
  have held := (session_state inv session).actions _ last
  rw [run_concat] at held
  refine ⟨_, List.mem_of_getLast? last, fun j => ?_⟩
  rw [walk_leg (run_invariant step (fun _ t inv => inv.step t) earlier inv) walking sent, held]

/-- A session has fresh policy output exactly when its first tick evaluates the policy. -/
theorem fresh_iff_due {g : Globals P} (inv : Invariant g) {ticks : List (Tick P)}
    (session : Session g ticks) : FreshPolicy g ticks ↔ P.decimation ∣ g.count := by
  constructor
  · intro fresh
    cases ticks with
    | nil => exact session.elim
    | cons first rest =>
        have start := evaluates_iff inv (show Session g ([] ++ first :: rest) from session)
        exact start.mp ((fresh.cadence [] first rest rfl).mpr (dvd_zero _))
  · intro due
    refine ⟨fun earlier t later split => ?_, fun earlier t later split frame sent => ?_⟩
    · rw [split] at session
      rw [evaluates_iff inv session]
      exact (Nat.dvd_add_iff_right due).symm
    · rw [split] at session
      rw [← List.singleton_append, ← List.append_assoc] at session
      have soFar : Session g (earlier ++ [t]) := session.beginning step (by simp)
      exact leg_of_evaluated inv soFar (evaluated_of_due inv soFar due) sent

/--
In every run a session has fresh policy output exactly when the walking ticks before
it, those of all earlier sessions together, are a multiple of the decimation.
-/
theorem session_fresh_iff (history : Fin P.inputSize → K) (before ticks : List (Tick P))
    (session : Session (after history before) ticks) :
    FreshPolicy (after history before) ticks ↔ P.decimation ∣ walkTicks history before := by
  rw [fresh_iff_due (after_invariant history before) session, Nat.dvd_iff_mod_eq_zero,
    after_count_mod, Nat.dvd_iff_mod_eq_zero]

/-- The second session, after a first one of ten ticks. -/
theorem session_fresh_level :
    let before := [stillTick [9] 1, stillTick [10, 2] 1, stillTick [5, 2] 1] ++
      List.replicate 9 (stillTick [] 1) ++ [stillTick [11] 1]
    walkTicks (P := levelProgram jointNames.symm) (fun _ => 0) before = 10 ∧
      FreshPolicy (levelAfter jointNames.symm before) [stillTick [5, 2] 1, stillTick [] 1] := by
  intro before
  have session : Session (levelAfter jointNames.symm before) [stillTick [5, 2] 1, stillTick [] 1] :=
    ⟨⟨by decide +kernel, by decide +kernel⟩, by decide +kernel⟩
  have whole : (levelProgram jointNames.symm).decimation ∣ walkTicks (fun _ => 0) before := by
    decide +kernel
  exact ⟨by decide +kernel, (session_fresh_iff (fun _ => 0) before _ session).mpr whole⟩

/-- The second session, after a first one of a single tick: its first frame drives the
legs by an action of the first session. -/
theorem not_fresh_second_session :
    let before := [stillTick [9] 1, stillTick [10, 2] 1, stillTick [5, 2] 1, stillTick [11] 1]
    Session (levelAfter jointNames.symm before) [stillTick [5, 2] 1] ∧
      ¬ FreshPolicy (levelAfter jointNames.symm before) [stillTick [5, 2] 1] := by
  intro before
  have session : Session (levelAfter jointNames.symm before) [stillTick [5, 2] 1] :=
    ⟨⟨by decide +kernel, by decide +kernel⟩, by decide +kernel⟩
  refine ⟨session, fun fresh => ?_⟩
  have due := (fresh_iff_due (after_invariant _ _) session).mp fresh
  exact absurd due (by decide +kernel)

end NoetixE1.Low
