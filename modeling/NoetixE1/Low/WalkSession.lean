import NoetixE1.Low.Walking

/-!
# Walking sessions

A session is the stretch of walking ticks from one firing of the walk branch until
`mode_` is next assigned.  Within a session the stacked observation is the session's
own history.
-/

namespace NoetixE1.Low

open HistoryStack Interpolation Machine

variable {K : Type} [Field K] [LinearOrder K] {P : Program K}

/-- The branch of buttons 5 and 2 fires and the tick is dispatched in walking mode. -/
def EntersWalk (g : Globals P) (t : Tick P) : Prop :=
  SetsMode t g .five ∧ (buttons t g).mode = .usermode

/-- The tick is dispatched in walking mode and assigns no mode. -/
def StaysWalk (g : Globals P) (t : Tick P) : Prop :=
  ¬ Reassigned t g ∧ (buttons t g).mode = .usermode

instance (g : Globals P) (t : Tick P) : Decidable (EntersWalk g t) :=
  inferInstanceAs (Decidable (_ ∧ _))

instance (g : Globals P) (t : Tick P) : Decidable (StaysWalk g t) :=
  inferInstanceAs (Decidable (_ ∧ _))

/-- The ticks of a walking session that starts in `g`. -/
def Session (g : Globals P) (ticks : List (Tick P)) : Prop :=
  Episode step EntersWalk StaysWalk g ticks

/-- The policy evaluations of a stretch of ticks, each with the tick it was made in. -/
def evaluationsOf (g : Globals P) (ticks : List (Tick P)) : List (Tick P × Evaluation P) :=
  emitted step (fun g t => (process t g).evaluations.map (t, ·)) g ticks

/-! ## The session's own history -/

/--
What the evaluations made so far and the globals have to do with each other.  The
first observation has no actions, each later one the action of the evaluation before
it; the buffer holds the last `stackSize` observations, the first one standing in for
missing ones; the network was given the clamped buffer and its clamped output is the
action.
-/
structure OwnHistory (evaluations : List (Tick P × Evaluation P)) (g : Globals P) : Prop where
  first : ∀ made ∈ evaluations.head?,
    made.2.observation = Fin.append (sensorsAt made.1) (fun _ => 0)
  next : evaluations.IsChain fun made made' =>
    made'.2.observation = Fin.append (sensorsAt made'.1) made.2.action
  action : ∀ made ∈ evaluations,
    made.2.action = fun j => clamp (-P.clipActions) P.clipActions (made.1.run made.2.input j)
  buffer : evaluations ≠ [] →
    Holds g.proprioHistoryBuffer (evaluations.map fun made => made.2.observation)
  input : ∀ made ∈ evaluations.getLast?,
    made.2.input = fun i => clamp (-P.clipObs) P.clipObs (g.proprioHistoryBuffer i)

/-- The invariant of a session: its history and the action held. -/
structure SessionState (evaluations : List (Tick P × Evaluation P)) (g : Globals P) : Prop
    extends OwnHistory evaluations g where
  lastActions : ∀ made ∈ evaluations.getLast?, g.lastActions = made.2.action
  actions : ∀ made ∈ evaluations.getLast?, g.actions = made.2.action

namespace SessionState

variable {evaluations : List (Tick P × Evaluation P)} {g : Globals P}

omit [Field K] [LinearOrder K] in
/-- What holds of the newest evaluation holds of the last one. -/
theorem forall_last_concat {Property : Tick P × Evaluation P → Prop}
    {newest : Tick P × Evaluation P} (holds : Property newest) :
    ∀ made ∈ (evaluations ++ [newest]).getLast?, Property made := by
  intro made last
  rw [List.getLast?_concat, Option.mem_some_iff] at last
  rw [← last]
  exact holds

/-- Before the first evaluation a session says nothing about the globals. -/
theorem opening (g : Globals P) : SessionState [] g where
  first := by simp
  next := List.IsChain.nil
  action := by simp
  buffer := fun absurd => (absurd rfl).elim
  input := by simp
  lastActions := by simp
  actions := by simp

/-- A walking tick without an evaluation holds everything. -/
theorem hold (state : SessionState evaluations g) {t : Tick P} (tick : WalkTick t g)
    (idle : ¬ Due g) : SessionState evaluations (step g t) where
  first := state.first
  next := state.next
  action := state.action
  buffer some := by
    rw [tick.history, if_neg idle]
    exact state.buffer some
  input made last := by
    rw [tick.history, if_neg idle]
    exact state.input made last
  lastActions made last := by
    rw [tick.lastActions, tick.actions, if_neg idle]
    exact state.actions made last
  actions made last := by
    rw [tick.actions, if_neg idle]
    exact state.actions made last

/-- A walking tick with an evaluation appends it to the session's history. -/
theorem evaluate (state : SessionState evaluations g) {t : Tick P} (tick : WalkTick t g)
    (due : Due g) (flag : (buttons t g).isChangeMode = evaluations.isEmpty) :
    SessionState (evaluations ++ [(t, evaluationAt t g)]) (step g t) := by
  have observed := evaluationAt_observation t g
  have stacked := stackedHistory_walkState t g
  rw [flag] at observed stacked
  have actions : (step g t).actions = (evaluationAt t g).action := by
    rw [tick.actions, if_pos due]
  have history : (step g t).proprioHistoryBuffer = stackedHistory (walkState t g) := by
    rw [tick.history, if_pos due]
  refine ⟨⟨?_, ?_, ?_, ?_, ?_⟩, ?_, ?_⟩
  · intro made head
    cases evaluations with
    | nil =>
        rw [← Option.some.inj head]
        exact observed
    | cons earliest rest => exact state.first made head
  · refine List.isChain_append.mpr ⟨state.next, List.isChain_singleton _, ?_⟩
    intro made last made' new
    rw [← Option.some.inj new, observed, state.lastActions made last, if_neg]
    rw [List.isEmpty_iff]
    exact List.ne_nil_of_mem (List.mem_of_getLast? last)
  · intro made member
    rcases List.mem_append.mp member with earlier | new
    · exact state.action made earlier
    · rw [List.mem_singleton.mp new]
      exact evaluationAt_action t g
  · intro _
    rw [history, stacked, List.map_append]
    cases evaluations with
    | nil => exact holds_first _ _
    | cons earliest rest => exact holds_push (state.buffer (List.cons_ne_nil _ _)) (by simp) _
  · refine forall_last_concat ?_
    rw [history]
    exact evaluationAt_input t g
  · refine forall_last_concat ?_
    rw [tick.lastActions, actions]
  · exact forall_last_concat actions

/-- One walking tick of a session, with the flag for the first observation. -/
theorem walk (state : SessionState evaluations g) (inv : Invariant g) {t : Tick P}
    (walking : (buttons t g).mode = .usermode)
    (flag : (buttons t g).isChangeMode = evaluations.isEmpty) :
    let made := evaluations ++ (process t g).evaluations.map (t, ·)
    SessionState made (step g t) ∧ (step g t).isChangeMode = made.isEmpty := by
  have tick := walk_tick inv walking
  rw [tick.evaluations, tick.isChangeMode]
  by_cases due : Due g
  · rw [if_pos due, if_pos due]
    exact ⟨state.evaluate tick due flag, by simp⟩
  · rw [if_neg due, if_neg due, List.map_nil, List.append_nil]
    exact ⟨state.hold tick due, flag⟩

end SessionState

theorem evaluationsOf_concat (g : Globals P) (ticks : List (Tick P)) (t : Tick P) :
    evaluationsOf g (ticks ++ [t]) =
      evaluationsOf g ticks ++ (process t (run step g ticks)).evaluations.map (t, ·) :=
  emitted_concat step _ g ticks t

variable [IsStrictOrderedRing K]

/-- The invariant holds along every session, whatever happened before it. -/
theorem session_state {g : Globals P} (inv : Invariant g) {ticks : List (Tick P)}
    (session : Session g ticks) :
    SessionState (evaluationsOf g ticks) (run step g ticks) := by
  have along : SessionState (evaluationsOf g ticks) (run step g ticks) ∧
      (run step g ticks).isChangeMode = (evaluationsOf g ticks).isEmpty ∧
      Invariant (run step g ticks) := by
    refine session.induction step (motive := fun ticks state =>
      SessionState (evaluationsOf g ticks) state ∧
        state.isChangeMode = (evaluationsOf g ticks).isEmpty ∧ Invariant state) ?_ ?_
    · rintro first ⟨enters, walking⟩
      have flag : (buttons first g).isChangeMode = true := by
        rw [buttons_isChangeMode inv, if_pos (Or.inl ((fires5_iff inv first).mp enters))]
      have walked := (SessionState.opening g).walk inv walking flag
      have made : evaluationsOf g [first] = [] ++ (process first g).evaluations.map (first, ·) :=
        evaluationsOf_concat g [] first
      rw [made]
      exact ⟨walked.1, walked.2, inv.step first⟩
    · rintro earlier next - ⟨state, flag, inv⟩ ⟨quiet, walking⟩
      have kept : (buttons next (run step g earlier)).isChangeMode =
          (evaluationsOf g earlier).isEmpty :=
        (buttons_isChangeMode_of_quiet inv quiet).trans flag
      have walked := state.walk inv walking kept
      rw [evaluationsOf_concat]
      exact ⟨walked.1, walked.2, inv.step next⟩
  exact along.1

/--
After every tick of every session, whatever ran before it, the stacked observation is
the session's own history.
-/
theorem session_own_history (history : Fin P.inputSize → K) (before ticks : List (Tick P))
    (session : Session (after history before) ticks) :
    OwnHistory (evaluationsOf (after history before) ticks) (after history (before ++ ticks)) := by
  rw [after_append]
  exact (session_state (after_invariant history before) session).toOwnHistory

/-- The second session of a run, twenty ticks in which the policy is evaluated twice. -/
theorem session_own_history_level :
    let before := [stillTick [9] 1, stillTick [10, 2] 1, stillTick [5, 2] 1, stillTick [11] 1]
    let ticks := stillTick [5, 2] 0 ::
      List.replicate 19 ⟨Reads.single (stillStatus [] 0), fun _ _ => 1⟩
    (evaluationsOf (levelAfter jointNames.symm before) ticks).length = 2 ∧
      OwnHistory (evaluationsOf (levelAfter jointNames.symm before) ticks)
        (levelAfter jointNames.symm (before ++ ticks)) :=
  ⟨by decide +kernel, session_own_history (fun _ => 0) _ _
    ⟨⟨by decide +kernel, by decide +kernel⟩, by decide +kernel⟩⟩

end NoetixE1.Low
