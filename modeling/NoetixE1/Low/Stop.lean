import NoetixE1.Low.Arming
import NoetixE1.Low.Console

/-!
# Stopping the robot

Button 9 pressed afresh while control is on makes the robot passive in that tick.  How
long it stays passive is read off buttons 9 and 11 alone.
-/

namespace NoetixE1.Low

open Machine

/-! ## The console after a stop -/

namespace Console

/-- The tick leaves the console in the passive mode. -/
def Passivates (c : Console) (p : Panel) : Prop := (c.next p).mode = .default

/-- Passive with control off, as button 9 leaves it. -/
def Stopped (c : Console) : Prop := c.mode = .default ∧ c.armed = false

variable {c : Console} {p : Panel}

/-- A stopped robot stays passive in a tick unless control is switched on or button 11 pressed. -/
theorem Stopped.passivates_iff (stopped : c.Stopped) :
    c.Passivates p ↔ p.eleven = false ∧ c.toggles p = false := by
  obtain ⟨mode, disarmed⟩ := stopped
  cases toggles : c.toggles p with
  | false =>
      have raised : c.raised p = .default := by
        simp [raised, toggled, armedNext, toggles, mode, disarmed]
      have walked : c.walked p = .default := by simp [walked, walks, raised]
      cases eleven : p.eleven <;> simp [Passivates, next, walked, eleven, dismiss]
  | true =>
      have toggled : c.toggled p = .lie := by simp [toggled, toggles, disarmed]
      have raised : c.raised p ≠ .default := by
        unfold raised
        split_ifs <;> simp [toggled]
      have walked : c.walked p ≠ .default := by
        unfold walked
        split_ifs
        · simp
        · exact raised
      refine iff_of_false ?_ (by simp)
      cases eleven : p.eleven
      · simpa [Passivates, next, eleven] using walked
      · cases mode : c.walked p <;> simp_all [Passivates, next, dismiss]

theorem Stopped.next (stopped : c.Stopped) (passivates : c.Passivates p) :
    (c.next p).Stopped ∧ ((c.next p).used9 = true ↔ c.used9 = true ∧ p.nine ≠ .released) := by
  have quiet := (stopped.passivates_iff.mp passivates).2
  refine ⟨⟨passivates, ?_⟩, ?_⟩
  · change xor c.armed (c.toggles p) = false
    rw [quiet, stopped.2]
    rfl
  · change (c.toggles p || (c.used9 && decide (p.nine ≠ .released))) = true ↔ _
    rw [quiet, Bool.false_or, Bool.and_eq_true, decide_eq_true_iff]

/-- Switching control off stops the robot, and uses the press up. -/
theorem stopped_of_toggles (armed : c.armed = true) (toggles : c.toggles p = true)
    (released : p.eleven = false) :
    c.Passivates p ∧ (c.next p).Stopped ∧ (c.next p).used9 = true := by
  have raised : c.raised p = .default := by simp [raised, toggled, armedNext, toggles, armed]
  have walked : c.walked p = .default := by simp [walked, walks, raised]
  have passivates : c.Passivates p := by simp [Passivates, next, walked, released]
  have disarmed : (c.next p).armed = false := by simp [next, armedNext, armed, toggles]
  exact ⟨passivates, ⟨passivates, disarmed⟩, by simp [next, toggles]⟩

/-- Once button 9 has been released no later press of it is allowed. -/
theorem Stopped.along_iff (stopped : c.Stopped) (panels : List Panel) :
    Along Console.next Passivates c panels ↔
      (∀ p ∈ panels, p.eleven = false) ∧
        (c.used9 = false → ∀ p ∈ panels, p.nine ≠ .pressed) ∧
        panels.Pairwise fun p q => p.nine = .released → q.nine ≠ .pressed := by
  induction panels generalizing c with
  | nil => simp
  | cons p rest ih =>
      have quiet : c.toggles p = false ↔ (c.used9 = false → p.nine ≠ .pressed) := by
        cases used : c.used9 <;> simp [Console.toggles, used]
      rw [along_cons, List.forall_mem_cons, List.forall_mem_cons, List.pairwise_cons]
      constructor
      · rintro ⟨passivates, later⟩
        obtain ⟨stopped', used⟩ := stopped.next passivates
        obtain ⟨released, unpressed⟩ := stopped.passivates_iff.mp passivates
        obtain ⟨elevens, fresh, pairs⟩ := (ih stopped').mp later
        refine ⟨⟨released, elevens⟩, fun unused => ⟨quiet.mp unpressed unused, fresh ?_⟩,
          fun q member free => fresh ?_ q member, pairs⟩
        · exact Bool.eq_false_of_not_eq_true fun still =>
            absurd (used.mp still).1 (by simp [unused])
        · exact Bool.eq_false_of_not_eq_true fun still => (used.mp still).2 free
      · rintro ⟨⟨released, elevens⟩, fresh, free, pairs⟩
        have passivates : c.Passivates p :=
          stopped.passivates_iff.mpr ⟨released, quiet.mpr fun unused => (fresh unused).1⟩
        obtain ⟨stopped', used⟩ := stopped.next passivates
        refine ⟨passivates, (ih stopped').mpr ⟨elevens, fun unused => ?_, pairs⟩⟩
        by_cases release : p.nine = .released
        · exact fun q member => free q member release
        · have before : c.used9 = false := Bool.eq_false_of_not_eq_true fun still =>
            absurd (used.mpr ⟨still, release⟩) (by simp [unused])
          exact (fresh before).2

end Console

/-! ## The program after a stop -/

variable {K : Type} [Field K] [LinearOrder K] [IsStrictOrderedRing K] {P : Program K}

/-- The tick hands over passive frames only. -/
def SendsPassive (g : Globals P) (t : Tick P) : Prop :=
  ∀ frame ∈ (process t g).sent, Passive frame

theorem sendsPassive_iff {g : Globals P} (inv : Invariant g) (t : Tick P) :
    SendsPassive g t ↔ (consoleOf g).Passivates (panelOf t) := by
  unfold SendsPassive Console.Passivates
  rw [process_sent inv, List.forall_mem_singleton, frame_passive_iff, next_mode inv]

theorem along_sendsPassive {g : Globals P} (inv : Invariant g) (ticks : List (Tick P)) :
    Along step SendsPassive g ticks ↔
      Along Console.next Console.Passivates (consoleOf g) (ticks.map panelOf) := by
  have preserved (g : Globals P) (t : Tick P) (inv : Invariant g) : Invariant (step g t) :=
    inv.step t
  have commutes (g : Globals P) (t : Tick P) (inv : Invariant g) :
      consoleOf (step g t) = (consoleOf g).next (panelOf t) := consoleOf_step inv t
  have viewed : Along step (fun g t => (consoleOf g).Passivates (panelOf t)) g ticks ↔
      Along Console.next Console.Passivates (consoleOf g) (ticks.map panelOf) :=
    along_view preserved commutes inv ticks
  rw [← viewed]
  exact along_iff_of_invariant step (fun _ t inv => sendsPassive_iff inv t)
    (fun g t inv _ => preserved g t inv) inv ticks

/-- The frames that a stretch of ticks hands over. -/
def framesOf (g : Globals P) (ticks : List (Tick P)) : List (Frame K) :=
  emitted step (fun g t => (process t g).sent) g ticks

/-- A fresh press of button 9 with control on. -/
def Stops (g : Globals P) (t : Tick P) : Prop :=
  Fires9 t g ∧ g.startcontrol = true ∧ t.button 11 ≠ 1

instance (g : Globals P) (t : Tick P) : Decidable (Stops g t) :=
  inferInstanceAs (Decidable (_ ∧ _ ∧ _))

/--
In every run, from a tick that stops the robot on, all frames are passive, the frame of
that very tick included, exactly as long as button 11 is not pressed and button 9 is not
pressed again after a release.  No other button, sensor or network output matters.
-/
theorem stop_holds_iff (history : Fin P.inputSize → K) (before : List (Tick P)) (t : Tick P)
    (stops : Stops (after history before) t) (rest : List (Tick P)) :
    (∀ frame ∈ framesOf (after history before) (t :: rest), Passive frame) ↔
      (∀ u ∈ rest, u.button 11 ≠ 1) ∧
        rest.Pairwise fun u v => u.button 9 = 0 → v.button 9 ≠ 1 := by
  have inv := after_invariant history before
  obtain ⟨fires, armed, released⟩ := stops
  have toggles := (toggles_iff t (after history before)).mpr fires
  have unpressed : (panelOf t).eleven = false := decide_eq_false released
  obtain ⟨passivates, stopped, used⟩ := Console.stopped_of_toggles armed toggles unpressed
  have later := stopped.along_iff (rest.map panelOf)
  rw [← consoleOf_step inv] at stopped used later
  unfold framesOf
  rw [forall_mem_emitted]
  change Along step SendsPassive _ _ ↔ _
  rw [along_cons, along_sendsPassive (inv.step t), later, sendsPassive_iff inv,
    and_iff_right passivates]
  simp [used, panelOf, List.pairwise_map]

/-- Control is switched on and off again; buttons 10, 2 and 5 do not wake the robot. -/
theorem stop_holds_level :
    let on := levelAfter jointNames.symm [stillTick [9] 1, stillTick [] 1]
    let rest : List (Tick (levelProgram jointNames.symm)) :=
      [stillTick [9, 10, 2] 1, stillTick [] 1, stillTick [5, 2] 1]
    Stops on (stillTick [9] 1) ∧
      ∀ frame ∈ framesOf on (stillTick [9] 1 :: rest), Passive frame := by
  intro on rest
  have stops : Stops on (stillTick [9] 1) := by decide +kernel
  have quiet : (∀ u ∈ rest, u.button 11 ≠ 1) ∧
      rest.Pairwise fun u v => u.button 9 = 0 → v.button 9 ≠ 1 := by
    decide +kernel
  exact ⟨stops, (stop_holds_iff (fun _ => 0) [stillTick [9] 1, stillTick [] 1] (stillTick [9] 1)
    stops rest).mpr quiet⟩

end NoetixE1.Low
