import NoetixE1.Low.Console

/-!
# Reachable consoles and recovery

Which consoles a run can end in, and that the buttons lead from any of them to any
console in which control has been switched on before, whatever else the ticks deliver.
-/

namespace NoetixE1.Low

open Machine

/-! ## Consoles of a run -/

/-- With control on the robot is not passive; with control off it lies or is passive. -/
def Orderly (armed : Bool) (mode : WorkMode) : Prop :=
  if armed then mode ≠ .default else mode = .default ∨ mode = .lie

instance (armed : Bool) (mode : WorkMode) : Decidable (Orderly armed mode) :=
  inferInstanceAs (Decidable (ite _ _ _))

namespace Console

/-- The consoles once control has been switched on for the first time. -/
def Operational (c : Console) : Prop := Orderly c.armed c.mode

/-- The consoles before. -/
def Startup (c : Console) : Prop :=
  c.armed = false ∧ c.used9 = false ∧ (c.mode = .stand ∨ c.mode = .usermode)

instance (c : Console) : Decidable c.Operational := inferInstanceAs (Decidable (Orderly _ _))

instance (c : Console) : Decidable c.Startup := inferInstanceAs (Decidable (_ ∧ _ ∧ _))

variable {c : Console} {p : Panel}

theorem orderly_toggled (orderly : c.Operational) : Orderly (c.armedNext p) (c.toggled p) := by
  unfold Operational Orderly at orderly
  unfold Orderly armedNext toggled
  cases toggles : c.toggles p
  · simpa using orderly
  · cases armed : c.armed <;> simp

/-- Whatever button 9 left in order, the other buttons keep in order. -/
theorem operational_next_of_toggled (orderly : Orderly (c.armedNext p) (c.toggled p)) :
    (c.next p).Operational := by
  have raised : Orderly (c.armedNext p) (c.raised p) := by
    unfold raised
    split_ifs with chord
    · have armed : c.armedNext p = true := (Bool.and_eq_true_iff.mp chord).2
      simp [Orderly, armed]
    · exact orderly
  have walked : Orderly (c.armedNext p) (c.walked p) := by
    unfold walked
    split_ifs with walks
    · have standing : c.raised p = .stand := of_decide_eq_true (Bool.and_eq_true_iff.mp walks).2
      rw [standing] at raised
      cases armed : c.armedNext p
      · simp [Orderly, armed] at raised
      · simp [Orderly]
    · exact raised
  change Orderly (c.armedNext p) (if p.eleven then dismiss (c.walked p) else c.walked p)
  split_ifs
  · cases armed : c.armedNext p <;> cases mode : c.walked p <;>
      simp_all [Orderly, dismiss]
  · exact walked

theorem Operational.next (orderly : c.Operational) : (c.next p).Operational :=
  operational_next_of_toggled (orderly_toggled orderly)

/-- The first press of button 9 switches control on. -/
theorem Startup.next_of_pressed (startup : c.Startup) (pressed : p.nine = .pressed) :
    (c.next p).Operational := by
  have toggles : c.toggles p = true := by simp [Console.toggles, pressed, startup.2.1]
  apply operational_next_of_toggled
  simp [Orderly, armedNext, toggled, toggles, startup.1]

/-- Until then the robot stands or walks with control off. -/
theorem Startup.next (startup : c.Startup) (quiet : p.nine ≠ .pressed) : (c.next p).Startup := by
  obtain ⟨disarmed, unused, mode⟩ := startup
  have toggles : c.toggles p = false := by simp [Console.toggles, quiet]
  have armed : c.armedNext p = false := by simp [armedNext, disarmed, toggles]
  have raised : c.raised p = c.mode := by simp [raised, toggled, armed, toggles]
  have walked : c.walked p = .stand ∨ c.walked p = .usermode := by
    unfold walked
    split_ifs
    · exact Or.inr rfl
    · rw [raised]
      exact mode
  refine ⟨armed, by simp [Console.next, toggles, unused], ?_⟩
  change (if p.eleven then dismiss (c.walked p) else c.walked p) = _ ∨
    (if p.eleven then dismiss (c.walked p) else c.walked p) = _
  split_ifs
  · rcases walked with mode | mode <;> simp [mode, dismiss]
  · exact walked

theorem Operational.run (orderly : c.Operational) (panels : List Panel) :
    (run Console.next c panels).Operational :=
  run_invariant Console.next (fun _ _ orderly => orderly.next) panels orderly

/-- Which of the two holds is decided by whether button 9 has been pressed. -/
theorem Startup.run (startup : c.Startup) (panels : List Panel) :
    if ∃ p ∈ panels, p.nine = .pressed then (run Console.next c panels).Operational
    else (run Console.next c panels).Startup := by
  induction panels generalizing c with
  | nil => simpa using startup
  | cons p rest ih =>
      by_cases pressed : p.nine = .pressed
      · rw [if_pos ⟨p, List.mem_cons_self, pressed⟩]
        exact (startup.next_of_pressed pressed).run rest
      · have later := ih (startup.next pressed)
        simpa [pressed] using later

end Console

/-! ## Routes -/

/-- A panel with these buttons pressed and the others released. -/
def Panel.pressing (pressed : List (Fin 14)) : Panel where
  nine := if pressed.contains 9 then .pressed else .released
  five := if pressed.contains 5 then .pressed else .released
  two := pressed.contains 2
  ten := pressed.contains 10
  eleven := pressed.contains 11

namespace Console

/-- Passive, control off, no press used up: the console all routes lead through. -/
def rest : Console := ⟨.default, false, false, false⟩

/-- The way to rest.  The first tick releases all buttons, so that button 9 can act. -/
def toRest (c : Console) : List Panel :=
  Panel.pressing [] ::
    if c.armed then [.pressing [9], .pressing []]
    else if c.mode = .default then []
    else [.pressing [9], .pressing [], .pressing [9], .pressing []]

/-- The way from rest to the mode, both presses used up. -/
def engage (armed : Bool) (mode : WorkMode) : List Panel :=
  match mode with
  | .usermode => [.pressing [9, 10, 2, 5]]
  | .stand => [.pressing [9, 10, 2, 5, 11]]
  | .lie | .default =>
      [.pressing [9, 10, 2, 5], .pressing [5], .pressing [9, 5]] ++
        if armed then [.pressing [5], .pressing [9, 5]] else []

/-- The way from rest to a console: the last tick keeps pressed what has to stay used up. -/
def fromRest (c : Console) : List Panel :=
  engage c.armed c.mode ++
    [{ nine := if c.used9 then .pressed else .released
       five := if c.used5 then .pressed else .released
       two := false
       ten := false
       eleven := !c.armed && c.mode = .lie }]

theorem run_toRest (c : Console) : Machine.run next c c.toRest = rest := by
  obtain ⟨mode, armed, used9, used5⟩ := c
  cases mode <;> cases armed <;> cases used9 <;> cases used5 <;> decide

theorem run_fromRest {c : Console} (orderly : c.Operational) :
    Machine.run next rest c.fromRest = c := by
  obtain ⟨mode, armed, used9, used5⟩ := c
  unfold Operational Orderly at orderly
  cases armed with
  | false =>
      rcases orderly with rfl | rfl <;> cases used9 <;> cases used5 <;> decide
  | true =>
      cases mode with
      | default => exact absurd rfl orderly
      | stand => cases used9 <;> cases used5 <;> decide
      | lie => cases used9 <;> cases used5 <;> decide
      | usermode => cases used9 <;> cases used5 <;> decide

theorem length_route_le (c goal : Console) : (c.toRest ++ goal.fromRest).length ≤ 11 := by
  have out : c.toRest.length ≤ 5 := by
    unfold toRest
    split_ifs <;> simp
  have back : goal.fromRest.length ≤ 6 := by
    unfold fromRest engage
    cases goal.mode <;> cases goal.armed <;> simp
  rw [List.length_append]
  omega

/-- The start-up consoles need no detour. -/
def boot (c : Console) : List Panel :=
  match c.mode, c.used5 with
  | .usermode, true => [.pressing [5, 2]]
  | .usermode, false => [.pressing [5, 2], .pressing []]
  | _, true => [.pressing [5, 2, 11]]
  | _, false => []

theorem run_boot {c : Console} (startup : c.Startup) : Machine.run next start c.boot = c := by
  obtain ⟨mode, armed, used9, used5⟩ := c
  obtain ⟨rfl, rfl, rfl | rfl⟩ := startup
  · cases used5 <;> decide
  · cases used5 <;> decide

end Console

/-! ## The program on a route -/

variable {K : Type} {P : Program K}

/-- A value that a level stands for. -/
def Level.value : Level → Int
  | .released => 0
  | .pressed => 1
  | .other => 2

/-- The tick with the buttons of the panel; all else that it reads stays. -/
def Panel.onto (p : Panel) (t : Tick P) : Tick P :=
  let status := t.reads.remote
  let button : Fin 14 → Int
    | 9 => p.nine.value
    | 5 => p.five.value
    | 2 => if p.two then 1 else 0
    | 10 => if p.ten then 1 else 0
    | 11 => if p.eleven then 1 else 0
    | _ => 0
  { t with reads.remote := { status with remoteData := ⟨status.remoteData.axes, button⟩ } }

theorem Level.of_value (level : Level) : Level.of level.value = level := by
  cases level <;> rfl

theorem decide_ite_one (b : Bool) : decide ((if b then 1 else 0 : Int) = 1) = b := by
  cases b <;> rfl

theorem panelOf_onto (p : Panel) (t : Tick P) : panelOf (p.onto t) = p := by
  have nine : Level.of ((p.onto t).button 9) = p.nine := Level.of_value p.nine
  have five : Level.of ((p.onto t).button 5) = p.five := Level.of_value p.five
  have two : (p.onto t).button 2 = if p.two then 1 else 0 := rfl
  have ten : (p.onto t).button 10 = if p.ten then 1 else 0 := rfl
  have eleven : (p.onto t).button 11 = if p.eleven then 1 else 0 := rfl
  unfold panelOf
  rw [nine, five, two, ten, eleven, decide_ite_one, decide_ite_one, decide_ite_one]

theorem map_panelOf_onto {panels : List Panel} {others : List (Tick P)}
    (paired : others.length = panels.length) :
    (List.zipWith Panel.onto panels others).map panelOf = panels := by
  induction panels generalizing others with
  | nil => rfl
  | cons p rest ih =>
      cases others with
      | nil => cases paired
      | cons t more =>
          rw [List.zipWith_cons_cons, List.map_cons, panelOf_onto, ih (Nat.succ.inj paired)]

theorem pressed_iff (ticks : List (Tick P)) :
    (∃ p ∈ ticks.map panelOf, p.nine = .pressed) ↔ ∃ t ∈ ticks, t.button 9 = 1 := by
  simp [panelOf]

variable [Field K] [LinearOrder K] [IsStrictOrderedRing K]

theorem consoleOf_after_append (history : Fin P.inputSize → K) (before rest : List (Tick P)) :
    consoleOf (after history (before ++ rest)) =
      run Console.next (consoleOf (after history before)) (rest.map panelOf) := by
  rw [consoleOf_after, consoleOf_after, List.map_append, run_append]

/--
After every run, at most eleven ticks of buttons lead to any console in which control has
been switched on before, whatever else these ticks deliver.
-/
theorem console_recovers (history : Fin P.inputSize → K) (before : List (Tick P)) {goal : Console}
    (orderly : Orderly goal.armed goal.mode) :
    ∃ panels : List Panel, panels.length ≤ 11 ∧ ∀ others : List (Tick P),
      others.length = panels.length →
        consoleOf (after history (before ++ List.zipWith Panel.onto panels others)) = goal := by
  have from_any := Console.run_toRest (consoleOf (after history before))
  refine ⟨(consoleOf (after history before)).toRest ++ goal.fromRest,
    Console.length_route_le _ goal, fun others paired => ?_⟩
  rw [consoleOf_after_append, map_panelOf_onto paired, run_append, from_any]
  exact Console.run_fromRest orderly

/-- Walking with control on, from the start. -/
theorem console_recovers_walking :
    ∃ panels : List Panel, panels.length ≤ 11 ∧
      ∀ others : List (Tick (levelProgram jointNames.symm)), others.length = panels.length →
        consoleOf (levelAfter jointNames.symm ([] ++ List.zipWith Panel.onto panels others)) =
          ⟨.usermode, true, false, false⟩ :=
  console_recovers (fun _ => 0) [] (by decide)

/-! ## Exactly the reachable consoles -/

theorem start_startup : Console.start.Startup := by decide

/-- Whether button 9 has been pressed tells the two kinds of consoles apart. -/
theorem consoleOf_after_kind (history : Fin P.inputSize → K) (ticks : List (Tick P)) :
    if ∃ t ∈ ticks, t.button 9 = 1 then (consoleOf (after history ticks)).Operational
    else (consoleOf (after history ticks)).Startup := by
  have kind := start_startup.run (ticks.map panelOf)
  rw [← consoleOf_after history] at kind
  simp only [pressed_iff] at kind
  exact kind

theorem not_operational_of_startup {c : Console} (startup : c.Startup) : ¬ c.Operational := by
  obtain ⟨disarmed, _, mode⟩ := startup
  unfold Console.Operational Orderly
  rw [disarmed]
  rcases mode with mode | mode <;> simp [mode]

/-- Some run ends in the console that the panels lead to. -/
theorem exists_ticks_of_panels (history : Fin P.inputSize → K) (panels : List Panel) :
    ∃ ticks : List (Tick P), consoleOf (after history ticks) = run Console.next .start panels := by
  refine ⟨List.zipWith Panel.onto panels (List.replicate panels.length (stillTick [] 0)), ?_⟩
  rw [consoleOf_after, map_panelOf_onto (List.length_replicate)]

/--
The consoles that runs with a press of button 9 end in are exactly those in which the robot
is passive or lies while control is off, and is not passive while control is on.  The runs
without a press end exactly in those with control off in which the robot stands or walks.
-/
theorem reachable_consoles (history : Fin P.inputSize → K) (c : Console) :
    ((∃ ticks : List (Tick P), (∃ t ∈ ticks, t.button 9 = 1) ∧
        consoleOf (after history ticks) = c) ↔ Orderly c.armed c.mode) ∧
      ((∃ ticks : List (Tick P), (∀ t ∈ ticks, t.button 9 ≠ 1) ∧
        consoleOf (after history ticks) = c) ↔
          c.armed = false ∧ c.used9 = false ∧ (c.mode = .stand ∨ c.mode = .usermode)) := by
  have kind (ticks : List (Tick P)) := consoleOf_after_kind history ticks
  constructor
  · constructor
    · rintro ⟨ticks, pressed, rfl⟩
      have operational := kind ticks
      rwa [if_pos pressed] at operational
    · intro orderly
      obtain ⟨ticks, ended⟩ :=
        exists_ticks_of_panels history (Console.start.toRest ++ c.fromRest)
      rw [run_append, Console.run_toRest, Console.run_fromRest orderly] at ended
      refine ⟨ticks, ?_, ended⟩
      by_contra quiet
      have startup := kind ticks
      rw [if_neg quiet, ended] at startup
      exact not_operational_of_startup startup orderly
  · constructor
    · rintro ⟨ticks, quiet, rfl⟩
      have startup := kind ticks
      rwa [if_neg (by simpa using quiet)] at startup
    · intro startup
      obtain ⟨ticks, ended⟩ := exists_ticks_of_panels history c.boot
      rw [Console.run_boot startup] at ended
      refine ⟨ticks, ?_, ended⟩
      by_contra pressed
      have operational := kind ticks
      rw [if_pos (by simpa using pressed), ended] at operational
      exact not_operational_of_startup startup operational

/-- Passive with control off and the press of button 9 used up. -/
theorem reachable_consoles_passive :
    ∃ ticks : List (Tick (levelProgram jointNames.symm)), (∃ t ∈ ticks, t.button 9 = 1) ∧
      consoleOf (levelAfter jointNames.symm ticks) = ⟨.default, false, true, false⟩ :=
  (reachable_consoles (fun _ => 0) ⟨.default, false, true, false⟩).1.mpr (by decide)

end NoetixE1.Low
