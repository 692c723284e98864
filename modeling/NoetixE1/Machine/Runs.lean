import Mathlib.Data.List.Induction

/-!
# Runs of an input-driven machine

A machine is a step function: the state before a tick and what the tick reads
give the state after it.  A run is a list of inputs.  Properties of runs are
stated tick by tick, about the state before the tick and its input; the rules
below turn what one tick preserves into what every run preserves.
-/

namespace NoetixE1.Machine

variable {State Input : Type*} (step : State → Input → State)

/-- The state after the inputs of a run, the first input first. -/
def run : State → List Input → State
  | state, [] => state
  | state, input :: rest => run (step state input) rest

@[simp] theorem run_nil (state : State) : run step state [] = state := rfl

@[simp] theorem run_cons (state : State) (input : Input) (rest : List Input) :
    run step state (input :: rest) = run step (step state input) rest := rfl

theorem run_append (state : State) (first second : List Input) :
    run step state (first ++ second) = run step (run step state first) second := by
  induction first generalizing state with
  | nil => rfl
  | cons input rest ih => exact ih (step state input)

theorem run_concat (state : State) (inputs : List Input) (last : Input) :
    run step state (inputs ++ [last]) = step (run step state inputs) last :=
  run_append step state inputs [last]

/-- One-tick preservation gives preservation over every run. -/
theorem run_invariant {invariant : State → Prop}
    (preserved : ∀ state input, invariant state → invariant (step state input))
    (inputs : List Input) {state : State} (initial : invariant state) :
    invariant (run step state inputs) := by
  induction inputs generalizing state with
  | nil => exact initial
  | cons input rest ih => exact ih (preserved state input initial)

/-! ## Properties of every tick of a run -/

/-- `Along step holds state inputs`: every tick of the run meets `holds`. -/
def Along (holds : State → Input → Prop) : State → List Input → Prop
  | _, [] => True
  | state, input :: rest => holds state input ∧ Along holds (step state input) rest

@[simp] theorem along_nil (holds : State → Input → Prop) (state : State) :
    Along step holds state [] := True.intro

@[simp] theorem along_cons {holds : State → Input → Prop} {state : State}
    {input : Input} {rest : List Input} :
    Along step holds state (input :: rest) ↔
      holds state input ∧ Along step holds (step state input) rest := Iff.rfl

instance Along.decidable (holds : State → Input → Prop)
    [every : ∀ state input, Decidable (holds state input)] (state : State) :
    (inputs : List Input) → Decidable (Along step holds state inputs)
  | [] => isTrue True.intro
  | input :: rest =>
      haveI := Along.decidable holds (step state input) rest
      inferInstanceAs (Decidable (holds state input ∧ Along step holds (step state input) rest))

theorem along_append {holds : State → Input → Prop} {state : State}
    {first second : List Input} :
    Along step holds state (first ++ second) ↔
      Along step holds state first ∧ Along step holds (run step state first) second := by
  induction first generalizing state with
  | nil => exact ⟨fun later => ⟨True.intro, later⟩, fun both => both.2⟩
  | cons input rest ih =>
      rw [List.cons_append, along_cons, along_cons, run_cons, ih, and_assoc]

/-- Read tick by tick: the property holds wherever the run is cut. -/
theorem along_iff_forall_split {holds : State → Input → Prop} {state : State}
    {inputs : List Input} :
    Along step holds state inputs ↔
      ∀ before input after, inputs = before ++ input :: after →
        holds (run step state before) input := by
  constructor
  · intro along before input after split
    rw [split] at along
    exact ((along_append step).mp along).2.1
  · induction inputs generalizing state with
    | nil => intro _; exact True.intro
    | cons input rest ih =>
        intro every
        refine ⟨every [] input rest rfl, ih fun before next after split => ?_⟩
        exact every (input :: before) next after (by rw [split]; rfl)

theorem Along.mono {first second : State → Input → Prop}
    (weaker : ∀ state input, first state input → second state input)
    {state : State} {inputs : List Input} (along : Along step first state inputs) :
    Along step second state inputs := by
  induction inputs generalizing state with
  | nil => exact True.intro
  | cons input rest ih => exact ⟨weaker state input along.1, ih along.2⟩

/-- An invariant that survives every tick with the property survives a run of such ticks. -/
theorem Along.run_invariant {holds : State → Input → Prop} {invariant : State → Prop}
    (preserved : ∀ state input, invariant state → holds state input →
      invariant (step state input))
    {state : State} {inputs : List Input} (along : Along step holds state inputs)
    (initial : invariant state) : invariant (run step state inputs) := by
  induction inputs generalizing state with
  | nil => exact initial
  | cons input rest ih => exact ih along.2 (preserved state input initial along.1)

/--
Two tick properties agree along a run when they agree on the states of an
invariant, and the invariant survives every tick that has the second property.
-/
theorem along_iff_of_invariant {invariant : State → Prop} {first second : State → Input → Prop}
    (agree : ∀ state input, invariant state → (first state input ↔ second state input))
    (preserved : ∀ state input, invariant state → second state input →
      invariant (step state input))
    {state : State} (initial : invariant state) (inputs : List Input) :
    Along step first state inputs ↔ Along step second state inputs := by
  induction inputs generalizing state with
  | nil => exact Iff.rfl
  | cons input rest ih =>
      rw [along_cons, along_cons, agree state input initial]
      exact and_congr_right fun met => ih (preserved state input initial met)

/-! ## Outputs and counts -/

/-- What the ticks of a run give out, in order. -/
def emitted {Output : Type*} (output : State → Input → List Output) :
    State → List Input → List Output
  | _, [] => []
  | state, input :: rest => output state input ++ emitted output (step state input) rest

theorem emitted_concat {Output : Type*} (output : State → Input → List Output) (state : State)
    (inputs : List Input) (last : Input) :
    emitted step output state (inputs ++ [last]) =
      emitted step output state inputs ++ output (run step state inputs) last := by
  induction inputs generalizing state with
  | nil => exact List.append_nil _
  | cons input rest ih =>
      rw [List.cons_append, emitted, ih, run_cons, ← List.append_assoc]
      rfl

/-- What a run gives out has a property when every tick gives out only such things. -/
theorem forall_mem_emitted {Output : Type*} {output : State → Input → List Output}
    {good : Output → Prop} {state : State} {inputs : List Input} :
    (∀ out ∈ emitted step output state inputs, good out) ↔
      Along step (fun state input => ∀ out ∈ output state input, good out) state inputs := by
  induction inputs generalizing state with
  | nil => exact iff_of_true (fun _ absurd => by cases absurd) True.intro
  | cons input rest ih =>
      unfold emitted
      rw [List.forall_mem_append, ih, along_cons]

/-- How many ticks of a run satisfy `counts`. -/
def tally (counts : State → Input → Prop) [∀ state input, Decidable (counts state input)] :
    State → List Input → ℕ
  | _, [] => 0
  | state, input :: rest =>
      (if counts state input then 1 else 0) + tally counts (step state input) rest

theorem tally_concat (counts : State → Input → Prop)
    [∀ state input, Decidable (counts state input)] (state : State)
    (inputs : List Input) (last : Input) :
    tally step counts state (inputs ++ [last]) =
      tally step counts state inputs + if counts (run step state inputs) last then 1 else 0 := by
  induction inputs generalizing state with
  | nil => exact Nat.add_comm _ _
  | cons input rest ih =>
      rw [List.cons_append, tally, ih, run_cons, ← Nat.add_assoc]
      rfl

/-! ## Episodes

An episode is a stretch of consecutive ticks: one tick that opens it and any
number of ticks that keep it open.
-/

/-- The stretch `inputs`, taken from `state`, opens with one tick and stays open. -/
def Episode (opens keeps : State → Input → Prop) (state : State) : List Input → Prop
  | [] => False
  | first :: rest => opens state first ∧ Along step keeps (step state first) rest

theorem episode_concat {opens keeps : State → Input → Prop} {state : State}
    {inputs : List Input} (nonempty : inputs ≠ []) (last : Input) :
    Episode step opens keeps state (inputs ++ [last]) ↔
      Episode step opens keeps state inputs ∧ keeps (run step state inputs) last := by
  cases inputs with
  | nil => exact absurd rfl nonempty
  | cons first rest =>
      change opens state first ∧ Along step keeps (step state first) (rest ++ [last]) ↔ _
      rw [along_append, along_cons, and_iff_left (along_nil step keeps _), ← and_assoc]
      exact Iff.rfl

/--
Induction along an episode: a property of the ticks so far and of the state
they lead to is established by the opening tick and kept by every other tick.
-/
theorem Episode.induction {opens keeps : State → Input → Prop}
    {motive : List Input → State → Prop} {state : State}
    (opening : ∀ first, opens state first → motive [first] (step state first))
    (keeping : ∀ inputs next, Episode step opens keeps state inputs →
      motive inputs (run step state inputs) → keeps (run step state inputs) next →
      motive (inputs ++ [next]) (step (run step state inputs) next))
    {inputs : List Input} (episode : Episode step opens keeps state inputs) :
    motive inputs (run step state inputs) := by
  induction inputs using List.reverseRecOn with
  | nil => exact False.elim episode
  | append_singleton inputs last ih =>
      by_cases nonempty : inputs = []
      · subst nonempty
        exact opening last episode.1
      · obtain ⟨earlier, kept⟩ := (episode_concat step nonempty last).mp episode
        rw [run_concat]
        exact keeping inputs last earlier (ih earlier) kept

/-- Every nonempty beginning of an episode is an episode. -/
theorem Episode.beginning {opens keeps : State → Input → Prop} {state : State}
    {first second : List Input} (nonempty : first ≠ [])
    (episode : Episode step opens keeps state (first ++ second)) :
    Episode step opens keeps state first := by
  cases first with
  | nil => exact absurd rfl nonempty
  | cons opening rest => exact ⟨episode.1, ((along_append step).mp episode.2).1⟩

end NoetixE1.Machine
