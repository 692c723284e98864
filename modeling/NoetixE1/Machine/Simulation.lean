import Mathlib.Data.List.Forall2
import NoetixE1.Machine.Runs

/-!
# Two machines side by side

Related states stay related when both machines take inputs that match; so the
states after matching runs are related, and the runs give out the same when
related states do.  A view of the states is the special case of a function.
-/

namespace NoetixE1.Machine

variable {State State' Input Input' : Type*}
  (step : State → Input → State) (step' : State' → Input' → State')

/-- One tick on matching inputs keeps the relation. -/
def Simulates (related : State → State' → Prop) (matching : Input → Input' → Prop) : Prop :=
  ∀ ⦃state state'⦄, related state state' → ∀ ⦃input input'⦄, matching input input' →
    related (step state input) (step' state' input')

variable {step step'} {related : State → State' → Prop} {matching : Input → Input' → Prop}

theorem Simulates.run (simulates : Simulates step step' related matching)
    {inputs : List Input} {inputs' : List Input'} (matched : List.Forall₂ matching inputs inputs')
    {state : State} {state' : State'} (start : related state state') :
    related (run step state inputs) (run step' state' inputs') := by
  induction matched generalizing state state' with
  | nil => exact start
  | cons first _ ih => exact ih (simulates start first)

/-- Matching runs give out the same when matching ticks from related states do. -/
theorem Simulates.emitted {Output : Type*} (simulates : Simulates step step' related matching)
    {output : State → Input → List Output} {output' : State' → Input' → List Output}
    (agree : ∀ ⦃state state'⦄, related state state' → ∀ ⦃input input'⦄, matching input input' →
      output state input = output' state' input')
    {inputs : List Input} {inputs' : List Input'} (matched : List.Forall₂ matching inputs inputs')
    {state : State} {state' : State'} (start : related state state') :
    emitted step output state inputs = emitted step' output' state' inputs' := by
  induction matched generalizing state state' with
  | nil => rfl
  | cons first _ ih =>
      unfold Machine.emitted
      rw [agree start first, ih (simulates start first)]

/-- A view that commutes with every tick commutes with every run. -/
theorem run_view {view : State → State'} {read : Input → Input'} {invariant : State → Prop}
    (preserved : ∀ state input, invariant state → invariant (step state input))
    (commutes : ∀ state input, invariant state →
      view (step state input) = step' (view state) (read input))
    {state : State} (initial : invariant state) (inputs : List Input) :
    view (Machine.run step state inputs) =
      Machine.run step' (view state) (inputs.map read) := by
  have simulates : Simulates step step' (fun state state' => invariant state ∧ view state = state')
      (fun input input' => read input = input') := by
    rintro state _ ⟨holds, rfl⟩ input _ rfl
    exact ⟨preserved state input holds, commutes state input holds⟩
  have matched :
      List.Forall₂ (fun input input' => read input = input') inputs (inputs.map read) := by
    induction inputs with
    | nil => exact List.Forall₂.nil
    | cons input rest ih => exact List.Forall₂.cons rfl ih
  exact (simulates.run matched ⟨initial, rfl⟩).2

/-- A property of the viewed ticks holds along a run when it holds along the viewed run. -/
theorem along_view {view : State → State'} {read : Input → Input'} {invariant : State → Prop}
    (preserved : ∀ state input, invariant state → invariant (step state input))
    (commutes : ∀ state input, invariant state →
      view (step state input) = step' (view state) (read input))
    {holds : State' → Input' → Prop} {state : State} (initial : invariant state)
    (inputs : List Input) :
    Along step (fun state input => holds (view state) (read input)) state inputs ↔
      Along step' holds (view state) (inputs.map read) := by
  induction inputs generalizing state with
  | nil => exact Iff.rfl
  | cons input rest ih =>
      rw [along_cons, List.map_cons, along_cons, ← commutes state input initial,
        ih (preserved state input initial)]

end NoetixE1.Machine
