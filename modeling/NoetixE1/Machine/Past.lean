import Mathlib.Data.List.Zip
import NoetixE1.Machine.Runs

/-!
# What has happened in a run

A run can be asked for its past: whether something happened after which something else held
without a break, and when something happened for the last time.  A question about all ticks of
a run and what came before them is answered by trying all ways to split the run.
-/

namespace NoetixE1.Machine

variable {State Input : Type*} (step : State → Input → State)

/-- Some tick of the run meets `opens`, and that tick and all after it meet `keeps`. -/
def Since (opens keeps : State → Input → Prop) (state : State) (inputs : List Input) : Prop :=
  ∃ before opening stay, inputs = before ++ opening :: stay ∧
    opens (run step state before) opening ∧
    Along step keeps (run step state before) (opening :: stay)

theorem not_since_nil (opens keeps : State → Input → Prop) (state : State) :
    ¬ Since step opens keeps state [] := by
  rintro ⟨before, opening, stay, split, _⟩
  exact List.append_ne_nil_of_right_ne_nil before (List.cons_ne_nil opening stay) split.symm

/-- It opens with the first tick, or later. -/
theorem since_cons {opens keeps : State → Input → Prop} {state : State} {input : Input}
    {rest : List Input} :
    Since step opens keeps state (input :: rest) ↔
      opens state input ∧ Along step keeps state (input :: rest) ∨
        Since step opens keeps (step state input) rest := by
  constructor
  · rintro ⟨before, opening, stay, split, opened, kept⟩
    cases before with
    | nil =>
        obtain ⟨rfl, rfl⟩ := List.cons.inj split
        exact Or.inl ⟨opened, kept⟩
    | cons first before =>
        obtain ⟨rfl, rfl⟩ := List.cons.inj split
        exact Or.inr ⟨before, opening, stay, rfl, opened, kept⟩
  · rintro (⟨opened, kept⟩ | ⟨before, opening, stay, rfl, opened, kept⟩)
    · exact ⟨[], input, rest, rfl, opened, kept⟩
    · exact ⟨input :: before, opening, stay, rfl, opened, kept⟩

/-- It opens with the last tick, or before. -/
theorem since_concat {opens keeps : State → Input → Prop} {state : State} {inputs : List Input}
    {last : Input} :
    Since step opens keeps state (inputs ++ [last]) ↔
      keeps (run step state inputs) last ∧
        (opens (run step state inputs) last ∨ Since step opens keeps state inputs) := by
  induction inputs generalizing state with
  | nil =>
      rw [List.nil_append, since_cons, along_cons, run_nil, or_iff_left (not_since_nil step _ _ _),
        or_iff_left (not_since_nil step _ _ _), and_iff_left (along_nil step keeps _)]
      exact and_comm
  | cons input rest ih =>
      have kept : Along step keeps state (input :: rest ++ [last]) ↔
          Along step keeps state (input :: rest) ∧ keeps (run step state (input :: rest)) last := by
        rw [along_append]
        exact and_congr_right fun _ => and_iff_left (along_nil step keeps _)
      rw [List.cons_append, since_cons, since_cons, ih, ← List.cons_append, kept, run_cons]
      tauto

instance Since.decidable (opens keeps : State → Input → Prop)
    [∀ state input, Decidable (opens state input)] [∀ state input, Decidable (keeps state input)]
    (state : State) : (inputs : List Input) → Decidable (Since step opens keeps state inputs)
  | [] => isFalse (not_since_nil step opens keeps state)
  | input :: rest =>
      haveI := Since.decidable opens keeps (step state input) rest
      decidable_of_iff _ (since_cons step).symm

/-- What happened in a run happened for a last time. -/
theorem exists_last (happens : State → Input → Prop) {state : State} {inputs : List Input}
    (once : ∃ before input after, inputs = before ++ input :: after ∧
      happens (run step state before) input) :
    ∃ before last after, inputs = before ++ last :: after ∧
      happens (run step state before) last ∧
      Along step (fun state input => ¬ happens state input)
        (step (run step state before) last) after := by
  induction inputs generalizing state with
  | nil =>
      obtain ⟨before, input, after, split, _⟩ := once
      exact absurd split.symm
        (List.append_ne_nil_of_right_ne_nil before (List.cons_ne_nil input after))
  | cons input rest ih =>
      by_cases later : ∃ before next after, rest = before ++ next :: after ∧
          happens (run step (step state input) before) next
      · obtain ⟨before, last, after, rfl, happened, quiet⟩ := ih later
        exact ⟨input :: before, last, after, rfl, happened, quiet⟩
      · have quiet : Along step (fun state input => ¬ happens state input) (step state input)
            rest := by
          rw [along_iff_forall_split]
          intro before next after split happened
          exact later ⟨before, next, after, split, happened⟩
        obtain ⟨before, next, after, split, happened⟩ := once
        cases before with
        | nil =>
            obtain ⟨rfl, rfl⟩ := List.cons.inj split
            exact ⟨[], input, rest, rfl, happened, quiet⟩
        | cons first before =>
            obtain ⟨rfl, rfl⟩ := List.cons.inj split
            exact absurd ⟨before, next, after, rfl, happened⟩ later

/-! ## Splits -/

/-- What is asked of a split at the head of its second part. -/
def AskedAt (asked : List Input → Input → List Input → Prop) (before : List Input) :
    List Input → Prop
  | [] => True
  | input :: after => asked before input after

instance AskedAt.decidable (asked : List Input → Input → List Input → Prop)
    [∀ before input after, Decidable (asked before input after)] (before : List Input) :
    (rest : List Input) → Decidable (AskedAt asked before rest)
  | [] => isTrue True.intro
  | input :: after => inferInstanceAs (Decidable (asked before input after))

/-- What is asked of every split of a run can be decided. -/
instance splits.decidable (asked : List Input → Input → List Input → Prop)
    [∀ before input after, Decidable (asked before input after)] (inputs : List Input) :
    Decidable (∀ before input after, inputs = before ++ input :: after →
      asked before input after) :=
  decidable_of_iff (∀ split ∈ inputs.inits.zip inputs.tails, AskedAt asked split.1 split.2)
    ⟨fun every before input after split =>
        every (before, input :: after) (List.mem_zip_inits_tails.mpr split.symm),
      fun every => by
        rintro ⟨before, rest⟩ member
        cases rest with
        | nil => exact True.intro
        | cons input after =>
            exact every before input after (List.mem_zip_inits_tails.mp member).symm⟩

/-! ## Remembered runs -/

/-- A machine that remembers its inputs. -/
def remember (earlier : List Input) (input : Input) : List Input := earlier ++ [input]

theorem run_remember (earlier inputs : List Input) : run remember earlier inputs = earlier ++ inputs := by
  induction inputs generalizing earlier with
  | nil => exact (List.append_nil earlier).symm
  | cons input rest ih =>
      rw [run_cons, ih, remember, List.append_assoc, List.singleton_append]

/-- What is asked of every tick and the inputs before it. -/
theorem along_remember_iff {asked : List Input → Input → Prop} {inputs : List Input} :
    Along remember asked [] inputs ↔
      ∀ before input after, inputs = before ++ input :: after → asked before input := by
  rw [along_iff_forall_split]
  simp only [run_remember, List.nil_append]

end NoetixE1.Machine
