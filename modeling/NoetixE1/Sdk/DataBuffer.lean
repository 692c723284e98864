import Mathlib.Data.List.Forall2
import NoetixE1.Library.SharedMutex

/-!
# `DataBuffer`

The template of `common.h` that hands the newest value from one thread to others.  A
`shared_ptr` is two words, so it can be read while half of it has been replaced; the
`shared_mutex` prevents that.
-/

namespace NoetixE1.Sdk

open SharedMutex

/-- The words of a `shared_ptr`. -/
inductive Word where
  | pointer
  | control
  deriving DecidableEq

/-- What one call of `make_shared` allocates. -/
structure Allocation (T : Type) where
  address : ℕ
  object : T

/-- A `shared_ptr` as its two words; a null pointer has neither. -/
structure SharedPtr (T : Type) where
  pointer : Option (Allocation T)
  control : Option (Allocation T)

variable {T : Type}

/-- Both words belong to the same allocation. -/
def SharedPtr.whole (allocation : Option (Allocation T)) : SharedPtr T := ⟨allocation, allocation⟩

/-- A finished call of a member function. -/
inductive Operation (T : Type) where
  | setData (made : Allocation T)
  | clear
  | getData (result : SharedPtr T)

/-- An access to the words of `data`. -/
abbrev WordAccess (T : Type) := Access Word (Option (Allocation T))

/-- What the member functions do to `data` while they hold the mutex.  An assignment may
write the two words in any order. -/
inductive Body : List (WordAccess T) → Operation T → Prop
  | setData {log} (made : Allocation T) : (∀ data, perform data log = fun _ => some made) →
      Body log (.setData made)
  | clear {log} : (∀ data, perform data log = fun _ => none) → Body log .clear
  | getNull : Body [.read .pointer none] (.getData (.whole none))
  | getData (tested : Allocation T) (pointer control : Option (Allocation T)) :
      Body [.read .pointer (some tested), .read .pointer pointer, .read .control control]
        (.getData ⟨pointer, control⟩)

/-- The calls one after another: `GetData` returns what the last `SetData` or `Clear` left. -/
def Sequential : Option (Allocation T) → List (Operation T) → Prop
  | _, [] => True
  | _, .setData made :: rest => Sequential (some made) rest
  | _, .clear :: rest => Sequential none rest
  | data, .getData result :: rest => result = .whole data ∧ Sequential data rest

/-- A buffer that no thread uses yet. -/
def fresh {Thread : Type} : State Thread Word (Option (Allocation T)) :=
  ⟨fun _ => none, fun _ => .outside⟩

theorem Body.sequential {logs : List (List (WordAccess T))} {operations : List (Operation T)}
    (bodies : List.Forall₂ Body logs operations) {data : Option (Allocation T)}
    (consistent : Consistent (fun _ => data) logs.flatten) : Sequential data operations := by
  induction bodies generalizing data with
  | nil => exact True.intro
  | @cons log operation logs operations body _ ih =>
      rw [List.flatten_cons, consistent_append] at consistent
      obtain ⟨here, later⟩ := consistent
      cases body with
      | setData made writes =>
          rw [writes] at later
          exact ih later
      | clear writes =>
          rw [writes] at later
          exact ih later
      | getNull =>
          obtain ⟨seen, _⟩ := here
          exact ⟨congrArg SharedPtr.whole seen, ih later⟩
      | getData tested pointer control =>
          obtain ⟨_, first, second, _⟩ := here
          refine ⟨?_, ih later⟩
          rw [first, second]
          rfl

/--
However the calls of any number of threads interleave, word by word, they are a sequence of
whole calls in the order in which they release the mutex: every `GetData` returns null or
both words of the allocation of the last `SetData`.
-/
theorem calls_linearizable {Thread : Type} [DecidableEq Thread]
    {logs : List (List (WordAccess T))} {s : State Thread Word (Option (Allocation T))}
    (run : Run fresh logs s) {operations : List (Operation T)}
    (bodies : List.Forall₂ Body logs operations) : Sequential none operations :=
  Body.sequential bodies (run.serial fun _ => rfl).1

/-- One thread sets a value, another takes it. -/
theorem calls_linearizable_two :
    Sequential none [.setData ⟨0, 7⟩, .getData (.whole (some (⟨0, 7⟩ : Allocation ℕ)))] := by
  have locked : Run (fresh : State Bool Word (Option (Allocation ℕ))) [] _ :=
    Run.start.inside (.lock (t := false) fun _ => rfl)
  have pointed := locked.inside (.write (t := false) .pointer (some ⟨0, 7⟩) rfl)
  have written := pointed.inside (.write (t := false) .control (some ⟨0, 7⟩) rfl)
  have set := written.completes (.unlock (t := false) rfl)
  have shared := set.inside (.lockShared (t := true) rfl fun u log unique => by
    cases u <;> cases unique)
  have tested := shared.inside (.readShared (t := true) .pointer rfl)
  have copied := tested.inside (.readShared (t := true) .pointer rfl)
  have counted := copied.inside (.readShared (t := true) .control rfl)
  have taken := counted.completes (.unlockShared (t := true) rfl)
  refine calls_linearizable taken (.cons (.setData _ fun data => ?_) (.cons (.getData _ _ _) .nil))
  funext word
  cases word <;> rfl

end NoetixE1.Sdk
