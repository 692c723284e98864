import Mathlib.Data.List.Flatten
import Mathlib.Logic.Function.Basic

/-!
# Critical sections under a shared mutex

Threads read and write the words of a store one at a time.  Every access lies in a critical
section: a unique one excludes all others, shared ones exclude only unique ones and do not
write.  However the accesses interleave, the completed sections could have run one after
another in the order in which they ended.
-/

namespace NoetixE1.SharedMutex

variable {Thread Word Value : Type*} [DecidableEq Thread] [DecidableEq Word]

/-- An access to a word, with the value read or written. -/
inductive Access (Word Value : Type*) where
  | read (word : Word) (value : Value)
  | write (word : Word) (value : Value)

/-! ## One section after another -/

/-- The store after the accesses. -/
def perform : (Word → Value) → List (Access Word Value) → Word → Value
  | store, [] => store
  | store, .read _ _ :: rest => perform store rest
  | store, .write word value :: rest => perform (Function.update store word value) rest

/-- Every read returns what is in the store then. -/
def Consistent : (Word → Value) → List (Access Word Value) → Prop
  | _, [] => True
  | store, .read word value :: rest => value = store word ∧ Consistent store rest
  | store, .write word value :: rest => Consistent (Function.update store word value) rest

theorem perform_append (store : Word → Value) (first second : List (Access Word Value)) :
    perform store (first ++ second) = perform (perform store first) second := by
  induction first generalizing store with
  | nil => rfl
  | cons access rest ih =>
      cases access with
      | read word value => exact ih store
      | write word value => exact ih (Function.update store word value)

theorem consistent_append {store : Word → Value} {first second : List (Access Word Value)} :
    Consistent store (first ++ second) ↔
      Consistent store first ∧ Consistent (perform store first) second := by
  induction first generalizing store with
  | nil => exact (iff_of_eq (true_and _)).symm
  | cons access rest ih =>
      cases access with
      | read word value => exact (and_congr_right fun _ => ih).trans and_assoc.symm
      | write word value => exact ih

/-- A section that only reads what is in the store. -/
def Sees (store : Word → Value) (log : List (Access Word Value)) : Prop :=
  ∀ access ∈ log, ∃ word, access = .read word (store word)

theorem Sees.consistent {store : Word → Value} {log : List (Access Word Value)}
    (sees : Sees store log) : Consistent store log ∧ perform store log = store := by
  induction log with
  | nil => exact ⟨True.intro, rfl⟩
  | cons access rest ih =>
      obtain ⟨word, rfl⟩ := sees access List.mem_cons_self
      obtain ⟨consistent, same⟩ := ih fun later member => sees later (List.mem_cons_of_mem _ member)
      exact ⟨⟨rfl, consistent⟩, same⟩

/-! ## Interleaved sections -/

/-- Where a thread is: inside a section it has a log of its accesses so far. -/
inductive Phase (Word Value : Type*) where
  | outside
  | shared (log : List (Access Word Value))
  | unique (log : List (Access Word Value))

structure State (Thread Word Value : Type*) where
  store : Word → Value
  phase : Thread → Phase Word Value

/-- The thread enters the phase. -/
def State.enter (s : State Thread Word Value) (t : Thread) (phase : Phase Word Value) :
    State Thread Word Value :=
  { s with phase := Function.update s.phase t phase }

/-- One step of one thread, and the log of the section that it ends. -/
inductive Step : State Thread Word Value → Option (List (Access Word Value)) →
    State Thread Word Value → Prop
  | lock {s t} : (∀ u, s.phase u = .outside) → Step s none (s.enter t (.unique []))
  | lockShared {s t} : s.phase t = .outside → (∀ u log, s.phase u ≠ .unique log) →
      Step s none (s.enter t (.shared []))
  | readShared {s t log} (word : Word) : s.phase t = .shared log →
      Step s none (s.enter t (.shared (log ++ [.read word (s.store word)])))
  | readUnique {s t log} (word : Word) : s.phase t = .unique log →
      Step s none (s.enter t (.unique (log ++ [.read word (s.store word)])))
  | write {s t log} (word : Word) (value : Value) : s.phase t = .unique log →
      Step s none (State.enter ⟨Function.update s.store word value, s.phase⟩ t
        (.unique (log ++ [.write word value])))
  | unlockShared {s t log} : s.phase t = .shared log → Step s (some log) (s.enter t .outside)
  | unlock {s t log} : s.phase t = .unique log → Step s (some log) (s.enter t .outside)

/-- The state and the completed sections after some steps. -/
inductive Run (start : State Thread Word Value) :
    List (List (Access Word Value)) → State Thread Word Value → Prop
  | start : Run start [] start
  | inside {done s s'} : Run start done s → Step s none s' → Run start done s'
  | completes {done s log s'} : Run start done s → Step s (some log) s' →
      Run start (done ++ [log]) s'

/-! ## Steps keep the order -/

/-- The sections that are open only read what is in the store. -/
structure Reading (committed : Word → Value) (s : State Thread Word Value) : Prop where
  store : s.store = committed
  phase : ∀ t, s.phase t = .outside ∨ ∃ log, s.phase t = .shared log ∧ Sees committed log

/-- The one section that is open has this log. -/
structure Writing (committed : Word → Value) (s : State Thread Word Value) (t : Thread)
    (log : List (Access Word Value)) : Prop where
  inside : s.phase t = .unique log
  alone : ∀ u, u ≠ t → s.phase u = .outside
  consistent : Consistent committed log
  store : s.store = perform committed log

/-- The completed sections leave `committed`, and the open ones fit it. -/
def Fits (committed : Word → Value) (s : State Thread Word Value) : Prop :=
  Reading committed s ∨ ∃ t log, Writing committed s t log

section Steps

variable {committed : Word → Value} {s : State Thread Word Value} {t : Thread}
  {log : List (Access Word Value)}

omit [DecidableEq Word] in
@[simp] theorem enter_self (s : State Thread Word Value) (t : Thread) (phase : Phase Word Value) :
    (s.enter t phase).phase t = phase :=
  Function.update_self _ _ _

omit [DecidableEq Word] in
theorem enter_of_ne (s : State Thread Word Value) {t u : Thread} (apart : u ≠ t)
    (phase : Phase Word Value) : (s.enter t phase).phase u = s.phase u :=
  Function.update_of_ne apart _ _

omit [DecidableEq Thread] in
theorem Fits.reading (fits : Fits committed s) (none : ∀ u log, s.phase u ≠ .unique log) :
    Reading committed s :=
  fits.resolve_right fun ⟨writer, log, writing⟩ => none writer log writing.inside

omit [DecidableEq Thread] in
theorem Fits.writing (fits : Fits committed s) (inside : s.phase t = .unique log) :
    Writing committed s t log := by
  rcases fits with reading | ⟨writer, written, writing⟩
  · rcases reading.phase t with out | ⟨_, shared, _⟩
    · rw [inside] at out
      cases out
    · rw [inside] at shared
      cases shared
  · have same : t = writer := by
      by_contra apart
      rw [writing.alone t apart] at inside
      cases inside
    subst same
    have logs := writing.inside
    rw [inside] at logs
    cases logs
    exact writing

omit [DecidableEq Thread] in
/-- While a thread reads in a shared section, nobody writes. -/
theorem Fits.reading_of_shared (fits : Fits committed s) (inside : s.phase t = .shared log) :
    Reading committed s ∧ Sees committed log := by
  have reading : Reading committed s := by
    refine fits.reading fun u written writes => ?_
    have others := (fits.writing writes).alone t fun same => by
      rw [same, writes] at inside
      cases inside
    rw [inside] at others
    cases others
  refine ⟨reading, ?_⟩
  rcases reading.phase t with out | ⟨_, shared, sees⟩
  · rw [inside] at out
    cases out
  · rw [inside] at shared
    cases shared
    exact sees

omit [DecidableEq Word] in
/-- A thread may enter or leave a shared section while nobody writes. -/
theorem Reading.enter (reading : Reading committed s) {phase : Phase Word Value}
    (allowed : phase = .outside ∨ ∃ log, phase = .shared log ∧ Sees committed log) :
    Reading committed (s.enter t phase) where
  store := reading.store
  phase u := by
    by_cases same : u = t
    · subst same
      rw [enter_self]
      exact allowed
    · rw [enter_of_ne s same]
      exact reading.phase u

/-- The open unique section makes one more access. -/
theorem Writing.access (writing : Writing committed s t log) (access : Access Word Value)
    (consistent : Consistent s.store [access]) :
    Writing committed (State.enter ⟨perform s.store [access], s.phase⟩ t
      (.unique (log ++ [access]))) t (log ++ [access]) where
  inside := enter_self _ t _
  alone u apart := (enter_of_ne _ apart _).trans (writing.alone u apart)
  consistent := by
    rw [consistent_append, ← writing.store]
    exact ⟨writing.consistent, consistent⟩
  store := by
    rw [perform_append, ← writing.store]
    rfl

/-- A step inside a section keeps what the completed sections leave. -/
theorem Fits.step (fits : Fits committed s) {s' : State Thread Word Value}
    (step : Step s none s') : Fits committed s' := by
  cases step with
  | @lock t free =>
      have reading : Reading committed s := fits.reading fun u log inside => by
        rw [free u] at inside
        cases inside
      refine Or.inr ⟨t, [], enter_self s t _, fun u apart => ?_, True.intro, reading.store⟩
      exact (enter_of_ne s apart _).trans (free u)
  | lockShared _ free =>
      exact Or.inl ((fits.reading free).enter (Or.inr ⟨[], rfl, fun _ member => by cases member⟩))
  | @readShared t log word inside =>
      obtain ⟨reading, sees⟩ := fits.reading_of_shared inside
      refine Or.inl (reading.enter (Or.inr ⟨_, rfl, fun access member => ?_⟩))
      rcases List.mem_append.mp member with earlier | last
      · exact sees access earlier
      · rw [List.mem_singleton.mp last, reading.store]
        exact ⟨word, rfl⟩
  | readUnique word inside =>
      exact Or.inr ⟨_, _, (fits.writing inside).access (.read word _) ⟨rfl, True.intro⟩⟩
  | write word value inside =>
      exact Or.inr ⟨_, _, (fits.writing inside).access (.write word value) True.intro⟩

/-- The end of a section adds it to the completed ones. -/
theorem Fits.completes (fits : Fits committed s) {s' : State Thread Word Value}
    (step : Step s (some log) s') : Consistent committed log ∧ Fits (perform committed log) s' := by
  cases step with
  | unlockShared inside =>
      obtain ⟨reading, sees⟩ := fits.reading_of_shared inside
      obtain ⟨consistent, same⟩ := sees.consistent
      rw [same]
      exact ⟨consistent, Or.inl (reading.enter (Or.inl rfl))⟩
  | @unlock t _ inside =>
      have writing := fits.writing inside
      refine ⟨writing.consistent, Or.inl ⟨writing.store, fun u => Or.inl ?_⟩⟩
      by_cases same : u = t
      · subst same
        exact enter_self s u _
      · exact (enter_of_ne s same _).trans (writing.alone u same)

end Steps

/-- The completed sections of every interleaving could have run one after another. -/
theorem Run.serial {start s : State Thread Word Value} {done : List (List (Access Word Value))}
    (run : Run start done s) (idle : ∀ t, start.phase t = .outside) :
    Consistent start.store done.flatten ∧ Fits (perform start.store done.flatten) s := by
  induction run with
  | start => exact ⟨True.intro, Or.inl ⟨rfl, fun t => Or.inl (idle t)⟩⟩
  | inside _ step ih => exact ⟨ih.1, ih.2.step step⟩
  | completes _ step ih =>
      obtain ⟨consistent, fits⟩ := ih.2.completes step
      rw [List.flatten_concat, consistent_append, perform_append]
      exact ⟨⟨ih.1, consistent⟩, fits⟩

end NoetixE1.SharedMutex
