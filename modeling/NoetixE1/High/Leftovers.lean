import NoetixE1.High.Agreement
import NoetixE1.High.Holds
import NoetixE1.Machine.Past

/-!
# What is left on the stack

The locals of the C++ program hold what was on the stack until an iteration overwrites
them: the level of a key when its button is read as 0 or 1, its use when the button is read
as 0 or the branch of the key is taken.  As long as both programs take the same branches the
script tells which cells are left.  So they agree on a run exactly if no condition that the
chain of the script comes to has another truth value on the cells that are left.
-/

namespace NoetixE1.High

open Low Machine

variable {K : Type}

/-! ## Cells that no iteration has overwritten -/

/-- The globals of the script after these snapshots. -/
def scriptAfter (earlier : List (Joydata K)) : Script.Globals :=
  run Script.next Script.initial earlier

/-- The level of the key has not been overwritten: its button has never been 0 or 1. -/
def LevelLeft (key : Fin 14) (earlier : List (Joydata K)) : Prop :=
  ∀ snapshot ∈ earlier, snapshot.button key ≠ 0 ∧ snapshot.button key ≠ 1

/-- Nor has its use: the button has never been 0, and the script has not marked the key. -/
def UseLeft (key : Fin 14) (earlier : List (Joydata K)) : Prop :=
  (∀ snapshot ∈ earlier, snapshot.button key ≠ 0) ∧ (scriptAfter earlier).keyInuse key = 0

instance (key : Fin 14) (earlier : List (Joydata K)) : Decidable (LevelLeft key earlier) :=
  inferInstanceAs (Decidable (∀ snapshot ∈ earlier, _ ∧ _))

instance (key : Fin 14) (earlier : List (Joydata K)) : Decidable (UseLeft key earlier) :=
  inferInstanceAs (Decidable ((∀ snapshot ∈ earlier, _) ∧ _))

/-- The latches of the script, but with what was on the stack in the cells that are left. -/
def leftover (l : Latch) (earlier : List (Joydata K)) : Latch where
  keyUpdown key :=
    if LevelLeft key earlier then l.keyUpdown key else (scriptAfter earlier).keyUpdown key
  keyInuse key :=
    if UseLeft key earlier then l.keyInuse key else (scriptAfter earlier).keyInuse key

/-! ## Conditions that the chain comes to -/

/-- The chain comes to the condition of this branch: no earlier one holds. -/
def Latch.ComesTo (l : Latch) (b : Binding) : Prop :=
  ∀ earlier : Binding, earlier.Before b → ¬ earlier.Enabled l

instance (l : Latch) (b : Binding) : Decidable (l.ComesTo b) :=
  inferInstanceAs (Decidable (∀ earlier : Binding, earlier.Before b → ¬ earlier.Enabled l))

/-- Every condition that the chain of the script comes to in the iteration that reads
`snapshot` has the same truth value on the cells that are left. -/
def Undisturbed (l : Latch) (earlier : List (Joydata K)) (snapshot : Joydata K) : Prop :=
  ∀ b : Binding, ((scriptAfter earlier).scan snapshot.button snapshot.button).ComesTo b →
    (b.Enabled ((scriptAfter earlier).scan snapshot.button snapshot.button) ↔
      b.Enabled ((leftover l earlier).scan snapshot.button snapshot.button))

instance (l : Latch) (earlier : List (Joydata K)) (snapshot : Joydata K) :
    Decidable (Undisturbed l earlier snapshot) :=
  inferInstanceAs (Decidable (∀ b : Binding, Latch.ComesTo _ b → (_ ↔ _)))

/-- No iteration of the run is disturbed by what was on the stack. -/
def NeverDisturbed (l : Latch) (snapshots : List (Joydata K)) : Prop :=
  ∀ earlier snapshot later, snapshots = earlier ++ snapshot :: later →
    Undisturbed l earlier snapshot

instance (l : Latch) (snapshots : List (Joydata K)) : Decidable (NeverDisturbed l snapshots) :=
  inferInstanceAs (Decidable (∀ earlier snapshot later,
    snapshots = earlier ++ snapshot :: later → Undisturbed l earlier snapshot))

/-- The index published first is that of the script, or a playback sets it. -/
def IndexAgrees (fileindex : BitVec 32) (snapshots : List (Joydata K)) : Prop :=
  ∀ first ∈ snapshots.head?, fileindex.setWidth 16 = 0 ∨ PlaysFirst first.button

instance (fileindex : BitVec 32) (snapshots : List (Joydata K)) :
    Decidable (IndexAgrees fileindex snapshots) :=
  inferInstanceAs (Decidable (∀ first ∈ snapshots.head?, _ ∨ _))

theorem undisturbed_iff {l : Latch} {earlier : List (Joydata K)} {snapshot : Joydata K} :
    Undisturbed l earlier snapshot ↔
      (leftover l earlier).picks snapshot.button = (scriptAfter earlier).picks snapshot.button := by
  unfold Latch.picks Latch.chosen
  rw [eq_comm, Priority.find?_eq_find?_iff]
  constructor
  · intro same b _ idle
    refine decide_eq_decide.mpr (same b fun earlier before => ?_)
    exact of_decide_eq_false (idle earlier earlier.mem_order before)
  · intro same b idle
    refine decide_eq_decide.mp (same b b.mem_order fun earlier _ before => ?_)
    exact decide_eq_false (idle earlier before)

/-! ## The cells after an iteration -/

theorem leftover_nil (l : Latch) : leftover l ([] : List (Joydata K)) = l := by
  have level (key : Fin 14) : LevelLeft key ([] : List (Joydata K)) :=
    fun _ member => absurd member List.not_mem_nil
  have use (key : Fin 14) : UseLeft key ([] : List (Joydata K)) :=
    ⟨fun _ member => absurd member List.not_mem_nil, rfl⟩
  unfold leftover
  simp only [level, use, if_true]

theorem scriptAfter_concat (earlier : List (Joydata K)) (snapshot : Joydata K) :
    scriptAfter (earlier ++ [snapshot]) = Script.next (scriptAfter earlier) snapshot :=
  run_concat Script.next Script.initial earlier snapshot

section Concat

variable {key : Fin 14} {earlier : List (Joydata K)} {snapshot : Joydata K}

theorem levelLeft_concat :
    LevelLeft key (earlier ++ [snapshot]) ↔
      LevelLeft key earlier ∧ snapshot.button key ≠ 0 ∧ snapshot.button key ≠ 1 := by
  unfold LevelLeft
  rw [List.forall_mem_append, List.forall_mem_singleton]

theorem useLeft_concat :
    UseLeft key (earlier ++ [snapshot]) ↔
      UseLeft key earlier ∧ snapshot.button key ≠ 0 ∧
        ∀ b, (scriptAfter earlier).picks snapshot.button = some b → key ≠ b.key := by
  unfold UseLeft
  rw [List.forall_mem_append, List.forall_mem_singleton, scriptAfter_concat, Script.next_toLatch,
    Latch.advance, Latch.mark_fresh_iff]
  constructor
  · rintro ⟨⟨never, up⟩, apart, fresh⟩
    rw [Latch.scan_keyInuse_keep up] at fresh
    exact ⟨⟨never, fresh⟩, up, apart⟩
  · rintro ⟨⟨never, fresh⟩, up, apart⟩
    exact ⟨⟨never, up⟩, apart, (Latch.scan_keyInuse_keep up).trans fresh⟩

theorem leftover_level_concat (l : Latch) :
    (leftover l (earlier ++ [snapshot])).keyUpdown key =
      ((leftover l earlier).scan snapshot.button snapshot.button).keyUpdown key := by
  change ite _ _ _ = _
  rw [scriptAfter_concat, Script.next_toLatch, Latch.advance_keyUpdown]
  simp only [levelLeft_concat]
  by_cases up : snapshot.button key = 0
  · rw [if_neg fun left => left.2.1 up, (Latch.scan_released up).1, (Latch.scan_released up).1]
  · by_cases down : snapshot.button key = 1
    · rw [if_neg fun left => left.2.2 down, Latch.scan_pressed down, Latch.scan_pressed down]
    · rw [Latch.scan_keyUpdown_keep up down, Latch.scan_keyUpdown_keep up down]
      exact if_congr (and_iff_left ⟨up, down⟩) rfl rfl

/-- The branch that is taken marks the same key in both. -/
theorem leftover_use_concat {l : Latch}
    (picked : (leftover l earlier).picks snapshot.button =
      (scriptAfter earlier).picks snapshot.button) :
    (leftover l (earlier ++ [snapshot])).keyInuse key =
      ((leftover l earlier).advance snapshot.button).keyInuse key := by
  change ite _ _ _ = _
  rw [scriptAfter_concat, Script.next_toLatch, Latch.advance, Latch.advance, picked]
  simp only [useLeft_concat]
  by_cases apart : ∀ b, (scriptAfter earlier).picks snapshot.button = some b → key ≠ b.key
  · rw [Latch.mark_keyInuse_of_ne apart, Latch.mark_keyInuse_of_ne apart]
    by_cases up : snapshot.button key = 0
    · rw [if_neg fun left => left.2.1 up, (Latch.scan_released up).2, (Latch.scan_released up).2]
    · rw [Latch.scan_keyInuse_keep up, Latch.scan_keyInuse_keep up]
      exact if_congr (and_iff_left ⟨up, apart⟩) rfl rfl
  · rw [if_neg fun left => apart left.2.2]
    push Not at apart
    obtain ⟨b, taken, rfl⟩ := apart
    rw [taken, Latch.mark_keyInuse_self, Latch.mark_keyInuse_self]

/-- An undisturbed iteration leaves what the next one finds. -/
theorem leftover_concat {l : Latch} (undisturbed : Undisturbed l earlier snapshot) :
    (leftover l earlier).advance snapshot.button = leftover l (earlier ++ [snapshot]) := by
  have level (key : Fin 14) : ((leftover l earlier).advance snapshot.button).keyUpdown key =
      (leftover l (earlier ++ [snapshot])).keyUpdown key := by
    rw [Latch.advance_keyUpdown, leftover_level_concat]
  have use (key : Fin 14) : ((leftover l earlier).advance snapshot.button).keyInuse key =
      (leftover l (earlier ++ [snapshot])).keyInuse key :=
    (leftover_use_concat (undisturbed_iff.mp undisturbed)).symm
  exact congrArg₂ Latch.mk (funext level) (funext use)

end Concat

/-! ## Buttons that are 0 or 1 -/

/-- Then only the use of a key can be left: it has been down in every snapshot so far. -/
theorem undisturbed_binary_iff {l : Latch} {earlier : List (Joydata K)} {snapshot : Joydata K}
    (binary : Binary snapshot.button) :
    Undisturbed l earlier snapshot ↔
      ∀ b, (scriptAfter earlier).picks snapshot.button = some b → b ≠ .run →
        UseLeft b.key earlier → l.keyInuse b.key = 0 := by
  constructor
  · intro undisturbed b picked other left
    obtain ⟨enabled, idle⟩ := Latch.chosen_eq_some_iff.mp picked
    have stacked := (undisturbed b idle).mp enabled
    rw [enabled_scan_iff binary _ other] at stacked
    have fresh : (leftover l earlier).keyInuse b.key = 0 := stacked.2.2.2
    exact (if_pos left).symm.trans fresh
  · intro harmless b idle
    by_cases runs : b = .run
    · rw [runs, enabled_run_iff binary, enabled_run_iff binary]
    · have waits := enabled_scan_iff binary (scriptAfter earlier).toLatch runs
      rw [waits, enabled_scan_iff binary _ runs]
      refine and_congr_right fun _ => and_congr_right fun modified => ?_
      refine and_congr_right fun down => ?_
      change _ ↔ ite (UseLeft b.key earlier) _ _ = 0
      split_ifs with left
      · refine iff_of_true left.2 (harmless b ?_ runs left)
        exact Latch.chosen_eq_some_iff.mpr ⟨waits.mpr ⟨runs, modified, down, left.2⟩, idle⟩
      · exact Iff.rfl

/-- On such a remote a run is undisturbed exactly if the script takes no branch but `RUN` for
a key that has been down since the first snapshot and is in use on the stack. -/
theorem neverDisturbed_binary_iff {l : Latch} {snapshots : List (Joydata K)}
    (binary : ∀ snapshot ∈ snapshots, Binary snapshot.button) :
    NeverDisturbed l snapshots ↔
      ∀ earlier snapshot later, snapshots = earlier ++ snapshot :: later →
        ∀ b, (scriptAfter earlier).picks snapshot.button = some b → b ≠ .run →
          UseLeft b.key earlier → l.keyInuse b.key = 0 := by
  refine forall_congr' fun earlier => forall_congr' fun snapshot => forall_congr' fun later => ?_
  refine forall_congr' fun split => undisturbed_binary_iff (binary snapshot ?_)
  rw [split]
  exact List.mem_append_right _ List.mem_cons_self

/-! ## Runs -/

/-- With the same index the programs agree in an iteration that takes the same branch. -/
theorem agree_iff_of_index {m : Locals} {g : Script.Globals} {snapshot : Joydata K}
    (index : m.fileindex.setWidth 16 = BitVec.ofInt 16 g.fileindex) :
    Agree m g snapshot ↔ m.picks snapshot.button = g.picks snapshot.button := by
  refine and_iff_left_of_imp fun same => ?_
  rw [next_fileindex, Script.next_fileindex, same]
  exact recount_congr index _

/-- Programs with the same index publish the same from there on exactly if no iteration is
disturbed and the index of the script fits. -/
theorem published_leftover_iff (caster : Script.IndexCaster) {l : Latch} {earlier : List (Joydata K)}
    {m : Locals} (found : m.toLatch = leftover l earlier)
    (index : m.fileindex.setWidth 16 = BitVec.ofInt 16 (scriptAfter earlier).fileindex)
    (inRange : Script.InRange (scriptAfter earlier)) (snapshots : List (Joydata K)) :
    published m snapshots = Script.published caster (scriptAfter earlier) snapshots ↔
      Along remember (Undisturbed l) earlier snapshots ∧
        Along Script.next Script.Fits (scriptAfter earlier) snapshots := by
  induction snapshots generalizing earlier m with
  | nil => exact iff_of_true rfl ⟨along_nil _ _ _, along_nil _ _ _⟩
  | cons snapshot rest ih =>
      have agrees : Agree m (scriptAfter earlier) snapshot ↔ Undisturbed l earlier snapshot := by
        rw [agree_iff_of_index index, undisturbed_iff, found]
      rw [published_cons_eq_iff caster inRange, along_cons, along_cons, agrees]
      by_cases met : Script.Fits (scriptAfter earlier) snapshot ∧ Undisturbed l earlier snapshot
      · obtain ⟨fits, undisturbed⟩ := met
        have agree := agrees.mpr undisturbed
        have found' : (next m snapshot).toLatch = leftover l (earlier ++ [snapshot]) := by
          rw [next_toLatch, found, leftover_concat undisturbed]
        have index' : (next m snapshot).fileindex.setWidth 16 =
            BitVec.ofInt 16 (scriptAfter (earlier ++ [snapshot])).fileindex := by
          rw [scriptAfter_concat]
          exact agree.2
        have inRange' : Script.InRange (scriptAfter (earlier ++ [snapshot])) := by
          rw [scriptAfter_concat]
          exact (Script.next_inRange_iff inRange).mpr fits
        have later := ih found' index' inRange'
        rw [scriptAfter_concat] at later
        rw [later, and_iff_right fits, and_iff_right undisturbed, and_iff_right undisturbed,
          and_iff_right fits]
        exact Iff.rfl
      · tauto

theorem neverDisturbed_iff_along {l : Latch} {snapshots : List (Joydata K)} :
    NeverDisturbed l snapshots ↔ Along remember (Undisturbed l) [] snapshots :=
  along_remember_iff.symm

/-- The first iteration decides about the index. -/
theorem agree_first_iff {l : Locals} {first : Joydata K} :
    Agree l Script.initial first ↔
      Undisturbed l.toLatch [] first ∧
        (l.fileindex.setWidth 16 = 0 ∨ PlaysFirst first.button) := by
  rw [undisturbed_iff, leftover_nil]
  constructor
  · intro agree
    exact ⟨agree.1, fileindex_of_agree agree⟩
  · rintro ⟨same, zero | plays⟩
    · exact (agree_iff_of_index zero).mpr same
    · refine ⟨same, ?_⟩
      rw [next_fileindex, Script.next_fileindex, same]
      change BitVec.setWidth 16 (recount (Script.initial.picks first.button) l.fileindex) =
        BitVec.ofInt 16 (recount (Script.initial.picks first.button) 0)
      rw [initial_picks_playteach.mpr plays]
      rfl

/--
Whatever the uninitialised locals hold when the first snapshot arrives, the programs publish
the same commands on a run if and only if no condition that the chain of the script comes to
has another truth value on the cells that are left, the index published first agrees, and
the index of the script fits.
-/
theorem programs_agree_iff (caster : Script.IndexCaster) (l : Locals)
    (snapshots : List (Joydata K)) :
    Same caster l snapshots ↔
      NeverDisturbed l.toLatch snapshots ∧ IndexAgrees l.fileindex snapshots ∧
        IndexFits snapshots := by
  cases snapshots with
  | nil =>
      refine iff_of_true rfl ⟨?_, ?_, along_nil _ _ _⟩
      · exact neverDisturbed_iff_along.mpr (along_nil _ _ _)
      · exact fun _ absurd => by cases absurd
  | cons first rest =>
      have index : IndexAgrees l.fileindex (first :: rest) ↔
          l.fileindex.setWidth 16 = 0 ∨ PlaysFirst first.button := by
        unfold IndexAgrees
        rw [List.head?_cons]
        simp only [Option.mem_some_iff, forall_eq']
      unfold Same IndexFits
      rw [published_cons_eq_iff caster initial_inRange, neverDisturbed_iff_along, along_cons,
        along_cons, agree_first_iff, index]
      by_cases met : Script.Fits Script.initial first ∧ Agree l Script.initial first
      · obtain ⟨fits, agree⟩ := met
        have undisturbed := (agree_first_iff.mp agree).1
        have found : (next l first).toLatch = leftover l.toLatch ([] ++ [first]) := by
          rw [next_toLatch, ← leftover_concat undisturbed, leftover_nil]
        have later := published_leftover_iff caster found agree.2
          ((Script.next_inRange_iff initial_inRange).mpr fits) rest
        have same : scriptAfter ([] ++ [first]) = Script.next Script.initial first := rfl
        rw [same] at later
        rw [later]
        have both := agree_first_iff.mp agree
        unfold remember
        tauto
      · rw [agree_first_iff] at met
        tauto

/-- Key 9 is in use on the stack, held together with key 5 at first and released after that. -/
theorem programs_agree_released :
    Same exactCaster ⟨⟨fun _ => 0, fun key => if key = key9 then 1 else 0⟩, 0⟩
      [keys [5, 9], keys [], keys [9]] :=
  (programs_agree_iff exactCaster _ _).mpr
    ⟨by decide +kernel, by decide +kernel, by decide +kernel⟩

/-- An idle remote with another index, and key 9 held while its cell says it is in use. -/
theorem programs_differ :
    ¬ Same exactCaster (Locals.cleared 7) [keys []] ∧
      ¬ Same exactCaster ⟨⟨fun _ => 0, fun key => if key = key9 then 1 else 0⟩, 0⟩ [keys [9]] := by
  unfold Same
  decide +kernel

end NoetixE1.High
