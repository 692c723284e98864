import Mathlib.Algebra.Order.Ring.Int
import Mathlib.Data.BitVec
import NoetixE1.High.Bindings

/-!
# The two decoders in lockstep

Both decoders only ask of their latches whether a modifier is 0, whether it is 1, whether a
key is down and whether it is fresh.  Latches that answer alike take the same branch and
stay alike, so two programs that are once in lockstep publish the same commands until the
script cannot convert its index.
-/

namespace NoetixE1.High

open Low Machine

/-! ## Alike latches -/

/-- The keys that select between the branches. -/
def Modifier (key : Fin 14) : Prop := key = key1 ∨ key = key2

theorem Binding.modified_congr {updown other : Fin 14 → Int}
    (released : ∀ key, Modifier key → (updown key = 0 ↔ other key = 0))
    (held : ∀ key, Modifier key → (updown key = 1 ↔ other key = 1)) (b : Binding) :
    b.Modified updown ↔ b.Modified other := by
  have released1 := released key1 (Or.inl rfl)
  have released2 := released key2 (Or.inr rfl)
  have held1 := held key1 (Or.inl rfl)
  have held2 := held key2 (Or.inr rfl)
  cases b with
  | startteach => exact released2
  | swing => exact and_congr released2 released1
  | shake => exact and_congr released2 released1
  | cheer => exact and_congr released2 released1
  | start => exact Iff.rfl
  | switch => exact Iff.rfl
  | walk => exact held2
  | saveteach => exact held1
  | endteach => exact held1
  | playteach => exact held1
  | run => exact held2

namespace Latch

/-- A level is asked for alike after the scan if the button settles it or it was before. -/
theorem scan_level_iff {first second : Latch} {button : Fin 14 → Int} {key : Fin 14} {value : Int}
    (same : button key = 0 ∨ button key = 1 ∨
      (first.keyUpdown key = value ↔ second.keyUpdown key = value)) :
    (first.scan button button).keyUpdown key = value ↔
      (second.scan button button).keyUpdown key = value := by
  unfold scan
  dsimp only
  split_ifs with up down
  · exact Iff.rfl
  · exact Iff.rfl
  · exact (same.resolve_left up).resolve_left down

end Latch

/-- The two latches give the same answers to all that the chain asks. -/
structure Alike (first second : Latch) : Prop where
  released : ∀ key, Modifier key → (first.keyUpdown key = 0 ↔ second.keyUpdown key = 0)
  held : ∀ key, Modifier key → (first.keyUpdown key = 1 ↔ second.keyUpdown key = 1)
  down : ∀ b : Binding, first.keyUpdown b.key = 1 ↔ second.keyUpdown b.key = 1
  fresh : ∀ b : Binding, first.keyInuse b.key = 0 ↔ second.keyInuse b.key = 0

namespace Alike

variable {first second : Latch}

theorem modified_iff (alike : Alike first second) (b : Binding) :
    b.Modified first.keyUpdown ↔ b.Modified second.keyUpdown :=
  b.modified_congr alike.released alike.held

theorem chosen_eq (alike : Alike first second) : first.chosen = second.chosen :=
  Latch.chosen_congr fun b =>
    and_congr (alike.modified_iff b) (and_congr (alike.down b) (or_congr_right (alike.fresh b)))

theorem scan (alike : Alike first second) (button : Fin 14 → Int) :
    Alike (first.scan button button) (second.scan button button) where
  released key modifier := Latch.scan_level_iff (Or.inr (Or.inr (alike.released key modifier)))
  held key modifier := Latch.scan_level_iff (Or.inr (Or.inr (alike.held key modifier)))
  down b := Latch.scan_level_iff (Or.inr (Or.inr (alike.down b)))
  fresh b := by
    unfold Latch.scan
    dsimp only
    split_ifs
    · exact Iff.rfl
    · exact alike.fresh b

/-- What the marked key was before does not matter. -/
theorem of_mark {taken : Option Binding}
    (released : ∀ key, Modifier key → (first.keyUpdown key = 0 ↔ second.keyUpdown key = 0))
    (held : ∀ key, Modifier key → (first.keyUpdown key = 1 ↔ second.keyUpdown key = 1))
    (down : ∀ b : Binding, first.keyUpdown b.key = 1 ↔ second.keyUpdown b.key = 1)
    (fresh : ∀ b : Binding, (∀ marked, taken = some marked → b.key ≠ marked.key) →
      (first.keyInuse b.key = 0 ↔ second.keyInuse b.key = 0)) :
    Alike (first.mark taken) (second.mark taken) := by
  refine ⟨?_, ?_, ?_, fun b => ?_⟩
  · simpa using released
  · simpa using held
  · simpa using down
  · rw [Latch.mark_fresh_iff, Latch.mark_fresh_iff]
    exact and_congr_right (fresh b)

theorem mark (alike : Alike first second) (taken : Option Binding) :
    Alike (first.mark taken) (second.mark taken) :=
  of_mark alike.released alike.held alike.down fun b _ => alike.fresh b

theorem picks_eq (alike : Alike first second) (button : Fin 14 → Int) :
    first.picks button = second.picks button :=
  (alike.scan button).chosen_eq

theorem advance (alike : Alike first second) (button : Fin 14 → Int) :
    Alike (first.advance button) (second.advance button) := by
  unfold Latch.advance
  rw [alike.picks_eq button]
  exact (alike.scan button).mark _

end Alike

/-! ## The index of the script -/

variable {K : Type}

namespace Script

/-- The index converts to `uint16_t`. -/
def InRange (g : Globals) : Prop := 0 ≤ g.fileindex ∧ g.fileindex ≤ 65535

/-- The iteration does not take the index out of range. -/
def Fits (g : Globals) (snapshot : Joydata K) : Prop :=
  ¬ (g.fileindex = 65535 ∧ g.picks snapshot.button = some .saveteach)

instance (g : Globals) (snapshot : Joydata K) : Decidable (Fits g snapshot) :=
  inferInstanceAs (Decidable (¬ (_ ∧ _)))

theorem next_fileindex_of_save {g : Globals} {snapshot : Joydata K}
    (saves : g.picks snapshot.button = some .saveteach) :
    (next g snapshot).fileindex = g.fileindex + 1 := by
  rw [next_fileindex, saves]
  rfl

/-- Without a save the index stays or starts again at 1. -/
theorem next_fileindex_of_not_save {g : Globals} {snapshot : Joydata K}
    (saves : g.picks snapshot.button ≠ some .saveteach) :
    (next g snapshot).fileindex = g.fileindex ∨ (next g snapshot).fileindex = 1 := by
  rw [next_fileindex]
  cases taken : g.picks snapshot.button with
  | none => exact Or.inl rfl
  | some b =>
      rw [taken] at saves
      cases b with
      | saveteach => exact absurd rfl saves
      | playteach => exact Or.inr rfl
      | _ => exact Or.inl rfl

theorem next_inRange_iff {g : Globals} {snapshot : Joydata K} (inRange : InRange g) :
    InRange (next g snapshot) ↔ Fits g snapshot := by
  obtain ⟨lower, upper⟩ := inRange
  unfold InRange Fits
  by_cases saves : g.picks snapshot.button = some .saveteach
  · rw [next_fileindex_of_save saves, and_iff_left saves]
    omega
  · refine iff_of_true ?_ fun full => saves full.2
    rcases next_fileindex_of_not_save saves with kept | reset
    · rw [kept]
      exact ⟨lower, upper⟩
    · rw [reset]
      decide

theorem next_overflow {g : Globals} {snapshot : Joydata K} (full : ¬ Fits g snapshot) :
    (next g snapshot).fileindex = 65536 := by
  obtain ⟨last, saves⟩ := not_not.mp full
  rw [next_fileindex_of_save saves, last]
  rfl

/-- A run too short to count to the end of the range fits. -/
theorem along_fits {g : Globals} (lower : 0 ≤ g.fileindex) {snapshots : List (Joydata K)}
    (short : g.fileindex + snapshots.length ≤ 65535) : Along next Fits g snapshots := by
  induction snapshots generalizing g with
  | nil => exact along_nil next Fits g
  | cons snapshot rest ih =>
      rw [List.length_cons, Nat.cast_succ] at short
      have step : 0 ≤ (next g snapshot).fileindex ∧
          (next g snapshot).fileindex ≤ g.fileindex + 1 := by
        by_cases saves : g.picks snapshot.button = some .saveteach
        · rw [next_fileindex_of_save saves]
          omega
        · rcases next_fileindex_of_not_save saves with kept | reset
          · omega
          · omega
      refine ⟨fun full => ?_, ih step.1 ?_⟩
      · omega
      · omega

/-! ## What the script publishes -/

theorem published_cons_of_fits (caster : IndexCaster) {g : Globals} {snapshot : Joydata K}
    (inRange : InRange g) (fits : Fits g snapshot) (rest : List (Joydata K)) :
    published caster g (snapshot :: rest) =
      ⟨snapshot.axes 1, snapshot.axes 0, actionOf (g.picks snapshot.button),
        BitVec.ofInt 16 (next g snapshot).fileindex⟩ :: published caster (next g snapshot) rest := by
  obtain ⟨lower, upper⟩ := (next_inRange_iff inRange).mpr fits
  rw [published, publishes_eq, caster.inRange _ lower (by omega)]
  rfl

/-- A failed conversion ends the script. -/
theorem published_cons_of_not_fits (caster : IndexCaster) {g : Globals} {snapshot : Joydata K}
    (full : ¬ Fits g snapshot) (rest : List (Joydata K)) :
    published caster g (snapshot :: rest) = [] := by
  rw [published, publishes_eq, caster.outOfRange _ (next_overflow full).ge]
  rfl

end Script

/-! ## Lockstep -/

theorem published_cons (l : Locals) (snapshot : Joydata K) (rest : List (Joydata K)) :
    published l (snapshot :: rest) =
      ⟨snapshot.axes 1, snapshot.axes 0, actionOf (l.picks snapshot.button),
        (next l snapshot).fileindex.setWidth 16⟩ :: published (next l snapshot) rest := by
  rw [← publishes_eq]
  rfl

/-- Both programs take the same branch and pass the same index. -/
def Agree (l : Locals) (g : Script.Globals) (snapshot : Joydata K) : Prop :=
  l.picks snapshot.button = g.picks snapshot.button ∧
    (next l snapshot).fileindex.setWidth 16 =
      BitVec.ofInt 16 (Script.next g snapshot).fileindex

/-- The first command decides together with what follows. -/
theorem published_cons_eq_iff (caster : Script.IndexCaster) {l : Locals} {g : Script.Globals}
    (inRange : Script.InRange g) (snapshot : Joydata K) (rest : List (Joydata K)) :
    published l (snapshot :: rest) = Script.published caster g (snapshot :: rest) ↔
      Script.Fits g snapshot ∧ Agree l g snapshot ∧
        published (next l snapshot) rest = Script.published caster (Script.next g snapshot) rest := by
  by_cases fits : Script.Fits g snapshot
  · rw [published_cons, Script.published_cons_of_fits caster inRange fits, List.cons.injEq,
      PublishedCmd.mk.injEq, actionOf_injective.eq_iff, eq_self, true_and, eq_self, true_and,
      and_iff_right fits]
    exact Iff.rfl
  · rw [published_cons, Script.published_cons_of_not_fits caster fits]
    exact iff_of_false (List.cons_ne_nil _ _) fun both => fits both.1

/-- The programs are in lockstep. -/
structure Lockstep (l : Locals) (g : Script.Globals) : Prop where
  alike : Alike l.toLatch g.toLatch
  index : l.fileindex.setWidth 16 = BitVec.ofInt 16 g.fileindex

/-- Counting commutes with the conversion to 16 bits. -/
theorem recount_congr {index : BitVec 32} {count : ℤ}
    (same : index.setWidth 16 = BitVec.ofInt 16 count) (taken : Option Binding) :
    (recount taken index).setWidth 16 = BitVec.ofInt 16 (recount taken count) := by
  have save : (index + 1).setWidth 16 = BitVec.ofInt 16 (count + 1) := by
    rw [BitVec.setWidth_add _ _ (by decide), BitVec.ofInt_add, same]
    rfl
  cases taken with
  | none => exact same
  | some b =>
      cases b with
      | saveteach => exact save
      | playteach => rfl
      | _ => exact same

theorem Lockstep.agree {l : Locals} {g : Script.Globals} (lockstep : Lockstep l g)
    (snapshot : Joydata K) : Agree l g snapshot := by
  have same := lockstep.alike.picks_eq snapshot.button
  refine ⟨same, ?_⟩
  rw [next_fileindex, Script.next_fileindex, same]
  exact recount_congr lockstep.index _

theorem Lockstep.next {l : Locals} {g : Script.Globals} (lockstep : Lockstep l g)
    (snapshot : Joydata K) : Lockstep (next l snapshot) (Script.next g snapshot) := by
  refine ⟨?_, (lockstep.agree snapshot).2⟩
  rw [next_toLatch, Script.next_toLatch]
  exact lockstep.alike.advance snapshot.button

/-- Programs in lockstep publish the same commands exactly as long as the index fits. -/
theorem Lockstep.published_eq_iff (caster : Script.IndexCaster) {l : Locals} {g : Script.Globals}
    (lockstep : Lockstep l g) (inRange : Script.InRange g) (snapshots : List (Joydata K)) :
    published l snapshots = Script.published caster g snapshots ↔
      Along Script.next Script.Fits g snapshots := by
  induction snapshots generalizing l g with
  | nil => exact iff_of_true rfl (along_nil _ _ g)
  | cons snapshot rest ih =>
      rw [published_cons_eq_iff caster inRange, along_cons]
      refine and_congr_right fun fits => ?_
      rw [and_iff_right (lockstep.agree snapshot)]
      exact ih (lockstep.next snapshot) ((Script.next_inRange_iff inRange).mpr fits)

end NoetixE1.High
