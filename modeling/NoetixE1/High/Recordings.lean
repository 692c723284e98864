import Mathlib.Data.BitVec
import NoetixE1.High.Bindings

/-!
# Indices of recorded motions

`SAVETEACH` counts `fileindex` up and records under the new value, `PLAYTEACH` assigns 1
to the same counter.  A recording therefore keeps its index to itself exactly as long as
`SAVETEACH` does not find the counter at 1 a second time.
-/

namespace NoetixE1.High

open Low Machine

/-! ## Numbering

The counter by itself: what it holds, the numbers it has given out, and how often it was
at 1 when a number was asked for.
-/

@[ext]
structure Numbering where
  count : ℕ
  issued : List ℕ
  seconds : ℕ

namespace Numbering

def save (n : Numbering) : Numbering where
  count := n.count + 1
  issued := n.issued ++ [n.count + 1]
  seconds := n.seconds + if n.count = 1 then 1 else 0

def play (n : Numbering) : Numbering := { n with count := 1 }

/-- The stages of a numbering that starts at 0. -/
inductive Staged : Numbering → Prop
  | fresh : Staged ⟨0, [], 0⟩
  | first {issued : List ℕ} : issued = [] ∨ issued = [1] → Staged ⟨1, issued, 0⟩
  | ahead {count : ℕ} {issued : List ℕ} : issued.Nodup → 2 ∈ issued → 2 ≤ count →
      (∀ number ∈ issued, number ≤ count) → Staged ⟨count, issued, 1⟩
  | back {issued : List ℕ} : issued.Nodup → 2 ∈ issued → Staged ⟨1, issued, 1⟩
  | clash {count : ℕ} {issued : List ℕ} {seconds : ℕ} : ¬ issued.Nodup → 2 ≤ seconds →
      Staged ⟨count, issued, seconds⟩

theorem nodup_concat {issued : List ℕ} {number : ℕ} (distinct : issued.Nodup)
    (unused : number ∉ issued) : (issued ++ [number]).Nodup := by
  refine List.nodup_append.mpr ⟨distinct, List.nodup_singleton number, ?_⟩
  intro old member new single same
  rw [same, List.mem_singleton.mp single] at member
  exact unused member

theorem Staged.save {n : Numbering} (staged : Staged n) : Staged n.save := by
  cases staged with
  | fresh => exact .first (Or.inr rfl)
  | first early =>
      refine .ahead ?_ (List.mem_append_right _ (List.mem_singleton_self 2)) (Nat.le_refl 2) ?_
      · rcases early with rfl | rfl <;> decide
      · rcases early with rfl | rfl <;> decide
  | @ahead count issued distinct two large below =>
      have apart : count ≠ 1 := fun one => by omega
      unfold Numbering.save
      rw [if_neg apart]
      refine .ahead (nodup_concat distinct fun member => ?_) (List.mem_append_left _ two) ?_ ?_
      · exact Nat.not_succ_le_self count (below _ member)
      · exact Nat.le_succ_of_le large
      · intro number member
        rcases List.mem_append.mp member with old | new
        · exact Nat.le_succ_of_le (below number old)
        · exact Nat.le_of_eq (List.mem_singleton.mp new)
  | back _ two =>
      refine .clash (fun distinct => ?_) (Nat.le_refl 2)
      exact (List.nodup_append.mp distinct).2.2 2 two 2 (List.mem_singleton_self 2) rfl
  | clash repeated many =>
      exact .clash (fun distinct => repeated (List.nodup_append.mp distinct).1)
        (Nat.le_add_right_of_le many)

theorem Staged.play {n : Numbering} (staged : Staged n) : Staged n.play := by
  cases staged with
  | fresh => exact .first (Or.inl rfl)
  | first early => exact .first early
  | ahead distinct two _ _ => exact .back distinct two
  | back distinct two => exact .back distinct two
  | clash repeated many => exact .clash repeated many

/-- No number is given out twice until the counter is at 1 for a second time. -/
theorem Staged.nodup_iff {n : Numbering} (staged : Staged n) :
    n.issued.Nodup ↔ n.seconds ≤ 1 := by
  cases staged with
  | fresh => decide
  | first early => rcases early with rfl | rfl <;> decide
  | ahead distinct _ _ _ => exact iff_of_true distinct (Nat.le_refl 1)
  | back distinct _ => exact iff_of_true distinct (Nat.le_refl 1)
  | clash repeated many => exact iff_of_false repeated (Nat.not_le_of_lt many)

/-- The counter is at most one ahead of the numbers given out. -/
structure Bounded (n : Numbering) : Prop where
  count_le : n.count ≤ n.issued.length + 1
  issued_le : ∀ number ∈ n.issued, 1 ≤ number ∧ number ≤ n.issued.length + 1

theorem Bounded.save {n : Numbering} (bounded : Bounded n) : Bounded n.save := by
  have longer : n.save.issued.length = n.issued.length + 1 := List.length_append
  constructor
  · rw [longer]
    exact Nat.succ_le_succ bounded.count_le
  · intro number member
    rw [longer]
    rcases List.mem_append.mp member with old | new
    · exact ⟨(bounded.issued_le number old).1, Nat.le_succ_of_le (bounded.issued_le number old).2⟩
    · rw [List.mem_singleton.mp new]
      exact ⟨Nat.succ_pos _, Nat.succ_le_succ bounded.count_le⟩

theorem Bounded.play {n : Numbering} (bounded : Bounded n) : Bounded n.play :=
  ⟨Nat.le_add_left 1 _, bounded.issued_le⟩

end Numbering

/-! ## The numbering of a run -/

variable {K : Type}

/-- The iteration takes the `SAVETEACH` branch. -/
def Saves (l : Locals) (snapshot : Joydata K) : Prop :=
  l.picks snapshot.button = some .saveteach

instance (l : Locals) (snapshot : Joydata K) : Decidable (Saves l snapshot) :=
  inferInstanceAs (Decidable (_ = _))

/-- It takes this branch while `fileindex` is 1. -/
def SavesSecond (l : Locals) (snapshot : Joydata K) : Prop := Saves l snapshot ∧ l.fileindex = 1

instance (l : Locals) (snapshot : Joydata K) : Decidable (SavesSecond l snapshot) :=
  inferInstanceAs (Decidable (_ ∧ _))

/-- The indices of the `SAVETEACH` commands published in a run. -/
def savedIndices (l : Locals) (snapshots : List (Joydata K)) : List (BitVec 16) :=
  ((published l snapshots).filter fun command => command.action = .saveteach).map
    PublishedCmd.index

/-- The same numbers before their conversion to `uint16_t`. -/
def savedNumbers (l : Locals) (snapshots : List (Joydata K)) : List ℕ :=
  emitted next (fun l snapshot => if Saves l snapshot then [l.fileindex.toNat + 1] else [])
    l snapshots

def numbering (l : Locals) (snapshots : List (Joydata K)) : Numbering where
  count := (run next l snapshots).fileindex.toNat
  issued := savedNumbers l snapshots
  seconds := tally next SavesSecond l snapshots

theorem saves_iff {l : Locals} {snapshot : Joydata K} :
    Saves l snapshot ↔ (publishes l snapshot).action = .saveteach := by
  rw [publishes_eq]
  exact (actionOf_injective.eq_iff (b := some Binding.saveteach)).symm

theorem savedIndices_eq (l : Locals) (snapshots : List (Joydata K)) :
    savedIndices l snapshots = (savedNumbers l snapshots).map (BitVec.ofNat 16) := by
  induction snapshots generalizing l with
  | nil => rfl
  | cons snapshot rest ih =>
      change ((publishes l snapshot :: published (next l snapshot) rest).filter _).map _ =
        (ite _ _ _ ++ savedNumbers (next l snapshot) rest).map _
      rw [List.filter_cons, List.map_append, ← ih]
      by_cases saves : Saves l snapshot
      · have index : (publishes l snapshot).index = BitVec.ofNat 16 (l.fileindex.toNat + 1) := by
          rw [publishes_eq, next_fileindex, show l.picks snapshot.button = _ from saves]
          change (l.fileindex + 1).setWidth 16 = _
          apply BitVec.eq_of_toNat_eq
          simp [BitVec.toNat_add]
        rw [if_pos (decide_eq_true (saves_iff.mp saves)), if_pos saves, List.map_cons, index]
        rfl
      · rw [if_neg (fun yes => saves (saves_iff.mpr (of_decide_eq_true yes))), if_neg saves]
        rfl

section Concat

variable (l : Locals) (snapshots : List (Joydata K)) (snapshot : Joydata K)

theorem count_concat :
    (numbering l (snapshots ++ [snapshot])).count =
      (recount ((run next l snapshots).picks snapshot.button)
        (run next l snapshots).fileindex).toNat := by
  change (run next l (snapshots ++ [snapshot])).fileindex.toNat = _
  rw [run_concat, next_fileindex]

theorem issued_concat :
    (numbering l (snapshots ++ [snapshot])).issued =
      (numbering l snapshots).issued ++
        if Saves (run next l snapshots) snapshot then [(numbering l snapshots).count + 1] else [] :=
  emitted_concat next _ l snapshots snapshot

theorem seconds_concat :
    (numbering l (snapshots ++ [snapshot])).seconds =
      (numbering l snapshots).seconds +
        if SavesSecond (run next l snapshots) snapshot then 1 else 0 :=
  tally_concat next SavesSecond l snapshots snapshot

variable {l snapshots snapshot}

theorem numbering_save (saves : Saves (run next l snapshots) snapshot)
    (room : (numbering l snapshots).count < 65536) :
    numbering l (snapshots ++ [snapshot]) = (numbering l snapshots).save := by
  apply Numbering.ext
  · rw [count_concat, show (run next l snapshots).picks snapshot.button = _ from saves]
    change ((run next l snapshots).fileindex + 1).toNat =
      (run next l snapshots).fileindex.toNat + 1
    change (run next l snapshots).fileindex.toNat < 65536 at room
    bv_omega
  · rw [issued_concat, if_pos saves]
    rfl
  · rw [seconds_concat]
    refine congrArg _ (if_congr ?_ rfl rfl)
    refine (and_iff_right saves).trans ?_
    exact BitVec.toNat_inj.symm

theorem numbering_play
    (plays : (run next l snapshots).picks snapshot.button = some .playteach) :
    numbering l (snapshots ++ [snapshot]) = (numbering l snapshots).play := by
  have other : ¬ Saves (run next l snapshots) snapshot := by
    unfold Saves
    rw [plays]
    decide
  apply Numbering.ext
  · rw [count_concat, plays]
    rfl
  · rw [issued_concat, if_neg other, List.append_nil]
    rfl
  · rw [seconds_concat, if_neg fun second => other second.1]
    rfl

theorem numbering_other (other : ¬ Saves (run next l snapshots) snapshot)
    (silent : (run next l snapshots).picks snapshot.button ≠ some .playteach) :
    numbering l (snapshots ++ [snapshot]) = numbering l snapshots := by
  apply Numbering.ext
  · rw [count_concat]
    refine congrArg BitVec.toNat ?_
    unfold recount
    split
    · exact absurd ‹_› other
    · exact absurd ‹_› silent
    · rfl
  · rw [issued_concat, if_neg other, List.append_nil]
  · rw [seconds_concat, if_neg fun second => other second.1]
    rfl

end Concat

/-- The numbering of a run from 0 with few recordings. -/
theorem numbering_sound (latch : Latch) (snapshots : List (Joydata K))
    (few : (savedNumbers ⟨latch, 0⟩ snapshots).length < 65536) :
    (numbering ⟨latch, 0⟩ snapshots).Staged ∧ (numbering ⟨latch, 0⟩ snapshots).Bounded := by
  induction snapshots using List.reverseRecOn with
  | nil => exact ⟨.fresh, Nat.zero_le _, fun _ member => absurd member List.not_mem_nil⟩
  | append_singleton earlier last ih =>
      have total := congrArg List.length (issued_concat ⟨latch, 0⟩ earlier last)
      rw [List.length_append] at total
      change (savedNumbers _ _).length = (savedNumbers _ _).length + _ at total
      obtain ⟨staged, bounded⟩ := ih (by omega)
      by_cases saves : Saves (run next ⟨latch, 0⟩ earlier) last
      · have room : (numbering ⟨latch, 0⟩ earlier).count < 65536 := by
          have ahead := bounded.count_le
          change _ ≤ (savedNumbers _ _).length + 1 at ahead
          rw [if_pos saves, List.length_singleton] at total
          omega
        rw [numbering_save saves room]
        exact ⟨staged.save, bounded.save⟩
      · by_cases plays : (run next (⟨latch, 0⟩ : Locals) earlier).picks last.button = some .playteach
        · rw [numbering_play plays]
          exact ⟨staged.play, bounded.play⟩
        · rw [numbering_other saves plays]
          exact ⟨staged, bounded⟩

/--
In a run of fewer than 65536 `SAVETEACH` commands from `fileindex = 0`, these commands
carry different indices exactly when at most one of them is given while `fileindex` is 1.
-/
theorem recordings_distinct_iff (latch : Latch) (snapshots : List (Joydata K))
    (few : (savedIndices ⟨latch, 0⟩ snapshots).length < 65536) :
    (savedIndices ⟨latch, 0⟩ snapshots).Nodup ↔
      tally next SavesSecond ⟨latch, 0⟩ snapshots ≤ 1 := by
  rw [savedIndices_eq, List.length_map] at few
  obtain ⟨staged, bounded⟩ := numbering_sound latch snapshots few
  rw [savedIndices_eq]
  refine Iff.trans ?_ staged.nodup_iff
  constructor
  · exact List.Nodup.of_map _
  · refine List.Nodup.map_on fun first member second other same => ?_
    have low := bounded.issued_le first member
    have high := bounded.issued_le second other
    change _ ∧ _ ≤ (savedNumbers _ _).length + 1 at low high
    have residues := congrArg BitVec.toNat same
    rw [BitVec.toNat_ofNat, BitVec.toNat_ofNat] at residues
    omega

/-- Two recordings, the second playing back no motion before it. -/
theorem recordings_distinct_two :
    (savedIndices (Locals.cleared 0) [keys [1, 6], keys [], keys [1, 6]]).Nodup :=
  (recordings_distinct_iff ⟨fun _ => 0, fun _ => 0⟩ [keys [1, 6], keys [], keys [1, 6]]
    (by decide)).mpr (by decide)

/-- Two recordings, a playback, and a third recording under the index of the second. -/
theorem not_recordings_distinct :
    (savedIndices (Locals.cleared 0) [keys [1, 6], keys [], keys [1, 6], keys [], keys [1, 8],
      keys [], keys [1, 6]]).length < 65536 ∧
    ¬ (savedIndices (Locals.cleared 0) [keys [1, 6], keys [], keys [1, 6], keys [], keys [1, 8],
      keys [], keys [1, 6]]).Nodup := by
  decide

end NoetixE1.High
