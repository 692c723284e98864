import Mathlib.Data.Fin.Basic
import Mathlib.Data.List.Basic
import Mathlib.Logic.Equiv.Fin.Basic
import Mathlib.Logic.Function.Basic

/-!
# A history stack in one flat buffer

A buffer of `depth` segments of `width` cells, the oldest segment first.  A new
record is pushed by copying the buffer onto itself one segment towards the
front, cell by cell in ascending order, and writing the record into the last
segment.  Read segment by segment this is a queue of fixed length, and a buffer
filled with its first record holds the most recent records, padded with the
first one.
-/

namespace NoetixE1.HistoryStack

variable {Cell : Type*}

/-! ## Flat operations -/

/-- `buffer[i] = buffer[i + offset]` for `i = 0, 1, …, count - 1`, in place and in this order. -/
def copyAscending {size : ℕ} (buffer : Fin size → Cell) (count offset : ℕ)
    (fits : count + offset ≤ size) : Fin size → Cell :=
  Fin.foldl count
    (fun held i => Function.update held ⟨i, by omega⟩ (held ⟨i + offset, by omega⟩)) buffer

/-- Write `record` into the cells from `offset` on. -/
def writeSegment {size width : ℕ} (buffer : Fin size → Cell) (offset : ℕ)
    (record : Fin width → Cell) : Fin size → Cell :=
  fun cell =>
    if inside : offset ≤ cell.val ∧ cell.val - offset < width then
      record ⟨cell.val - offset, inside.2⟩
    else buffer cell

/-- An overlapping copy towards the front reads only cells it has not written yet. -/
theorem copyAscending_apply {size : ℕ} (buffer : Fin size → Cell) (count offset : ℕ)
    (fits : count + offset ≤ size) (cell : Fin size) :
    copyAscending buffer count offset fits cell =
      if below : cell.val < count then buffer ⟨cell.val + offset, by omega⟩ else buffer cell := by
  induction count generalizing cell with
  | zero => rfl
  | succ count ih =>
      have previous := ih (by omega)
      unfold copyAscending at previous ⊢
      rw [Fin.foldl_succ_last]
      simp only [Fin.val_castSucc, Fin.val_last]
      by_cases here : cell = ⟨count, by omega⟩
      · subst here
        rw [Function.update_self, previous, dif_pos (Nat.lt_succ_self count),
          dif_neg (by simp)]
      · have apart : cell.val ≠ count := fun same => here (Fin.ext same)
        rw [Function.update_of_ne here, previous]
        by_cases below : cell.val < count
        · rw [dif_pos below, dif_pos (by omega)]
        · rw [dif_neg below, dif_neg (by omega)]

/-! ## The buffer as a stack of segments -/

variable {depth width : ℕ}

/-- Segment `slot` of the buffer. -/
def segment (buffer : Fin (depth * width) → Cell) (slot : Fin depth) : Fin width → Cell :=
  fun cell => buffer (finProdFinEquiv (slot, cell))

/-- Every segment is overwritten with the same record, in a loop over the segments. -/
def fill (buffer : Fin (depth * width) → Cell) (record : Fin width → Cell) :
    Fin (depth * width) → Cell :=
  Fin.foldl depth (fun held slot => writeSegment held (slot * width) record) buffer

/-- Drop the first segment, move the others one place forward, append `record`. -/
def push (buffer : Fin (depth * width) → Cell) (record : Fin width → Cell) :
    Fin (depth * width) → Cell :=
  if fits : width ≤ depth * width then
    writeSegment (copyAscending buffer (depth * width - width) width (by omega))
      (depth * width - width) record
  else buffer

/-- A cell lies before the start of a segment if its own segment comes before. -/
theorem cell_lt_iff (slot : Fin depth) (cell : Fin width) (later : ℕ) :
    (finProdFinEquiv (slot, cell)).val < later * width ↔ slot.val < later := by
  have position : (finProdFinEquiv (slot, cell)).val = cell.val + slot.val * width :=
    congrArg (cell.val + ·) (Nat.mul_comm width slot.val)
  have inRow := cell.isLt
  rw [position]
  constructor
  · intro before
    by_contra! behind
    have room := Nat.mul_le_mul_right width behind
    omega
  · intro before
    have room := Nat.mul_le_mul_right width (Nat.succ_le_of_lt before)
    rw [Nat.succ_mul] at room
    omega

theorem segment_writeSegment (buffer : Fin (depth * width) → Cell) (slot target : Fin depth)
    (record : Fin width → Cell) :
    segment (writeSegment buffer (target * width) record) slot =
      if slot = target then record else segment buffer slot := by
  funext cell
  have starts := cell_lt_iff slot cell target.val
  have ends := cell_lt_iff slot cell (target.val + 1)
  rw [Nat.succ_mul] at ends
  unfold segment writeSegment
  by_cases same : slot = target
  · subst same
    rw [if_pos rfl, dif_pos (by omega)]
    congr 1
    apply Fin.ext
    change cell.val + width * slot.val - slot.val * width = cell.val
    rw [Nat.mul_comm width, Nat.add_sub_cancel]
  · have apart : slot.val ≠ target.val := fun equal => same (Fin.ext equal)
    rw [if_neg same, dif_neg (by omega)]

theorem segment_fill (buffer : Fin (depth * width) → Cell) (record : Fin width → Cell)
    (slot : Fin depth) : segment (fill buffer record) slot = record := by
  have written (count : ℕ) (bound : count ≤ depth) (position : Fin depth)
      (below : position.val < count) :
      segment (Fin.foldl count (fun held (i : Fin count) =>
        writeSegment held (i * width) record) buffer) position = record := by
    induction count with
    | zero => exact absurd below (Nat.not_lt_zero _)
    | succ count ih =>
        rw [Fin.foldl_succ_last]
        have target := segment_writeSegment (Fin.foldl count (fun held (i : Fin count) =>
          writeSegment held (i * width) record) buffer) position ⟨count, bound⟩ record
        simp only [Fin.val_castSucc, Fin.val_last] at target ⊢
        rw [target]
        split
        · rfl
        · rename_i other
          have earlier : position.val ≠ count := fun same => other (Fin.ext same)
          exact ih (by omega) (by omega)
  exact written depth (Nat.le_refl _) slot slot.isLt

/-- A buffer is its segments. -/
theorem eq_of_segment_eq {first second : Fin (depth * width) → Cell}
    (same : ∀ slot, segment first slot = segment second slot) : first = second := by
  funext cell
  obtain ⟨⟨slot, inner⟩, rfl⟩ := finProdFinEquiv.surjective cell
  exact congrFun (same slot) inner

/-- What was in the buffer before it was filled is gone. -/
theorem fill_eq_fill (first second : Fin (depth * width) → Cell) (record : Fin width → Cell) :
    fill first record = fill second record :=
  eq_of_segment_eq fun slot => (segment_fill first record slot).trans
    (segment_fill second record slot).symm

theorem segment_push (buffer : Fin (depth * width) → Cell) (record : Fin width → Cell)
    (slot : Fin depth) :
    segment (push buffer record) slot =
      if later : slot.val + 1 < depth then segment buffer ⟨slot.val + 1, later⟩ else record := by
  have deep : 0 < depth := Nat.lt_of_le_of_lt (Nat.zero_le _) slot.isLt
  have fits : width ≤ depth * width := Nat.le_mul_of_pos_left width deep
  have final : depth * width - width = (depth - 1) * width := by
    rw [Nat.sub_mul, Nat.one_mul]
  unfold push
  rw [dif_pos fits]
  simp only [final]
  rw [segment_writeSegment _ slot ⟨depth - 1, by omega⟩ record]
  by_cases last : slot.val + 1 < depth
  · rw [dif_pos last, if_neg (fun same => by
      have equal := congrArg Fin.val same
      simp only at equal
      omega)]
    funext cell
    have below := (cell_lt_iff slot cell (depth - 1)).mpr (by omega)
    rw [← final] at below
    unfold segment
    rw [copyAscending_apply, dif_pos below]
    congr 1
    apply Fin.ext
    change cell.val + width * slot.val + width = cell.val + width * (slot.val + 1)
    rw [Nat.mul_succ, Nat.add_assoc]
  · rw [dif_neg last, if_pos (Fin.ext (by simp only; omega))]

/-! ## The records held -/

/-- The record that slot `slot` holds after `count` records, counted from zero:
the `depth` most recent ones, the first one standing in for those before it. -/
def windowIndex (depth count slot : ℕ) : ℕ := max 1 (count - (depth - 1 - slot)) - 1

/-- The buffer holds the window of the records pushed so far. -/
def Holds (buffer : Fin (depth * width) → Cell) (records : List (Fin width → Cell)) : Prop :=
  ∀ slot : Fin depth, records[windowIndex depth records.length slot]? = some (segment buffer slot)

/-- A buffer filled with a record and then pushed the same record holds it everywhere. -/
theorem holds_first (buffer : Fin (depth * width) → Cell) (record : Fin width → Cell) :
    Holds (push (fill buffer record) record) [record] := by
  intro slot
  have start : windowIndex depth 1 slot = 0 := by
    unfold windowIndex
    omega
  rw [List.length_singleton, start, segment_push]
  split
  · rw [segment_fill]
    rfl
  · rfl

theorem holds_push {buffer : Fin (depth * width) → Cell} {records : List (Fin width → Cell)}
    (held : Holds buffer records) (nonempty : records ≠ []) (record : Fin width → Cell) :
    Holds (push buffer record) (records ++ [record]) := by
  intro slot
  have some : 0 < records.length := List.length_pos_iff.mpr nonempty
  rw [List.length_append, List.length_singleton, segment_push]
  by_cases last : slot.val + 1 < depth
  · have moved : windowIndex depth (records.length + 1) slot =
        windowIndex depth records.length (slot.val + 1) := by
      unfold windowIndex
      omega
    have inside : windowIndex depth records.length (slot.val + 1) < records.length := by
      unfold windowIndex
      omega
    rw [dif_pos last, moved, List.getElem?_append_left inside]
    exact held ⟨slot.val + 1, last⟩
  · have newest : windowIndex depth (records.length + 1) slot = records.length := by
      unfold windowIndex
      omega
    rw [dif_neg last, newest, List.getElem?_concat_length]

end NoetixE1.HistoryStack
