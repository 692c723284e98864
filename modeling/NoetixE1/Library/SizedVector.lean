import Mathlib.Algebra.Ring.Int.Defs
import Mathlib.Data.Fin.Tuple.Basic
import NoetixE1.Library.HistoryStack

/-!
# Vectors of run-time size

Vectors whose size is a value of the program, computed with integers of 32 bits.  An
operation fails where a size would overflow, an index would be out of range or two sizes do
not match; where the sizes are right it is the operation on functions over `Fin`.
-/

namespace NoetixE1

structure SizedVector (Cell : Type*) where
  size : ℕ
  cells : Fin size → Cell

namespace SizedVector

variable {Cell : Type*}

/-! ## Sizes -/

/-- The number is one of 32 bits. -/
def IsInt (n : ℤ) : Prop := -2147483648 ≤ n ∧ n ≤ 2147483647

instance (n : ℤ) : Decidable (IsInt n) := inferInstanceAs (Decidable (_ ∧ _))

/-- The product of two such numbers, which must not overflow. -/
def product (first second : ℤ) : Option ℤ :=
  if IsInt (first * second) then some (first * second) else none

theorem product_eq {first second : ℤ} (fits : IsInt (first * second)) :
    product first second = some (first * second) :=
  if_pos fits

theorem product_eq_some_iff {first second result : ℤ} :
    product first second = some result ↔
      IsInt (first * second) ∧ first * second = result := by
  unfold product
  rw [Option.ite_none_right_eq_some, Option.some_inj]

/-! ## Operations -/

/-- A new vector of the given size; a negative one is refused. -/
def resize (size : ℤ) (content : ℕ → Cell) : Option (SizedVector Cell) :=
  if 0 ≤ size then some ⟨size.toNat, fun i => content i⟩ else none

def get (v : SizedVector Cell) (i : ℕ) : Option Cell :=
  if inside : i < v.size then some (v.cells ⟨i, inside⟩) else none

def map (f : Cell → Cell) (v : SizedVector Cell) : SizedVector Cell :=
  ⟨v.size, fun i => f (v.cells i)⟩

/-- Cell by cell; the sizes have to be the same. -/
def combine (op : Cell → Cell → Cell) (v w : SizedVector Cell) : Option (SizedVector Cell) :=
  if same : v.size = w.size then some ⟨v.size, fun i => op (v.cells i) (w.cells (i.cast same))⟩
  else none

def append (v w : SizedVector Cell) : SizedVector Cell :=
  ⟨v.size + w.size, Fin.append v.cells w.cells⟩

/-- The vector, if it has the size that is expected. -/
def checked (size : ℤ) (v : SizedVector Cell) : Option (SizedVector Cell) :=
  if (v.size : ℤ) = size then some v else none

/-- Write `cell` from `start` to the end. -/
def overwriteFrom (start : ℤ) (cell : Cell) (v : SizedVector Cell) : Option (SizedVector Cell) :=
  if 0 ≤ start then some ⟨v.size, fun i => if start ≤ i then cell else v.cells i⟩ else none

/-- Copy the first `count` cells of one vector over those of another. -/
def copyTo (count : ℕ) (source target : SizedVector Cell) : Option (SizedVector Cell) :=
  if fits : count ≤ source.size ∧ count ≤ target.size then
    some ⟨target.size, fun i =>
      if below : i.val < count then source.cells ⟨i, by omega⟩ else target.cells i⟩
  else none

/-- Write the record into each of the first `depth` segments. -/
def fill (depth : ℕ) (v record : SizedVector Cell) : Option (SizedVector Cell) :=
  if depth * record.size ≤ v.size then
    some ⟨v.size, Fin.foldl depth
      (fun held slot => HistoryStack.writeSegment held (slot * record.size) record.cells) v.cells⟩
  else none

/-- Move everything forward by one record and write the record behind it. -/
def push (v record : SizedVector Cell) : Option (SizedVector Cell) :=
  if fits : record.size ≤ v.size then
    some ⟨v.size, HistoryStack.writeSegment
      (HistoryStack.copyAscending v.cells (v.size - record.size) record.size (by omega))
      (v.size - record.size) record.cells⟩
  else none

/-- The results of a loop, if no iteration fails. -/
def every {count : ℕ} {Result : Type*} (f : Fin count → Option Result) :
    Option (Fin count → Result) :=
  if all : ∀ i, (f i).isSome then some fun i => (f i).get (all i) else none

/-- A vector whose cells a loop computes. -/
def tabulate (size : ℤ) (f : ℕ → Option Cell) : Option (SizedVector Cell) :=
  (every fun i : Fin size.toNat => f i).map (mk size.toNat)

/-! ## Where the sizes are right -/

section Sizes

variable {size : ℕ}

theorem resize_of_toNat {length : ℤ} (nonneg : 0 ≤ length) (same : length.toNat = size)
    (content : ℕ → Cell) : resize length content = some ⟨size, fun i => content i⟩ := by
  subst same
  exact if_pos nonneg

theorem get_mk (cells : Fin size → Cell) (i : Fin size) : (mk size cells).get i = some (cells i) :=
  dif_pos i.isLt

theorem combine_mk (op : Cell → Cell → Cell) (first second : Fin size → Cell) :
    combine op ⟨size, first⟩ ⟨size, second⟩ = some ⟨size, fun i => op (first i) (second i)⟩ :=
  dif_pos rfl

theorem copyTo_mk {count : ℕ} (whole : count = size) (source target : Fin size → Cell) :
    copyTo count ⟨size, source⟩ ⟨size, target⟩ = some ⟨size, source⟩ := by
  subst whole
  refine (dif_pos ⟨Nat.le_refl count, Nat.le_refl count⟩).trans ?_
  exact congrArg (fun cells => some (mk count cells)) (funext fun i => dif_pos i.isLt)

variable {depth width : ℕ}

theorem fill_mk (buffer : Fin (depth * width) → Cell) (record : Fin width → Cell) :
    fill depth ⟨depth * width, buffer⟩ ⟨width, record⟩ =
      some ⟨depth * width, HistoryStack.fill buffer record⟩ :=
  if_pos (Nat.le_refl _)

theorem push_mk (deep : 0 < depth) (buffer : Fin (depth * width) → Cell)
    (record : Fin width → Cell) :
    push ⟨depth * width, buffer⟩ ⟨width, record⟩ =
      some ⟨depth * width, HistoryStack.push buffer record⟩ := by
  have fits : width ≤ depth * width := Nat.le_mul_of_pos_left width deep
  refine (dif_pos fits).trans ?_
  rw [HistoryStack.push, dif_pos fits]

theorem overwriteFrom_mk (cell : Cell) {front back : ℕ} {start : ℤ} (position : start = front)
    (first : Fin front → Cell) (second : Fin back → Cell) :
    overwriteFrom start cell ⟨front + back, Fin.append first second⟩ =
      some ⟨front + back, Fin.append first fun _ => cell⟩ := by
  subst position
  refine (if_pos (Int.natCast_nonneg front)).trans ?_
  refine congrArg (fun cells => some (mk (front + back) cells)) (funext fun i => ?_)
  induction i using Fin.addCases with
  | left inside =>
      have before : ¬ (front : ℤ) ≤ (Fin.castAdd back inside).val := by
        rw [Fin.val_castAdd, not_le]
        exact Int.ofNat_lt.mpr inside.isLt
      rw [if_neg before, Fin.append_left]
      exact Fin.append_left first second inside
  | right behind =>
      have after : (front : ℤ) ≤ (Fin.natAdd front behind).val := by
        rw [Fin.val_natAdd]
        exact Int.ofNat_le.mpr (Nat.le_add_right front behind)
      rw [if_pos after, Fin.append_right]

end Sizes

theorem every_eq_some {count : ℕ} {Result : Type*} {f : Fin count → Option Result}
    {results : Fin count → Result} (each : ∀ i, f i = some (results i)) :
    every f = some results := by
  have all : ∀ i, (f i).isSome := fun i => by rw [each i]; rfl
  refine (dif_pos all).trans (congrArg some (funext fun i => ?_))
  exact Option.get_of_eq_some (all i) (each i)

theorem tabulate_eq_some {size : ℕ} {length : ℤ} (same : length.toNat = size) {f : ℕ → Option Cell}
    {cells : Fin size → Cell} (each : ∀ i : Fin size, f i = some (cells i)) :
    tabulate length f = some ⟨size, cells⟩ := by
  subst same
  rw [tabulate, every_eq_some each]
  rfl

/-! ## What success tells -/

section Success

variable {length start : ℤ} {count : ℕ} {cell : Cell} {u v w record : SizedVector Cell}

theorem size_of_resize {content : ℕ → Cell} (made : resize length content = some v) :
    v.size = length.toNat := by
  obtain ⟨_, equal⟩ := Option.ite_none_right_eq_some.mp made
  obtain rfl := Option.some_inj.mp equal
  rfl

theorem isSome_of_every {Result : Type*} {f : Fin count → Option Result}
    {results : Fin count → Result} (made : every f = some results) (i : Fin count) :
    (f i).isSome := by
  obtain ⟨all, _⟩ := Option.dite_none_right_eq_some.mp made
  exact all i

theorem size_of_tabulate {f : ℕ → Option Cell} (made : tabulate length f = some v) :
    v.size = length.toNat ∧ ∀ i < length.toNat, (f i).isSome := by
  obtain ⟨cells, each, rfl⟩ := Option.map_eq_some_iff.mp made
  exact ⟨rfl, fun i inside => isSome_of_every each ⟨i, inside⟩⟩

theorem size_of_combine {op : Cell → Cell → Cell} (made : combine op v w = some u) :
    v.size = w.size ∧ u.size = v.size := by
  obtain ⟨same, equal⟩ := Option.dite_none_right_eq_some.mp made
  obtain rfl := Option.some_inj.mp equal
  exact ⟨same, rfl⟩

theorem size_of_checked (made : checked length v = some w) : (v.size : ℤ) = length ∧ w = v := by
  obtain ⟨size, equal⟩ := Option.ite_none_right_eq_some.mp made
  exact ⟨size, (Option.some_inj.mp equal).symm⟩

theorem size_of_overwriteFrom (made : overwriteFrom start cell v = some w) : w.size = v.size := by
  obtain ⟨_, equal⟩ := Option.ite_none_right_eq_some.mp made
  obtain rfl := Option.some_inj.mp equal
  rfl

theorem size_of_fill (made : fill count v record = some w) : w.size = v.size := by
  obtain ⟨_, equal⟩ := Option.ite_none_right_eq_some.mp made
  obtain rfl := Option.some_inj.mp equal
  rfl

theorem size_le_of_push (made : push v record = some w) : record.size ≤ v.size :=
  (Option.dite_none_right_eq_some.mp made).1

end Success

end SizedVector

end NoetixE1
