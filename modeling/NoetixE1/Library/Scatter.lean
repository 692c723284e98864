import Mathlib.Data.List.Nodup
import Mathlib.Logic.Function.Basic

/-!
# Scattered writes

A loop that fills an array through an address table performs a list of writes,
each updating one slot.  When no slot is addressed twice, the slot of every
write ends up with exactly that write applied to its initial value.
-/

namespace NoetixE1.Scatter

variable {Slot Value : Type*}

/-- One write of a loop: the slot it addresses and what it does there. -/
structure SlotWrite (Slot Value : Type*) where
  slot : Slot
  write : Value → Value

/-- The slots addressed by a list of writes, in order. -/
def slots (writes : List (SlotWrite Slot Value)) : List Slot := writes.map SlotWrite.slot

@[simp] theorem slots_append (first second : List (SlotWrite Slot Value)) :
    slots (first ++ second) = slots first ++ slots second := List.map_append

variable [DecidableEq Slot]

/-- The array left by the writes, performed in order. -/
def scatter (writes : List (SlotWrite Slot Value)) (array : Slot → Value) : Slot → Value :=
  writes.foldl (fun held each => Function.update held each.slot (each.write (held each.slot))) array

theorem scatter_cons (each : SlotWrite Slot Value) (rest : List (SlotWrite Slot Value))
    (array : Slot → Value) :
    scatter (each :: rest) array =
      scatter rest (Function.update array each.slot (each.write (array each.slot))) := rfl

/-- A slot that no write addresses keeps its value. -/
theorem scatter_of_not_mem {writes : List (SlotWrite Slot Value)} {slot : Slot}
    (untouched : slot ∉ slots writes) (array : Slot → Value) :
    scatter writes array slot = array slot := by
  induction writes generalizing array with
  | nil => rfl
  | cons each rest ih =>
      obtain ⟨other, later⟩ := not_or.mp (List.mem_cons.not.mp untouched)
      rw [scatter_cons, ih later, Function.update_of_ne other]

/-- A slot addressed once holds its write applied to the initial value. -/
theorem scatter_of_mem {writes : List (SlotWrite Slot Value)} (once : (slots writes).Nodup)
    {each : SlotWrite Slot Value} (member : each ∈ writes) (array : Slot → Value) :
    scatter writes array each.slot = each.write (array each.slot) := by
  induction writes generalizing array with
  | nil => cases member
  | cons head rest ih =>
      obtain ⟨fresh, restOnce⟩ := List.nodup_cons.mp once
      rw [scatter_cons]
      rcases List.mem_cons.mp member with same | later
      · subst same
        rw [scatter_of_not_mem fresh, Function.update_self]
      · have distinct : each.slot ≠ head.slot := by
          intro equal
          exact fresh (equal ▸ List.mem_map_of_mem later)
        rw [ih restOnce later, Function.update_of_ne distinct]

end NoetixE1.Scatter
