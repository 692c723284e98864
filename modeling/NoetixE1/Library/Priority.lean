import Mathlib.Data.List.Nodup

/-!
# Priority service

A server knows its items in order of priority and serves, in every step, the first
item that is waiting.  When serving removes exactly the item served, the waiting items
are served one after another in their order, and from then on nothing is.
-/

namespace NoetixE1.Priority

variable {Item : Type*} [DecidableEq Item]

/-- Which items come before which in a list with one more in front. -/
theorem idxOf_cons_lt_iff {head other item : Item} {rest : List Item} :
    (head :: rest).idxOf other < (head :: rest).idxOf item ↔
      head ≠ item ∧ (head = other ∨ rest.idxOf other < rest.idxOf item) := by
  by_cases atItem : head = item
  · simp [atItem]
  · by_cases atOther : head = other
    · simp [← atOther, List.idxOf_cons_ne _ atItem, atItem]
    · simp [List.idxOf_cons_ne _ atItem, List.idxOf_cons_ne _ atOther, atItem, atOther]

/-- The item found is the first that waits: every earlier item does not. -/
theorem find?_eq_some_iff {order : List Item} {waiting : Item → Bool} {item : Item} :
    order.find? waiting = some item ↔
      item ∈ order ∧ waiting item = true ∧
        ∀ other ∈ order, order.idxOf other < order.idxOf item → waiting other = false := by
  induction order with
  | nil => simp
  | cons head rest ih =>
      rw [List.find?_cons]
      cases waits : waiting head with
      | true =>
          constructor
          · intro found
            cases found
            refine ⟨List.mem_cons_self, waits, fun other _ earlier => ?_⟩
            exact absurd rfl (idxOf_cons_lt_iff.mp earlier).1
          · rintro ⟨_, _, first⟩
            by_contra apart
            have before : (head :: rest).idxOf head < (head :: rest).idxOf item :=
              idxOf_cons_lt_iff.mpr ⟨fun same => apart (congrArg some same), Or.inl rfl⟩
            rw [first head List.mem_cons_self before] at waits
            cases waits
      | false =>
          refine ih.trans ?_
          constructor
          · rintro ⟨member, itemWaits, first⟩
            refine ⟨List.mem_cons_of_mem head member, itemWaits, fun other found earlier => ?_⟩
            obtain ⟨_, rfl | before⟩ := idxOf_cons_lt_iff.mp earlier
            · exact waits
            · rcases List.mem_cons.mp found with rfl | later
              · exact waits
              · exact first other later before
          · rintro ⟨member, itemWaits, first⟩
            have apart : head ≠ item := by
              rintro rfl
              rw [itemWaits] at waits
              cases waits
            refine ⟨(List.mem_cons.mp member).resolve_left apart.symm, itemWaits, ?_⟩
            intro other later before
            exact first other (List.mem_cons_of_mem head later)
              (idxOf_cons_lt_iff.mpr ⟨apart, Or.inr before⟩)

/-- Both searches find the same exactly if every item that the first one looks at gives the
same answer in both. -/
theorem find?_eq_find?_iff {order : List Item} {waiting other : Item → Bool} :
    order.find? waiting = order.find? other ↔
      ∀ item ∈ order,
        (∀ earlier ∈ order, order.idxOf earlier < order.idxOf item → waiting earlier = false) →
          waiting item = other item := by
  induction order with
  | nil => simp
  | cons head rest ih =>
      have first (earlier : Item) : ¬ (head :: rest).idxOf earlier < (head :: rest).idxOf head :=
        fun before => (idxOf_cons_lt_iff.mp before).1 rfl
      rw [List.find?_cons, List.find?_cons]
      cases waits : waiting head with
      | true =>
          constructor
          · intro found item _ idle
            have same : other head = true := by
              cases asked : other head with
              | true => rfl
              | false =>
                  rw [asked] at found
                  rw [← asked]
                  exact List.find?_some found.symm
            by_cases atHead : head = item
            · rw [← atHead, waits, same]
            · have before := idle head List.mem_cons_self
                (idxOf_cons_lt_iff.mpr ⟨atHead, Or.inl rfl⟩)
              rw [waits] at before
              cases before
          · intro same
            rw [← same head List.mem_cons_self fun earlier _ before => absurd before (first earlier),
              waits]
      | false =>
          -- both searches pass over the head
          have passes (asked : other head = false) :
              (∀ item ∈ head :: rest, (∀ earlier ∈ head :: rest,
                (head :: rest).idxOf earlier < (head :: rest).idxOf item →
                  waiting earlier = false) → waiting item = other item) ↔
              ∀ item ∈ rest, (∀ earlier ∈ rest, rest.idxOf earlier < rest.idxOf item →
                waiting earlier = false) → waiting item = other item := by
            constructor
            · intro same item member idle
              refine same item (List.mem_cons_of_mem head member) fun earlier found before => ?_
              obtain ⟨_, rfl | later⟩ := idxOf_cons_lt_iff.mp before
              · exact waits
              · rcases List.mem_cons.mp found with rfl | inRest
                · exact waits
                · exact idle earlier inRest later
            · intro same item member idle
              by_cases atHead : head = item
              · rw [← atHead, waits, asked]
              · refine same item ((List.mem_cons.mp member).resolve_left (Ne.symm atHead)) ?_
                intro earlier found before
                exact idle earlier (List.mem_cons_of_mem head found)
                  (idxOf_cons_lt_iff.mpr ⟨atHead, Or.inr before⟩)
          cases asked : other head with
          | false => exact ih.trans (passes asked).symm
          | true =>
              refine iff_of_false (fun found => ?_) fun same => ?_
              · have absurd := List.find?_some found
                rw [waits] at absurd
                cases absurd
              · have absurd := same head List.mem_cons_self
                  fun earlier _ before => (first earlier before).elim
                rw [waits, asked] at absurd
                cases absurd

/-- The first waiting item heads the list of all waiting items. -/
theorem filter_of_find? {order : List Item} (once : order.Nodup) {waiting : Item → Bool}
    {item : Item} (found : order.find? waiting = some item) :
    order.filter waiting =
      item :: order.filter fun other => waiting other && decide (some item ≠ some other) := by
  induction order with
  | nil => cases found
  | cons head rest ih =>
      obtain ⟨fresh, restOnce⟩ := List.nodup_cons.mp once
      rw [List.find?_cons] at found
      cases waits : waiting head with
      | true =>
          rw [waits] at found
          obtain rfl := Option.some.inj found
          have untouched : rest.filter waiting =
              rest.filter fun other => waiting other && decide (some head ≠ some other) := by
            refine List.filter_congr fun other member => ?_
            have apart : head ≠ other := fun equal => fresh (equal ▸ member)
            simp [apart]
          simpa [List.filter_cons, waits] using untouched
      | false =>
          rw [waits] at found
          simpa [List.filter_cons, waits] using ih restOnce found

variable {State : Type*}

/-- What the steps of the server serve. -/
def served (order : List Item) (waiting : State → Item → Bool) (serve : State → State) :
    State → ℕ → List (Option Item)
  | _, 0 => []
  | state, steps + 1 =>
      order.find? (waiting state) :: served order waiting serve (serve state) steps

/-- On the states of the invariant, a step removes the item it serves and no other. -/
structure Serves (order : List Item) (waiting : State → Item → Bool) (serve : State → State)
    (invariant : State → Prop) : Prop where
  keeps : ∀ state, invariant state → invariant (serve state)
  removes : ∀ state, invariant state → ∀ item ∈ order,
    waiting (serve state) item =
      (waiting state item && decide (order.find? (waiting state) ≠ some item))

/-- The waiting items are served in order, each once, and nothing after them. -/
theorem Serves.served_eq {order : List Item} (once : order.Nodup)
    {waiting : State → Item → Bool} {serve : State → State} {invariant : State → Prop}
    (serves : Serves order waiting serve invariant) {state : State} (inv : invariant state)
    {steps : ℕ} (enough : (order.filter (waiting state)).length ≤ steps) :
    served order waiting serve state steps =
      (order.filter (waiting state)).map some ++
        List.replicate (steps - (order.filter (waiting state)).length) none := by
  induction steps generalizing state with
  | zero =>
      rw [List.eq_nil_of_length_eq_zero (Nat.le_zero.mp enough)]
      rfl
  | succ steps ih =>
      have later : order.filter (waiting (serve state)) =
          order.filter fun item =>
            waiting state item && decide (order.find? (waiting state) ≠ some item) :=
        List.filter_congr fun item member => serves.removes state inv item member
      rw [served]
      cases found : order.find? (waiting state) with
      | none =>
          have idle : order.filter (waiting state) = [] :=
            List.filter_eq_nil_iff.mpr (List.find?_eq_none.mp found)
          have still : order.filter (waiting (serve state)) = [] := by
            rw [later, found]
            simpa using idle
          rw [ih (serves.keeps state inv) (by rw [still]; exact Nat.zero_le _), still, idle]
          rfl
      | some item =>
          have head := filter_of_find? once found
          rw [found] at later
          rw [← later] at head
          rw [head] at enough ⊢
          rw [ih (serves.keeps state inv) (Nat.le_of_succ_le_succ enough)]
          simp

end NoetixE1.Priority
