import NoetixE1.High.Start

/-!
# When the two programs agree

Contents that are not harmless are found by runs of at most three snapshots: hold the key in
question alone, or a modifier at a level other than 0 and 1 together with key 6.
-/

namespace NoetixE1.High

open Low Machine

variable {K : Type}

/-! ## Agreement tick by tick -/

/-- Programs that publish the same commands agree in every iteration. -/
theorem agree_of_published_eq (caster : Script.IndexCaster) {l : Locals} {g : Script.Globals}
    (inRange : Script.InRange g) (before : List (Joydata K)) {snapshot : Joydata K}
    (same : published l (before ++ [snapshot]) =
      Script.published caster g (before ++ [snapshot])) :
    Agree (run next l before) (run Script.next g before) snapshot := by
  induction before generalizing l g with
  | nil => exact ((published_cons_eq_iff caster inRange snapshot []).mp same).2.1
  | cons first rest ih =>
      obtain ⟨fits, _, later⟩ := (published_cons_eq_iff caster inRange first _).mp same
      exact ih ((Script.next_inRange_iff inRange).mpr fits) later

/-! ## Probes -/

/-- Only this key is at a level other than 0. -/
def only (key : Fin 14) (level : Int) : Fin 14 → Int := fun i => if i = key then level else 0

theorem only_self (key : Fin 14) (level : Int) : only key level key = level := if_pos rfl

theorem only_of_ne {key other : Fin 14} (apart : other ≠ key) (level : Int) :
    only key level other = 0 := if_neg apart

namespace Latch

variable {button : Fin 14 → Int} {l : Latch}

/-- A level of 2 leaves the latches of the key as they are. -/
theorem scan_two {key : Fin 14} (level : button key = 2) (l : Latch) :
    (l.scan button button).keyUpdown key = l.keyUpdown key ∧
      (l.scan button button).keyInuse key = l.keyInuse key := by
  have up : button key ≠ 0 := by
    rw [level]
    decide
  have down : button key ≠ 1 := by
    rw [level]
    decide
  exact ⟨scan_keyUpdown_keep up down, scan_keyInuse_keep up⟩

theorem advance_keyUpdown (button : Fin 14 → Int) (l : Latch) :
    (l.advance button).keyUpdown = (l.scan button button).keyUpdown :=
  mark_keyUpdown _ _

/-- A released key is fresh after the iteration. -/
theorem advance_released {key : Fin 14} (up : button key = 0) :
    (l.advance button).keyInuse key = 0 := by
  refine (mark_fresh_iff _ _ _).mpr ⟨?_, (scan_released up).2⟩
  rintro b taken rfl
  exact pressed_of_picks taken up

end Latch

namespace Binding

/-- The modifiers have no branch of their own. -/
theorem key_ne_modifier (b : Binding) {key : Fin 14} (modifier : Modifier key) : b.key ≠ key := by
  rcases modifier with rfl | rfl
  · cases b <;> decide
  · cases b <;> decide

/-- With the modifiers released each key has one binding. -/
theorem eq_of_plain {b c : Binding} (plain : b.Modified fun _ => 0) (other : c.Modified fun _ => 0)
    (same : c.key = b.key) : c = b := by
  have other_run {d : Binding} (free : d.Modified fun _ => 0) : d ≠ .run := by
    rintro rfl
    exact zero_ne_one free
  exact eq_of_key_eq (other_run other) (other_run plain) other plain same

theorem exists_plain (b : Binding) : ∃ c : Binding, (c.Modified fun _ => 0) ∧ c.key = b.key := by
  cases b with
  | startteach | walk => exact ⟨.startteach, rfl, rfl⟩
  | swing | saveteach | run => exact ⟨.swing, ⟨rfl, rfl⟩, rfl⟩
  | shake | endteach => exact ⟨.shake, ⟨rfl, rfl⟩, rfl⟩
  | cheer | playteach => exact ⟨.cheer, ⟨rfl, rfl⟩, rfl⟩
  | start => exact ⟨.start, True.intro, rfl⟩
  | switch => exact ⟨.switch, True.intro, rfl⟩

end Binding

namespace Latch

variable {button : Fin 14 → Int} {l : Latch}

/-- A fresh key that is in use after the iteration has been marked by the branch taken. -/
theorem exists_picked {key : Fin 14} (fresh : (l.scan button button).keyInuse key = 0)
    (used : (l.advance button).keyInuse key ≠ 0) :
    ∃ b, l.picks button = some b ∧ key = b.key := by
  by_contra! unmarked
  exact used ((mark_fresh_iff _ _ _).mpr ⟨unmarked, fresh⟩)

/-- With the modifiers released and one other key held, its plain binding is all that can
be enabled. -/
theorem enabled_plain_iff {b : Binding} (plain : b.Modified fun _ => 0)
    (released : ∀ key, Modifier key → (l.scan button button).keyUpdown key = 0)
    (others : ∀ c : Binding, c.key ≠ b.key → button c.key = 0) (c : Binding) :
    c.Enabled (l.scan button button) ↔
      c = b ∧ (l.scan button button).keyUpdown b.key = 1 ∧
        (l.scan button button).keyInuse b.key = 0 := by
  have modified : c.Modified (l.scan button button).keyUpdown ↔ c.Modified fun _ => 0 := by
    refine c.modified_congr (fun key modifier => ?_) fun key modifier => ?_
    · exact iff_of_true (released key modifier) rfl
    · rw [released key modifier]
  constructor
  · rintro ⟨selects, down, fresh⟩
    have same : c.key = b.key := by
      by_contra apart
      exact pressed_of_scan down (others c apart)
    obtain rfl := Binding.eq_of_plain plain (modified.mp selects) same
    refine ⟨rfl, down, fresh.resolve_left ?_⟩
    rintro rfl
    exact zero_ne_one plain
  · rintro ⟨rfl, down, fresh⟩
    exact ⟨modified.mpr plain, down, Or.inr fresh⟩

theorem picks_plain {b : Binding} (plain : b.Modified fun _ => 0)
    (released : ∀ key, Modifier key → (l.scan button button).keyUpdown key = 0)
    (others : ∀ c : Binding, c.key ≠ b.key → button c.key = 0) :
    l.picks button = if (l.scan button button).keyUpdown b.key = 1 ∧
      (l.scan button button).keyInuse b.key = 0 then some b else none := by
  have enabled := enabled_plain_iff plain released others
  split_ifs with ready
  · refine chosen_eq_some_iff.mpr ⟨(enabled b).mpr ⟨rfl, ready⟩, fun c before other => ?_⟩
    rw [((enabled c).mp other).1] at before
    exact Nat.lt_irrefl _ before
  · exact chosen_eq_none_iff.mpr fun c other => ready ((enabled c).mp other).2

/-- Holding one key alone shows whether it is fresh. -/
theorem picks_hold {b : Binding} (plain : b.Modified fun _ => 0) (l : Latch) :
    l.picks (only b.key 1) = if l.keyInuse b.key = 0 then some b else none := by
  rw [picks_plain plain (fun key modifier => ?_) fun c apart => only_of_ne apart 1]
  · have down : only b.key 1 b.key = 1 := only_self b.key 1
    have up : only b.key 1 b.key ≠ 0 := by
      rw [down]
      exact one_ne_zero
    refine if_congr ?_ rfl rfl
    rw [scan_keyInuse_keep up, and_iff_right (scan_pressed down)]
  · exact (scan_released (only_of_ne (b.key_ne_modifier modifier).symm 1)).1

/-- At a level other than 0 and 1 it shows whether it was down before. -/
theorem picks_keep {b : Binding} (plain : b.Modified fun _ => 0) (l : Latch) :
    l.picks (only b.key 2) =
      if l.keyUpdown b.key = 1 ∧ l.keyInuse b.key = 0 then some b else none := by
  rw [picks_plain plain (fun key modifier => ?_) fun c apart => only_of_ne apart 2]
  · obtain ⟨level, use⟩ := scan_two (only_self b.key 2) l
    rw [level, use]
  · exact (scan_released (only_of_ne (b.key_ne_modifier modifier).symm 2)).1

end Latch

/-! ## Harmless contents are necessary -/

/-- From this first snapshot on the latches pass all probes. -/
structure Probed (l : Latch) (button : Fin 14 → Int) : Prop where
  first : l.picks button = Script.initial.picks button
  once : ∀ probe, (l.advance button).picks probe = (Script.initial.advance button).picks probe
  twice : ∀ probe last, ((l.advance button).advance probe).picks last =
    ((Script.initial.advance button).advance probe).picks last

namespace Probed

variable {l : Latch} {button : Fin 14 → Int}

/-- A key that is held and in use at the start stays so; the script has to mark it too. -/
theorem inuse (probed : Probed l button) (b : Binding) :
    button b.key = 0 ∨ l.keyInuse b.key = 0 ∨ b.key = key6 ∧ RunsFirst button := by
  obtain ⟨c, plain, same⟩ := b.exists_plain
  rw [← same]
  by_contra! harmful
  obtain ⟨up, used, alone⟩ := harmful
  have still : (l.advance button).keyInuse c.key ≠ 0 := by
    intro fresh
    have before := ((Latch.mark_fresh_iff _ _ _).mp fresh).2
    rw [Latch.scan_keyInuse_keep up] at before
    exact used before
  have probe := probed.once (only c.key 1)
  rw [Latch.picks_hold plain, Latch.picks_hold plain, if_neg still] at probe
  have marked : (Script.initial.advance button).keyInuse c.key ≠ 0 := by
    intro fresh
    rw [if_pos fresh] at probe
    cases probe
  obtain ⟨taken, picked, key⟩ := Latch.exists_picked (initial_scan_fresh button c.key) marked
  -- only the branch of `RUN` can be taken with the key in use
  obtain ⟨_, _, runs | fresh⟩ := Latch.enabled_of_chosen (probed.first.trans picked)
  · rw [runs] at picked key
    exact alone key (initial_picks_run.mp picked)
  · rw [← key, Latch.scan_keyInuse_keep up] at fresh
    exact used fresh

/-- A level of 1 that the first snapshot does not overwrite is acted on. -/
theorem updown (probed : Probed l button) (b : Binding) :
    button b.key = 0 ∨ button b.key = 1 ∨ l.keyUpdown b.key ≠ 1 := by
  have unused := probed.inuse b
  obtain ⟨c, plain, same⟩ := b.exists_plain
  rw [← same] at unused ⊢
  by_contra! harmful
  obtain ⟨up, level, down⟩ := harmful
  have fresh : l.keyInuse c.key = 0 := by
    rcases unused with released | fresh | ⟨six, runs⟩
    · exact absurd released up
    · exact fresh
    · rw [six] at level
      exact absurd runs.2.1 level
  have probe := probed.once (only c.key 2)
  have here : (l.advance button).keyUpdown c.key = 1 := by
    rw [Latch.advance_keyUpdown, Latch.scan_keyUpdown_keep up level, down]
  have there : ¬ (Script.initial.advance button).keyUpdown c.key = 1 := by
    rw [Latch.advance_keyUpdown, initial_scan_down]
    exact level
  have idle : ¬ ((Script.initial.advance button).keyUpdown c.key = 1 ∧
      (Script.initial.advance button).keyInuse c.key = 0) := fun both => there both.1
  rw [Latch.picks_keep plain, Latch.picks_keep plain, if_neg idle] at probe
  have marked : (l.advance button).keyInuse c.key ≠ 0 := by
    intro fresh
    rw [if_pos ⟨here, fresh⟩] at probe
    cases probe
  obtain ⟨taken, picked, key⟩ :=
    Latch.exists_picked ((Latch.scan_keyInuse_keep up).trans fresh) marked
  have enabled := Latch.enabled_of_chosen (probed.first.symm.trans picked)
  rw [key] at level
  exact level (initial_enabled_iff.mp enabled).2

/-- A modifier at a level other than 0 and 1 together with key 6. -/
def chord (modifier : Fin 14) : Fin 14 → Int := fun i => if i = key6 then 1 else only modifier 2 i

theorem picks_chord {modifier : Fin 14} (which : Modifier modifier) {l : Latch}
    (released : l.keyUpdown modifier = 0) (fresh : l.keyInuse key6 = 0) :
    l.picks (chord modifier) = some .swing := by
  have apart {key : Fin 14} (other : Modifier key) : key ≠ key6 :=
    (Binding.key_ne_modifier .swing other).symm
  rw [Latch.picks_plain (b := .swing) ⟨rfl, rfl⟩]
  · refine if_pos ⟨Latch.scan_pressed (if_pos rfl), ?_⟩
    rw [Latch.scan_keyInuse_keep]
    · exact fresh
    · exact one_ne_zero
  · intro key other
    have level : chord modifier key = only modifier 2 key := if_neg (apart other)
    by_cases same : key = modifier
    · subst same
      rw [only_self] at level
      rw [(Latch.scan_two level l).1, released]
    · rw [only_of_ne same] at level
      exact (Latch.scan_released level).1
  · intro c other
    exact (if_neg other).trans (only_of_ne (c.key_ne_modifier which) 2)

/-- So is a level other than 0 of a modifier, however the modifier is held later. -/
theorem modifier (probed : Probed l button) (key : Fin 14) (which : Modifier key) :
    button key = 0 ∨ button key = 1 ∨ l.keyUpdown key = 0 := by
  by_contra! harmful
  obtain ⟨up, level, held⟩ := harmful
  have keeps (before : Latch) : (before.advance (only key 2)).keyUpdown key =
      before.keyUpdown key := by
    rw [Latch.advance_keyUpdown, (Latch.scan_two (only_self key 2) before).1]
  have apart : key6 ≠ key := Binding.key_ne_modifier .swing which
  have probe := probed.twice (only key 2) (chord key)
  rw [picks_chord which (l := (Script.initial.advance button).advance (only key 2))] at probe
  · have selects := (Latch.enabled_of_chosen probe).1
    have zero : (((l.advance button).advance (only key 2)).scan (chord key)
        (chord key)).keyUpdown key = 0 := by
      rcases which with rfl | rfl
      · exact selects.2
      · exact selects.1
    have middle : chord key key = 2 := (if_neg apart.symm).trans (only_self key 2)
    rw [(Latch.scan_two middle _).1, keeps, Latch.advance_keyUpdown,
      Latch.scan_keyUpdown_keep up level] at zero
    exact held zero
  · rw [keeps, Latch.advance_keyUpdown, initial_scan_up]
    exact level
  · exact Latch.advance_released (only_of_ne apart 2)

end Probed

/-! ## The two programs -/

/-- The programs publish the same commands. -/
def Same (caster : Script.IndexCaster) (l : Locals) (snapshots : List (Joydata K)) : Prop :=
  published l snapshots = Script.published caster Script.initial snapshots

/-- The script never increments its index beyond 65535. -/
def IndexFits (snapshots : List (Joydata K)) : Prop :=
  Along Script.next Script.Fits Script.initial snapshots

instance (snapshots : List (Joydata K)) : Decidable (IndexFits snapshots) :=
  inferInstanceAs (Decidable (Along Script.next Script.Fits Script.initial snapshots))

theorem indexFits_of_length {snapshots : List (Joydata K)} (short : snapshots.length ≤ 65535) :
    IndexFits snapshots := by
  refine Script.along_fits (le_refl 0) ?_
  change 0 + (snapshots.length : ℤ) ≤ 65535
  omega

section Necessary

variable {caster : Script.IndexCaster} {l : Locals} {snapshot : Joydata K}

/-- If the programs agree on all runs that fit, they agree in the iterations of short ones. -/
theorem agree_of_every
    (every : ∀ rest, Same caster l (snapshot :: rest) ↔ IndexFits (snapshot :: rest))
    (before : List (Joydata K)) (short : before.length ≤ 1) (last : Joydata K) :
    Agree (run next (next l snapshot) before)
      (run Script.next (Script.next Script.initial snapshot) before) last := by
  have fits : IndexFits (snapshot :: (before ++ [last])) := by
    refine indexFits_of_length ?_
    rw [List.length_cons, List.length_append, List.length_singleton]
    omega
  exact agree_of_published_eq caster initial_inRange (snapshot :: before)
    ((every (before ++ [last])).mpr fits)

theorem agree_first
    (every : ∀ rest, Same caster l (snapshot :: rest) ↔ IndexFits (snapshot :: rest)) :
    Agree l Script.initial snapshot := by
  have short : [snapshot].length ≤ 65535 := by
    rw [List.length_singleton]
    decide
  exact agree_of_published_eq caster initial_inRange []
    ((every []).mpr (indexFits_of_length short))

theorem probed_of_every
    (every : ∀ rest, Same caster l (snapshot :: rest) ↔ IndexFits (snapshot :: rest)) :
    Probed l.toLatch snapshot.button := by
  refine ⟨(agree_first every).1, fun probe => ?_, fun probe last => ?_⟩
  · have agree := agree_of_every every [] (Nat.zero_le 1) ⟨snapshot.axes, probe⟩
    have same := agree.1
    rw [run_nil, run_nil, next_toLatch, Script.next_toLatch] at same
    exact same
  · have agree := agree_of_every every [⟨snapshot.axes, probe⟩] (le_refl 1)
      ⟨snapshot.axes, last⟩
    have same := agree.1
    rw [run_cons, run_nil, run_cons, run_nil, next_toLatch, next_toLatch, Script.next_toLatch,
      Script.next_toLatch] at same
    exact same

/-- The index published first is that of the script, or a playback has set it. -/
theorem fileindex_of_agree (agree : Agree l Script.initial snapshot) :
    l.fileindex.setWidth 16 = 0 ∨ PlaysFirst snapshot.button := by
  obtain ⟨same, index⟩ := agree
  rw [next_fileindex, Script.next_fileindex, same] at index
  by_cases plays : Script.initial.picks snapshot.button = some .playteach
  · exact Or.inr (initial_picks_playteach.mp plays)
  · left
    cases taken : Script.initial.picks snapshot.button with
    | none =>
        rw [taken] at index
        exact index
    | some b =>
        rw [taken] at index plays
        cases b with
        | playteach => exact absurd rfl plays
        | saveteach =>
            change (l.fileindex + 1).setWidth 16 = BitVec.ofInt 16 1 at index
            rw [BitVec.setWidth_add _ _ (by decide)] at index
            exact add_right_cancel (index.trans (zero_add _).symm)
        | _ => exact index

end Necessary

/-- The contents that do no harm whatever is read after the first snapshot: on every run from
there the programs publish the same commands as long as the index of the script fits. -/
theorem harmless_iff (caster : Script.IndexCaster) (l : Locals) (snapshot : Joydata K) :
    (∀ rest, Same caster l (snapshot :: rest) ↔ IndexFits (snapshot :: rest)) ↔
      Started l snapshot.button := by
  constructor
  · intro every
    have probed := probed_of_every every
    exact ⟨probed.modifier, probed.updown, probed.inuse, fileindex_of_agree (agree_first every)⟩
  · intro started rest
    exact started.published_eq_iff caster rest

/-- The conversion as the binding library documents it. -/
def exactCaster : Script.IndexCaster where
  cast index := if 0 ≤ index ∧ index < 65536 then some (BitVec.ofInt 16 index) else none
  inRange _ lower upper := if_pos ⟨lower, upper⟩
  outOfRange _ beyond := if_neg fun both => both.2.not_ge beyond

end NoetixE1.High
