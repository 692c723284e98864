import NoetixE1.Low.Transitions
import NoetixE1.Low.WalkConfig
import NoetixE1.Machine.Accounts
import NoetixE1.Machine.Past

/-!
# One press, one mode change

`keyflag` is meant to let the branch of a button act once per press.  The branches of
buttons 9 and 5 set their flag when they act; those of buttons 10 and 11 never set
theirs, so they act again once the other buttons have brought back a mode they act on.
-/

namespace NoetixE1.Low

open Machine

variable {K : Type} [Field K] {P : Program K}

/-- The triggers whose branch sets its flag. -/
def Trigger.Latched (trigger : Trigger) : Prop := trigger = .nine ∨ trigger = .five

/-! ## The flags of buttons 9 and 5 -/

/-- A latched branch acts only while its flag is clear. -/
theorem keyflag_of_setsMode {trigger : Trigger} (latched : trigger.Latched) {t : Tick P}
    {g : Globals P} (sets : SetsMode t g trigger) : g.keyflag trigger.index = 0 := by
  rcases latched with rfl | rfl
  · exact sets.2
  · obtain ⟨_, _, clear, _⟩ := sets
    rw [button10_keyflag_of_ne t _ (by decide), button9_keyflag_of_ne t g (by decide)] at clear
    exact clear

theorem buttons_keyflag {trigger : Trigger} (latched : trigger.Latched) (t : Tick P)
    (g : Globals P) :
    (buttons t g).keyflag trigger.index =
      if SetsMode t g trigger then 1
      else if t.button trigger.index = 0 then 0 else g.keyflag trigger.index := by
  unfold buttons
  rw [button11_keyflag]
  rcases latched with rfl | rfl
  · change _ = ite (Fires9 t g) _ _
    change (button5 t (button10 t (button9 t g))).keyflag 9 = _
    rw [button5_keyflag_of_ne t _ (by decide), button10_keyflag_of_ne t _ (by decide),
      button9_keyflag_self]
    rfl
  · change _ = ite (Fires5 t (button10 t (button9 t g))) _ _
    change (button5 t (button10 t (button9 t g))).keyflag 5 = _
    rw [button5_keyflag_self, button10_keyflag_of_ne t _ (by decide),
      button9_keyflag_of_ne t g (by decide)]
    rfl

variable [LinearOrder K]

theorem step_keyflag {trigger : Trigger} (latched : trigger.Latched) {g : Globals P}
    (inv : Invariant g) (t : Tick P) :
    (step g t).keyflag trigger.index =
      if SetsMode t g trigger then 1
      else if t.button trigger.index = 0 then 0 else g.keyflag trigger.index := by
  rw [(step_console inv t).keyflag, buttons_keyflag latched]

variable [IsStrictOrderedRing K]

/-- The flag stays set while the button is held. -/
theorem run_keyflag {trigger : Trigger} (latched : trigger.Latched) {g : Globals P}
    (inv : Invariant g) {ticks : List (Tick P)}
    (held : ∀ t ∈ ticks, t.button trigger.index = 1) (marked : g.keyflag trigger.index = 1) :
    (run step g ticks).keyflag trigger.index = 1 := by
  induction ticks generalizing g with
  | nil => exact marked
  | cons t rest ih =>
      have pressed : t.button trigger.index ≠ 0 := by
        rw [held t List.mem_cons_self]
        exact one_ne_zero
      refine ih (inv.step t) (fun later member => held later (List.mem_cons_of_mem t member)) ?_
      rw [step_keyflag latched inv, marked, if_neg pressed]
      exact ite_self _

/-! ## Holds -/

/-- In this run some tick meets `fires`, and the button of the trigger is pressed from then
on up to the tick that comes next. -/
def HeldSince (trigger : Trigger) (fires : Globals P → Tick P → Prop)
    (history : Fin P.inputSize → K) (ticks : List (Tick P)) (next : Tick P) : Prop :=
  ∃ before first between, ticks = before ++ first :: between ∧
    fires (after history before) first ∧
    ∀ t ∈ first :: between ++ [next], t.button trigger.index = 1

/-- While the button is held its branch sets the mode at most once. -/
def OnePress (trigger : Trigger) (history : Fin P.inputSize → K) (ticks : List (Tick P)) : Prop :=
  ∀ earlier t later, ticks = earlier ++ t :: later →
    HeldSince trigger (fun g t => SetsMode t g trigger) history earlier t →
    ¬ SetsMode t (after history earlier) trigger

/-- A latched branch has its flag set throughout the hold. -/
theorem keyflag_of_held {trigger : Trigger} (latched : trigger.Latched) {g : Globals P}
    (inv : Invariant g) {first : Tick P} (acts : Acts first g trigger) {between : List (Tick P)}
    (held : ∀ t ∈ between, t.button trigger.index = 1) :
    (run step g (first :: between)).keyflag trigger.index = 1 := by
  refine run_keyflag latched (inv.step first) held ?_
  rw [step_keyflag latched inv, if_pos ((setsMode_iff_acts inv first trigger).mpr acts)]

/-! ## What lets a branch act again -/

section Reopening

omit [IsStrictOrderedRing K]

/-- How often button 9 acts in a stretch of ticks. -/
def switches (g : Globals P) (ticks : List (Tick P)) : ℕ :=
  tally step (fun g t => Fires9 t g) g ticks

theorem switches_concat (g : Globals P) (ticks : List (Tick P)) (t : Tick P) :
    switches g (ticks ++ [t]) = switches g ticks + if Fires9 t (run step g ticks) then 1 else 0 :=
  tally_concat step (fun g t => Fires9 t g) g ticks t

/-- In this stretch the walk chord has taken effect, and button 11 has not been pressed in
that tick or since. -/
def WalkedOff (g : Globals P) (ticks : List (Tick P)) : Prop :=
  Since step (fun g t => ChordWalks t g) (fun _ t => t.button 11 ≠ 1) g ticks

instance (g : Globals P) (ticks : List (Tick P)) : Decidable (WalkedOff g ticks) :=
  Since.decidable step _ _ g ticks

/--
What has happened since the branch of a pressed button acted, in the tick `first` taken
from `g`, lets it act again in the tick `next`.  Nothing does for buttons 9 and 5.  Button
10 needs button 2, and that button 9 has switched control off and on again or, if it has not
acted, that the robot has walked off.  Button 11 needs that in the same tick the walk chord
takes effect or button 9 switches control off.
-/
def Reopens (g : Globals P) (first : Tick P) (between : List (Tick P)) (next : Tick P) :
    Trigger → Prop
  | .nine => False
  | .five => False
  | .ten =>
      next.button 2 = 1 ∧
        if switches (step g first) (between ++ [next]) = 0 then WalkedOff g (first :: between)
        else Even (switches (step g first) (between ++ [next]))
  | .eleven =>
      ChordWalks next (run step g (first :: between)) ∨
        Fires9 next (run step g (first :: between)) ∧
          (run step g (first :: between)).startcontrol = true

instance (g : Globals P) (first : Tick P) (between : List (Tick P)) (next : Tick P) :
    (trigger : Trigger) → Decidable (Reopens g first between next trigger)
  | .nine => inferInstanceAs (Decidable False)
  | .five => inferInstanceAs (Decidable False)
  | .ten => inferInstanceAs (Decidable (_ ∧ ite _ _ _))
  | .eleven => inferInstanceAs (Decidable (_ ∨ _ ∧ _))

/-- In no press does anything that happens after the branch has acted let it act again. -/
def NeverReopens (trigger : Trigger) (history : Fin P.inputSize → K) (ticks : List (Tick P)) :
    Prop :=
  ∀ before first rest, ticks = before ++ first :: rest →
    Acts first (after history before) trigger →
    ∀ between next later, rest = between ++ next :: later →
      (∀ t ∈ first :: between ++ [next], t.button trigger.index = 1) →
      ¬ Reopens (after history before) first between next trigger

instance (trigger : Trigger) (history : Fin P.inputSize → K) (ticks : List (Tick P)) :
    Decidable (NeverReopens trigger history ticks) :=
  inferInstanceAs (Decidable (∀ before first rest, ticks = before ++ first :: rest →
    Acts first (after history before) trigger →
    ∀ between next later, rest = between ++ next :: later →
      (∀ t ∈ first :: between ++ [next], t.button trigger.index = 1) →
      ¬ Reopens (after history before) first between next trigger))

end Reopening

/-! ## Button 10 -/

section Ten

variable {g : Globals P}

omit [IsStrictOrderedRing K] in
/-- A robot that is down when button 5 is looked at does not get up in this tick. -/
theorem buttons_down (inv : Invariant g) {t : Tick P}
    (down : (button10 t (button9 t g)).mode = .lie ∨ (button10 t (button9 t g)).mode = .default) :
    (buttons t g).mode = .lie ∨ (buttons t g).mode = .default := by
  have away : ¬ ChordWalks t g := by
    rintro ⟨_, _, standing⟩
    rw [(standing_iff inv t).mpr standing] at down
    simp at down
  rw [buttons_mode inv, mode_before_eleven inv, if_neg away]
  rcases down with lie | passive
  · rw [lie]
    split_ifs with _ absurd
    · cases absurd
    · exact Or.inl rfl
    · exact Or.inl rfl
  · rw [passive]
    split_ifs with _ absurd
    · cases absurd
    · exact Or.inl rfl
    · exact Or.inr rfl

omit [IsStrictOrderedRing K] in
/-- A walking robot that no other branch stops is stopped by button 11. -/
theorem buttons_stopped (inv : Invariant g) {t : Tick P} (pressed : t.button 11 = 1)
    (quiet : ¬ Fires9 t g) (idle : ¬ ChordStands t g) (walking : g.mode = .usermode) :
    (buttons t g).mode = .stand := by
  have before := (walking_before_eleven inv t).mpr (Or.inr ⟨quiet, idle, walking⟩)
  have leaves : ElevenLeaves t g := by
    rw [← fires11_iff inv]
    exact ⟨pressed, keyflag_before_eleven inv t, Or.inl before⟩
  rw [buttons_mode inv, if_pos leaves, if_pos before]

/-- Between two ticks of a press of button 10 in which its branch has acted just once:
control is armed unless button 9 has acted an odd number of times, and the robot is down
once it has acted. -/
structure Raised (g : Globals P) (switched : ℕ) (walkedOff : Prop) : Prop extends Invariant g where
  armed : g.startcontrol = true ↔ Even switched
  upright : switched = 0 → g.mode = .usermode ∧ walkedOff ∨ g.mode = .stand ∧ ¬ walkedOff
  down : switched ≠ 0 → g.mode = .lie ∨ g.mode = .default

/-- The tick in which button 10 acts. -/
theorem raised_of_acts (inv : Invariant g) {first : Tick P} (acts : ChordStands first g) :
    Raised (step g first) 0 (WalkedOff g [first]) := by
  have kept := step_console inv first
  have walked : WalkedOff g [first] ↔ ChordWalks first g ∧ first.button 11 ≠ 1 := by
    unfold WalkedOff
    rw [since_cons, or_iff_left (not_since_nil step _ _ _), along_cons,
      and_iff_left (along_nil step _ _)]
  refine ⟨inv.step first, ?_, fun _ => ?_, fun touched => (touched rfl).elim⟩
  · refine iff_of_true ?_ (by decide)
    rw [kept.startcontrol, buttons_startcontrol]
    obtain ⟨_, ready⟩ := acts
    split_ifs at ready ⊢ with fires
    · rw [ready]
      rfl
    · exact ready.1
  · rw [kept.mode, buttons_mode_of_standing inv (Or.inl acts), walked]
    split_ifs with walks
    · exact Or.inl ⟨rfl, walks⟩
    · exact Or.inr ⟨rfl, walks⟩

namespace Raised

variable {switched : ℕ} {ticks : List (Tick P)} {start : Globals P} {t : Tick P}

/-- Button 9 acts, and button 10 does not: the robot goes down. -/
theorem step_of_fires
    (raised : Raised (run Low.step start ticks) switched (WalkedOff start ticks))
    (idle : ¬ ChordStands t (run Low.step start ticks))
    (fires : Fires9 t (run Low.step start ticks)) :
    Raised (Low.step (run Low.step start ticks) t) (switched + 1)
      (WalkedOff start (ticks ++ [t])) := by
  have inv := raised.toInvariant
  have kept := step_console inv t
  have seated : ¬ Standing t (run Low.step start ticks) := fun standing =>
    standing.elim idle fun quiet => quiet.1 fires
  refine ⟨inv.step t, ?_, fun untouched => (Nat.succ_ne_zero _ untouched).elim, fun _ => ?_⟩
  · rw [kept.startcontrol, buttons_startcontrol, if_pos fires, Nat.even_add_one, ← raised.armed,
      Bool.not_eq_true, Bool.not_eq_true']
  · rw [kept.mode]
    refine buttons_down inv ?_
    rw [mode_before_walk inv, if_neg seated, if_pos fires]
    split_ifs
    · exact Or.inl rfl
    · exact Or.inr rfl

/-- Neither acts: a walking robot is stopped by button 11, a standing one walks off with the
walk chord, and one that is down stays down. -/
theorem step_of_quiet
    (raised : Raised (run Low.step start ticks) switched (WalkedOff start ticks))
    (idle : ¬ ChordStands t (run Low.step start ticks))
    (quiet : ¬ Fires9 t (run Low.step start ticks)) :
    Raised (Low.step (run Low.step start ticks) t) switched (WalkedOff start (ticks ++ [t])) := by
  have inv := raised.toInvariant
  have kept := step_console inv t
  refine ⟨inv.step t, ?_, fun untouched => ?_, fun touched => ?_⟩
  · rw [kept.startcontrol, buttons_startcontrol, if_neg quiet]
    exact raised.armed
  · rw [kept.mode]
    unfold WalkedOff
    rw [since_concat]
    rcases raised.upright untouched with ⟨walking, walked⟩ | ⟨standing, still⟩
    · by_cases pressed : t.button 11 = 1
      · exact Or.inr ⟨buttons_stopped inv pressed quiet idle walking, fun both => both.1 pressed⟩
      · refine Or.inl ⟨?_, pressed, Or.inr walked⟩
        exact (buttons_usermode_iff inv t).mpr ⟨pressed, Or.inr ⟨quiet, idle, walking⟩⟩
    · rw [buttons_mode_of_standing inv (Or.inr ⟨quiet, standing⟩)]
      split_ifs with walks
      · exact Or.inl ⟨rfl, walks.2, Or.inl walks.1⟩
      · refine Or.inr ⟨rfl, fun both => ?_⟩
        exact walks ⟨both.2.resolve_right still, both.1⟩
  · rw [kept.mode]
    refine buttons_down inv ?_
    have low := raised.down touched
    have seated : ¬ Standing t (run Low.step start ticks) := by
      refine fun standing => standing.elim idle fun upright => ?_
      rw [upright.2] at low
      simp at low
    rw [mode_before_walk inv, if_neg seated, if_neg quiet]
    exact low

/-- One more tick in which button 10 does not act. -/
theorem step (raised : Raised (run Low.step start ticks) switched (WalkedOff start ticks))
    (idle : ¬ ChordStands t (run Low.step start ticks)) :
    Raised (Low.step (run Low.step start ticks) t)
      (switched + if Fires9 t (run Low.step start ticks) then 1 else 0)
      (WalkedOff start (ticks ++ [t])) := by
  split_ifs with fires
  · exact raised.step_of_fires idle fires
  · exact raised.step_of_quiet idle fires

end Raised

/-- All ticks up to the next one, if the branch does not act in them. -/
theorem raised_of_idle (inv : Invariant g) {first : Tick P} (acts : ChordStands first g)
    {between : List (Tick P)}
    (idle : Along step (fun g t => ¬ ChordStands t g) (step g first) between) :
    Raised (run step g (first :: between)) (switches (step g first) between)
      (WalkedOff g (first :: between)) := by
  induction between using List.reverseRecOn with
  | nil => exact raised_of_acts inv acts
  | append_singleton between t ih =>
      obtain ⟨earlier, last⟩ := (along_append step).mp idle
      have next := (ih earlier).step last.1
      rw [switches_concat, ← List.cons_append, run_concat]
      exact next

theorem acts_ten_iff (inv : Invariant g) {first next : Tick P} {between : List (Tick P)}
    (acts : ChordStands first g) (pressed : next.button 10 = 1)
    (idle : Along step (fun g t => ¬ ChordStands t g) (step g first) between) :
    ChordStands next (run step g (first :: between)) ↔ Reopens g first between next .ten := by
  have raised := raised_of_idle inv acts idle
  unfold ChordStands StandChord Reopens
  rw [switches_concat, and_assoc, and_iff_right pressed, ← run_cons]
  refine and_congr_right fun _ => ?_
  by_cases fires : Fires9 next (run step g (first :: between))
  · rw [if_pos fires, if_pos fires, if_neg (Nat.succ_ne_zero _), Nat.even_add_one, ← raised.armed,
      Bool.not_eq_true]
  · rw [if_neg fires, if_neg fires, Nat.add_zero, raised.armed]
    split_ifs with untouched
    · rw [untouched, and_iff_right Even.zero]
      rcases raised.upright untouched with ⟨walking, walked⟩ | ⟨standing, still⟩
      · exact iff_of_true (fun standing => absurd (walking.symm.trans standing) (by decide)) walked
      · exact iff_of_false (fun moved => moved standing) still
    · refine and_iff_left fun standing => ?_
      have low := raised.down untouched
      rw [standing] at low
      simp at low

end Ten

/-! ## Button 11 -/

section Eleven

variable {g : Globals P}

omit [IsStrictOrderedRing K] in
/-- While button 11 is pressed the robot ends every tick standing or lying. -/
theorem step_settled (inv : Invariant g) {t : Tick P} (pressed : t.button 11 = 1) :
    (step g t).mode = .stand ∨ (step g t).mode = .lie := by
  have leaves := fires11_iff inv t
  unfold Fires11 at leaves
  rw [and_iff_right pressed, and_iff_right (keyflag_before_eleven inv t)] at leaves
  rw [(step_console inv t).mode, buttons_mode inv]
  simp only [← leaves]
  cases mode : (button5 t (button10 t (button9 t g))).mode <;> simp

omit [Field K] [LinearOrder K] [IsStrictOrderedRing K] in
/-- So it acts again only in a tick that takes the robot out of these modes. -/
theorem acts_eleven_iff {next : Tick P} (pressed : next.button 11 = 1)
    (settled : g.mode = .stand ∨ g.mode = .lie) :
    ElevenLeaves next g ↔
      ChordWalks next g ∨ Fires9 next g ∧ g.startcontrol = true := by
  unfold ElevenLeaves
  rw [and_iff_right pressed]
  split_ifs with standing fires
  · have armed : ¬ (Fires9 next g ∧ g.startcontrol = true) := by
      rintro ⟨fires, on⟩
      rcases standing with ⟨_, ready⟩ | ⟨quiet, _⟩
      · rw [if_pos fires, on] at ready
        cases ready
      · exact quiet fires
    rw [or_iff_left armed]
    exact ⟨fun chord => ⟨chord.1, chord.2, standing⟩, fun walks => ⟨walks.1, walks.2.1⟩⟩
  · rw [or_iff_right fun walks => standing walks.2.2, and_iff_right fires]
  · have lying : g.mode = .lie :=
      settled.resolve_left fun mode => standing (Or.inr ⟨fires, mode⟩)
    refine iff_of_false (fun away => away lying) ?_
    rintro (walks | both)
    · exact standing walks.2.2
    · exact fires both.1

theorem acts_eleven_iff_reopens (inv : Invariant g) {first next : Tick P}
    {between : List (Tick P)} (held : ∀ t ∈ first :: between ++ [next], t.button 11 = 1) :
    ElevenLeaves next (run step g (first :: between)) ↔ Reopens g first between next .eleven := by
  refine acts_eleven_iff (held next (by simp)) ?_
  obtain ⟨earlier, last, split⟩ := (List.eq_nil_or_concat' (first :: between)).resolve_left
    (List.cons_ne_nil first between)
  rw [split] at held ⊢
  rw [run_concat]
  refine step_settled (run_invariant step (fun _ t inv => inv.step t) earlier inv) ?_
  exact held last (by simp)

end Eleven

/-! ## Presses -/

/-- In a press after the branch has acted just once, it acts exactly when it is let act. -/
theorem acts_iff_reopens {trigger : Trigger} {g : Globals P} (inv : Invariant g)
    {first next : Tick P} {between : List (Tick P)} (acts : Acts first g trigger)
    (held : ∀ t ∈ first :: between ++ [next], t.button trigger.index = 1)
    (idle : Along step (fun g t => ¬ Acts t g trigger) (step g first) between) :
    Acts next (run step g (first :: between)) trigger ↔ Reopens g first between next trigger := by
  have silent (latched : trigger.Latched) :
      ¬ Acts next (run step g (first :: between)) trigger := by
    intro again
    have reached := run_invariant step (fun _ t inv => inv.step t) (first :: between) inv
    have kept : ∀ t ∈ between, t.button trigger.index = 1 :=
      fun t member => held t (by simp [member])
    have marked := keyflag_of_held latched inv acts kept
    rw [keyflag_of_setsMode latched ((setsMode_iff_acts reached next trigger).mpr again)] at marked
    exact zero_ne_one marked
  cases trigger with
  | nine => exact iff_of_false (silent (Or.inl rfl)) id
  | five => exact iff_of_false (silent (Or.inr rfl)) id
  | ten => exact acts_ten_iff inv acts (held next (by simp)) idle
  | eleven => exact acts_eleven_iff_reopens inv held

/--
In a run, the branch of a button acts at most once per press exactly when nothing that
happens in a press after it has acted lets it act again.
-/
theorem one_press_iff (trigger : Trigger) (history : Fin P.inputSize → K) (ticks : List (Tick P)) :
    OnePress trigger history ticks ↔ NeverReopens trigger history ticks := by
  constructor
  · rintro once before first rest rfl acts between next later rfl held reopens
    have inv := after_invariant history before
    have sets := (setsMode_iff_acts inv first trigger).mpr acts
    -- nor does the branch act in between, so what has happened since it acted decides
    have idle : Along step (fun g t => ¬ Acts t g trigger) (step (after history before) first)
        between := by
      rw [along_iff_forall_split]
      rintro earlier t after rfl again
      refine once (before ++ first :: earlier) t (after ++ next :: later) (by simp)
        ⟨before, first, earlier, rfl, sets, fun t member => held t ?_⟩ ?_
      · simp only [List.mem_append, List.mem_cons] at member ⊢
        tauto
      · rw [setsMode_iff_acts (after_invariant history _), after_append]
        exact again
    refine once (before ++ first :: between) next later (by simp)
      ⟨before, first, between, rfl, sets, held⟩ ?_
    rw [setsMode_iff_acts (after_invariant history _), after_append]
    exact (acts_iff_reopens inv acts held idle).mpr reopens
  · rintro closed earlier next later rfl ⟨before, first, between, rfl, sets, held⟩ again
    have acts := (setsMode_iff_acts (after_invariant history before) first trigger).mp sets
    have once : ∃ skipped t since, first :: between = skipped ++ t :: since ∧
        Acts t (run step (after history before) skipped) trigger := ⟨[], first, between, rfl, acts⟩
    -- count from the last time the branch acted
    obtain ⟨skipped, last, since, split, acted, idle⟩ :=
      exists_last step (fun g t => Acts t g trigger) once
    rw [split] at held again closed
    rw [← after_append] at acted idle
    rw [← List.append_assoc] at again
    have pressed : ∀ t ∈ last :: since ++ [next], t.button trigger.index = 1 := fun t member =>
      held t (by simp only [List.mem_append, List.mem_cons] at member ⊢; tauto)
    refine closed (before ++ skipped) last (since ++ next :: later) (by simp) acted since next
      later rfl pressed ?_
    refine (acts_iff_reopens (after_invariant history _) acted pressed idle).mp ?_
    rw [← after_append]
    exact (setsMode_iff_acts (after_invariant history _) next trigger).mp again

/-! ## Presses of one button alone -/

/-- Buttons 9 and 5 are not pressed. -/
def Released (t : Tick P) : Prop := t.button 9 ≠ 1 ∧ t.button 5 ≠ 1

omit [IsStrictOrderedRing K] in
/-- A press during which buttons 9 and 5 are released acts at most once. -/
theorem not_reopens_of_released {trigger : Trigger} {g : Globals P} {first next : Tick P}
    {between : List (Tick P)} (released : ∀ t ∈ first :: between ++ [next], Released t) :
    ¬ Reopens g first between next trigger := by
  cases trigger with
  | nine => exact id
  | five => exact id
  | ten =>
      rintro ⟨_, reopened⟩
      have untouched : switches (step g first) (between ++ [next]) = 0 := by
        refine tally_eq_zero_iff.mpr ((along_iff_forall_split step).mpr ?_)
        intro before t after split fires
        exact (released t (by rw [List.cons_append, split]; simp)).1 fires.1
      rw [if_pos untouched] at reopened
      obtain ⟨before, walk, stay, split, walks, _⟩ := reopened
      exact (released walk (by rw [split]; simp)).2 walks.1.1
  | eleven =>
      have up := released next (by simp)
      rintro (walks | ⟨fires, _⟩)
      · exact up.2 walks.1.1
      · exact up.1 fires.1

/-- Button 10 is held while the walk chord takes effect and button 11 ends it in the same tick;
and button 11 is held after it has ended walking. -/
theorem one_press_held :
    OnePress (P := levelProgram jointNames.symm) .ten (fun _ => 0)
        [stillTick [9] 1, stillTick [10, 2] 1, stillTick [10, 2, 5, 11] 1, stillTick [10, 2] 1] ∧
      OnePress (P := levelProgram jointNames.symm) .eleven (fun _ => 0)
        [stillTick [9] 1, stillTick [10, 2] 1, stillTick [5, 2] 1, stillTick [11] 1,
          stillTick [11, 10, 2] 1] :=
  ⟨(one_press_iff .ten _ _).mpr (by decide +kernel),
    (one_press_iff .eleven _ _).mpr (by decide +kernel)⟩

/-- Button 10 is held while button 5 takes the robot to walking, and then acts again;
likewise button 11 while it walks again. -/
theorem not_one_press :
    ¬ OnePress (P := levelProgram jointNames.symm) .ten (fun _ => 0)
        [stillTick [9] 1, stillTick [10, 2] 1, stillTick [10, 2, 5] 1, stillTick [10, 2] 1] ∧
      ¬ OnePress (P := levelProgram jointNames.symm) .eleven (fun _ => 0)
        [stillTick [9] 1, stillTick [10, 2] 1, stillTick [5, 2] 1, stillTick [11] 1,
          stillTick [11, 5, 2] 1] := by
  constructor
  · intro once
    refine once [stillTick [9] 1, stillTick [10, 2] 1, stillTick [10, 2, 5] 1]
      (stillTick [10, 2] 1) [] rfl ?_ (by decide +kernel)
    exact ⟨[stillTick [9] 1], stillTick [10, 2] 1, [stillTick [10, 2, 5] 1], rfl,
      by decide +kernel, by simp [Trigger.index, Tick.button, stillTick, stillStatus, Reads.single]⟩
  · intro once
    refine once [stillTick [9] 1, stillTick [10, 2] 1, stillTick [5, 2] 1, stillTick [11] 1]
      (stillTick [11, 5, 2] 1) [] rfl ?_ (by decide +kernel)
    exact ⟨[stillTick [9] 1, stillTick [10, 2] 1, stillTick [5, 2] 1], stillTick [11] 1, [], rfl,
      by decide +kernel, by simp [Trigger.index, Tick.button, stillTick, stillStatus, Reads.single]⟩

end NoetixE1.Low
