import NoetixE1.Library.SharedCell
import NoetixE1.Low.Transitions
import NoetixE1.Low.Posture

/-!
# Statuses delivered during a tick

The subscription callback replaces `latest_hw_status` while `process` copies parts of it
at several places.  Each copy is whole, but nothing keeps the copies of one call together:
they belong to one status exactly when no delivery falls between the first and the last.
A call does not pass every place: outside walking mode it copies the joints where it starts
a motion, and else nothing but the remote data.
-/

namespace NoetixE1.Low

open SharedCell

variable {K : Type} {P : Program K}

/-- The places where one call of `process` copies from `latest_hw_status`. -/
inductive Place where
  | remote
  | lieCapture
  | standCapture
  | motor
  | imu
  | arm (i : Fin 12)

/-- The order in which a call passes them. -/
def Place.rank : Place → ℕ
  | .remote => 0
  | .lieCapture => 1
  | .standCapture => 2
  | .motor => 3
  | .imu => 4
  | .arm i => 5 + i.val

instance : Preorder Place := Preorder.lift Place.rank

theorem Place.remote_le (place : Place) : Place.remote ≤ place := Nat.zero_le _

theorem Place.le_arm (place : Place) : place ≤ Place.arm 11 := by
  change place.rank ≤ 16
  cases place with
  | arm i => exact Nat.add_le_add_left (Nat.le_of_lt_succ i.isLt) 5
  | _ => decide

/-- The copies that a call takes in an interleaving with deliveries. -/
def readsOf (w : Interleaving (RobotHardwareStatus K) Place) : Reads K where
  remote := w.seen .remote
  lieCapture := w.seen .lieCapture
  standCapture := w.seen .standCapture
  motor := w.seen .motor
  imu := w.seen .imu
  arm i := w.seen (.arm i)

/-- The copy taken at a place. -/
def Reads.copy (reads : Reads K) : Place → RobotHardwareStatus K
  | .remote => reads.remote
  | .lieCapture => reads.lieCapture
  | .standCapture => reads.standCapture
  | .motor => reads.motor
  | .imu => reads.imu
  | .arm i => reads.arm i

theorem readsOf_copy (w : Interleaving (RobotHardwareStatus K) Place) (place : Place) :
    (readsOf w).copy place = w.seen place := by
  cases place <;> rfl

theorem single_copy (status : RobotHardwareStatus K) (place : Place) :
    (Reads.single status).copy place = status := by
  cases place <;> rfl

/-! ## The copies that a call takes -/

variable {g : Globals P} {t t' : Tick P}

theorem fires9_congr (button : t.button = t'.button) (g : Globals P) :
    Fires9 t g ↔ Fires9 t' g := by
  unfold Fires9
  rw [button]

theorem chordStands_congr (button : t.button = t'.button) (g : Globals P) :
    ChordStands t g ↔ ChordStands t' g := by
  unfold ChordStands StandChord
  simp only [button, fires9_congr button g]

theorem recaptures_congr (button : t.button = t'.button) (g : Globals P) :
    Recaptures t g ↔ Recaptures t' g :=
  or_congr (and_congr_left fun _ => fires9_congr button g) (chordStands_congr button g)

/-- The place of the last capture in the call, if there is any. -/
def capturePlace (t : Tick P) (g : Globals P) : Place :=
  if ChordStands t g then .standCapture else .lieCapture

theorem capturePlace_congr (button : t.button = t'.button) (g : Globals P) :
    capturePlace t g = capturePlace t' g :=
  if_congr (chordStands_congr button g) rfl rfl

variable [Field K]

/-- The call passes this place: it always copies the remote data, it captures the joints
where it starts a motion, and it reads the sensors in walking mode. -/
def Copies (t : Tick P) (g : Globals P) : Place → Prop
  | .remote => True
  | .lieCapture => Fires9 t g ∧ g.startcontrol = false
  | .standCapture => ChordStands t g
  | .motor | .imu | .arm _ => (buttons t g).mode = .usermode

/-- Outside walking mode a call copies the remote data, and else only for a capture. -/
theorem Copies.recaptures {place : Place} (taken : Copies t g place)
    (away : (buttons t g).mode ≠ .usermode) : place = .remote ∨ Recaptures t g := by
  cases place with
  | remote => exact Or.inl rfl
  | lieCapture => exact Or.inr (Or.inl taken)
  | standCapture => exact Or.inr (Or.inr taken)
  | motor => exact absurd taken away
  | imu => exact absurd taken away
  | arm i => exact absurd taken away

/-- Outside walking mode nothing is copied after the capture. -/
theorem Copies.le_capturePlace {place : Place} (taken : Copies t g place)
    (away : (buttons t g).mode ≠ .usermode) : place ≤ capturePlace t g := by
  unfold capturePlace
  cases place with
  | remote => exact Place.remote_le _
  | lieCapture =>
      split_ifs
      · exact Nat.le_succ 1
      · exact Nat.le_refl 1
  | standCapture => rw [if_pos (show ChordStands t g from taken)]
  | motor => exact absurd taken away
  | imu => exact absurd taken away
  | arm i => exact absurd taken away

/-- Two ticks that a call cannot tell apart: the network and the copies it takes agree. -/
structure SameCopies (t t' : Tick P) (g : Globals P) : Prop where
  run : t.run = t'.run
  copy : ∀ place, Copies t g place → t.reads.copy place = t'.reads.copy place

namespace SameCopies

theorem remote (same : SameCopies t t' g) : t.reads.remote = t'.reads.remote :=
  same.copy .remote trivial

theorem button (same : SameCopies t t' g) : t.button = t'.button := by
  unfold Tick.button
  rw [same.remote]

theorem button9_eq (same : SameCopies t t' g) : button9 t g = button9 t' g := by
  rw [NoetixE1.Low.button9_eq, NoetixE1.Low.button9_eq, same.button]
  simp only [← fires9_congr same.button g]
  by_cases captures : Fires9 t g ∧ g.startcontrol = false
  · rw [show t.reads.lieCapture = t'.reads.lieCapture from same.copy .lieCapture captures]
  · by_cases fires : Fires9 t g
    · have armed : ¬ g.startcontrol = false := fun disarmed => captures ⟨fires, disarmed⟩
      rw [if_pos fires, if_pos fires, if_neg armed, if_neg armed]
    · rw [if_neg fires, if_neg fires]

end SameCopies

variable [LinearOrder K]

theorem usermode_congr (inv : Invariant g) (button : t.button = t'.button) :
    (buttons t g).mode = .usermode ↔ (buttons t' g).mode = .usermode := by
  rw [buttons_usermode_iff inv, buttons_usermode_iff inv]
  unfold ChordWalks WalkChord Standing
  simp only [button, fires9_congr button g, chordStands_congr button g]

/-- Which copies a call takes depends on the buttons alone. -/
theorem copies_congr (inv : Invariant g) (button : t.button = t'.button) (place : Place) :
    Copies t g place ↔ Copies t' g place := by
  cases place with
  | remote => exact Iff.rfl
  | lieCapture => exact and_congr_left fun _ => fires9_congr button g
  | standCapture => exact chordStands_congr button g
  | motor => exact usermode_congr inv button
  | imu => exact usermode_congr inv button
  | arm i => exact usermode_congr inv button

theorem Recaptures.currentJointAngles (captures : Recaptures t g) (inv : Invariant g) :
    (buttons t g).currentJointAngles = measuredAngles P (t.reads.copy (capturePlace t g)) := by
  rw [buttons_currentJointAngles inv]
  unfold capturePlace
  split_ifs with chord started
  · rfl
  · rfl
  · exact absurd captures (not_or.mpr ⟨started, chord⟩)

namespace SameCopies

/-- The button branches capture the same joints. -/
theorem buttons_eq (same : SameCopies t t' g) (inv : Invariant g) :
    buttons t g = buttons t' g := by
  have ten : button10 t (button9 t g) = button10 t' (button9 t g) := by
    rw [button10_eq, button10_eq, same.button]
    have fires : Fires10 t (button9 t g) ↔ Fires10 t' (button9 t g) := by
      unfold Fires10
      rw [same.button]
    simp only [← fires]
    by_cases captures : ChordStands t g
    · rw [show t.reads.standCapture = t'.reads.standCapture from
        same.copy .standCapture captures]
    · have quiet := mt (fires10_iff inv t).mp captures
      rw [if_neg quiet, if_neg quiet]
  unfold buttons
  rw [ten, same.button9_eq]
  unfold button11 button5
  rw [same.button]

/-- A call does the same with copies that agree where it takes them. -/
theorem sent_eq (same : SameCopies t t' g) (inv : Invariant g) :
    (process t g).sent = (process t' g).sent := by
  rw [process_eq inv, process_eq inv, ← same.buttons_eq inv]
  unfold dispatch
  cases mode : (buttons t g).mode with
  | stand => rfl
  | lie => rfl
  | default => rfl
  | usermode =>
      have arm (i : Fin 12) : t.reads.arm i = t'.reads.arm i := same.copy (.arm i) mode
      have motor : t.reads.motor = t'.reads.motor := same.copy .motor mode
      have imu : t.reads.imu = t'.reads.imu := same.copy .imu mode
      have arms : armWrites t = armWrites t' := by
        unfold armWrites
        simp only [arm]
      have evaluated (g : Globals P) : policyStep t g = policyStep t' g := by
        unfold policyStep updateStateEstimation proprioception evaluatePolicy computeActions
        rw [motor, imu, same.run]
      have asked : commandOf t = commandOf t' := by
        unfold commandOf
        rw [same.remote]
      change [userFrame t _] = [userFrame t' _]
      unfold userFrame
      rw [arms, asked, evaluated]

end SameCopies

/-! ## One status -/

/--
All that a tick uses of the hardware is that of the status `n`: the remote data, in walking
mode the sensor values put in the observation and the measured positions behind the
setpoints of the undriven joints, and so the frame sent.
-/
structure OneStatus (w : Interleaving (RobotHardwareStatus K) Place)
    (run : (Fin P.inputSize → K) → Fin 12 → K) (g : Globals P) (n : ℕ) : Prop where
  remote : (readsOf w).remote.remoteData = (w.content n).remoteData
  sensors : (buttons ⟨readsOf w, run⟩ g).mode = .usermode →
    proprioception P (readsOf w) = proprioception P (.single (w.content n))
  measured : (buttons ⟨readsOf w, run⟩ g).mode = .usermode → ∀ i,
    (((readsOf w).arm i).motorData (armIndex P i)).pos =
      ((w.content n).motorData (armIndex P i)).pos
  sent : (process ⟨readsOf w, run⟩ g).sent = (process ⟨.single (w.content n), run⟩ g).sent

/-- In every run, whatever is delivered and whatever the network returns, the next tick
uses one single status. -/
def Unmixed (P : Program K) (before : Place →o ℕ) : Prop :=
  ∀ (content : ℕ → RobotHardwareStatus K) (run : (Fin P.inputSize → K) → Fin 12 → K)
    (history : Fin P.inputSize → K) (ticks : List (Tick P)),
    ∃ n, (⟨content, before⟩ : Interleaving (RobotHardwareStatus K) Place).Held n ∧
      OneStatus ⟨content, before⟩ run (after history ticks) n

/-- A call in the state `g` that reads the remote data of `t` uses one single status,
whatever else is delivered and whatever the network returns. -/
def UnmixedCall (before : Place →o ℕ) (t : Tick P) (g : Globals P) : Prop :=
  ∀ (content : ℕ → RobotHardwareStatus K) (run : (Fin P.inputSize → K) → Fin 12 → K),
    (content (before .remote)).remoteData = t.reads.remote.remoteData →
      ∃ n, (⟨content, before⟩ : Interleaving (RobotHardwareStatus K) Place).Held n ∧
        OneStatus ⟨content, before⟩ run g n

/-- If all copies that a call takes are taken before a further delivery, they are those of
the status that the remote data came from. -/
theorem oneStatus_of_copies (inv : Invariant g) {before : Place →o ℕ}
    (content : ℕ → RobotHardwareStatus K) (run : (Fin P.inputSize → K) → Fin 12 → K)
    (together : ∀ place, Copies ⟨readsOf ⟨content, before⟩, run⟩ g place →
      before place = before .remote) :
    OneStatus ⟨content, before⟩ run g (before .remote) := by
  have copied (place : Place) (taken : Copies ⟨readsOf ⟨content, before⟩, run⟩ g place) :
      (readsOf ⟨content, before⟩).copy place = content (before .remote) := by
    rw [readsOf_copy, Interleaving.seen, together place taken]
  constructor
  · rfl
  · intro walking
    have motor : (readsOf ⟨content, before⟩).motor = _ := copied .motor walking
    have imu : (readsOf ⟨content, before⟩).imu = _ := copied .imu walking
    unfold proprioception
    rw [motor, imu]
    rfl
  · intro walking i
    have arm : (readsOf ⟨content, before⟩).arm i = _ := copied (.arm i) walking
    rw [arm]
  · refine SameCopies.sent_eq ⟨rfl, fun place taken => ?_⟩ inv
    rw [copied place taken, single_copy]

/-- A status with the given remote data, and another that differs in every button and in
every measured position. -/
def markedStatus (remote : Joydata K) (late : Bool) : RobotHardwareStatus K where
  imuData := ⟨fun _ => 0, fun _ => 0⟩
  remoteData :=
    { remote with button := fun index => remote.button index + if late then 1 else 0 }
  motorData _ := ⟨if late then 1 else 0, 0⟩

omit [LinearOrder K] in
theorem markedStatus_remoteData (remote : Joydata K) (late : Bool) :
    (markedStatus remote late).remoteData = remote ↔ late = false := by
  constructor
  · intro same
    have pressed := congrFun (congrArg Joydata.button same) 0
    cases late with
    | false => rfl
    | true => exact absurd pressed (by simp [markedStatus])
  · rintro rfl
    simp [markedStatus]

omit [LinearOrder K] in
theorem markedStatus_pos {remote : Joydata K} {late other : Bool} (slot : Fin 24)
    (same : ((markedStatus remote late).motorData slot).pos =
      ((markedStatus remote other).motorData slot).pos) : late = other := by
  cases late <;> cases other <;> simp [markedStatus] at same ⊢

variable [IsStrictOrderedRing K]

/-- The first frame after a capture tells which status the joints were captured from. -/
theorem OneStatus.captured {w : Interleaving (RobotHardwareStatus K) Place}
    {run : (Fin P.inputSize → K) → Fin 12 → K} {n : ℕ} (one : OneStatus w run g n)
    (inv : Invariant g) (captures : Recaptures ⟨readsOf w, run⟩ g)
    (away : (buttons ⟨readsOf w, run⟩ g).mode ≠ .usermode) :
    measuredAngles P (w.seen (capturePlace ⟨readsOf w, run⟩ g)) 0 =
      measuredAngles P (w.content n) 0 := by
  have button : (⟨readsOf w, run⟩ : Tick P).button =
      (⟨.single (w.content n), run⟩ : Tick P).button := congrArg Joydata.button one.remote
  have controlled (mode : WorkMode) : PositionControlled mode 0 := fun _ => by decide
  have captures' := (recaptures_congr button g).mp captures
  have away' := mt (usermode_congr inv button).mpr away
  have commanded : Commands g ⟨readsOf w, run⟩ 0 (measuredAngles P (w.content n) 0) := by
    unfold Commands
    rw [one.sent]
    refine (captures'.commands_iff inv away' (controlled _) _).mpr ?_
    rw [captures'.currentJointAngles inv, single_copy]
  rw [← (captures.commands_iff inv away (controlled _) _).mp commanded,
    captures.currentJointAngles inv, readsOf_copy]

/-- Mark everything that is delivered after the remote data has been copied: the other copies
that the call takes then have to be unmarked like the remote data. -/
theorem together_of_unmixed (inv : Invariant g) {before : Place →o ℕ}
    (every : UnmixedCall before t g) (place : Place) (taken : Copies t g place) :
    before place = before .remote := by
  let late (n : ℕ) : Bool := decide (before .remote < n)
  let w : Interleaving (RobotHardwareStatus K) Place :=
    ⟨fun n => markedStatus t.reads.remote.remoteData (late n), before⟩
  have start : late (before .remote) = false := decide_eq_false (Nat.lt_irrefl _)
  have known : (w.content (before .remote)).remoteData = t.reads.remote.remoteData :=
    (markedStatus_remoteData _ _).mpr start
  obtain ⟨n, _, one⟩ := every w.content (fun _ _ => 0) known
  have early : late n = false :=
    (markedStatus_remoteData _ _).mp (one.remote.symm.trans known)
  have button : t.button = (⟨readsOf w, fun _ _ => 0⟩ : Tick P).button :=
    congrArg Joydata.button known.symm
  -- an unmarked copy at a later place leaves no room for a delivery before this one
  have squeeze (later : Place) (ordered : place ≤ later)
      (unmarked : late (before later) = late n) : before place = before .remote := by
    have undelivered := of_decide_eq_false (unmarked.trans early)
    exact le_antisymm ((before.monotone ordered).trans (Nat.le_of_not_lt undelivered))
      (before.monotone (Place.remote_le place))
  by_cases walking : (buttons t g).mode = .usermode
  · have last := one.measured ((usermode_congr inv button).mp walking) 11
    exact squeeze (.arm 11) (Place.le_arm place) (markedStatus_pos _ last)
  · rcases taken.recaptures walking with rfl | captures
    · rfl
    · have same := one.captured inv ((recaptures_congr button g).mp captures)
        (mt (usermode_congr inv button).mpr walking)
      rw [← capturePlace_congr button g] at same
      exact squeeze _ (taken.le_capturePlace walking) (markedStatus_pos _ same)

/--
A call uses one single status, whatever is delivered, exactly when no delivery falls
between the copy of the remote data and any other copy that the call really takes.
-/
theorem one_status_call_iff (before : Place →o ℕ) (history : Fin P.inputSize → K)
    (ticks : List (Tick P)) (t : Tick P) :
    UnmixedCall before t (after history ticks) ↔
      ∀ place, Copies t (after history ticks) place → before place = before .remote := by
  have inv := after_invariant history ticks
  constructor
  · exact together_of_unmixed inv
  · intro together content run known
    refine ⟨before .remote, Interleaving.held_before _ _, ?_⟩
    refine oneStatus_of_copies inv content run fun place taken => together place ?_
    exact (copies_congr inv (congrArg Joydata.button known) place).mp taken

/-- A call outside walking mode that captures no joints takes one copy. -/
theorem one_status_of_idle (before : Place →o ℕ) (history : Fin P.inputSize → K)
    (ticks : List (Tick P)) {t : Tick P} (still : ¬ Recaptures t (after history ticks))
    (away : (buttons t (after history ticks)).mode ≠ .usermode) :
    UnmixedCall before t (after history ticks) := by
  refine (one_status_call_iff before history ticks t).mpr fun place taken => ?_
  rw [(taken.recaptures away).resolve_right still]

/-! ## All runs -/

/-- The walk chord in the first tick takes the robot to walking, and it keeps walking while
all buttons are released. -/
theorem walking_when_released (history : Fin P.inputSize → K) :
    (buttons (stillTick [] 0) (after history [stillTick [5, 2] 0] : Globals P)).mode =
      .usermode := by
  have first := initial_invariant history
  have up (index : Fin 14) (other : index ∉ [5, 2]) :
      (stillTick [5, 2] 0 : Tick P).button index ≠ 1 := by
    change ite _ _ _ ≠ (1 : Int)
    rw [if_neg other]
    decide
  have released (index : Fin 14) : (stillTick [] 0 : Tick P).button index ≠ 1 := by
    change (if index ∈ ([] : List (Fin 14)) then (1 : Int) else 0) ≠ 1
    simp
  have chord : ChordWalks (stillTick [5, 2] 0) (initial history) :=
    ⟨⟨rfl, rfl⟩, rfl, Or.inr ⟨fun fires => up 9 (by decide) fires.1, rfl⟩⟩
  have walking : (after history [stillTick [5, 2] 0]).mode = .usermode := by
    change (step (initial history) (stillTick [5, 2] 0)).mode = _
    rw [(step_console first _).mode]
    exact (buttons_usermode_iff first _).mpr ⟨up 11 (by decide), Or.inl chord⟩
  refine (buttons_usermode_iff (after_invariant history _) _).mpr ⟨released 11, Or.inr ?_⟩
  exact ⟨fun fires => released 9 fires.1, fun stands => released 10 stands.1.1, walking⟩

/-- A walking call takes every copy but the captures, the last one at the end. -/
theorem quiet_of_unmixed {before : Place →o ℕ} (every : Unmixed P before) : Quiet before := by
  have walking := walking_when_released (P := P) fun _ => 0
  have together := together_of_unmixed (after_invariant (fun _ => 0) [stillTick [5, 2] 0])
    (fun content run _ => every content run _ _) (.arm 11) walking
  exact quiet_of_ends Place.remote_le Place.le_arm together.le

/--
The ticks of every run use one single status each, whatever is delivered, exactly when no
delivery falls between the first and the last copy of a tick.
-/
theorem one_status_iff_quiet (P : Program K) (before : Place →o ℕ) :
    Unmixed P before ↔ Quiet before := by
  constructor
  · exact quiet_of_unmixed
  · intro quiet content run history ticks
    refine ⟨before .remote, Interleaving.held_before _ _, ?_⟩
    exact oneStatus_of_copies (after_invariant history ticks) content run fun place _ =>
      quiet place .remote

/-- Two deliveries before the tick and none during it. -/
theorem one_status_level : Unmixed (levelProgram jointNames.symm) (OrderHom.const Place 2) :=
  (one_status_iff_quiet _ (OrderHom.const Place 2)).mpr fun _ _ => rfl

/-- A delivery between the first and the second iteration of the arm loop. -/
def midArm : Interleaving (RobotHardwareStatus ℚ) Place where
  content n := if n = 0 then stillStatus [] 0 else stillStatus [] 1
  before :=
    { toFun := fun place => if place.rank ≤ 5 then 0 else 1
      monotone' := by
        intro first second ordered
        change first.rank ≤ second.rank at ordered
        change ite _ _ _ ≤ ite _ _ _
        split_ifs <;> omega }

/-- The walking frame then sent is that of neither status. -/
theorem frame_of_two_statuses :
    ¬ ∃ n, (process (P := levelProgram jointNames.symm) ⟨readsOf midArm, fun _ _ => 0⟩
        (levelAfter jointNames.symm [stillTick [5, 2] 0])).sent =
      (process (P := levelProgram jointNames.symm) ⟨.single (midArm.content n), fun _ _ => 0⟩
        (levelAfter jointNames.symm [stillTick [5, 2] 0])).sent := by
  rintro ⟨n, same⟩
  have slots := congrArg (List.map fun frame =>
    ((frame (armIndex (levelProgram jointNames.symm) 0)).pos,
      (frame (armIndex (levelProgram jointNames.symm) 1)).pos)) same
  cases n with
  | zero => exact absurd slots (by decide +kernel)
  | succ n =>
      rw [show midArm.content (n + 1) = midArm.content 1 from rfl] at slots
      exact absurd slots (by decide +kernel)

end NoetixE1.Low
