import Mathlib.Data.List.Destutter
import NoetixE1.High.Agreement

/-!
# Statuses and iterations

Both programs run a loop in one thread while a callback takes over statuses in another.
Whatever the order of the two, the loop decodes the snapshots it finds; but the C++ program
starts on a zero remote at once, while the script waits for the first status.
-/

namespace NoetixE1.High

open Low Machine

/-! ## Events -/

/-- What the callbacks read of a `RobotHardwareStatus`. -/
structure Report (K : Type) where
  remoteData : Joydata K
  workmode : Int

/-- What happens next: the callback takes over a status, or the loop runs once. -/
inductive Event (K : Type) where
  | delivered (status : Report K)
  | looped

variable {K : Type}

/-- The snapshots that the iterations find, given what is there at first. -/
def found : Option (Joydata K) → List (Event K) → List (Joydata K)
  | _, [] => []
  | _, .delivered status :: rest => found (some status.remoteData) rest
  | snapshot, .looped :: rest => snapshot.toList ++ found snapshot rest

/-! ## The C++ program -/

/-- The locals of `main` and the globals that the callback shares with it, with the `static`
of the callback. -/
structure Process (K : Type) extends Locals where
  remoteData : Joydata K
  curmode : Int
  lastmode : Int

namespace Process

/-- The globals are zero-initialised, the locals of `main` are not. -/
def start [Zero K] (l : Locals) : Process K :=
  { l with remoteData := ⟨fun _ => 0, fun _ => 0⟩, curmode := 0, lastmode := -1 }

/-- The subscription callback, and the modes it prints. -/
def callback (status : Report K) (s : Process K) : Process K × List Int :=
  let s := { s with remoteData := status.remoteData, curmode := status.workmode }
  if s.curmode ≠ s.lastmode then ({ s with lastmode := s.curmode }, [s.curmode]) else (s, [])

def step (s : Process K) : Event K → Process K
  | .delivered status => (callback status s).1
  | .looped => { s with toLocals := next s.toLocals s.remoteData }

/-- The commands published in the event. -/
def commands (s : Process K) : Event K → List (PublishedCmd K)
  | .delivered _ => []
  | .looped => [publishes s.toLocals s.remoteData]

/-- The modes printed in the event. -/
def prints (s : Process K) : Event K → List Int
  | .delivered status => (callback status s).2
  | .looped => []

theorem callback_eq (status : Report K) (s : Process K) :
    callback status s =
      ({ s with remoteData := status.remoteData, curmode := status.workmode
                lastmode := status.workmode },
        if s.lastmode ≠ status.workmode then [status.workmode] else []) := by
  unfold callback
  dsimp only
  by_cases same : status.workmode = s.lastmode
  · rw [same, if_neg (not_not.mpr rfl), if_neg (not_not.mpr rfl)]
  · rw [if_pos same, if_pos (Ne.symm same)]

/-- In any order of events the program decodes the snapshots that its iterations find. -/
theorem emitted_commands (s : Process K) (events : List (Event K)) :
    emitted step commands s events = published s.toLocals (found (some s.remoteData) events) := by
  induction events generalizing s with
  | nil => rfl
  | cons event rest ih =>
      rw [emitted, ih]
      cases event with
      | delivered status =>
          change [] ++ published (callback status s).1.toLocals
            (found (some (callback status s).1.remoteData) rest) = _
          rw [callback_eq]
          rfl
      | looped => rfl

end Process

/-! ## The script -/

namespace Script

/-- The globals of the script with those of its callback; an exception that nothing catches
ends it. -/
structure Process (K : Type) extends Globals where
  remoteData : Option (Joydata K)
  curmode : Int
  ended : Bool

namespace Process

/-- `remote_data = None`, `lasmode = curmode = 0`. -/
def start : Process K := { initial with remoteData := none, curmode := 0, ended := false }

/-- `on_robot_hardware_status`, and the modes it prints. -/
def callback (status : Report K) (s : Process K) : Process K × List Int :=
  let s := { s with remoteData := some status.remoteData }
  if status.workmode ≠ s.curmode then
    ({ s with curmode := status.workmode }, [status.workmode])
  else (s, [])

def step (caster : IndexCaster) (s : Process K) : Event K → Process K
  | .delivered status => if s.ended then s else (callback status s).1
  | .looped =>
      if s.ended then s
      else match s.remoteData with
        -- sleep and continue
        | none => s
        | some snapshot =>
            match publishes caster s.toGlobals snapshot with
            | none => { s with ended := true }
            | some _ => { s with toGlobals := next s.toGlobals snapshot }

/-- The commands published in the event. -/
def commands (caster : IndexCaster) (s : Process K) : Event K → List (PublishedCmd K)
  | .delivered _ => []
  | .looped =>
      if s.ended then []
      else match s.remoteData with
        | none => []
        | some snapshot => (publishes caster s.toGlobals snapshot).toList

/-- The modes printed in the event. -/
def prints (s : Process K) : Event K → List Int
  | .delivered status => if s.ended then [] else (callback status s).2
  | .looped => []

theorem callback_eq (status : Report K) (s : Process K) :
    callback status s =
      ({ s with remoteData := some status.remoteData, curmode := status.workmode },
        if s.curmode ≠ status.workmode then [status.workmode] else []) := by
  unfold callback
  dsimp only
  by_cases same : status.workmode = s.curmode
  · rw [same, if_neg (not_not.mpr rfl), if_neg (not_not.mpr rfl)]
  · rw [if_pos same, if_pos (Ne.symm same)]

theorem step_ended (caster : IndexCaster) {s : Process K} (ended : s.ended = true)
    (event : Event K) : step caster s event = s := by
  cases event <;> simp [step, ended]

theorem emitted_ended (caster : IndexCaster) {s : Process K} (ended : s.ended = true)
    (events : List (Event K)) : emitted (step caster) (commands caster) s events = [] := by
  induction events with
  | nil => rfl
  | cons event rest ih =>
      rw [emitted, step_ended caster ended, ih]
      cases event <;> simp [commands, ended]

/-- In any order of events the script decodes the snapshots that its iterations find. -/
theorem emitted_commands (caster : IndexCaster) {s : Process K} (alive : s.ended = false)
    (events : List (Event K)) :
    emitted (step caster) (commands caster) s events =
      published caster s.toGlobals (found s.remoteData events) := by
  induction events generalizing s with
  | nil => rfl
  | cons event rest ih =>
      rw [emitted]
      cases event with
      | delivered status =>
          have kept : step caster s (.delivered status) = (callback status s).1 := by
            simp [step, alive]
          rw [callback_eq] at kept
          have alive' : (step caster s (.delivered status)).ended = false := by
            rw [kept]
            exact alive
          rw [ih alive', kept]
          rfl
      | looped =>
          cases snapshot : s.remoteData with
          | none =>
              have kept : step caster s .looped = s := by simp [step, alive, snapshot]
              have silent : commands caster s .looped = [] := by simp [commands, alive, snapshot]
              rw [kept, silent, ih alive, snapshot]
              rfl
          | some data =>
              cases command : publishes caster s.toGlobals data with
              | none =>
                  have ends : (step caster s .looped).ended = true := by
                    simp [step, alive, snapshot, command]
                  have silent : commands caster s .looped = [] := by
                    simp [commands, alive, snapshot, command]
                  rw [emitted_ended caster ends, silent]
                  simp [found, published, command]
              | some sent =>
                  have moved : step caster s .looped =
                      { s with toGlobals := Script.next s.toGlobals data } := by
                    simp [step, alive, snapshot, command]
                  have alive' : (step caster s .looped).ended = false := by
                    rw [moved]
                    exact alive
                  have spoken : commands caster s .looped = [sent] := by
                    simp [commands, alive, snapshot, command]
                  rw [ih alive', moved, spoken]
                  simp [found, published, command, snapshot]

end Process

end Script

/-! ## Before the first status -/

/-- The command of an idle remote. -/
def idleCommand [Zero K] (index : BitVec 16) : PublishedCmd K := ⟨0, 0, .default, index⟩

/-- Some iterations before any status, and then statuses that no iteration decodes. -/
def waiting (idle : ℕ) (early : List (Report K)) : List (Event K) :=
  List.replicate idle .looped ++ early.map .delivered

theorem found_deliveries (snapshot : Option (Joydata K)) (statuses : List (Report K)) :
    found snapshot (statuses.map Event.delivered) = [] := by
  induction statuses generalizing snapshot with
  | nil => rfl
  | cons status more ih => exact ih (some status.remoteData)

theorem found_waiting (snapshot : Option (Joydata K)) (idle : ℕ) (early : List (Report K)) :
    found snapshot (waiting idle early) = (List.replicate idle snapshot.toList).flatten := by
  unfold waiting
  induction idle with
  | zero => exact found_deliveries snapshot early
  | succ idle ih =>
      rw [List.replicate_succ, List.replicate_succ, List.flatten_cons, ← ih]
      rfl

section Idle

variable [Zero K]

/-- The zero-initialised `remote_data`. -/
def idleRemote : Joydata K := ⟨fun _ => 0, fun _ => 0⟩

theorem picks_idleRemote (l : Latch) : l.picks (idleRemote : Joydata K).button = none := by
  cases picked : l.picks (idleRemote : Joydata K).button with
  | none => rfl
  | some b => exact absurd rfl (Latch.pressed_of_picks picked)

/-- One iteration on an idle remote clears both key arrays. -/
theorem next_idleRemote (l : Locals) : next l (idleRemote : Joydata K) = .cleared l.fileindex := by
  have latch := next_toLatch l (idleRemote : Joydata K)
  have index := next_fileindex l (idleRemote : Joydata K)
  rw [Latch.advance, picks_idleRemote] at latch
  rw [picks_idleRemote] at index
  cases left : next l (idleRemote : Joydata K) with
  | mk latches fileindex =>
      rw [left] at latch index
      subst latch index
      rfl

/-- It publishes no action. -/
theorem publishes_idleRemote (l : Locals) :
    publishes l (idleRemote : Joydata K) = idleCommand (l.fileindex.setWidth 16) := by
  rw [publishes_eq, next_idleRemote, picks_idleRemote]
  rfl

theorem published_replicate_idleRemote (l : Locals) (idle : ℕ) (rest : List (Joydata K)) :
    published l (List.replicate (idle + 1) idleRemote ++ rest) =
      List.replicate (idle + 1) (idleCommand (l.fileindex.setWidth 16)) ++
        published (.cleared l.fileindex) rest := by
  induction idle generalizing l with
  | zero =>
      change publishes l idleRemote :: published (next l idleRemote) rest = _
      rw [publishes_idleRemote, next_idleRemote]
      rfl
  | succ idle ih =>
      rw [List.replicate_succ, List.cons_append]
      change publishes l idleRemote :: published (next l idleRemote) _ = _
      rw [publishes_idleRemote, next_idleRemote, ih]
      rfl

end Idle

/-! ## Starting late -/

/-- After an idle iteration only the index of the C++ program can do harm. -/
theorem started_cleared_iff {index : BitVec 32} {button : Fin 14 → Int} :
    Started (.cleared index) button ↔ index.setWidth 16 = 0 ∨ PlaysFirst button := by
  constructor
  · exact Started.fileindex
  · intro harmless
    exact ⟨fun _ _ => Or.inr (Or.inr rfl), fun _ => Or.inr (Or.inr zero_ne_one),
      fun _ => Or.inr (Or.inl rfl), harmless⟩

/-- From cleared latches the programs publish the same on a run exactly if the index of the
C++ program does no harm and that of the script fits. -/
theorem published_cleared_iff (caster : Script.IndexCaster) {index : BitVec 32}
    {first : Joydata K} (rest : List (Joydata K)) :
    published (.cleared index) (first :: rest) =
        Script.published caster Script.initial (first :: rest) ↔
      (index.setWidth 16 = 0 ∨ PlaysFirst first.button) ∧ IndexFits (first :: rest) := by
  constructor
  · intro same
    obtain ⟨_, agree, _⟩ := (published_cons_eq_iff caster initial_inRange first rest).mp same
    have harmless := fileindex_of_agree agree
    exact ⟨harmless, ((started_cleared_iff.mpr harmless).published_eq_iff caster rest).mp same⟩
  · rintro ⟨harmless, fits⟩
    exact ((started_cleared_iff.mpr harmless).published_eq_iff caster rest).mpr fits

section Late

/-- What the programs publish in a run of events from their start. -/
def scriptCommands (caster : Script.IndexCaster) (events : List (Event K)) :
    List (PublishedCmd K) :=
  emitted (Script.Process.step caster) (Script.Process.commands caster) Script.Process.start events

def programCommands [Zero K] (l : Locals) (events : List (Event K)) : List (PublishedCmd K) :=
  emitted Process.step Process.commands (Process.start l) events

/-- Deliveries leave the locals of the loop alone. -/
theorem Process.run_deliveries (s : Process K) (statuses : List (Report K)) :
    (run Process.step s (statuses.map Event.delivered)).toLocals = s.toLocals := by
  induction statuses generalizing s with
  | nil => rfl
  | cons status more ih =>
      rw [List.map_cons, run_cons, ih]
      exact congrArg (fun left => left.1.toLocals) (callback_eq status s)

/-- Before the first status the iterations of the script do nothing. -/
theorem Script.Process.run_idle (caster : Script.IndexCaster) (idle : ℕ) :
    run (Script.Process.step caster) (Script.Process.start : Script.Process K)
      (List.replicate idle .looped) = Script.Process.start := by
  induction idle with
  | zero => rfl
  | succ idle ih =>
      rw [List.replicate_succ, run_cons]
      exact ih

theorem Script.Process.run_deliveries (caster : Script.IndexCaster) {s : Script.Process K}
    (alive : s.ended = false) (statuses : List (Report K)) :
    (run (Script.Process.step caster) s (statuses.map Event.delivered)).toGlobals = s.toGlobals ∧
      (run (Script.Process.step caster) s (statuses.map Event.delivered)).ended = false := by
  induction statuses generalizing s with
  | nil => exact ⟨rfl, alive⟩
  | cons status more ih =>
      have moved : Script.Process.step caster s (.delivered status) =
          (Script.Process.callback status s).1 := by
        simp [Script.Process.step, alive]
      rw [Script.Process.callback_eq] at moved
      rw [List.map_cons, run_cons, moved]
      exact ih alive

theorem Script.Process.run_waiting (caster : Script.IndexCaster) (idle : ℕ)
    (early : List (Report K)) :
    let left := run (Script.Process.step caster) Script.Process.start (waiting idle early)
    left.toGlobals = Script.initial ∧ left.ended = false := by
  unfold waiting
  rw [run_append, Script.Process.run_idle]
  exact Script.Process.run_deliveries caster rfl early

theorem scriptCommands_waiting (caster : Script.IndexCaster) (idle : ℕ)
    (early : List (Report K)) : scriptCommands caster (waiting idle early) = [] := by
  rw [scriptCommands, Script.Process.emitted_commands caster rfl, found_waiting]
  simp [Script.Process.start, Script.published]

variable [Zero K]

/-- An iteration of the C++ program on an idle remote clears its latches. -/
theorem Process.step_idle {s : Process K} (zero : s.remoteData = idleRemote) :
    (Process.step s .looped).toLocals = .cleared s.fileindex :=
  (congrArg (next s.toLocals) zero).trans (next_idleRemote s.toLocals)

theorem Process.run_idle {s : Process K} (zero : s.remoteData = idleRemote) (idle : ℕ) :
    (run Process.step s (List.replicate (idle + 1) .looped)).toLocals = .cleared s.fileindex := by
  induction idle generalizing s with
  | zero => exact Process.step_idle zero
  | succ idle ih =>
      have later := ih (s := Process.step s .looped) zero
      rw [List.replicate_succ, run_cons, later]
      exact congrArg (fun l => Locals.cleared l.fileindex) (Process.step_idle zero)

theorem Process.run_waiting (l : Locals) (idle : ℕ) (early : List (Report K)) :
    (run Process.step (Process.start l) (waiting (idle + 1) early)).toLocals =
      .cleared l.fileindex := by
  unfold waiting
  rw [run_append, Process.run_deliveries]
  exact Process.run_idle rfl idle

theorem programCommands_waiting (l : Locals) (idle : ℕ) (early : List (Report K)) :
    programCommands l (waiting (idle + 1) early) =
      List.replicate (idle + 1) (idleCommand (l.fileindex.setWidth 16)) := by
  have zeros : (List.replicate (idle + 1) [(idleRemote : Joydata K)]).flatten =
      List.replicate (idle + 1) idleRemote ++ [] := by
    simp
  rw [programCommands, Process.emitted_commands, found_waiting]
  change published l (List.replicate (idle + 1) [(idleRemote : Joydata K)]).flatten = _
  rw [zeros, published_replicate_idleRemote]
  exact List.append_nil _

/--
If the C++ program runs at least one iteration before the first status arrives, it publishes
an idle command with its uninitialised index in each of them, and the script nothing.  In
every order of events from the first status on that is decoded, both publish the same
commands if and only if the low half of the uninitialised index is zero or the first
snapshot decoded is a playback, and the index of the script fits.
-/
theorem late_start_iff (caster : Script.IndexCaster) (l : Locals) (idle : ℕ)
    (early : List (Report K)) (first : Report K) (rest : List (Event K)) :
    programCommands l (waiting (idle + 1) early) =
        List.replicate (idle + 1) (idleCommand (l.fileindex.setWidth 16)) ∧
      scriptCommands caster (waiting (idle + 1) early) = [] ∧
      (emitted Process.step Process.commands
            (run Process.step (Process.start l) (waiting (idle + 1) early))
            (.delivered first :: .looped :: rest) =
          emitted (Script.Process.step caster) (Script.Process.commands caster)
            (run (Script.Process.step caster) Script.Process.start (waiting (idle + 1) early))
            (.delivered first :: .looped :: rest) ↔
        (l.fileindex.setWidth 16 = 0 ∨ PlaysFirst first.remoteData.button) ∧
          IndexFits (first.remoteData :: found (some first.remoteData) rest)) := by
  refine ⟨programCommands_waiting l idle early, scriptCommands_waiting caster _ early, ?_⟩
  obtain ⟨globals, alive⟩ := Script.Process.run_waiting caster (idle + 1) early
  rw [Process.emitted_commands, Process.run_waiting,
    Script.Process.emitted_commands caster alive, globals]
  exact published_cleared_iff caster (found (some first.remoteData) rest)

end Late

/-! ## Announced modes -/

/-- The work modes of the statuses delivered. -/
def modes (events : List (Event K)) : List Int :=
  events.filterMap fun event =>
    match event with
    | .delivered status => some status.workmode
    | .looped => none

/-- The modes that differ from the one before, the first compared with `last`. -/
def announced (last : Int) (modes : List Int) : List Int := (modes.destutter' (· ≠ ·) last).tail

theorem destutter'_eq_cons (last : Int) (modes : List Int) :
    modes.destutter' (· ≠ ·) last = last :: announced last modes := by
  induction modes generalizing last with
  | nil => rfl
  | cons mode rest ih =>
      unfold announced
      by_cases changed : last ≠ mode
      · rw [List.destutter'_cons_pos _ changed]
        rfl
      · rw [List.destutter'_cons_neg _ changed, ih]
        rfl

theorem announced_cons (last mode : Int) (rest : List Int) :
    announced last (mode :: rest) =
      (if last ≠ mode then [mode] else []) ++ announced mode rest := by
  have folded := destutter'_eq_cons mode rest
  unfold announced at folded ⊢
  by_cases changed : last ≠ mode
  · rw [List.destutter'_cons_pos _ changed, if_pos changed, List.tail_cons, folded]
    rfl
  · rw [List.destutter'_cons_neg _ changed, if_neg changed, not_not.mp changed]
    rfl

theorem Process.emitted_prints (s : Process K) (events : List (Event K)) :
    emitted step prints s events = announced s.lastmode (modes events) := by
  induction events generalizing s with
  | nil => rfl
  | cons event rest ih =>
      rw [emitted, ih]
      cases event with
      | delivered status =>
          change (callback status s).2 ++ announced (callback status s).1.lastmode (modes rest) =
            announced s.lastmode (status.workmode :: modes rest)
          rw [callback_eq, announced_cons]
      | looped => rfl

namespace Script.Process

theorem run_ended (caster : IndexCaster) {s : Process K} (ended : s.ended = true)
    (events : List (Event K)) : run (step caster) s events = s := by
  induction events with
  | nil => rfl
  | cons event rest ih => rw [run_cons, step_ended caster ended, ih]

/-- A script that is alive after a run was alive before. -/
theorem alive_of_run {caster : IndexCaster} {s : Process K} {events : List (Event K)}
    (alive : (run (step caster) s events).ended = false) : s.ended = false := by
  by_contra ended
  rw [run_ended caster (eq_true_of_ne_false ended)] at alive
  exact ended alive

/-- An iteration leaves the mode alone. -/
theorem step_looped_curmode (caster : IndexCaster) (s : Process K) :
    (step caster s .looped).curmode = s.curmode := by
  unfold step
  dsimp only
  split
  · rfl
  · split
    · rfl
    · split <;> rfl

theorem emitted_prints (caster : IndexCaster) {s : Process K} {events : List (Event K)}
    (alive : (run (step caster) s events).ended = false) :
    emitted (step caster) prints s events = announced s.curmode (modes events) := by
  induction events generalizing s with
  | nil => rfl
  | cons event rest ih =>
      have alive' : s.ended = false := alive_of_run alive
      rw [run_cons] at alive
      rw [emitted, ih alive]
      cases event with
      | delivered status =>
          have moved : step caster s (.delivered status) = (callback status s).1 := by
            simp [step, alive']
          have spoken : prints s (.delivered status) = (callback status s).2 := by
            simp [prints, alive']
          rw [moved, spoken, callback_eq]
          exact (announced_cons s.curmode status.workmode (modes rest)).symm
      | looped =>
          rw [step_looped_curmode]
          rfl

end Script.Process

/-- Logs from two different starts agree unless the first mode is one of the two. -/
theorem announced_eq_iff {last other : Int} (apart : last ≠ other) (modes : List Int) :
    announced last modes = announced other modes ↔
      ∀ mode ∈ modes.head?, mode ≠ last ∧ mode ≠ other := by
  cases modes with
  | nil => simp [announced]
  | cons mode rest =>
      rw [announced_cons, announced_cons, List.append_cancel_right_eq, List.head?_cons]
      simp only [Option.mem_some_iff, forall_eq']
      by_cases first : last = mode
      · have second : other ≠ mode := fun same => apart (first.trans same.symm)
        simp [first, second]
      · by_cases second : other = mode
        · simp [first, second]
        · simp [first, second, Ne.symm first, Ne.symm second]

/--
In any order of statuses and iterations the C++ program prints the work modes that differ
from the one before, starting from -1, and the script, while it lives, those starting from 0.
So the logs agree exactly unless the first status has one of these two modes.
-/
theorem announced_modes [Zero K] (caster : Script.IndexCaster) (l : Locals)
    (events : List (Event K)) :
    emitted Process.step Process.prints (Process.start l) events =
        ((modes events).destutter' (· ≠ ·) (-1)).tail ∧
      ((run (Script.Process.step caster) Script.Process.start events).ended = false →
        emitted (Script.Process.step caster) Script.Process.prints Script.Process.start events =
            ((modes events).destutter' (· ≠ ·) 0).tail ∧
          (emitted Process.step Process.prints (Process.start l) events =
              emitted (Script.Process.step caster) Script.Process.prints Script.Process.start
                events ↔
            ∀ mode ∈ (modes events).head?, mode ≠ -1 ∧ mode ≠ 0)) := by
  have program := Process.emitted_prints (Process.start l) events
  refine ⟨program, fun alive => ?_⟩
  have script := Script.Process.emitted_prints caster alive
  refine ⟨script, ?_⟩
  rw [program, script]
  have apart : (-1 : Int) ≠ 0 := by decide
  exact announced_eq_iff apart (modes events)

/-- Three statuses, the mode changed once, with iterations between. -/
theorem announced_modes_three :
    let events : List (Event ℤ) := [.looped, .delivered ⟨keys [], 2⟩, .looped,
      .delivered ⟨keys [9], 2⟩, .looped, .delivered ⟨keys [], 3⟩]
    emitted Process.step Process.prints (Process.start (.cleared 0)) events =
        ((modes events).destutter' (· ≠ ·) (-1)).tail ∧
      emitted (Script.Process.step exactCaster) Script.Process.prints Script.Process.start events =
        ((modes events).destutter' (· ≠ ·) 0).tail := by
  intro events
  obtain ⟨program, script⟩ := announced_modes exactCaster (.cleared 0) events
  exact ⟨program, (script (by decide)).1⟩

end NoetixE1.High
