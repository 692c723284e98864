import NoetixE1.High.Remote
import NoetixE1.Machine.Runs

/-!
# The loop of `example_high.cpp`

One iteration scans the fourteen buttons into the latches, takes the first branch
of an eleven-way chain whose condition holds, and publishes one command.
-/

namespace NoetixE1.High

open Low

variable {K : Type}

/--
The values returned by the accesses of one iteration to the shared `remote_data`.
Each button is compared with 0 first and, only if it was not 0, read again and
compared with 1; the callback may replace `remote_data` between any two accesses.
-/
structure Accesses (K : Type) where
  first : Fin 14 → Int
  second : Fin 14 → Int
  axes1 : K
  axes0 : K

/-- Every access of the iteration sees the same snapshot. -/
def Accesses.whole (snapshot : Joydata K) : Accesses K :=
  ⟨snapshot.button, snapshot.button, snapshot.axes 1, snapshot.axes 0⟩

/-- The locals of `main` that survive an iteration.  They are declared without
initialiser.  `fileindex` is an `int`; its increment wraps. -/
structure Locals extends Latch where
  fileindex : BitVec 32

/-- The locals with both key arrays zero. -/
def Locals.cleared (fileindex : BitVec 32) : Locals := ⟨⟨fun _ => 0, fun _ => 0⟩, fileindex⟩

/-- The `for` loop over the buttons; iteration `i` writes the cells of key `i` only. -/
def scan (accesses : Accesses K) (l : Locals) : Locals :=
  { l with
    keyUpdown := fun i =>
      if accesses.first i = 0 then 0 else if accesses.second i = 1 then 1 else l.keyUpdown i
    keyInuse := fun i => if accesses.first i = 0 then 0 else l.keyInuse i }

/-- `key_inuse[key] = 1`. -/
def use (key : Fin 14) (l : Locals) : Locals :=
  { l with keyInuse := Function.update l.keyInuse key 1 }

/-- The chain: the action chosen and the locals left behind. -/
def chain (l : Locals) : ControlCmd × Locals :=
  if l.keyUpdown key2 = 0 ∧ l.keyUpdown key5 = 1 ∧ l.keyInuse key5 = 0 then
    (.startteach, use key5 l)
  else if l.keyUpdown key6 = 1 ∧ l.keyUpdown key2 = 0 ∧ l.keyInuse key6 = 0 ∧
      l.keyUpdown key1 = 0 then
    (.swing, use key6 l)
  else if l.keyUpdown key7 = 1 ∧ l.keyUpdown key2 = 0 ∧ l.keyInuse key7 = 0 ∧
      l.keyUpdown key1 = 0 then
    (.shake, use key7 l)
  else if l.keyUpdown key8 = 1 ∧ l.keyUpdown key2 = 0 ∧ l.keyInuse key8 = 0 ∧
      l.keyUpdown key1 = 0 then
    (.cheer, use key8 l)
  else if l.keyUpdown key9 = 1 ∧ l.keyInuse key9 = 0 then
    (.start, use key9 l)
  else if l.keyUpdown key10 = 1 ∧ l.keyInuse key10 = 0 then
    (.switch, use key10 l)
  else if l.keyUpdown key2 = 1 ∧ l.keyUpdown key5 = 1 ∧ l.keyInuse key5 = 0 then
    (.walk, use key5 l)
  else if l.keyUpdown key1 = 1 ∧ l.keyUpdown key6 = 1 ∧ l.keyInuse key6 = 0 then
    (.saveteach, { use key6 l with fileindex := l.fileindex + 1 })
  else if l.keyUpdown key1 = 1 ∧ l.keyUpdown key7 = 1 ∧ l.keyInuse key7 = 0 then
    (.endteach, use key7 l)
  else if l.keyUpdown key1 = 1 ∧ l.keyUpdown key8 = 1 ∧ l.keyInuse key8 = 0 then
    (.playteach, { use key8 l with fileindex := 1 })
  -- the only branch that does not test `key_inuse`
  else if l.keyUpdown key2 = 1 ∧ l.keyUpdown key6 = 1 then
    (.run, use key6 l)
  else (.default, l)

/-- One iteration: the command published and the locals left behind.  `publish_cmd`
takes the index as `uint16_t`. -/
def iteration (accesses : Accesses K) (l : Locals) : PublishedCmd K × Locals :=
  let (action, left) := chain (scan accesses l)
  (⟨accesses.axes1, accesses.axes0, action, left.fileindex.setWidth 16⟩, left)

/-- A remote with the given keys pressed and its sticks at rest. -/
def keys (pressed : List (Fin 14)) : Joydata ℤ :=
  ⟨fun _ => 0, fun index => if pressed.contains index then 1 else 0⟩

/-! ## Runs -/

/-- The locals after an iteration that reads one whole snapshot. -/
def next (l : Locals) (snapshot : Joydata K) : Locals := (iteration (Accesses.whole snapshot) l).2

/-- The command published by such an iteration. -/
def publishes (l : Locals) (snapshot : Joydata K) : PublishedCmd K :=
  (iteration (Accesses.whole snapshot) l).1

/-- The commands published while the snapshots are read one after another. -/
def published (l : Locals) (snapshots : List (Joydata K)) : List (PublishedCmd K) :=
  Machine.emitted next (fun l snapshot => [publishes l snapshot]) l snapshots

end NoetixE1.High
