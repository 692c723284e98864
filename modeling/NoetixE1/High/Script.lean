import NoetixE1.High.Remote
import NoetixE1.Machine.Runs

/-!
# The loop of `test_high.py`

The Python decoder keeps the same two arrays, both started at zero, and an unbounded
`fileindex`.  `publish_cmd` reaches the C++ function through a binding that converts
`fileindex` to `uint16_t`; an index it cannot convert ends the script with an exception.
-/

namespace NoetixE1.High.Script

open Low

variable {K : Type}

/-- The globals of the script that its loop reads and writes. -/
structure Globals extends Latch where
  fileindex : ℤ

/-- `key_updown = [0] * 14`, `key_inuse = [0] * 14`, `fileindex = 0`. -/
def initial : Globals := ⟨⟨fun _ => 0, fun _ => 0⟩, 0⟩

/-- The `for` loop over the buttons. -/
def scan (remoteData : Joydata K) (g : Globals) : Globals :=
  { g with
    keyUpdown := fun i =>
      if remoteData.button i = 0 then 0 else if remoteData.button i = 1 then 1 else g.keyUpdown i
    keyInuse := fun i => if remoteData.button i = 0 then 0 else g.keyInuse i }

/-- `key_inuse[key] = 1`. -/
def use (key : Fin 14) (g : Globals) : Globals :=
  { g with keyInuse := Function.update g.keyInuse key 1 }

/-- The `if`/`elif` chain. -/
def chain (g : Globals) : ControlCmd × Globals :=
  if g.keyUpdown key2 = 0 ∧ g.keyUpdown key5 = 1 ∧ g.keyInuse key5 = 0 then
    (.startteach, use key5 g)
  else if g.keyUpdown key6 = 1 ∧ g.keyUpdown key2 = 0 ∧ g.keyInuse key6 = 0 ∧
      g.keyUpdown key1 = 0 then
    (.swing, use key6 g)
  else if g.keyUpdown key7 = 1 ∧ g.keyUpdown key2 = 0 ∧ g.keyInuse key7 = 0 ∧
      g.keyUpdown key1 = 0 then
    (.shake, use key7 g)
  else if g.keyUpdown key8 = 1 ∧ g.keyUpdown key2 = 0 ∧ g.keyInuse key8 = 0 ∧
      g.keyUpdown key1 = 0 then
    (.cheer, use key8 g)
  else if g.keyUpdown key9 = 1 ∧ g.keyInuse key9 = 0 then
    (.start, use key9 g)
  else if g.keyUpdown key10 = 1 ∧ g.keyInuse key10 = 0 then
    (.switch, use key10 g)
  else if g.keyUpdown key2 = 1 ∧ g.keyUpdown key5 = 1 ∧ g.keyInuse key5 = 0 then
    (.walk, use key5 g)
  else if g.keyUpdown key1 = 1 ∧ g.keyUpdown key6 = 1 ∧ g.keyInuse key6 = 0 then
    (.saveteach, { use key6 g with fileindex := g.fileindex + 1 })
  else if g.keyUpdown key1 = 1 ∧ g.keyUpdown key7 = 1 ∧ g.keyInuse key7 = 0 then
    (.endteach, use key7 g)
  else if g.keyUpdown key1 = 1 ∧ g.keyUpdown key8 = 1 ∧ g.keyInuse key8 = 0 then
    (.playteach, { use key8 g with fileindex := 1 })
  else if g.keyUpdown key2 = 1 ∧ g.keyUpdown key6 = 1 then
    (.run, use key6 g)
  else (.default, g)

/-- The globals after one iteration. -/
def next (g : Globals) (remoteData : Joydata K) : Globals := (chain (scan remoteData g)).2

/-! ## The binding of `publish_cmd` -/

/-- The conversion of a Python integer to `uint16_t` by the binding library: exact on
the range of the type, an exception (`none`) outside it. -/
structure IndexCaster where
  cast : ℤ → Option (BitVec 16)
  inRange : ∀ index : ℤ, 0 ≤ index → index < 65536 → cast index = some (BitVec.ofInt 16 index)
  outOfRange : ∀ index : ℤ, 65536 ≤ index → cast index = none

/-- The arguments with which one iteration calls `publish_cmd`, if they convert. -/
def publishes (caster : IndexCaster) (g : Globals) (remoteData : Joydata K) :
    Option (PublishedCmd K) :=
  let (action, left) := chain (scan remoteData g)
  (caster.cast left.fileindex).map fun index =>
    ⟨remoteData.axes 1, remoteData.axes 0, action, index⟩

/-- The commands published while the snapshots are read one after another.  Nothing
catches the exception, so a failed conversion is the end of the script. -/
def published (caster : IndexCaster) : Globals → List (Joydata K) → List (PublishedCmd K)
  | _, [] => []
  | g, remoteData :: rest =>
      match publishes caster g remoteData with
      | none => []
      | some command => command :: published caster (next g remoteData) rest

end NoetixE1.High.Script
