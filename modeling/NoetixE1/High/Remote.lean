import NoetixE1.Low.Types

/-!
# Data of the high-level remote decoders

The commands and keys of `example_high.cpp` and `test_high.py`, the latch arrays
both keep per key, and what one iteration of either loop reads and publishes.
-/

namespace NoetixE1.High

open Low

/-- `ControlCmd`. -/
inductive ControlCmd where
  | walk | swing | shake | cheer | run | start | switch | startteach | saveteach | endteach
  | playteach | taiji | dance | default
  deriving DecidableEq, Repr

/-! ## Keys -/

abbrev key1 : Fin 14 := 1

abbrev key2 : Fin 14 := 2

abbrev key5 : Fin 14 := 5

abbrev key6 : Fin 14 := 6

abbrev key7 : Fin 14 := 7

abbrev key8 : Fin 14 := 8

abbrev key9 : Fin 14 := 9

abbrev key10 : Fin 14 := 10

/-- `key_updown` and `key_inuse`: the last level seen of each key, and whether the
press has already been acted on. -/
structure Latch where
  keyUpdown : Fin 14 → Int
  keyInuse : Fin 14 → Int

/-- The arguments of `publish_cmd`. -/
structure PublishedCmd (K : Type) where
  x : K
  yaw : K
  action : ControlCmd
  index : BitVec 16
  deriving DecidableEq

end NoetixE1.High
