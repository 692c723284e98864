import Mathlib.Data.Fin.VecNotation
import Mathlib.Logic.Equiv.Defs
import NoetixE1.Library.Literals

/-!
# Data of the low-level controller

The messages exchanged with the robot, the joint names and their two tables.
Scalars range over an arbitrary ordered field `K`, so that one model serves
exact rationals (where it can be evaluated) and exact reals.
-/

namespace NoetixE1.Low

/-! ## Literals

Named instances behind the button, joint and gain literals, so that a literal is the
same term in every module.
-/

instance neZero12 : @NeZero ℕ Zero.ofOfNat0 12 := ⟨by decide⟩

instance neZero14 : @NeZero ℕ Zero.ofOfNat0 14 := ⟨by decide⟩

instance neZero24 : @NeZero ℕ Zero.ofOfNat0 24 := ⟨by decide⟩

instance atLeastTwo5 : Nat.AtLeastTwo 5 := ⟨by decide⟩

instance atLeastTwo50 : Nat.AtLeastTwo 50 := ⟨by decide⟩

instance atLeastTwo70 : Nat.AtLeastTwo 70 := ⟨by decide⟩

instance atLeastTwo200 : Nat.AtLeastTwo 200 := ⟨by decide⟩

/-! ## Modes and joints -/

/-- `WorkMode`; a zero-initialised variable of this type is `stand`. -/
inductive WorkMode where
  | stand
  | lie
  | usermode
  | default
  deriving DecidableEq, Repr

/-- The 24 joint names, written `leg_l1_joint`, …, `arm_r5_joint` in the tables. -/
inductive JointName where
  | legL1Joint | legR1Joint | waist1Joint | legL2Joint | legR2Joint | waist2Joint
  | legL3Joint | legR3Joint | armL1Joint | armR1Joint | legL4Joint | legR4Joint
  | armL2Joint | armR2Joint | legL5Joint | legR5Joint | armL3Joint | armR3Joint
  | legL6Joint | legR6Joint | armL4Joint | armR4Joint | armL5Joint | armR5Joint
  deriving DecidableEq, Repr

open JointName

/-- `walkjointNames`: the joint order of the walking policy. -/
def walkjointNames : Fin 24 ≃ JointName where
  toFun := ![legL1Joint, legR1Joint, waist1Joint, legL2Joint, legR2Joint, waist2Joint,
    legL3Joint, legR3Joint, armL1Joint, armR1Joint, legL4Joint, legR4Joint,
    armL2Joint, armR2Joint, legL5Joint, legR5Joint, armL3Joint, armR3Joint,
    legL6Joint, legR6Joint, armL4Joint, armR4Joint, armL5Joint, armR5Joint]
  invFun
    | legL1Joint => 0 | legR1Joint => 1 | waist1Joint => 2 | legL2Joint => 3
    | legR2Joint => 4 | waist2Joint => 5 | legL3Joint => 6 | legR3Joint => 7
    | armL1Joint => 8 | armR1Joint => 9 | legL4Joint => 10 | legR4Joint => 11
    | armL2Joint => 12 | armR2Joint => 13 | legL5Joint => 14 | legR5Joint => 15
    | armL3Joint => 16 | armR3Joint => 17 | legL6Joint => 18 | legR6Joint => 19
    | armL4Joint => 20 | armR4Joint => 21 | armL5Joint => 22 | armR5Joint => 23
  left_inv position := by revert position; decide
  right_inv name := by cases name <;> rfl

/-- `jointNames`: the joint order of the posture motions. -/
def jointNames : Fin 24 ≃ JointName where
  toFun := ![legL1Joint, legR1Joint, waist1Joint, legL2Joint, legR2Joint, armL1Joint,
    armR1Joint, legL3Joint, legR3Joint, armL2Joint, armR2Joint, legL4Joint,
    legR4Joint, armL3Joint, armR3Joint, legL5Joint, legR5Joint, armL4Joint,
    armR4Joint, legL6Joint, legR6Joint, armL5Joint, armR5Joint, waist2Joint]
  invFun
    | legL1Joint => 0 | legR1Joint => 1 | waist1Joint => 2 | legL2Joint => 3
    | legR2Joint => 4 | armL1Joint => 5 | armR1Joint => 6 | legL3Joint => 7
    | legR3Joint => 8 | armL2Joint => 9 | armR2Joint => 10 | legL4Joint => 11
    | legR4Joint => 12 | armL3Joint => 13 | armR3Joint => 14 | legL5Joint => 15
    | legR5Joint => 16 | armL4Joint => 17 | armR4Joint => 18 | legL6Joint => 19
    | legR6Joint => 20 | armL5Joint => 21 | armR5Joint => 22 | waist2Joint => 23
  left_inv position := by revert position; decide
  right_inv name := by cases name <;> rfl

/-- `jointIndicesLeg` of `handleUserMode`, the same list as `jointIndices` of
`computeObservation`: positions of the leg joints in `walkjointNames`. -/
def jointIndicesLeg : Fin 12 → Fin 24 := ![0, 1, 3, 4, 6, 7, 10, 11, 14, 15, 18, 19]

/-- `jointIndicesArm` of `handleUserMode`: the joints the policy does not drive. -/
def jointIndicesArm : Fin 12 → Fin 24 := ![2, 5, 8, 9, 12, 13, 16, 17, 20, 21, 22, 23]

/-! ## Messages -/

variable (K : Type)

/-- The part of `MotorState` that the controller reads. -/
structure MotorState where
  pos : K
  vel : K

/-- The part of `NingImuData` that the controller uses. -/
structure NingImuData where
  ori : Fin 4 → K
  angularVel : Fin 3 → K

/-- `joydata`: the sticks and the buttons of the remote control. -/
structure Joydata where
  axes : Fin 2 → K
  button : Fin 14 → Int

/-- `RobotHardwareStatus`, as delivered to the subscription callback. -/
structure RobotHardwareStatus where
  imuData : NingImuData K
  remoteData : Joydata K
  motorData : Fin 24 → MotorState K

/-- `Command`: the velocity command of a tick. -/
structure Command where
  x : K
  y : K
  yaw : K

/-- `MotorCmd`.  A field holds `none` while its value is indeterminate: an array
declared without initialiser starts that way. -/
structure MotorCmd where
  pos : Option K
  vel : Option K
  tau : Option K
  kp : Option K
  kd : Option K
  motorId : Option ℕ
  deriving DecidableEq

/-- `std::array<MotorCmd, 24>`, the argument of `set_joint`. -/
abbrev Frame := Fin 24 → MotorCmd K

/-- `Proprioception`: the sensor values of a tick in policy order. -/
structure Proprioception where
  jointPos : Fin 24 → K
  jointVel : Fin 24 → K
  baseAngVel : Fin 3 → K
  baseEulerXyz : Fin 3 → K
  projectedGravity : Fin 3 → K

variable {K}

/-- An element of an array declared without initialiser. -/
def MotorCmd.uninitialised : MotorCmd K := ⟨none, none, none, none, none, none⟩

/-- An element of a value-initialised array. -/
def MotorCmd.zero [Zero K] : MotorCmd K := ⟨some 0, some 0, some 0, some 0, some 0, some 0⟩

/-- Every field has been given a value. -/
def MotorCmd.Complete (cmd : MotorCmd K) : Prop :=
  cmd.pos.isSome ∧ cmd.vel.isSome ∧ cmd.tau.isSome ∧ cmd.kp.isSome ∧ cmd.kd.isSome ∧
    cmd.motorId.isSome

end NoetixE1.Low
