import NoetixE1.Attitude.Gravity

/-!
# The domain of the conversions

Nothing normalises the orientation of a status before it is converted.  What `quatToXyz`
passes to `asin` is guarded at both ends.  `quatToZyx` clamps its argument from above only,
so the conversion has a value exactly while the sine of the pitch does not fall below -1.
-/

namespace NoetixE1.Attitude

open Polar Real

theorem asin_isSome_iff {a : ℝ} : (asin a).isSome ↔ -1 ≤ a ∧ a ≤ 1 := by
  unfold asin
  split_ifs with domain
  · simp [domain]
  · simp [domain]

namespace Quat

variable (q : Quat)

/-! ## The calls of asin -/

/-- What `quatToZyx` passes to `asin`. -/
noncomputable def zyxArgument : ℝ := min (-2 * (q.x * q.z - q.w * q.y)) 0.99999

/-- What `quatToXyz` passes to `asin`, unless it takes the branch of `copysign`. -/
noncomputable def xyzArgument : Option ℝ :=
  let sinp := 2 * (q.w * q.y - q.z * q.x)
  if |sinp| ≥ 1 then none else some sinp

/-- The arguments of all calls of `asin` in one state estimation. -/
noncomputable def asinArguments : List ℝ := q.zyxArgument :: q.xyzArgument.toList

theorem quatToZyx_eq_call :
    quatToZyx q = (asin q.zyxArgument).map fun pitch => ![q.yaw, pitch, q.roll] := rfl

theorem quatToXyz_eq_call :
    quatToXyz q =
      (q.xyzArgument.elim (some (copysign (π / 2) (2 * (q.w * q.y - q.z * q.x)))) asin).map
        fun pitch =>
          ![atan2 (2 * (q.w * q.x + q.y * q.z)) (1 - 2 * (q.x * q.x + q.y * q.y)), pitch,
            atan2 (2 * (q.w * q.z + q.x * q.y)) (1 - 2 * (q.y * q.y + q.z * q.z))] := by
  unfold quatToXyz xyzArgument
  dsimp only
  split_ifs with extreme
  · rfl
  · rfl

/-! ## When they have a value -/

theorem zyxArgument_mem_iff :
    (-1 ≤ q.zyxArgument ∧ q.zyxArgument ≤ 1) ↔ -1 ≤ q.sinPitch := by
  rw [zyxArgument, argument_eq_sinPitch]
  exact clamp_mem_iff

theorem xyzArgument_mem {a : ℝ} (member : a ∈ q.xyzArgument) : -1 ≤ a ∧ a ≤ 1 := by
  unfold xyzArgument at member
  dsimp only at member
  split_ifs at member with extreme
  · cases member
  · cases member
    exact abs_le.mp (not_le.mp extreme).le

theorem asinArguments_mem_iff :
    (∀ a ∈ q.asinArguments, -1 ≤ a ∧ a ≤ 1) ↔ -1 ≤ q.sinPitch := by
  rw [← q.zyxArgument_mem_iff]
  constructor
  · intro domain
    exact domain _ List.mem_cons_self
  · intro domain a member
    rcases List.mem_cons.mp member with zyx | xyz
    · rw [zyx]
      exact domain
    · exact q.xyzArgument_mem (Option.mem_toList.mp xyz)

theorem quatToXyz_isSome : (quatToXyz q).isSome := by
  rw [quatToXyz_eq_call, Option.isSome_map]
  cases call : q.xyzArgument with
  | none => rfl
  | some a => exact asin_isSome_iff.mpr (q.xyzArgument_mem call)

theorem projectedGravity_isSome_iff : (projectedGravity q).isSome ↔ -1 ≤ q.sinPitch := by
  rw [projectedGravity, Option.isSome_map, quatToZyx_eq_call, Option.isSome_map,
    asin_isSome_iff, zyxArgument_mem_iff]

/-- Where it has a value it is a unit vector. -/
theorem length_projectedGravity {gravity : Fin 3 → ℝ}
    (value : projectedGravity q = some gravity) : length gravity = 1 := by
  rw [projectedGravity_eq_plumb] at value
  obtain ⟨zyx, _, rfl⟩ := Option.map_eq_some_iff.mp value
  exact length_plumb _ _

/-! ## How far from the unit sphere -/

theorem abs_sinPitch_le : |q.sinPitch| ≤ q.w ^ 2 + q.x ^ 2 + q.y ^ 2 + q.z ^ 2 := by
  unfold sinPitch
  rw [abs_le]
  constructor
  · linarith [sq_nonneg (q.w + q.y), sq_nonneg (q.x - q.z)]
  · linarith [sq_nonneg (q.w - q.y), sq_nonneg (q.x + q.z)]

end Quat

/-- The unit ball is the largest ball on which the projected gravity always has a value. -/
theorem projectedGravity_on_ball_iff (bound : ℝ) :
    (∀ q : Quat, q.w ^ 2 + q.x ^ 2 + q.y ^ 2 + q.z ^ 2 ≤ bound → (projectedGravity q).isSome) ↔
      bound ≤ 1 := by
  constructor
  · intro total
    by_contra! larger
    have half : √(bound / 2) ^ 2 = bound / 2 := sq_sqrt (by linarith)
    have value := total ⟨√(bound / 2), 0, -√(bound / 2), 0⟩ (by
      simp only [neg_sq, half]
      linarith)
    rw [Quat.projectedGravity_isSome_iff, Quat.sinPitch] at value
    linarith [sq (√(bound / 2))]
  · intro small q inside
    rw [q.projectedGravity_isSome_iff]
    exact (abs_le.mp (q.abs_sinPitch_le.trans (inside.trans small))).1

/--
For every orientation `x, y, z, w` of a status: all arguments passed to `asin` are in its
domain exactly if the sine of the pitch is not below -1, and exactly then both the projected
gravity and the Euler angles have a value.
-/
theorem asin_domain_iff (ori : Fin 4 → ℝ) :
    ((∀ a ∈ (Quat.ofCoeffs ori).asinArguments, -1 ≤ a ∧ a ≤ 1) ↔
        -1 ≤ 2 * (ori 3 * ori 1 - ori 0 * ori 2)) ∧
      ((projectedGravity (.ofCoeffs ori)).isSome ∧ (quatToXyz (.ofCoeffs ori)).isSome ↔
        -1 ≤ 2 * (ori 3 * ori 1 - ori 0 * ori 2)) := by
  constructor
  · exact Quat.asinArguments_mem_iff _
  · constructor
    · intro defined
      exact (Quat.projectedGravity_isSome_iff _).mp defined.1
    · intro lower
      exact ⟨(Quat.projectedGravity_isSome_iff _).mpr lower, Quat.quatToXyz_isSome _⟩

/-- With the nose down a length of 1.0001 is too much. -/
theorem not_asin_domain_nose_down :
    ¬ ∀ ori : Fin 4 → ℝ,
      (∀ a ∈ (Quat.ofCoeffs ori).asinArguments, -1 ≤ a ∧ a ≤ 1) ∧
        (projectedGravity (.ofCoeffs ori)).isSome ∧ (quatToXyz (.ofCoeffs ori)).isSome := by
  intro stays
  have lower : -1 ≤ 2 * (5793 / 8192 * (-5793 / 8192) - 0 * 0 : ℝ) :=
    (Quat.asinArguments_mem_iff _).mp (stays ![0, -5793 / 8192, 0, 5793 / 8192]).1
  norm_num at lower

end NoetixE1.Attitude
