import Mathlib.Data.Nat.Cast.Defs

/-!
# Literals

Named instances behind the small literals of vectors and scalars, so that a literal is the
same term in every module.
-/

namespace NoetixE1.Literals

instance neZero2 : @NeZero ℕ Zero.ofOfNat0 2 := ⟨by decide⟩

instance neZero3 : @NeZero ℕ Zero.ofOfNat0 3 := ⟨by decide⟩

instance neZero4 : @NeZero ℕ Zero.ofOfNat0 4 := ⟨by decide⟩

instance atLeastTwo2 : Nat.AtLeastTwo 2 := ⟨by decide⟩

end NoetixE1.Literals
