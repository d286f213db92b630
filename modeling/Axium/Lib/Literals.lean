import Mathlib.Algebra.Order.Ring.Int

/-!
# Literals of finite types

The sizes of the finite types of the source. With an instance for each of them a literal stands for the same
term in every module.
-/

namespace Axium

instance neZero_four : NeZero 4 := ⟨by decide⟩
instance neZero_five : NeZero 5 := ⟨by decide⟩
instance neZero_seven : NeZero 7 := ⟨by decide⟩
instance neZero_eight : NeZero 8 := ⟨by decide⟩
instance neZero_sixteen : NeZero 16 := ⟨by decide⟩
instance neZero_thirtySeven : NeZero 37 := ⟨by decide⟩
instance neZero_byte : NeZero 256 := ⟨by decide⟩

end Axium
