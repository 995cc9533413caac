import Mathlib.Algebra.Group.Nat.Defs
import Mathlib.Tactic.Common

/-!
# Counting with words

Adding and subtracting one on `w`-bit words that do not wrap.
-/

namespace Word

variable {w : ℕ} {x : BitVec w}

/-- The word one, in a width that has it. -/
theorem toNat_one (hw : 1 < 2 ^ w) : (1 : BitVec w).toNat = 1 := by
  show (1#w).toNat = 1
  rw [BitVec.toNat_ofNat, Nat.mod_eq_of_lt hw]

theorem toNat_zero : (0 : BitVec w).toNat = 0 := by
  show (0#w).toNat = 0
  exact BitVec.toNat_zero

/-- An increment that does not wrap. -/
theorem toNat_add_one (h : x.toNat + 1 < 2 ^ w) : (x + 1).toNat = x.toNat + 1 := by
  rw [BitVec.toNat_add, toNat_one (by omega), Nat.mod_eq_of_lt h]

/-- A decrement that does not wrap. -/
theorem toNat_sub_one (h : 0 < x.toNat) : (x - 1).toNat = x.toNat - 1 := by
  have hlt := x.isLt
  rw [BitVec.toNat_sub, toNat_one (by omega),
    show 2 ^ w - 1 + x.toNat = x.toNat - 1 + 2 ^ w by omega, Nat.add_mod_right,
    Nat.mod_eq_of_lt (by omega)]

/-- A decrement takes an increment back. -/
theorem add_one_sub_one (x : BitVec w) : x + 1 - 1 = x :=
  BitVec.add_sub_cancel x 1

end Word
