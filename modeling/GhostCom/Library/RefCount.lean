import GhostCom.Library.Word

/-!
# Reference counts

A counter of `w` bits for an object that is freed when the counter drops to zero. `Consistent`
relates the counter to the number of references actually held and to how often the object has been
freed; taking and dropping a reference keep it, so that an object whose references are all counted
is freed exactly once, when the last of them is dropped.
-/

namespace RefCount

variable {w : ℕ} {count : BitVec w} {holders frees : ℕ}

/-- The counter is the number of references held, and the object has been freed exactly when none
is left. -/
structure Consistent (count : BitVec w) (holders frees : ℕ) : Prop where
  count_eq : count.toNat = holders
  frees_eq : frees = if holders = 0 then 1 else 0

/-- An object is created with one reference. -/
theorem consistent_one (hw : 1 < 2 ^ w) : Consistent (1 : BitVec w) 1 0 where
  count_eq := Word.toNat_one hw
  frees_eq := by
    rw [if_neg Nat.one_ne_zero]

namespace Consistent

/-- An object that is still held has not been freed. -/
theorem frees_eq_zero (h : Consistent count holders frees) (hpos : 0 < holders) : frees = 0 := by
  rw [h.frees_eq, if_neg (by omega)]

/-- Taking a reference on an object that is held and not held to the limit. -/
theorem acquire (h : Consistent count holders frees) (hpos : 0 < holders)
    (hlt : holders + 1 < 2 ^ w) : Consistent (count + 1) (holders + 1) frees where
  count_eq := by
    rw [Word.toNat_add_one (by rw [h.count_eq]; exact hlt), h.count_eq]
  frees_eq := by
    rw [h.frees_eq_zero hpos, if_neg (by omega)]

/-- After a reference is dropped the counter is one smaller. -/
theorem count_sub_one (h : Consistent count holders frees) (hpos : 0 < holders) :
    (count - 1).toNat = holders - 1 := by
  rw [Word.toNat_sub_one (by rw [h.count_eq]; exact hpos), h.count_eq]

/-- The counter reaches zero exactly when the reference that is dropped is the last one. -/
theorem last_iff (h : Consistent count holders frees) (hpos : 0 < holders) :
    count - 1 = 0 ↔ holders = 1 := by
  rw [← BitVec.toNat_inj, h.count_sub_one hpos, Word.toNat_zero]
  omega

/-- Dropping a reference, and freeing the object when the counter reaches zero. -/
theorem release (h : Consistent count holders frees) (hpos : 0 < holders) :
    Consistent (count - 1) (holders - 1) (frees + (count - 1 == 0).toNat) where
  count_eq := h.count_sub_one hpos
  frees_eq := by
    rw [h.frees_eq_zero hpos]
    by_cases hlast : holders = 1
    · rw [if_pos (by omega), (h.last_iff hpos).mpr hlast]
      rfl
    · have hne : ¬count - 1 = 0 := fun hzero ↦ hlast ((h.last_iff hpos).mp hzero)
      rw [if_neg (by omega), beq_false_of_ne hne]
      rfl

end Consistent

end RefCount
