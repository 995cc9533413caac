import GhostCom.Library.Word

/-!
# Slot tables

A table with a fixed number of slots, each empty or occupied by a value, and a counter of `w` bits
that is to be the number of occupied slots. `Counted` is that relation; occupying an empty slot,
replacing the value of an occupied one and vacating an occupied one keep it, and a slot is vacated
only while the counter is positive.
-/

/-- `n` slots and the counter. -/
structure SlotTable (α : Type*) (w n : ℕ) where
  slots : List (Option α)
  count : BitVec w
  size : slots.length = n

namespace SlotTable

variable {α : Type*} {w n : ℕ}

/-- The table with every slot empty. -/
def empty : SlotTable α w n := ⟨List.replicate n none, 0, List.length_replicate⟩

variable (t : SlotTable α w n) (i : ℕ) (a : α)

/-- The first empty slot. -/
def firstFree : Option ℕ := t.slots.findIdx? Option.isNone

/-- Store a value in an empty slot and count it. -/
def occupy : SlotTable α w n :=
  ⟨t.slots.set i (some a), t.count + 1, by rw [List.length_set, t.size]⟩

/-- Overwrite the value of an occupied slot. -/
def replace : SlotTable α w n :=
  ⟨t.slots.set i (some a), t.count, by rw [List.length_set, t.size]⟩

/-- Empty an occupied slot and uncount it. -/
def vacate : SlotTable α w n :=
  ⟨t.slots.set i none, t.count - 1, by rw [List.length_set, t.size]⟩

/-- The counter is the number of occupied slots. -/
def Counted : Prop := t.count.toNat = t.slots.countP Option.isSome

variable {t i a}

theorem empty_counted : (empty : SlotTable α w n).Counted := by
  show (0#w).toNat = (List.replicate n none).countP Option.isSome
  rw [BitVec.toNat_zero, List.countP_replicate]
  rfl

/-- The slot that `firstFree` finds is empty. -/
theorem slot_of_firstFree (h : t.firstFree = some i) : t.slots[i]? = some none := by
  obtain ⟨hlt, hnone, -⟩ := List.findIdx?_eq_some_iff_getElem.mp h
  rw [List.getElem?_eq_getElem hlt, Option.isNone_iff_eq_none.mp hnone]

/-- Overwriting a slot changes the number of occupied slots by what the slot held and holds. -/
theorem count_set {slot : Option α} (new : Option α) (h : t.slots[i]? = some slot) :
    (t.slots.set i new).countP Option.isSome + slot.isSome.toNat =
      t.slots.countP Option.isSome + new.isSome.toNat := by
  obtain ⟨hlt, hget⟩ := List.getElem?_eq_some_iff.mp h
  have hset := List.countP_set (p := Option.isSome) (a := new) hlt
  have hpos (hsome : slot.isSome = true) : 0 < t.slots.countP Option.isSome :=
    List.countP_pos_iff.mpr ⟨slot, List.mem_of_getElem? h, hsome⟩
  rw [hget] at hset
  rcases slot with _ | b <;> rcases new with _ | c
  case some.none | some.some =>
    have := hpos rfl
    simp only [Option.isSome_none, Option.isSome_some, if_true, Bool.false_eq_true, if_false,
      Bool.toNat_true, Bool.toNat_false] at hset ⊢
    omega
  all_goals
    simp only [Option.isSome_none, Option.isSome_some, if_true, Bool.false_eq_true, if_false,
      Bool.toNat_true, Bool.toNat_false] at hset ⊢
    omega

/-- An occupied slot is vacated while the counter is positive. -/
theorem Counted.pos (h : t.Counted) (hslot : t.slots[i]? = some (some a)) : 0 < t.count.toNat := by
  rw [h]
  exact List.countP_pos_iff.mpr ⟨some a, List.mem_of_getElem? hslot, rfl⟩

theorem Counted.replace (h : t.Counted) {b : α} (hslot : t.slots[i]? = some (some b)) :
    (t.replace i a).Counted := by
  have hcount := count_set (some a) hslot
  show t.count.toNat = (t.slots.set i (some a)).countP Option.isSome
  rw [h]
  simpa using hcount.symm

theorem Counted.occupy (h : t.Counted) (hslot : t.slots[i]? = some none) (hw : n < 2 ^ w) :
    (t.occupy i a).Counted := by
  have hcount := count_set (some a) hslot
  have hle := List.countP_le_length (p := Option.isSome) (l := t.slots.set i (some a))
  rw [List.length_set, t.size] at hle
  simp only [Option.isSome_none, Bool.toNat_false, Nat.add_zero, Option.isSome_some,
    Bool.toNat_true] at hcount
  show (t.count + 1).toNat = (t.slots.set i (some a)).countP Option.isSome
  rw [Word.toNat_add_one (by rw [h]; omega), h, hcount]

theorem Counted.vacate (h : t.Counted) (hslot : t.slots[i]? = some (some a)) :
    (t.vacate i).Counted := by
  have hcount := count_set none hslot
  simp only [Option.isSome_none, Bool.toNat_false, Nat.add_zero, Option.isSome_some,
    Bool.toNat_true] at hcount
  show (t.count - 1).toNat = (t.slots.set i none).countP Option.isSome
  rw [Word.toNat_sub_one (h.pos hslot), h]
  omega

/-- Vacating a slot that was empty when it was occupied restores the table. -/
theorem vacate_occupy (hslot : t.slots[i]? = some none) : (t.occupy i a).vacate i = t := by
  obtain ⟨slots, count, size⟩ := t
  obtain ⟨hlt, hget⟩ := List.getElem?_eq_some_iff.mp hslot
  have hslots : (slots.set i (some a)).set i none = slots := by
    rw [List.set_set, ← hget]
    exact List.set_getElem_self hlt
  simp only [occupy, vacate, hslots, Word.add_one_sub_one]

/-- The value a slot was overwritten with does not matter once it is vacated. -/
theorem vacate_replace : (t.replace i a).vacate i = t.vacate i := by
  simp only [replace, vacate, List.set_set]

end SlotTable
