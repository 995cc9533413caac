import Mathlib.Data.Finset.Basic
import Mathlib.Data.Finset.SDiff

/-!
# Sets with owners

`Owned live owners parts` says that a set is divided among owners: what is in it is in the part of
some owner, what is in the part of an owner is in it, and no two owners share anything. A new owner
with a part of its own, and an owner that goes with all of its part, keep this; so when there is no
owner left the set is empty.
-/

variable {ι β : Type*} [DecidableEq β]

/-- The set consists of the parts of its owners, which are disjoint. -/
structure Owned (live : Finset β) (owners : ι → Prop) (parts : ι → Finset β) : Prop where
  mem_iff : ∀ b, b ∈ live ↔ ∃ i, owners i ∧ b ∈ parts i
  apart : ∀ i j b, owners i → owners j → b ∈ parts i → b ∈ parts j → i = j

namespace Owned

variable {live live' : Finset β} {owners owners' : ι → Prop} {parts parts' : ι → Finset β}

omit [DecidableEq β] in
/-- Without owners the set is empty, and the other way round. -/
theorem of_no_owner (h : ∀ i, ¬owners i) : Owned (∅ : Finset β) owners parts where
  mem_iff b := iff_of_false (Finset.notMem_empty b) fun ⟨i, hi, _⟩ ↦ h i hi
  apart i _ _ hi := absurd hi (h i)

omit [DecidableEq β] in
/-- The same owners with the same parts. -/
theorem congr (h : Owned live owners parts) (howners : ∀ i, owners' i ↔ owners i)
    (hparts : ∀ i, owners i → parts' i = parts i) : Owned live owners' parts' where
  mem_iff b := by
    rw [h.mem_iff]
    apply exists_congr
    intro i
    rw [howners]
    apply and_congr_right
    intro hi
    rw [hparts i hi]
  apart i j b hi hj hbi hbj := by
    have hi := (howners i).mp hi
    have hj := (howners j).mp hj
    rw [hparts i hi] at hbi
    rw [hparts j hj] at hbj
    exact h.apart i j b hi hj hbi hbj

/-- A new owner, whose part is new. -/
theorem add (h : Owned live owners parts) {i : ι} {held : Finset β}
    (hlive : live' = live ∪ held) (hnew : ∀ b ∈ held, b ∉ live)
    (howners : ∀ j, owners' j ↔ j = i ∨ owners j) (hfresh : ¬owners i) (hheld : parts' i = held)
    (hparts : ∀ j, owners j → parts' j = parts j) : Owned live' owners' parts' where
  mem_iff b := by
    rw [hlive, Finset.mem_union, h.mem_iff]
    constructor
    · rintro (⟨j, hj, hb⟩ | hb)
      · exact ⟨j, (howners j).mpr (.inr hj), (hparts j hj).symm ▸ hb⟩
      · exact ⟨i, (howners i).mpr (.inl rfl), hheld.symm ▸ hb⟩
    · rintro ⟨j, hj, hb⟩
      rcases (howners j).mp hj with rfl | hold
      · exact .inr (hheld ▸ hb)
      · exact .inl ⟨j, hold, hparts j hold ▸ hb⟩
  apart j k b hj hk hbj hbk := by
    have hold {l : ι} (hl : owners l) (hb : b ∈ parts' l) : b ∈ live :=
      (h.mem_iff b).mpr ⟨l, hl, hparts l hl ▸ hb⟩
    rcases (howners j).mp hj with rfl | hj'
    · rcases (howners k).mp hk with rfl | hk'
      · rfl
      · exact absurd (hold hk' hbk) (hnew b (hheld ▸ hbj))
    · rcases (howners k).mp hk with rfl | hk'
      · exact absurd (hold hj' hbj) (hnew b (hheld ▸ hbk))
      · exact h.apart j k b hj' hk' (hparts j hj' ▸ hbj) (hparts k hk' ▸ hbk)

/-- An owner goes with its part. -/
theorem remove (h : Owned live owners parts) {i : ι} (hi : owners i)
    (hlive : live' = live \ parts i) (howners : ∀ j, owners' j ↔ j ≠ i ∧ owners j)
    (hparts : ∀ j, owners j → j ≠ i → parts' j = parts j) : Owned live' owners' parts' where
  mem_iff b := by
    rw [hlive, Finset.mem_sdiff, h.mem_iff]
    constructor
    · rintro ⟨⟨j, hj, hb⟩, hgone⟩
      have hne : j ≠ i := fun heq ↦ hgone (heq ▸ hb)
      exact ⟨j, (howners j).mpr ⟨hne, hj⟩, (hparts j hj hne).symm ▸ hb⟩
    · rintro ⟨j, hj, hb⟩
      obtain ⟨hne, hj⟩ := (howners j).mp hj
      rw [hparts j hj hne] at hb
      exact ⟨⟨j, hj, hb⟩, fun hgone ↦ hne (h.apart j i b hj hi hb hgone)⟩
  apart j k b hj hk hbj hbk := by
    obtain ⟨hne, hj⟩ := (howners j).mp hj
    obtain ⟨hne', hk⟩ := (howners k).mp hk
    rw [hparts j hj hne] at hbj
    rw [hparts k hk hne'] at hbk
    exact h.apart j k b hj hk hbj hbk

end Owned
