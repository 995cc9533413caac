import Mathlib.Data.Finset.Basic
import Mathlib.Data.Finset.Lattice.Lemmas

/-!
# Allocation pools

A pool hands out blocks that are told apart for ever: the block of an allocation has never been
allocated before. `live` is the set of blocks that are allocated. `Since p held q` says that `q` is
the pool `p` after some allocations and frees, of which the blocks `held` are left; when none is
left, the blocks of `p` are restored.
-/

/-- The blocks that are allocated, and the block that the next allocation returns. -/
structure Pool where
  live : Finset ℕ
  next : ℕ
  fresh : ∀ b ∈ live, b < next

namespace Pool

/-- A pool from which nothing has been allocated. -/
def empty : Pool := ⟨∅, 0, nofun⟩

/-- Allocate the next block. -/
def alloc (p : Pool) : Pool where
  live := insert p.next p.live
  next := p.next + 1
  fresh b hb := by
    rcases Finset.mem_insert.mp hb with rfl | hmem
    · exact Nat.lt_succ_self _
    · exact Nat.lt_succ_of_lt (p.fresh b hmem)

/-- Free a block. -/
def free (p : Pool) (b : ℕ) : Pool where
  live := p.live.erase b
  next := p.next
  fresh c hc := p.fresh c (Finset.mem_of_mem_erase hc)

/-- Free the block of a pointer that may be null. -/
def freeOption (p : Pool) : Option ℕ → Pool
  | none => p
  | some b => p.free b

/-- The block of a pointer that may be null. -/
def block : Option ℕ → Finset ℕ
  | none => ∅
  | some b => {b}

/-- Storing a block in a pointer that was null adds it to the blocks pointed to. -/
theorem union_block_some (s : Finset ℕ) (b : ℕ) :
    s ∪ block (some b) = insert b (s ∪ block none) := by
  rw [show block (some b) = {b} from rfl, show block none = ∅ from rfl, Finset.union_empty,
    Finset.union_comm, Finset.insert_eq]

/-- `q` is `p` with the blocks `held` allocated since. -/
structure Since (p : Pool) (held : Finset ℕ) (q : Pool) : Prop where
  live_eq : q.live = p.live ∪ held
  next_le : p.next ≤ q.next
  held_ge : ∀ b ∈ held, p.next ≤ b

namespace Since

variable {p q : Pool} {held : Finset ℕ}

theorem refl (p : Pool) : Since p ∅ p := ⟨(Finset.union_empty _).symm, Nat.le_refl _, nofun⟩

/-- An allocation adds its block. -/
theorem alloc (h : Since p held q) : Since p (insert q.next held) q.alloc where
  live_eq := by
    show insert q.next q.live = _
    rw [h.live_eq, Finset.union_insert]
  next_le := Nat.le_succ_of_le h.next_le
  held_ge b hb := by
    rcases Finset.mem_insert.mp hb with rfl | hmem
    · exact h.next_le
    · exact h.held_ge b hmem

/-- A free takes a block away that is not one of the old ones. -/
theorem free (h : Since p held q) {b : ℕ} (hb : p.next ≤ b) :
    Since p (held.erase b) (q.free b) where
  live_eq := by
    have hold : b ∉ p.live := fun hmem ↦ absurd (p.fresh b hmem) (Nat.not_lt.mpr hb)
    show q.live.erase b = _
    rw [h.live_eq, Finset.erase_union_distrib, Finset.erase_eq_of_notMem hold]
  next_le := h.next_le
  held_ge c hc := h.held_ge c (Finset.mem_of_mem_erase hc)

/-- The same for a pointer that may be null. -/
theorem freeOption (h : Since p held q) {o : Option ℕ} (ho : ∀ b ∈ block o, p.next ≤ b) :
    Since p (held \ block o) (q.freeOption o) := by
  cases o with
  | none =>
      rw [show held \ block none = held from Finset.sdiff_empty]
      exact h
  | some b =>
      rw [show held \ block (some b) = held.erase b from Finset.sdiff_singleton_eq_erase b held]
      exact h.free (ho b (Finset.mem_singleton_self b))

/-- When nothing allocated since is left, the blocks are the old ones. -/
theorem live_of_empty (h : Since p ∅ q) : q.live = p.live := by
  rw [h.live_eq, Finset.union_empty]

end Since

end Pool
