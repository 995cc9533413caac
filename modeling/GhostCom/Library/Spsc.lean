import Mathlib.Data.List.Basic
import Mathlib.Data.Nat.ModEq
import Mathlib.Logic.Function.Basic
import Mathlib.Order.Basic
import Mathlib.Tactic.Common

/-!
# One producer and one consumer on a ring of cells

A stream of items passes through `size` cells; item `i` of the stream lies in cell `i % size`. The
producer reserves room, puts items into cells one at a time and publishes them. The consumer claims
published items, reads their cells and releases them. A party sees how far the other has got only
when it reserves or claims, and what it has seen may be out of date afterwards.

`Move` is one step of either party, in any order. `Move.sound` says that every move keeps the
invariant `Sound`, from which `put_free` and `claimed_cell` follow: the producer never puts an item
into a cell whose item has not been released, and a claimed item is found in its cell.
-/

namespace Spsc

variable {α : Type*}

/-- The cells, the stream published so far, how many of its items have been released, the items put
and not published, and how many may be put or read before the next look at the other party. -/
structure State (α : Type*) where
  size : ℕ
  cells : ℕ → α
  stream : List α
  released : ℕ
  ahead : List α
  reserved : ℕ
  claimed : ℕ

/-- The items that have been published and not released. -/
def State.unread (s : State α) : List α := s.stream.drop s.released

/-- The invariant: claims and releases stay below what is published, puts and publications stay less
than one revolution above what is released, and the items between these two lie in their cells. -/
structure Sound (s : State α) : Prop where
  published : s.released + s.claimed ≤ s.stream.length
  room : s.stream.length + s.reserved < s.released + s.size
  ahead_le : s.ahead.length ≤ s.reserved
  held : ∀ i x, s.released ≤ i → (s.stream ++ s.ahead)[i]? = some x → s.cells (i % s.size) = x

/-- One step of the producer or of the consumer. -/
inductive Move : State α → State α → Prop
  | reserve (s : State α) (n : ℕ) (hroom : s.stream.length + n < s.released + s.size)
      (hahead : s.ahead = []) : Move s { s with reserved := n }
  | put (s : State α) (x : α) (hreserved : s.ahead.length < s.reserved) :
      Move s { s with
        cells := Function.update s.cells ((s.stream.length + s.ahead.length) % s.size) x
        ahead := s.ahead ++ [x] }
  | publish (s : State α) :
      Move s { s with stream := s.stream ++ s.ahead, ahead := [], reserved := 0 }
  | claim (s : State α) (n : ℕ) (hpublished : s.released + n ≤ s.stream.length) :
      Move s { s with claimed := n }
  | release (s : State α) (n : ℕ) (hclaimed : n ≤ s.claimed) :
      Move s { s with released := s.released + n, claimed := 0 }

/-- Two items less than one revolution apart lie in different cells. -/
theorem index_ne {n i j : ℕ} (hij : i < j) (hlt : j < i + n) : i % n ≠ j % n := by
  intro h
  have hdvd : n ∣ j - i := (Nat.modEq_iff_dvd' hij.le).mp h
  exact absurd (Nat.le_of_dvd (by omega) hdvd) (by omega)

namespace Sound

variable {s : State α}

/-- Nothing has passed through the cells yet. -/
theorem start (size : ℕ) (hsize : 0 < size) (cells : ℕ → α) :
    Sound ⟨size, cells, [], 0, [], 0, 0⟩ where
  published := le_refl 0
  room := by simpa using hsize
  ahead_le := le_refl 0
  held i x _ hx := by cases hx

/-- The items in the cells never fill them all. -/
theorem unread_length (h : Sound s) : s.unread.length + s.reserved < s.size := by
  have hroom := h.room
  have hpublished := h.published
  rw [State.unread, List.length_drop]
  omega

/-- The cell into which the producer puts its next item holds no unread one. -/
theorem put_free (h : Sound s) (hreserved : s.ahead.length < s.reserved) {i : ℕ}
    (hreleased : s.released ≤ i) (hi : i < s.stream.length + s.ahead.length) :
    i % s.size ≠ (s.stream.length + s.ahead.length) % s.size := by
  have hroom := h.room
  exact index_ne hi (by omega)

/-- An unread item is found in its cell. -/
theorem unread_cell (h : Sound s) {j : ℕ} {x : α} (hx : s.unread[j]? = some x) :
    s.cells ((s.released + j) % s.size) = x := by
  rw [State.unread, List.getElem?_drop] at hx
  obtain ⟨hlt, -⟩ := List.getElem?_eq_some_iff.mp hx
  refine h.held _ x (Nat.le_add_right ..) ?_
  rw [List.getElem?_append_left hlt]
  exact hx

end Sound

/-- Every move keeps the invariant. -/
theorem Move.sound {s t : State α} (hmove : Move s t) (h : Sound s) : Sound t := by
  cases hmove with
  | reserve n hroom hahead =>
      refine ⟨h.published, hroom, ?_, h.held⟩
      show s.ahead.length ≤ n
      rw [hahead]
      exact Nat.zero_le n
  | put x hreserved =>
      refine ⟨h.published, h.room, ?_, ?_⟩
      · rw [List.length_append]
        exact hreserved
      · intro i y hreleased hy
        show Function.update s.cells _ x (i % s.size) = y
        rw [← List.append_assoc] at hy
        by_cases hold : i < (s.stream ++ s.ahead).length
        · -- an item that was there before lies in another cell
          rw [List.getElem?_append_left hold] at hy
          rw [List.length_append] at hold
          rw [Function.update_of_ne (h.put_free hreserved hreleased hold)]
          exact h.held i y hreleased hy
        · rw [List.getElem?_append_right (not_lt.mp hold)] at hy
          obtain ⟨hlast, -⟩ := List.getElem?_eq_some_iff.mp hy
          have hindex : i = s.stream.length + s.ahead.length := by
            rw [List.length_append] at hold hlast
            simp only [List.length_singleton] at hlast
            omega
          subst hindex
          rw [Function.update_self]
          simpa using hy
  | publish =>
      refine ⟨?_, ?_, Nat.le_refl 0, ?_⟩
      · have hpublished := h.published
        show s.released + s.claimed ≤ (s.stream ++ s.ahead).length
        rw [List.length_append]
        omega
      · have hroom := h.room
        have hahead := h.ahead_le
        show (s.stream ++ s.ahead).length + 0 < s.released + s.size
        rw [List.length_append]
        omega
      · intro i x hreleased hx
        rw [List.append_nil] at hx
        exact h.held i x hreleased hx
  | claim n hpublished => exact ⟨hpublished, h.room, h.ahead_le, h.held⟩
  | release n hclaimed =>
      have hpublished := h.published
      have hroom := h.room
      refine ⟨?_, ?_, h.ahead_le, fun i x hreleased hx ↦ ?_⟩
      · show s.released + n + 0 ≤ s.stream.length
        omega
      · show s.stream.length + s.reserved < s.released + n + s.size
        omega
      · exact h.held i x (le_trans (Nat.le_add_right ..) hreleased) hx

end Spsc
