import Mathlib.Data.List.Basic
import Mathlib.Tactic.Common

/-!
# Circular storage

A circular buffer keeps a queue in a list of cells. `position size start i` is the cell `i` places
after `start`, `window cells start count` is the queue of `count` items beginning at `start`, and
`store` and `fetch` are the two-chunk copies of an implementation that splits a transfer where it
passes the last cell.

`window_store` says that storing at the end of a window appends to it, and `fetch_eq_window` that
fetching from its start reads its front.
-/

namespace CircularBuffer

variable {α : Type*}

/-- The cell reached `i` places after `start`, wrapping once past the last cell. -/
def position (size start i : ℕ) : ℕ :=
  if start + i < size then start + i else start + i - size

/-- The `count` items beginning at `start`. -/
def window [Inhabited α] (cells : List α) (start count : ℕ) : List α :=
  (List.range count).map fun i ↦ cells.getD (position cells.length start i) default

/-- Replace the cells from `start` on by `items`. -/
def overwrite (cells : List α) (start : ℕ) (items : List α) : List α :=
  cells.take start ++ items ++ cells.drop (start + items.length)

/-- Copy `items` into the cells from `start` on, the part that does not fit before the last cell
into the first cells. -/
def store (cells : List α) (start : ℕ) (items : List α) : List α :=
  let first := min items.length (cells.length - start)
  let copied := overwrite cells start (items.take first)
  if first < items.length then overwrite copied 0 (items.drop first) else copied

/-- Copy `count` items out of the cells from `start` on, continuing at the first cell. -/
def fetch (cells : List α) (start count : ℕ) : List α :=
  let first := min count (cells.length - start)
  let copied := (cells.drop start).take first
  if first < count then copied ++ cells.take (count - first) else copied

theorem position_lt {size start i : ℕ} (hstart : start < size) (hi : i ≤ size) :
    position size start i < size := by
  unfold position
  split <;> omega

/-- Below one revolution the wrapped position is the remainder. -/
theorem position_eq_mod {size start i : ℕ} (hstart : start < size) (hi : i ≤ size) :
    position size start i = (start + i) % size := by
  unfold position
  split
  · next h => exact (Nat.mod_eq_of_lt h).symm
  · next h =>
      rw [Nat.mod_eq_sub_mod (by omega), Nat.mod_eq_of_lt (by omega)]

/-- Moving the start by `n` shifts every offset by `n`. -/
theorem position_position {size start n i : ℕ} (hstart : start < size) (h : n + i ≤ size) :
    position size (position size start n) i = position size start (n + i) := by
  unfold position
  split <;> split <;> split <;> omega

theorem overwrite_length {cells items : List α} {start : ℕ}
    (h : start + items.length ≤ cells.length) :
    (overwrite cells start items).length = cells.length := by
  simp only [overwrite, List.length_append, List.length_take, List.length_drop]
  omega

/-- A cell of an overwritten list comes from the items where they lie and from the old list
elsewhere. -/
theorem overwrite_getElem? {cells items : List α} {start : ℕ}
    (h : start + items.length ≤ cells.length) (p : ℕ) :
    (overwrite cells start items)[p]? =
      if start ≤ p ∧ p < start + items.length then items[p - start]? else cells[p]? := by
  have htake : (cells.take start).length = start := by
    simp only [List.length_take]
    omega
  unfold overwrite
  by_cases hlow : p < start
  · have hleft : p < (cells.take start ++ items).length := by
      simp only [List.length_append]
      omega
    rw [List.getElem?_append_left hleft, List.getElem?_append_left (by omega),
      List.getElem?_take_of_lt hlow, if_neg (by omega)]
  · by_cases hmid : p < start + items.length
    · have hleft : p < (cells.take start ++ items).length := by
        simp only [List.length_append]
        omega
      rw [List.getElem?_append_left hleft, List.getElem?_append_right (by omega), htake,
        if_pos (by omega)]
    · have hright : (cells.take start ++ items).length ≤ p := by
        simp only [List.length_append]
        omega
      rw [List.getElem?_append_right hright, if_neg (by omega), List.getElem?_drop]
      congr 1
      simp only [List.length_append]
      omega

theorem store_length {cells items : List α} {start : ℕ} (hstart : start < cells.length)
    (hfit : items.length ≤ cells.length) :
    (store cells start items).length = cells.length := by
  have hfirst : (overwrite cells start
      (items.take (min items.length (cells.length - start)))).length = cells.length := by
    apply overwrite_length
    simp only [List.length_take]
    omega
  unfold store
  dsimp only
  split
  · rw [overwrite_length, hfirst]
    rw [hfirst, List.length_drop]
    omega
  · exact hfirst

/-- After a store, the cell `i` places after its start holds item `i`, and a cell further on is
unchanged. -/
theorem store_getElem? {cells items : List α} {start i : ℕ} (hstart : start < cells.length)
    (hfit : items.length ≤ cells.length) (hi : i < cells.length) :
    (store cells start items)[position cells.length start i]? =
      if i < items.length then items[i]? else cells[position cells.length start i]? := by
  have hfirst : start + (items.take (min items.length (cells.length - start))).length ≤
      cells.length := by
    simp only [List.length_take]
    omega
  have hlength := overwrite_length hfirst
  unfold store
  dsimp only
  split
  · next hwrap =>
      have hsecond : 0 + (items.drop (min items.length (cells.length - start))).length ≤
          (overwrite cells start
            (items.take (min items.length (cells.length - start)))).length := by
        rw [hlength, List.length_drop]
        omega
      rw [overwrite_getElem? hsecond, overwrite_getElem? hfirst]
      simp only [List.length_take, List.length_drop, List.getElem?_drop, List.getElem?_take]
      unfold position
      split_ifs <;> first | omega | rfl | (congr 1; omega)
  · next hwrap =>
      rw [overwrite_getElem? hfirst]
      simp only [List.length_take, List.getElem?_take]
      unfold position
      split_ifs <;> first | omega | rfl | (congr 1; omega)

@[simp] theorem store_nil (cells : List α) (start : ℕ) : store cells start [] = cells := by
  simp [store, overwrite]

/-- Storing one item more sets one cell more. -/
theorem store_concat {cells items : List α} {start : ℕ} (hstart : start < cells.length)
    (hfit : items.length < cells.length) (x : α) :
    store cells start (items ++ [x]) =
      (store cells start items).set (position cells.length start items.length) x := by
  have hlength := store_length hstart (Nat.le_of_lt hfit)
  have hmore : (items ++ [x]).length ≤ cells.length := by
    rw [List.length_append]
    exact hfit
  have hlength' : (store cells start (items ++ [x])).length = cells.length :=
    store_length hstart hmore
  apply List.ext_getElem?
  intro p
  by_cases hp : p < cells.length
  · -- cell `p` lies `i` places after the start
    obtain ⟨i, hi, hpos⟩ : ∃ i < cells.length, position cells.length start i = p := by
      refine ⟨if start ≤ p then p - start else p + cells.length - start, ?_, ?_⟩
      · split <;> omega
      · unfold position
        split <;> split <;> omega
    have hcell : position cells.length start items.length = p ↔ items.length = i := by
      rw [← hpos]
      unfold position
      constructor <;> intro h <;> split_ifs at * <;> omega
    rw [List.getElem?_set, hlength, ← hpos, store_getElem? hstart hmore hi,
      store_getElem? hstart (Nat.le_of_lt hfit) hi, hpos]
    by_cases heq : items.length = i
    · subst heq
      have hlast : items.length < (items ++ [x]).length := by
        rw [List.length_append]
        exact Nat.lt_succ_self _
      rw [if_pos hpos, hpos, if_pos hp, if_pos hlast, List.getElem?_concat_length]
    · rw [if_neg (mt hcell.mp heq)]
      simp only [List.length_append, List.length_singleton]
      by_cases hlt : i < items.length
      · rw [if_pos (by omega), if_pos hlt, List.getElem?_append_left hlt]
      · rw [if_neg (by omega), if_neg hlt]
  · rw [List.getElem?_eq_none (by omega), List.getElem?_eq_none (by rw [List.length_set]; omega)]

theorem fetch_length {cells : List α} {start count : ℕ} (hcount : count ≤ cells.length) :
    (fetch cells start count).length = count := by
  unfold fetch
  dsimp only
  split <;> simp <;> omega

variable [Inhabited α]

@[simp] theorem window_length (cells : List α) (start count : ℕ) :
    (window cells start count).length = count := by
  simp [window]

@[simp] theorem window_zero (cells : List α) (start : ℕ) : window cells start 0 = [] := rfl

/-- A longer window has one cell more. -/
theorem window_succ (cells : List α) (start count : ℕ) :
    window cells start (count + 1) =
      window cells start count ++ [cells.getD (position cells.length start count) default] := by
  simp [window, List.range_succ]

theorem window_getElem? {cells : List α} {start count i : ℕ} (hi : i < count) :
    (window cells start count)[i]? =
      some (cells.getD (position cells.length start i) default) := by
  simp [window, hi]

/-- A list is a window when its items are the window's cells. -/
theorem eq_window {cells items : List α} {start count : ℕ} (hlength : items.length = count)
    (hcell : ∀ i < count, items[i]? = cells[position cells.length start i]?) :
    items = window cells start count := by
  apply List.ext_getElem?
  intro i
  by_cases hi : i < count
  · obtain ⟨a, ha⟩ : ∃ a, items[i]? = some a := ⟨_, List.getElem?_eq_getElem (by omega)⟩
    rw [window_getElem? hi, List.getD_eq_getElem?_getD, ← hcell i hi, ha, Option.getD_some]
  · rw [List.getElem?_eq_none (by omega), List.getElem?_eq_none (by simp; omega)]

/-- Inside one revolution a window's items are its cells. -/
theorem window_getElem?_cells {cells : List α} {start count i : ℕ}
    (hstart : start < cells.length) (hcount : count ≤ cells.length) (hi : i < count) :
    (window cells start count)[i]? = cells[position cells.length start i]? := by
  have hp : position cells.length start i < cells.length := position_lt hstart (by omega)
  rw [window_getElem? hi, List.getD_eq_getElem?_getD, List.getElem?_eq_getElem hp,
    Option.getD_some]

/-- Storing items at the end of a window appends them to it. -/
theorem window_store {cells items : List α} {start count : ℕ} (hstart : start < cells.length)
    (hfit : count + items.length ≤ cells.length) (hfree : count < cells.length) :
    window (store cells (position cells.length start count) items) start
        (count + items.length) = window cells start count ++ items := by
  have hend : position cells.length start count < cells.length := position_lt hstart (by omega)
  have hlength : (store cells (position cells.length start count) items).length = cells.length :=
    store_length hend (by omega)
  refine (eq_window (by simp) fun i hi ↦ ?_).symm
  rw [hlength]
  by_cases hold : i < count
  · rw [List.getElem?_append_left (by simpa using hold),
      window_getElem?_cells hstart (by omega) hold]
    -- cell `i` lies `cells.length - count + i` places after the end of the window
    have hfar : position cells.length start i =
        position cells.length (position cells.length start count)
          (cells.length - count + i) := by
      unfold position
      split <;> split <;> split <;> omega
    rw [hfar, store_getElem? hend (by omega) (by omega), if_neg (by omega)]
  · rw [List.getElem?_append_right (by simp; omega), window_length]
    have hnew : position cells.length start i =
        position cells.length (position cells.length start count) (i - count) := by
      rw [position_position hstart (by omega)]
      congr 1
      omega
    rw [hnew, store_getElem? hend (by omega) (by omega), if_pos (by omega)]

/-- Fetching from a start reads the window at that start. -/
theorem fetch_eq_window {cells : List α} {start count : ℕ} (hstart : start < cells.length)
    (hcount : count ≤ cells.length) : fetch cells start count = window cells start count := by
  refine eq_window (fetch_length hcount) fun i hi ↦ ?_
  unfold fetch position
  dsimp only
  split
  · next hwrap =>
      simp only [List.getElem?_append, List.getElem?_take, List.getElem?_drop, List.length_take,
        List.length_drop]
      split_ifs <;> first | omega | rfl | (congr 1; omega)
  · next hwrap =>
      simp only [List.getElem?_take, List.getElem?_drop]
      split_ifs <;> first | omega | rfl

/-- The front of a window is the shorter window. -/
theorem window_take {cells : List α} {start count n : ℕ} (hn : n ≤ count) :
    (window cells start count).take n = window cells start n := by
  simp [window, List.take_range, ← List.map_take, Nat.min_eq_left hn]

/-- Dropping from a window moves its start. -/
theorem window_drop {cells : List α} {start count n : ℕ} (hstart : start < cells.length)
    (hcount : count ≤ cells.length) (hn : n ≤ count) :
    (window cells start count).drop n =
      window cells (position cells.length start n) (count - n) := by
  apply List.ext_getElem?
  intro i
  by_cases hi : i < count - n
  · rw [List.getElem?_drop, window_getElem? (by omega), window_getElem? hi,
      position_position hstart (by omega)]
  · rw [List.getElem?_eq_none (by simp; omega), List.getElem?_eq_none (by simp; omega)]

end CircularBuffer
