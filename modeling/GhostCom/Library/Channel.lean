import Mathlib.Data.List.Basic
import Mathlib.Logic.Relation
import Mathlib.Tactic.Common

/-!
# Bounded channels with waiting readers and writers

A channel is a bounded queue of items together with the writers waiting to put items in and the
readers waiting to take items out. `Move` lists what may happen to it one step at a time: a party
joins its line, the first writer in line has the part of its items admitted that fits, the first
reader in line is served from the front, a party leaves its line or is turned away. `admitted` and
`served` record every admission and service, oldest first.

`Moves.conserved` says that no sequence of moves loses, duplicates or reorders an item, and
`Moves.inOrder` that both lines are handled first come first served. `Settled` is the coupling
between the buffer and the lines that holds when neither an admission nor a service is possible.
-/

namespace Channel

variable {α : Type*}

/-- A party waiting to put items in: its number, in order of arrival, and its items. -/
structure Writer (α : Type*) where
  id : ℕ
  items : List α

/-- A party waiting to take items out: its number, in order of arrival, and how many it takes. -/
structure Reader where
  id : ℕ
  want : ℕ

/-- A channel with its history. `clock` numbers the next arrival. -/
structure State (α : Type*) where
  clock : ℕ
  capacity : ℕ
  buffer : List α
  writers : List (Writer α)
  readers : List Reader
  admitted : List (ℕ × List α)
  served : List (ℕ × List α)

namespace State

/-- The items recorded in a history, oldest first. -/
def items (history : List (ℕ × List α)) : List α := history.flatMap Prod.snd

/-- The numbers of the writers admitted so far, followed by those still in line. -/
def writerIds (c : State α) : List ℕ := c.admitted.map Prod.fst ++ c.writers.map Writer.id

/-- The numbers of the readers served so far, followed by those still in line. -/
def readerIds (c : State α) : List ℕ := c.served.map Prod.fst ++ c.readers.map Reader.id

/-- Nothing can be admitted or served: readers wait only on an empty buffer, writers only on a full
one. -/
structure Settled (c : State α) : Prop where
  readers : c.readers ≠ [] → c.buffer = []
  writers : c.writers ≠ [] → c.buffer.length = c.capacity

/-- Both lines are handled first come first served, and the buffer stays within its bound. -/
structure InOrder (c : State α) : Prop where
  writers : c.writerIds.Pairwise (· < ·)
  readers : c.readerIds.Pairwise (· < ·)
  writers_lt : ∀ i ∈ c.writerIds, i < c.clock
  readers_lt : ∀ i ∈ c.readerIds, i < c.clock
  bounded : c.buffer.length ≤ c.capacity

/-- The items served, followed by the items in the buffer, are the items admitted. -/
def Conserved (c : State α) : Prop := items c.served ++ c.buffer = items c.admitted

end State

open State

/-- One step of a channel. -/
inductive Move : State α → State α → Prop where
  | post (c : State α) (items : List α) :
      Move c { c with writers := c.writers ++ [⟨c.clock, items⟩], clock := c.clock + 1 }
  | ask (c : State α) (want : ℕ) :
      Move c { c with readers := c.readers ++ [⟨c.clock, want⟩], clock := c.clock + 1 }
  | turnAway (c : State α) : Move c { c with clock := c.clock + 1 }
  | accept (c : State α) (w : Writer α) (rest : List (Writer α)) :
      c.writers = w :: rest → w.items ≠ [] → c.buffer.length < c.capacity →
      Move c { c with
        buffer := c.buffer ++ w.items.take (c.capacity - c.buffer.length)
        writers := rest
        admitted := c.admitted ++ [(w.id, w.items.take (c.capacity - c.buffer.length))] }
  | serve (c : State α) (r : Reader) (rest : List Reader) :
      c.readers = r :: rest → 0 < r.want → c.buffer ≠ [] →
      Move c { c with
        buffer := c.buffer.drop r.want
        readers := rest
        served := c.served ++ [(r.id, c.buffer.take r.want)] }
  | writersLeave (c : State α) (rest : List (Writer α)) :
      rest.Sublist c.writers → Move c { c with writers := rest }
  | readersLeave (c : State α) (rest : List Reader) :
      rest.Sublist c.readers → Move c { c with readers := rest }

/-- Finitely many steps of a channel. -/
abbrev Moves : State α → State α → Prop := Relation.ReflTransGen Move

@[simp] theorem State.items_append (history more : List (ℕ × List α)) :
    items (history ++ more) = items history ++ items more := by
  simp [items]

@[simp] theorem State.items_singleton (entry : ℕ × List α) : items [entry] = entry.2 := by
  simp [items]

/-- Appending a number above all others keeps a line in order of arrival. -/
theorem pairwise_lt_concat {ids : List ℕ} {i : ℕ} (h : ids.Pairwise (· < ·))
    (hi : ∀ j ∈ ids, j < i) : (ids ++ [i]).Pairwise (· < ·) := by
  rw [List.pairwise_append]
  refine ⟨h, List.pairwise_singleton _ _, fun j hj k hk ↦ ?_⟩
  rw [List.mem_singleton.mp hk]
  exact hi j hj

/-- Every step keeps both lines in order. -/
theorem Move.inOrder {c d : State α} (hmove : Move c d) (h : c.InOrder) : d.InOrder := by
  obtain ⟨hwriters, hreaders, hwlt, hrlt, hbound⟩ := h
  cases hmove with
  | post items =>
      have hids : writerIds { c with
          writers := c.writers ++ [⟨c.clock, items⟩], clock := c.clock + 1 } =
          c.writerIds ++ [c.clock] := by simp [writerIds]
      refine ⟨hids ▸ pairwise_lt_concat hwriters hwlt, hreaders, ?_,
        fun i hi ↦ Nat.lt_succ_of_lt (hrlt i hi), hbound⟩
      intro i hi
      rw [hids, List.mem_append, List.mem_singleton] at hi
      rcases hi with hi | rfl
      · exact Nat.lt_succ_of_lt (hwlt i hi)
      · exact Nat.lt_succ_self _
  | ask want =>
      have hids : readerIds { c with
          readers := c.readers ++ [⟨c.clock, want⟩], clock := c.clock + 1 } =
          c.readerIds ++ [c.clock] := by simp [readerIds]
      refine ⟨hwriters, hids ▸ pairwise_lt_concat hreaders hrlt,
        fun i hi ↦ Nat.lt_succ_of_lt (hwlt i hi), ?_, hbound⟩
      intro i hi
      rw [hids, List.mem_append, List.mem_singleton] at hi
      rcases hi with hi | rfl
      · exact Nat.lt_succ_of_lt (hrlt i hi)
      · exact Nat.lt_succ_self _
  | turnAway =>
      exact ⟨hwriters, hreaders, fun i hi ↦ Nat.lt_succ_of_lt (hwlt i hi),
        fun i hi ↦ Nat.lt_succ_of_lt (hrlt i hi), hbound⟩
  | accept w rest hline _ hfree =>
      refine ⟨?_, hreaders, ?_, hrlt, ?_⟩
      · simpa [writerIds, hline] using hwriters
      · simpa [writerIds, hline] using hwlt
      · simp only [List.length_append, List.length_take]
        omega
  | serve r rest hline =>
      refine ⟨hwriters, ?_, hwlt, ?_, ?_⟩
      · simpa [readerIds, hline] using hreaders
      · simpa [readerIds, hline] using hrlt
      · simp only [List.length_drop]
        omega
  -- those who leave take their place in the line with them; the rest keep their order
  | writersLeave rest hrest =>
      have hsub := List.Sublist.append_left (hrest.map Writer.id) (c.admitted.map Prod.fst)
      exact ⟨hwriters.sublist hsub, hreaders, fun i hi ↦ hwlt i (hsub.subset hi), hrlt, hbound⟩
  | readersLeave rest hrest =>
      have hsub := List.Sublist.append_left (hrest.map Reader.id) (c.served.map Prod.fst)
      exact ⟨hwriters, hreaders.sublist hsub, hwlt, fun i hi ↦ hrlt i (hsub.subset hi), hbound⟩

/-- Every step conserves the items. -/
theorem Move.conserved {c d : State α} (hmove : Move c d) (h : c.Conserved) : d.Conserved := by
  unfold Conserved at h ⊢
  cases hmove with
  | post | ask | turnAway | writersLeave | readersLeave => exact h
  | accept w rest => simp [← h, List.append_assoc]
  | serve r rest => simp [← h, List.append_assoc]

/-- Every sequence of steps keeps both lines in order. -/
theorem Moves.inOrder {c d : State α} (hmoves : Moves c d) (h : c.InOrder) : d.InOrder := by
  induction hmoves with
  | refl => exact h
  | tail _ hmove ih => exact hmove.inOrder ih

/-- Every sequence of steps conserves the items. -/
theorem Moves.conserved {c d : State α} (hmoves : Moves c d) (h : c.Conserved) :
    d.Conserved := by
  induction hmoves with
  | refl => exact h
  | tail _ hmove ih => exact hmove.conserved ih

/-- No step changes the capacity. -/
theorem Move.capacity_eq {c d : State α} (hmove : Move c d) : d.capacity = c.capacity := by
  cases hmove <;> rfl

theorem Moves.capacity_eq {c d : State α} (hmoves : Moves c d) : d.capacity = c.capacity := by
  induction hmoves with
  | refl => rfl
  | tail _ hmove ih => exact hmove.capacity_eq.trans ih

/-- Emptying the buffer keeps both lines in order, although it loses items and so is no step. -/
theorem State.InOrder.discard {c : State α} (h : c.InOrder) :
    State.InOrder { c with buffer := [] } :=
  ⟨h.writers, h.readers, h.writers_lt, h.readers_lt, Nat.zero_le _⟩

end Channel
