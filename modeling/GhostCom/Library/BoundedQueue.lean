import Mathlib.Data.List.Basic
import Mathlib.Tactic.Common

/-!
# Bounded queues as answering machines

An answering machine is a total function `next : σ → ι → σ × ο`: the state after a call and the
answer to it. `answers` and `final` run a list of calls. `answers_eq_of_simulation` is the rule by
which one machine refines another: a relation of their states that every call keeps, with equal
answers, makes all runs agree.

`Queue` is the machine this is used for: a queue with a bound, carried as a field. A push takes as
many items as there is room for and answers how many these are; a pop takes out the oldest items.
-/

namespace BoundedQueue

variable {σ τ ι κ ο α : Type*}

/-- The answers to a list of calls, in order. -/
def answers (next : σ → ι → σ × ο) : σ → List ι → List ο
  | _, [] => []
  | s, c :: cs => (next s c).2 :: answers next (next s c).1 cs

/-- The state after a list of calls. -/
def final (next : σ → ι → σ × ο) : σ → List ι → σ
  | s, [] => s
  | s, c :: cs => final next (next s c).1 cs

/-- If every call gives the same answer on related states and leaves related states, then so does
every list of calls. `translate` names the second machine's call for each of the first's. -/
theorem answers_eq_of_simulation {next : σ → ι → σ × ο} {next' : τ → κ → τ × ο}
    {translate : ι → κ} {R : σ → τ → Prop}
    (hstep : ∀ s t c, R s t →
      (next s c).2 = (next' t (translate c)).2 ∧
        R (next s c).1 (next' t (translate c)).1)
    (cs : List ι) {s : σ} {t : τ} (hrel : R s t) :
    answers next s cs = answers next' t (cs.map translate) ∧
      R (final next s cs) (final next' t (cs.map translate)) := by
  induction cs generalizing s t with
  | nil => exact ⟨rfl, hrel⟩
  | cons c cs ih =>
      obtain ⟨hanswer, hnext⟩ := hstep s t c hrel
      obtain ⟨hanswers, hfinal⟩ := ih hnext
      refine ⟨?_, hfinal⟩
      show (next s c).2 :: answers next (next s c).1 cs =
        (next' t (translate c)).2 :: answers next' (next' t (translate c)).1 (cs.map translate)
      rw [hanswer, hanswers]

/-- A queue, oldest item first, with at most `capacity` items. -/
structure Queue (α : Type*) where
  capacity : ℕ
  items : List α
  fits : items.length ≤ capacity

/-- The calls of a queue. -/
inductive Call (α : Type*) where
  | push (items : List α)
  | pop (count : ℕ)
  | clear

/-- The answers of a queue: how many items a push took, and which ones a pop returns. -/
inductive Answer (α : Type*) where
  | pushed (count : ℕ)
  | popped (count : ℕ) (items : List α)
  | cleared
deriving DecidableEq

namespace Queue

/-- A queue without items. -/
def empty (capacity : ℕ) : Queue α := ⟨capacity, [], Nat.zero_le _⟩

/-- The number of items there is room for. -/
def free (q : Queue α) : ℕ := q.capacity - q.items.length

/-- What does not exceed the room may be appended. -/
theorem length_push_le (q : Queue α) (items : List α) :
    (q.items ++ items.take q.free).length ≤ q.capacity := by
  have hfits := q.fits
  simp only [List.length_append, List.length_take, free]
  omega

/-- What is left after a pop still fits. -/
theorem length_pop_le (q : Queue α) (count : ℕ) : (q.items.drop count).length ≤ q.capacity := by
  have hfits := q.fits
  simp only [List.length_drop]
  omega

/-- One call. -/
def next (q : Queue α) : Call α → Queue α × Answer α
  | .push items =>
      (⟨q.capacity, q.items ++ items.take q.free, q.length_push_le items⟩,
        .pushed (min items.length q.free))
  | .pop count =>
      (⟨q.capacity, q.items.drop count, q.length_pop_le count⟩,
        .popped (min count q.items.length) (q.items.take count))
  | .clear => (empty q.capacity, .cleared)

end Queue

end BoundedQueue
