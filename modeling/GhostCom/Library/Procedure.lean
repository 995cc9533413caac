import Mathlib.Tactic.Common

/-!
# Procedures cut into blocks

A procedure that other threads can interrupt between its blocks, never inside one. A block is marked
with what it needs (`ι`); it changes the shared state (`σ`), and what it has read there decides how
the procedure goes on. `alone` is the procedure without interruption. `Always p` says that `p` holds
of every block the procedure can ever come to, whatever the state is by then.
-/

/-- A procedure: nothing is left, or a block with the rest. -/
inductive Procedure (σ ι : Type*) where
  | done
  | block (needs : ι) (run : σ → σ) (rest : σ → Procedure σ ι)

namespace Procedure

variable {σ ι : Type*}

/-- Nothing is left. -/
def isDone : Procedure σ ι → Bool
  | done => true
  | block .. => false

/-- What the next block needs. -/
def needs? : Procedure σ ι → Option ι
  | done => none
  | block needs _ _ => some needs

/-- The state after the procedure, if nobody interrupts it. -/
def alone : Procedure σ ι → σ → σ
  | done, s => s
  | block _ run rest, s => (rest s).alone (run s)

/-- One procedure after the other. -/
def seq : Procedure σ ι → Procedure σ ι → Procedure σ ι
  | done, q => q
  | block needs run rest, q => block needs run fun s ↦ (rest s).seq q

/-- Every block that the procedure can come to satisfies `p`. -/
def Always (p : ι → (σ → σ) → (σ → Procedure σ ι) → Prop) : Procedure σ ι → Prop
  | done => True
  | block needs run rest => p needs run rest ∧ ∀ s, (rest s).Always p

variable {a b : Procedure σ ι}

/-- Without interruption, a sequence is the second procedure from where the first one ends. -/
@[simp] theorem alone_seq (a b : Procedure σ ι) (s : σ) :
    (a.seq b).alone s = b.alone (a.alone s) := by
  induction a generalizing s with
  | done => rfl
  | block needs run rest ih => exact ih s (run s)

/-- For a property of single blocks, a sequence has it if both of its parts do. -/
theorem Always.seq {p : ι → (σ → σ) → Prop} (ha : a.Always fun needs run _ ↦ p needs run)
    (hb : b.Always fun needs run _ ↦ p needs run) :
    (a.seq b).Always fun needs run _ ↦ p needs run := by
  induction a with
  | done => exact hb
  | block needs run rest ih => exact ⟨ha.1, fun s ↦ ih s (ha.2 s)⟩

end Procedure
