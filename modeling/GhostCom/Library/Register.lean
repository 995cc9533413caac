import Mathlib.Tactic.Common

/-!
# Registers

A register is given by the events that write it. Its value after a history of events is the one
that the latest of these writes gave it, or its initial value.
-/

namespace Register

variable {ε β γ : Type*} (writes : ε → Option β) (initial : β) (history : List ε) (e : ε)

/-- The value of a register after a history. -/
def latest : β := (history.filterMap writes).getLast?.getD initial

/-- An event that writes the register gives it its value, any other leaves it as it was. -/
@[simp] theorem latest_concat :
    latest writes initial (history ++ [e]) =
      (writes e).getD (latest writes initial history) := by
  unfold latest
  rw [List.filterMap_append]
  cases h : writes e with
  | none => rw [List.filterMap_cons_none h, List.filterMap_nil, List.append_nil, Option.getD_none]
  | some value =>
      rw [List.filterMap_cons_some h, List.filterMap_nil, List.getLast?_concat, Option.getD_some,
        Option.getD_some]

/-- A function of what is written, or of what was there. -/
theorem apply_getD (f : β → γ) (written : Option β) (old : β) :
    f (written.getD old) = (written.map f).getD (f old) := by
  cases written <;> rfl

end Register
