import Mathlib.Algebra.Group.Nat.Defs
import Mathlib.Data.List.Basic

/-!
# Names with numbers

A numbered name is a stem followed by a number in decimal. Stem and number can be read off the name
as long as the stem does not end in a digit itself. This is so too for names that are compared after
their characters have been folded, such as to upper case, if the folding leaves the digits alone.
-/

/-- A stem followed by a number in decimal. -/
def numberedName (stem : List Char) (n : ℕ) : List Char := stem ++ Nat.toDigits 10 n

/-- The last character, if there is one, is not a digit. -/
def EndsUndigited (text : List Char) : Prop := text.getLast?.any Char.isDigit = false

/-- The same name up to folding. -/
def SameName (fold : Char → Char) (x y : List Char) : Prop := x.map fold = y.map fold

variable {fold : Char → Char} {stem stem' text : List Char} {a b : ℕ}

theorem digits_isDigit {c : Char} (h : c ∈ Nat.toDigits 10 a) : c.isDigit = true :=
  Nat.isDigit_of_mem_toDigits (by decide) (by decide) h

/-- A text that does not end in a digit is not extended by digits. -/
theorem EndsUndigited.extra (h : EndsUndigited stem') {extra : List Char}
    (heq : stem' = stem ++ extra) (hdigits : ∀ c ∈ extra, c.isDigit = true) : extra = [] := by
  rcases List.eq_nil_or_concat' extra with hnil | ⟨front, c, rfl⟩
  · exact hnil
  · have hlast : stem'.getLast? = some c := by
      rw [heq, ← List.append_assoc, List.getLast?_concat]
    rw [EndsUndigited, hlast, Option.any_some, hdigits c (by simp)] at h
    cases h

/-- Stem and number can be read off a numbered name. -/
theorem numbered_name_inj (hstem : EndsUndigited stem) (hstem' : EndsUndigited stem')
    (h : numberedName stem a = numberedName stem' b) : stem = stem' ∧ a = b := by
  have hnumber (heq : stem = stem') : a = b := by
    subst heq
    have hparsed := congrArg (Nat.ofDigitChars 10 · 0) (List.append_cancel_left h)
    simpa using hparsed
  suffices heq : stem = stem' from ⟨heq, hnumber heq⟩
  rcases List.append_eq_append_iff.mp h with ⟨extra, heq, hdigits⟩ | ⟨extra, heq, hdigits⟩
  · have hnil := hstem'.extra heq fun c hc ↦
      digits_isDigit (hdigits ▸ List.mem_append_left _ hc)
    rw [heq, hnil, List.append_nil]
  · have hnil := hstem.extra heq fun c hc ↦
      digits_isDigit (hdigits ▸ List.mem_append_left _ hc)
    rw [heq, hnil, List.append_nil]

/-- A numbered name ends in a digit. -/
theorem numbered_name_ne (h : EndsUndigited text) : numberedName stem a ≠ text := by
  intro heq
  have hnil := h.extra heq.symm fun c hc ↦ digits_isDigit hc
  exact Nat.toDigits_ne_nil hnil

/-- A number below a power of ten adds no more digits than the exponent says. -/
theorem length_numbered_name_le {k : ℕ} (hk : 0 < k) (h : a < 10 ^ k) :
    (numberedName stem a).length ≤ stem.length + k := by
  rw [numberedName, List.length_append]
  exact Nat.add_le_add_left ((Nat.length_toDigits_le_iff (by decide) hk).mpr h) _

/-- Folding a numbered name folds its stem. -/
theorem map_numbered_name (hfold : ∀ c : Char, c.isDigit = true → fold c = c) :
    (numberedName stem a).map fold = numberedName (stem.map fold) a := by
  rw [numberedName, List.map_append, numberedName]
  congr 1
  conv_rhs => rw [← List.map_id (Nat.toDigits 10 a)]
  exact List.map_congr_left fun c hc ↦ hfold c (digits_isDigit hc)

/-- Numbered names are the same if their stems and their numbers are. -/
theorem same_numbered_iff (hfold : ∀ c : Char, c.isDigit = true → fold c = c)
    (hstem : EndsUndigited (stem.map fold)) (hstem' : EndsUndigited (stem'.map fold)) :
    SameName fold (numberedName stem a) (numberedName stem' b) ↔
      SameName fold stem stem' ∧ a = b := by
  unfold SameName
  rw [map_numbered_name hfold, map_numbered_name hfold]
  constructor
  · exact numbered_name_inj hstem hstem'
  · rintro ⟨heq, rfl⟩
    rw [heq]

/-- A numbered name is not the same as one that does not end in a digit. -/
theorem not_same_numbered (hfold : ∀ c : Char, c.isDigit = true → fold c = c)
    (htext : EndsUndigited (text.map fold)) : ¬SameName fold (numberedName stem a) text := by
  unfold SameName
  rw [map_numbered_name hfold]
  exact numbered_name_ne htext

/-- What names begin with in common can be left out. -/
theorem same_name_append_iff {front x y : List Char} :
    SameName fold (front ++ x) (front ++ y) ↔ SameName fold x y := by
  unfold SameName
  rw [List.map_append, List.map_append, List.append_right_inj]
