import Mathlib.Data.Finset.Basic
import Mathlib.Data.Finset.Image

/-!
# Named objects and their links

A namespace holds objects and links; a link belongs to the object it was created for and disappears
with it. Creating an object under a name that is not in use and deleting it again restores the
namespace, whatever links it was given meanwhile.
-/

/-- The names of the objects that exist, and the links with their owners. -/
@[ext] structure ObjectNamespace (δ κ : Type*) where
  objects : Finset δ
  links : Finset (κ × δ)
  owned : ∀ l ∈ links, l.2 ∈ objects

namespace ObjectNamespace

variable {δ κ : Type*} [DecidableEq δ] [DecidableEq κ] (ns : ObjectNamespace δ κ) (d : δ) (k : κ)

/-- A namespace without objects. -/
def empty : ObjectNamespace δ κ := ⟨∅, ∅, nofun⟩

/-- Whether a link of this name exists. -/
def hasLink : Bool := k ∈ ns.links.image Prod.fst

/-- Create an object. -/
def create : ObjectNamespace δ κ where
  objects := insert d ns.objects
  links := ns.links
  owned l hl := Finset.mem_insert_of_mem (ns.owned l hl)

/-- Create a link for an object that exists. -/
def link : ObjectNamespace δ κ where
  objects := ns.objects
  links := if d ∈ ns.objects then insert (k, d) ns.links else ns.links
  owned l hl := by
    split at hl
    · next hd =>
        rcases Finset.mem_insert.mp hl with rfl | hmem
        · exact hd
        · exact ns.owned l hmem
    · exact ns.owned l hl

/-- Delete an object with its links. -/
def delete : ObjectNamespace δ κ where
  objects := ns.objects.erase d
  links := ns.links.filter (·.2 ≠ d)
  owned l hl := by
    obtain ⟨hmem, hne⟩ := Finset.mem_filter.mp hl
    exact Finset.mem_erase.mpr ⟨hne, ns.owned l hmem⟩

variable {ns d}

/-- The link of an object that exists is there. -/
theorem mem_link (h : d ∈ ns.objects) : (k, d) ∈ (ns.link d k).links := by
  show _ ∈ (if _ then _ else _)
  rw [if_pos h]
  exact Finset.mem_insert_self ..

/-- A link adds its own name and no other. -/
theorem hasLink_link {k k' : κ} (hne : k' ≠ k) : (ns.link d k).hasLink k' = ns.hasLink k' := by
  unfold hasLink link
  refine decide_eq_decide.mpr ?_
  dsimp only
  split
  · rw [Finset.image_insert, Finset.mem_insert]
    exact ⟨fun h ↦ h.resolve_left hne, .inr⟩
  · rfl

omit [DecidableEq δ] [DecidableEq κ] in
/-- An object that does not exist has no links. -/
theorem not_owned (h : d ∉ ns.objects) : ∀ l ∈ ns.links, l.2 ≠ d :=
  fun l hl heq ↦ h (heq ▸ ns.owned l hl)

omit [DecidableEq κ] in
/-- A new object that is deleted leaves nothing behind. -/
theorem delete_create (h : d ∉ ns.objects) : (ns.create d).delete d = ns := by
  ext x
  · show x ∈ (insert d ns.objects).erase d ↔ _
    rw [Finset.erase_insert h]
  · show x ∈ ns.links.filter (·.2 ≠ d) ↔ _
    rw [Finset.filter_true_of_mem (not_owned h)]

/-- A link goes with its object. -/
theorem delete_link : (ns.link d k).delete d = ns.delete d := by
  ext x
  · rfl
  · simp only [delete, link, Finset.mem_filter]
    split
    · rw [Finset.mem_insert]
      constructor
      · rintro ⟨rfl | hmem, hne⟩
        · exact absurd rfl hne
        · exact ⟨hmem, hne⟩
      · rintro ⟨hmem, hne⟩
        exact ⟨.inr hmem, hne⟩
    · rfl

end ObjectNamespace
