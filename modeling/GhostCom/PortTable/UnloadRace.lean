import GhostCom.PortTable.Unload

/-!
# The race of an unload with a create

`UnloadRace` is the composition of the two routines, with a record of which pairs have been given
back, of whether the creating thread has used its pair after the cleanup destroyed it, and of where
that thread stood at the scan and when its pair was destroyed. `Settled` is the aim, `Timely` the
condition on the schedule; `unload_settled_iff` says that they agree on every finished race.
-/

namespace GhostCom

namespace PortTable

variable {t : PortTable}

/-- A slot of a table without entries holds nothing. -/
theorem eq_none_of_not_holds (h : ∀ i entry, ¬t.Holds i entry) : ∀ slot ∈ t.slots, slot = none := by
  intro slot hslot
  obtain ⟨i, hi⟩ := List.mem_iff_getElem?.mp hslot
  cases slot with
  | none => rfl
  | some entry => exact absurd hi (h i entry)

end PortTable

namespace Unload

open Transition (run)

/-! ## The scan -/

section Scan

variable (m : Machine)

/-- The pair that the scan collects from a slot. -/
def activePair (i : ℕ) : Option ℕ :=
  match m.table.slots[i]? with
  | some (some (.pair pp)) => if (m.pairs pp).active then some pp else none
  | _ => none

variable {m}

theorem active_pair_iff {i pp : ℕ} :
    activePair m i = some pp ↔ m.table.Holds i (.pair pp) ∧ (m.pairs pp).active = true := by
  unfold activePair
  split
  · next qq hslot =>
      constructor
      · intro h
        obtain ⟨hactive, heq⟩ := Option.ite_none_right_eq_some.mp h
        cases heq
        exact ⟨hslot, hactive⟩
      · rintro ⟨hholds, hactive⟩
        cases hholds.inj hslot
        exact if_pos hactive
  · next hother =>
      constructor
      · exact nofun
      · rintro ⟨hholds, -⟩
        exact absurd hholds (hother pp)

/-- The scan collects the active pairs of the slots it visits, clears these slots, and changes
nothing but the table. -/
theorem collect_pairs_spec {indices : List ℕ} (hnodup : indices.Nodup) :
    (collectPairs m indices).2 = indices.filterMap (activePair m) ∧
      (∀ j entry, (collectPairs m indices).1.table.Holds j entry ↔
        m.table.Holds j entry ∧ (j ∈ indices → activePair m j = none)) ∧
      ∃ table, (collectPairs m indices).1 = { m with table := table } := by
  induction indices generalizing m with
  | nil => exact ⟨rfl, fun j entry ↦
      ⟨fun h ↦ ⟨h, fun hj ↦ absurd hj List.not_mem_nil⟩, And.left⟩, m.table, rfl⟩
  | cons i rest ih =>
      obtain ⟨hfirst, hrest⟩ := List.nodup_cons.mp hnodup
      cases hpair : activePair m i with
      | none =>
          have hskip : collectPairs m (i :: rest) = collectPairs m rest := by
            rw [collectPairs]
            split
            · next pp hslot =>
                refine if_neg fun hactive ↦ ?_
                have hfound := active_pair_iff.mpr ⟨hslot, hactive⟩
                exact Option.some_ne_none pp (hfound.symm.trans hpair)
            · rfl
          obtain ⟨hlist, hholds, hsame⟩ := ih (m := m) hrest
          rw [hskip, List.filterMap_cons_none hpair]
          refine ⟨hlist, fun j entry ↦ (hholds j entry).trans (and_congr_right fun _ ↦ ?_), hsame⟩
          constructor
          · intro h hj
            rcases List.mem_cons.mp hj with rfl | hj
            · exact hpair
            · exact h hj
          · exact fun h hj ↦ h (List.mem_cons_of_mem _ hj)
      | some pp =>
          obtain ⟨hslot, hactive⟩ := active_pair_iff.mp hpair
          have htake : collectPairs m (i :: rest) =
              ((collectPairs { m with table := m.table.clear i } rest).1,
                pp :: (collectPairs { m with table := m.table.clear i } rest).2) := by
            rw [collectPairs]
            split
            · next qq hqq =>
                cases PortTable.Holds.inj hslot hqq
                rw [if_pos hactive]
            · next hother => exact absurd hslot (hother pp)
          -- Clearing a slot does not change what the scan finds in the others.
          have hothers : ∀ j, j ≠ i →
              activePair { m with table := m.table.clear i } j = activePair m j := by
            intro j hj
            unfold activePair
            rw [show ({ m with table := m.table.clear i } : Machine).table.slots[j]? =
              m.table.slots[j]? from List.getElem?_set_ne (Ne.symm hj)]
          obtain ⟨hlist, hholds, table, hsame⟩ :=
            ih (m := { m with table := m.table.clear i }) hrest
          rw [htake, List.filterMap_cons_some hpair]
          refine ⟨?_, fun j entry ↦ (hholds j entry).trans ?_, table, hsame⟩
          · rw [hlist]
            refine congrArg (pp :: ·) (List.filterMap_congr fun j hj ↦ hothers j ?_)
            exact fun heq ↦ hfirst (heq ▸ hj)
          rw [show ({ m with table := m.table.clear i } : Machine).table = m.table.clear i from rfl,
            PortTable.holds_clear]
          constructor
          · rintro ⟨⟨hne, hold⟩, hnone⟩
            refine ⟨hold, fun hj ↦ ?_⟩
            rw [← hothers j hne]
            exact hnone ((List.mem_cons.mp hj).resolve_left hne)
          · rintro ⟨hold, hnone⟩
            have hne : j ≠ i := by
              rintro rfl
              exact Option.some_ne_none pp (hpair.symm.trans (hnone (List.mem_cons_self ..)))
            refine ⟨⟨hne, hold⟩, fun hj ↦ ?_⟩
            rw [hothers j hne]
            exact hnone (List.mem_cons_of_mem _ hj)

end Scan

/-! ## The race -/

/-- The driver, the two threads and the record of the race. `allocated` is the pair of the create,
`disposed` are the pairs that `GcomPortPairDestroy` or the failed create has given back, and `stale`
says that the create used its pair after that. -/
structure UnloadRace where
  machine : Machine
  creator : CreatePoint
  cleaner : CleanupPoint
  allocated : Option ℕ
  disposed : List ℕ
  stale : Bool
  atScan : Option CreatePoint
  atDestroy : Option CreatePoint

/-- A step of one of the two threads. -/
inductive RaceEvent where
  | create
  | cleanup
deriving DecidableEq

/-- Both routines have been entered. -/
def start (m : Machine) (requestedPortNumber : ULONG) : UnloadRace where
  machine := m
  creator := .entered requestedPortNumber
  cleaner := .entered
  allocated := none
  disposed := []
  stale := false
  atScan := none
  atDestroy := none

/-- One step. -/
def next (o : CreateOutcomes) (d : ℕ → DestroyOutcomes) (s : UnloadRace) :
    RaceEvent → Option UnloadRace
  | .create =>
      (createStep o s.machine s.creator).map fun (m, c) ↦
        { s with
          machine := m
          creator := c
          allocated := c.pair.or s.allocated
          disposed := s.creator.freed.toList ++ s.disposed
          stale := s.stale || s.creator.touched.any s.disposed.contains }
  | .cleanup =>
      (cleanupStep d s.machine s.cleaner).map fun (m, k) ↦
        { s with
          machine := m
          cleaner := k
          disposed := s.cleaner.destroyed.toList ++ s.disposed
          atScan := if s.cleaner = .entered then some s.creator else s.atScan
          atDestroy := s.atDestroy.or
            (if s.cleaner.destroyed.isSome && s.cleaner.destroyed == s.allocated then some s.creator
            else none) }

namespace UnloadRace

/-- Both routines have finished. -/
def Finished (s : UnloadRace) : Prop := s.creator.finished = true ∧ s.cleaner = .finished

/-- The race that started with the table of `m` has ended well: every pair that was in the table or
was allocated has been given back once, the table is empty, and the create has not used its pair
after it was destroyed. -/
structure Settled (m : Machine) (s : UnloadRace) : Prop where
  once : ∀ pp, some (.pair pp) ∈ m.table.slots ∨ s.allocated = some pp → s.disposed.count pp = 1
  emptied : ∀ slot ∈ s.machine.table.slots, slot = none
  untouched : s.stale = false

/-- The scan found the pair of the create in the table. -/
def collected (s : UnloadRace) : Bool := s.atScan.any (·.listed)

/-- The schedule: the scan comes while the pair is not in the table if the create fails; it comes
while the pair is in the table if the create succeeds, and then the pair is destroyed after the
create has finished. -/
structure Timely (s : UnloadRace) : Prop where
  failed : s.creator.hasFailed = true → s.collected = false
  responded : s.creator.hasResponded = true →
    s.collected = true ∧ ∀ c, s.atDestroy = some c → c.finished = true

end UnloadRace

/-! ## What the creating thread does to the table -/

namespace CreatePoint

/-- The slot of the create. -/
def slot : CreatePoint → Option ℕ
  | .reserved i _ | .allocationFailed i | .allocated i _ _ | .initialised i _ _
  | .published i _ _ | .comCreated i _ | .created i _ | .failCleanup i _ _ | .failAlloc i _ _
  | .failSentinel i _ _ | .responded i _ _ => some i
  | _ => none

/-- The pair has not been stored in the table yet, and the create has not failed. -/
def early : CreatePoint → Bool
  | .entered _ | .reserved .. | .allocationFailed _ | .allocated .. | .initialised .. => true
  | _ => false

/-- What the create has in the table: the sentinel, then the pair unless the scan has collected it,
and on the way out the sentinel if it is still there. -/
def Owns (c : CreatePoint) (collected : Bool) (t : PortTable) (j : ℕ) (entry : PortEntry) : Prop :=
  match c with
  | .reserved i _ | .allocationFailed i | .allocated i _ _ | .initialised i _ _ =>
      j = i ∧ entry = .reserved
  | .published i pp _ | .comCreated i pp | .created i pp | .failCleanup i pp _
  | .responded i pp _ => j = i ∧ entry = .pair pp ∧ collected = false
  | .failAlloc i _ _ | .failSentinel i _ _ => j = i ∧ entry = .reserved ∧ t.Holds i .reserved
  | .entered _ | .failFree .. | .failed _ => False

/-- The steps that leave the table and all pairs' control fields alone. -/
inductive Works : CreatePoint → CreatePoint → Prop where
  | refused (requested st) : Works (.entered requested) (.failed st)
  | notAllocated (i n) : Works (.reserved i n) (.allocationFailed i)
  | initialised (i pp n) : Works (.allocated i pp n) (.initialised i pp n)
  | notInitialised (i pp n st) : Works (.allocated i pp n) (.failAlloc i pp st)
  | comCreated (i pp n) : Works (.published i pp n) (.comCreated i pp)
  | comRefused (i pp n st) : Works (.published i pp n) (.failCleanup i pp st)
  | created (i pp) : Works (.comCreated i pp) (.created i pp)
  | companionRefused (i pp st) : Works (.comCreated i pp) (.failCleanup i pp st)
  | responded (i pp reply) : Works (.created i pp) (.responded i pp reply)
  | released (i pp st) : Works (.failAlloc i pp st) (.failSentinel i pp st)
  | freed (pp st) : Works (.failFree pp st) (.failed st)

end CreatePoint

open CreatePoint (Works)

/-- The steps of the creating thread, by what they do to the table. -/
inductive Move (m : Machine) : CreatePoint → Machine → CreatePoint → Prop where
  | work {m' c c'} (hframe : Frame m m') (hworks : Works c c') : Move m c m' c'
  | reserve {requested} (i n) (hfree : m.table.firstFree = some i) :
      Move m (.entered requested) { m with table := m.table.reserve i } (.reserved i n)
  | allocate (i n) :
      Move m (.reserved i n)
        ({ m with pool := m.pool.alloc }.setPair m.pool.next fun _ ↦ .initial n)
        (.allocated i m.pool.next n)
  | unreserve (i st) :
      Move m (.allocationFailed i) { m with table := m.table.clear i } (.failed st)
  | publish (i pp n) :
      Move m (.initialised i pp n) { m with table := m.table.publish i pp } (.published i pp n)
  | delist (i pp st) :
      Move m (.failCleanup i pp st) { m with table := m.table.clear i } (.failAlloc i pp st)
  | sentinel (i pp st) : Move m (.failSentinel i pp st) (clearSentinel m i) (.failFree pp st)

/-- The locks and rings given back by a failed create. -/
theorem free_parts_frame (m : Machine) (pp : ℕ) : Frame m (freeParts m pp) :=
  ((((Frame.refl m).wdfLockDelete _).wdfLockDelete _).exFreePool _).exFreePool _

/-- Every step of the creating thread is one of these. -/
theorem move_of_step {o : CreateOutcomes} {m m' : Machine} {c c' : CreatePoint}
    (h : createStep o m c = some (m', c')) : Move m c m' c' := by
  cases c with
  | entered requested =>
      rw [createStep] at h
      split at h
      · cases h
        exact .work (.refl m) (.refused ..)
      next i hfree =>
      split at h
      · cases h
        exact .work (.refl m) (.refused ..)
      · cases h
        exact .reserve i _ hfree
  | reserved i n =>
      rw [createStep] at h
      split at h
      · cases h
        exact .work (.refl m) (.notAllocated ..)
      · cases h
        exact .allocate i n
  | allocationFailed i =>
      cases h
      exact .unreserve i _
  | allocated i pp n =>
      have hframe := init_pair_frame m o pp
      rw [createStep] at h
      split at h <;> next heq => rw [heq] at hframe; cases h; exact .work hframe (by constructor)
  | initialised i pp n =>
      cases h
      exact .publish i pp n
  | published i pp n =>
      have hframe := com_port_create_frame m o pp n
      rw [createStep] at h
      split at h <;> next heq => rw [heq] at hframe; cases h; exact .work hframe (by constructor)
  | comCreated i pp =>
      have hframe := companion_create_frame m o pp
      rw [createStep] at h
      split at h
      · next heq =>
          rw [heq] at hframe
          cases h
          exact .work (hframe.trans (com_port_destroy_frame _ o.destroy pp)) (.companionRefused ..)
      · next heq =>
          rw [heq] at hframe
          cases h
          exact .work hframe (.created ..)
  | created i pp =>
      cases h
      exact .work (.refl m) (.responded ..)
  | failCleanup i pp st =>
      cases h
      exact .delist i pp st
  | failAlloc i pp st =>
      cases h
      exact .work (free_parts_frame m pp) (.released ..)
  | failSentinel i pp st =>
      cases h
      exact .sentinel i pp st
  | failFree pp st =>
      cases h
      exact .work ((Frame.refl m).exFreePool _) (.freed ..)
  | failed st | responded i pp reply => cases h

/-! ## The table during the race -/

section Slots

variable {t : PortTable} {i : ℕ} {Old Own : ℕ → PortEntry → Prop}

/-- The create removes what it has in the table. -/
theorem holds_removed (hslots : ∀ j entry, t.Holds j entry ↔ Old j entry ∨ Own j entry)
    (hown : ∀ j entry, Own j entry → j = i) (hold : ∀ entry, ¬Old i entry) (j : ℕ)
    (entry : PortEntry) : (t.clear i).Holds j entry ↔ Old j entry := by
  rw [PortTable.holds_clear, hslots]
  constructor
  · rintro ⟨hne, h | h⟩
    · exact h
    · exact absurd (hown j entry h) hne
  · intro h
    refine ⟨?_, .inl h⟩
    rintro rfl
    exact hold entry h

/-- The create stores an entry where it had another one, or none. -/
theorem holds_stored (hslots : ∀ j entry, t.Holds j entry ↔ Old j entry ∨ Own j entry)
    (hown : ∀ j entry, Own j entry → j = i) (hold : ∀ entry, ¬Old i entry)
    (hlt : i < t.slots.length) (new : PortEntry) (j : ℕ) (entry : PortEntry) :
    (t.slots.set i (some new))[j]? = some (some entry) ↔ Old j entry ∨ j = i ∧ entry = new := by
  rw [PortTable.holds_set hlt, or_comm, ← PortTable.holds_clear]
  exact or_congr_left (holds_removed hslots hown hold j entry)

end Slots

/-- What holds of the table and the pairs in every state of a race: the table has the old entries
until the scan, and what the create has in it. -/
structure Tabled (m : Machine) (s : UnloadRace) : Prop where
  slots : ∀ j entry, s.machine.table.Holds j entry ↔
    (s.cleaner = .entered ∧ m.table.Holds j entry) ∨
      s.creator.Owns s.collected s.machine.table j entry
  free : ∀ i, s.creator.slot = some i → i < gcomMaxPorts ∧
    ∀ entry, ¬(s.cleaner = .entered ∧ m.table.Holds i entry)
  active : s.cleaner = .entered → ∀ pp,
    some (.pair pp) ∈ m.table.slots ∨ s.creator.pair = some pp → (s.machine.pairs pp).active = true
  next_le : m.pool.next ≤ s.machine.pool.next
  fresh : ∀ pp, s.allocated = some pp → m.pool.next ≤ pp
  pair : ∀ pp, s.creator.pair = some pp → s.allocated = some pp
  early : s.creator.early = true → s.collected = false

namespace CreatePoint

variable {c c' : CreatePoint}

/-- A step that leaves the table alone leaves the create what it has in it. -/
theorem Works.owns (h : Works c c') {collected : Bool} {t : PortTable}
    (hholds : ∀ j entry, c.Owns collected t j entry → t.Holds j entry) (j : ℕ) (entry : PortEntry) :
    c'.Owns collected t j entry ↔ c.Owns collected t j entry := by
  cases h with
  | notInitialised i pp n st =>
      constructor
      · rintro ⟨rfl, rfl, -⟩
        exact ⟨rfl, rfl⟩
      · rintro ⟨rfl, rfl⟩
        exact ⟨rfl, rfl, hholds _ _ ⟨rfl, rfl⟩⟩
  | _ => exact Iff.rfl

theorem Works.slot (h : Works c c') {i : ℕ} (hi : c'.slot = some i) : c.slot = some i := by
  cases h with
  | refused | freed => cases hi
  | _ => exact hi

theorem Works.pair (h : Works c c') {pp : ℕ} (hpp : c'.pair = some pp) : c.pair = some pp := by
  cases h with
  | refused | notAllocated | freed => cases hpp
  | _ => exact hpp

theorem Works.early (h : Works c c') (hearly : c'.early = true) : c.early = true := by
  cases h with
  | notAllocated | initialised => rfl
  | _ => cases hearly

end CreatePoint

/-- A pair of the create that is in the table. -/
theorem CreatePoint.Owns.listed {c : CreatePoint} {collected : Bool} {t : PortTable} {j pp : ℕ}
    (h : c.Owns collected t j (.pair pp)) : c.pair = some pp ∧ c.listed = true := by
  cases c with
  | entered | failFree | failed => exact h.elim
  | reserved | allocationFailed | allocated | initialised => cases h.2
  | failAlloc | failSentinel => cases h.2.1
  | _ => cases h.2.1; exact ⟨rfl, rfl⟩

namespace CreatePoint

variable {c : CreatePoint} {t t' : PortTable} {j : ℕ}

/-- A scan that finds the pair takes it. -/
theorem not_owns_listed {pp : ℕ} : ¬c.Owns c.listed t j (.pair pp) := by
  intro h
  cases c with
  | entered | failFree | failed => exact h.elim
  | reserved | allocationFailed | allocated | initialised => cases h.2
  | failAlloc | failSentinel => cases h.2.1
  | _ => cases h.2.2

/-- The entries of the create are in one slot. -/
theorem Owns.slot_unique {collected : Bool} {i : ℕ} {entry entry' : PortEntry}
    (hi : c.Owns collected t i entry) (hj : c.Owns collected t j entry') : i = j := by
  cases c with
  | entered | failFree | failed => exact hi.elim
  | _ => exact hi.1.trans hj.1.symm

/-- A pair that is listed is in the table until the scan. -/
theorem owns_of_listed (h : c.listed = true) (t : PortTable) :
    ∃ i pp, c.pair = some pp ∧ c.Owns false t i (.pair pp) := by
  cases c with
  | published i pp | comCreated i pp | created i pp | failCleanup i pp | responded i pp =>
      exact ⟨i, pp, rfl, rfl, rfl, rfl⟩
  | _ => cases h

/-- The sentinel of a create does not depend on the scan. -/
theorem owns_reserved {collected collected' : Bool}
    (h : ∀ i, t'.Holds i .reserved ↔ t.Holds i .reserved) :
    c.Owns collected t j .reserved ↔ c.Owns collected' t' j .reserved := by
  cases c with
  | failAlloc i pp st | failSentinel i pp st =>
      exact and_congr_right fun _ ↦ and_congr_right fun _ ↦ (h i).symm
  | published | comCreated | created | failCleanup | responded =>
      exact iff_of_false (fun h ↦ nomatch h.2.1) fun h ↦ nomatch h.2.1
  | _ => exact Iff.rfl

theorem not_listed_of_early (h : c.early = true) : c.listed = false := by
  cases c with
  | entered | reserved | allocationFailed | allocated | initialised => rfl
  | _ => cases h

end CreatePoint

namespace Tabled

variable {m : Machine} {s : UnloadRace} {o : CreateOutcomes} {d : ℕ → DestroyOutcomes}

theorem start (m : Machine) (hm : TableOk m) (requestedPortNumber : ULONG) :
    Tabled m (start m requestedPortNumber) where
  slots j entry := ⟨fun h ↦ .inl ⟨rfl, h⟩, fun h ↦ h.elim And.right False.elim⟩
  free := nofun
  active _ pp := by
    rintro (hmem | hpair)
    · exact (hm.real pp hmem).1
    · cases hpair
  next_le := Nat.le_refl _
  fresh := nofun
  pair := nofun
  early _ := rfl

/-- The entries of the create are in the table. -/
theorem owns (h : Tabled m s) (j : ℕ) (entry : PortEntry)
    (hown : s.creator.Owns s.collected s.machine.table j entry) : s.machine.table.Holds j entry :=
  (h.slots j entry).mpr (.inr hown)

/-- The pair of the create is not an old one. -/
theorem not_own (h : Tabled m s) (hm : TableOk m) {pp : ℕ}
    (hmem : some (.pair pp) ∈ m.table.slots) : s.creator.pair ≠ some pp := fun hpair ↦
  absurd (h.fresh pp (h.pair pp hpair)) (Nat.not_le.mpr (hm.entry_lt hmem))

/-- Only the allocation changes which pair the create has allocated. -/
theorem allocated_eq (h : Tabled m s) {c : CreatePoint}
    (hpair : ∀ pp, c.pair = some pp → s.creator.pair = some pp) :
    c.pair.or s.allocated = s.allocated := by
  cases hc : c.pair with
  | none => rfl
  | some pp => exact (h.pair pp (hpair pp hc)).symm

section Create

variable {c' : CreatePoint} {disposed : List ℕ} {stale : Bool}

/-- A step that changes no more than the table. -/
theorem set_table (h : Tabled m s) (table : PortTable)
    (hslots : ∀ j entry, table.Holds j entry ↔
      (s.cleaner = .entered ∧ m.table.Holds j entry) ∨ c'.Owns s.collected table j entry)
    (hfree : ∀ i, c'.slot = some i → i < gcomMaxPorts ∧
      ∀ entry, ¬(s.cleaner = .entered ∧ m.table.Holds i entry))
    (hpair : ∀ pp, c'.pair = some pp → s.creator.pair = some pp)
    (hearly : c'.early = true → s.creator.early = true) :
    Tabled m { s with
      machine := { s.machine with table := table }
      creator := c'
      allocated := c'.pair.or s.allocated
      disposed := disposed
      stale := stale } where
  slots := hslots
  free := hfree
  active hentered pp hpp := h.active hentered pp (hpp.imp_right (hpair pp))
  next_le := h.next_le
  fresh pp hpp := h.fresh pp ((h.allocated_eq hpair).symm.trans hpp)
  pair pp hpp := by
    show c'.pair.or s.allocated = some pp
    rw [show c'.pair = some pp from hpp]
    rfl
  early he := h.early (hearly he)

/-- A step that leaves the table and the control fields alone. -/
theorem work (h : Tabled m s) {m' : Machine} (hframe : Frame s.machine m')
    (hworks : Works s.creator c') :
    Tabled m { s with
      machine := m'
      creator := c'
      allocated := c'.pair.or s.allocated
      disposed := disposed
      stale := stale } := by
  refine ⟨fun j entry ↦ ?_, fun i hi ↦ h.free i (hworks.slot hi), fun hentered pp hpp ↦ ?_,
    Nat.le_trans h.next_le hframe.next_le,
    fun pp hpp ↦ h.fresh pp ((h.allocated_eq fun _ ↦ hworks.pair).symm.trans hpp), ?_,
    fun hearly ↦ h.early (hworks.early hearly)⟩
  · show m'.table.Holds j entry ↔ _ ∨ c'.Owns s.collected m'.table j entry
    rw [hframe.table, hworks.owns h.owns]
    exact h.slots j entry
  · rw [← h.active hentered pp (hpp.imp_right hworks.pair)]
    exact congrArg PairControl.active (hframe.control pp)
  · intro pp hpp
    show c'.pair.or s.allocated = some pp
    rw [show c'.pair = some pp from hpp]
    rfl

/-- A step of the creating thread keeps the table as described. -/
theorem create (h : Tabled m s) (hm : TableOk m) {t : UnloadRace}
    (ht : next o d s .create = some t) : Tabled m t := by
  obtain ⟨⟨m', c'⟩, hstep, rfl⟩ := Option.map_eq_some_iff.mp ht
  have hmove := move_of_step hstep
  have hsize : s.machine.table.slots.length = gcomMaxPorts := s.machine.table.size
  obtain ⟨machine, c, cleaner, allocated, disposed, stale, atScan, atDestroy⟩ := s
  cases hmove with
  | work hframe hworks => exact h.work hframe hworks
  | reserve i n hfree =>
      have hslot : machine.table.slots[i]? = some none := SlotTable.slot_of_firstFree hfree
      have hlt : i < machine.table.slots.length := (List.getElem?_eq_some_iff.mp hslot).1
      have hnone (entry : PortEntry) : ¬machine.table.Holds i entry :=
        fun hholds ↦ by cases hslot.symm.trans hholds
      have hold (entry : PortEntry) : ¬(cleaner = .entered ∧ m.table.Holds i entry) :=
        fun hentry ↦ hnone entry ((h.slots i entry).mpr (.inl hentry))
      refine h.set_table _ (fun j entry ↦ ?_) ?_ (fun _ hpp ↦ by cases hpp) fun _ ↦ rfl
      · exact holds_stored h.slots (fun j entry hown ↦ hown.elim) hold hlt _ j entry
      · intro j hj
        cases hj
        exact ⟨hsize ▸ hlt, hold⟩
  | allocate i n =>
      have hother {pp : ℕ} (hpp : some (.pair pp) ∈ m.table.slots) : pp ≠ machine.pool.next :=
        Nat.ne_of_lt (Nat.lt_of_lt_of_le (hm.entry_lt hpp) h.next_le)
      refine ⟨h.slots, h.free, fun hentered pp hpp ↦ ?_, Nat.le_succ_of_le h.next_le,
        fun pp hpp ↦ ?_, fun pp hpp ↦ hpp, fun _ ↦ h.early rfl⟩
      · rcases hpp with hmem | hpair
        · rw [← h.active hentered pp (.inl hmem)]
          simp only [Machine.setPair, Function.update_of_ne (hother hmem)]
        · cases hpair
          simp only [Machine.setPair, Function.update_self]
          rfl
      · cases hpp
        exact h.next_le
  | unreserve i st =>
      obtain ⟨-, hold⟩ := h.free i rfl
      refine h.set_table _ (fun j entry ↦ ?_) (fun _ hi ↦ by cases hi)
        (fun _ hpp ↦ by cases hpp) fun he ↦ by cases he
      rw [holds_removed h.slots (fun j entry hown ↦ hown.1) hold]
      exact (or_iff_left id).symm
  | publish i pp n =>
      obtain ⟨hlt, hold⟩ := h.free i rfl
      refine h.set_table _ (fun j entry ↦ ?_) h.free (fun _ hpp ↦ hpp)
        fun he ↦ by cases he
      refine (holds_stored h.slots (fun j entry hown ↦ hown.1) hold
        (Nat.lt_of_lt_of_eq hlt hsize.symm) _ j entry).trans ?_
      exact or_congr_right
        ⟨fun hown ↦ ⟨hown.1, hown.2, h.early rfl⟩, fun hown ↦ ⟨hown.1, hown.2.1⟩⟩
  | delist i pp st =>
      obtain ⟨-, hold⟩ := h.free i rfl
      refine h.set_table _ (fun j entry ↦ ?_) h.free (fun _ hpp ↦ hpp)
        fun he ↦ by cases he
      rw [holds_removed h.slots (fun j entry hown ↦ hown.1) hold]
      refine (or_iff_left ?_).symm
      -- The slot has just been cleared, so the sentinel is not in it.
      rintro ⟨-, -, hsentinel⟩
      exact absurd rfl (PortTable.holds_clear.mp hsentinel).1
  | sentinel i pp st =>
      obtain ⟨-, hold⟩ := h.free i rfl
      by_cases hheld : machine.table.slots[i]? = some (some .reserved)
      · rw [show clearSentinel machine i = _ from if_pos hheld]
        refine h.set_table _ (fun j entry ↦ ?_) (fun _ hi ↦ by cases hi) (fun _ hpp ↦ hpp)
          fun he ↦ by cases he
        rw [holds_removed h.slots (fun j entry hown ↦ hown.1) hold]
        exact (or_iff_left id).symm
      · rw [show clearSentinel machine i = _ from if_neg hheld]
        refine h.set_table machine.table (fun j entry ↦ ?_) (fun _ hi ↦ by cases hi)
          (fun _ hpp ↦ hpp) fun he ↦ by cases he
        exact (h.slots j entry).trans (or_congr_right ⟨fun hown ↦ hheld hown.2.2, False.elim⟩)

end Create

/-- A step of the cleanup after the scan that leaves the table alone. -/
theorem destroy (h : Tabled m s) (hscanned : s.cleaner ≠ .entered) {m' : Machine}
    {k : CleanupPoint} (hk : k ≠ .entered) (htable : m'.table = s.machine.table)
    (hnext : s.machine.pool.next ≤ m'.pool.next) {disposed : List ℕ}
    {atDestroy : Option CreatePoint} :
    Tabled m { s with
      machine := m'
      cleaner := k
      disposed := disposed
      atDestroy := atDestroy } where
  slots j entry := by
    show m'.table.Holds j entry ↔
      (k = .entered ∧ m.table.Holds j entry) ∨ s.creator.Owns s.collected m'.table j entry
    rw [htable, h.slots, or_iff_right fun hold ↦ hscanned hold.1, or_iff_right fun hold ↦ hk hold.1]
  free i hi := ⟨(h.free i hi).1, fun _ hold ↦ hk hold.1⟩
  active hentered := absurd hentered hk
  next_le := Nat.le_trans h.next_le hnext
  fresh := h.fresh
  pair := h.pair
  early := h.early

/-- A pair in the table is active until the scan. -/
theorem active_of_holds (h : Tabled m s) (hentered : s.cleaner = .entered) {j pp : ℕ}
    (hholds : s.machine.table.Holds j (.pair pp)) :
    (some (.pair pp) ∈ m.table.slots ∨ s.creator.pair = some pp ∧ s.creator.listed = true) ∧
      (s.machine.pairs pp).active = true := by
  have hwhose : some (.pair pp) ∈ m.table.slots ∨
      s.creator.pair = some pp ∧ s.creator.listed = true := by
    rcases (h.slots j (.pair pp)).mp hholds with ⟨-, hold⟩ | hown
    · exact .inl (List.mem_of_getElem? hold)
    · exact .inr hown.listed
  exact ⟨hwhose, h.active hentered pp (hwhose.imp_right And.left)⟩

/-- The scan takes every pair out of the table and leaves a sentinel in it. -/
theorem scan (h : Tabled m s) (hm : TableOk m) (hentered : s.cleaner = .entered)
    {disposed toDestroy : List ℕ} {atDestroy : Option CreatePoint} :
    Tabled m { s with
      machine := (collectPairs s.machine (List.range gcomMaxPorts)).1
      cleaner := .destroying toDestroy
      disposed := disposed
      atScan := some s.creator
      atDestroy := atDestroy } := by
  obtain ⟨-, hholds, table, hsame⟩ := collect_pairs_spec (m := s.machine)
    (List.nodup_range (n := gcomMaxPorts))
  rw [hsame] at hholds ⊢
  have hpair (j pp : ℕ) : ¬table.Holds j (.pair pp) := by
    intro hin
    obtain ⟨hin, hnone⟩ := (hholds j _).mp hin
    have hlt : j < gcomMaxPorts :=
      Nat.lt_of_lt_of_eq (List.getElem?_eq_some_iff.mp hin).1 s.machine.table.size
    have hfound := active_pair_iff.mpr ⟨hin, (h.active_of_holds hentered hin).2⟩
    exact absurd (hfound.symm.trans (hnone (List.mem_range.mpr hlt))) nofun
  have hreserved (j : ℕ) : table.Holds j .reserved ↔ s.machine.table.Holds j .reserved := by
    refine (hholds j .reserved).trans (and_iff_left_of_imp fun hin _ ↦ ?_)
    cases hactive : activePair s.machine j with
    | none => rfl
    | some pp => cases (active_pair_iff.mp hactive).1.inj hin
  refine ⟨fun j entry ↦ ?_, fun i hi ↦ ⟨(h.free i hi).1, fun _ hold ↦ nomatch hold.1⟩, nofun,
    h.next_le, h.fresh, h.pair, ?_⟩
  · show table.Holds j entry ↔ _ ∨ s.creator.Owns s.creator.listed table j entry
    rw [or_iff_right fun hold ↦ nomatch hold.1]
    cases entry with
    | pair pp => exact iff_of_false (hpair j pp) CreatePoint.not_owns_listed
    | reserved =>
        rw [hreserved, h.slots, or_iff_right]
        · exact CreatePoint.owns_reserved hreserved
        · exact fun hold ↦ hm.noReserved (List.mem_of_getElem? hold.2)
  · exact CreatePoint.not_listed_of_early

end Tabled

/-! ## Which pairs are given back -/

/-- What holds of the pairs that have been given back and of those that are still to be destroyed:
after the scan every old pair is in one of the two lists, once, and the pair of the create is there
once if the create has failed and once if the scan found it. -/
structure Booked (m : Machine) (s : UnloadRace) : Prop where
  unscanned : s.cleaner = .entered → s.atScan = none
  old : ∀ pp, some (.pair pp) ∈ m.table.slots →
    s.disposed.count pp + s.cleaner.pending.count pp = if s.cleaner = .entered then 0 else 1
  own : ∀ pp, s.allocated = some pp →
    s.disposed.count pp + s.cleaner.pending.count pp =
      s.creator.hasFailed.toNat + s.collected.toNat
  whose : ∀ pp ∈ s.disposed ++ s.cleaner.pending,
    some (.pair pp) ∈ m.table.slots ∨ s.allocated = some pp
  pending : ∀ pp, s.allocated = some pp → pp ∈ s.cleaner.pending → s.collected = true
  collected : s.collected = true → s.allocated ≠ none
  unallocated : s.creator.pair = none → s.creator.finished = false → s.allocated = none

namespace Booked

variable {m : Machine} {s : UnloadRace} {o : CreateOutcomes} {d : ℕ → DestroyOutcomes}

theorem start (m : Machine) (requestedPortNumber : ULONG) :
    Booked m (start m requestedPortNumber) where
  unscanned _ := rfl
  old _ _ := rfl
  own := nofun
  whose := nofun
  pending := nofun
  collected := nofun
  unallocated _ _ := rfl

/-- The blocks given back or to be given back have been allocated. -/
theorem lt_next (h : Booked m s) (htabled : Tabled m s) (hm : TableOk m)
    (hfresh : s.allocated = none) {pp : ℕ} (hpp : pp ∈ s.disposed ++ s.cleaner.pending) :
    pp < s.machine.pool.next := by
  rcases h.whose pp hpp with hmem | hown
  · exact Nat.lt_of_lt_of_le (hm.entry_lt hmem) htabled.next_le
  · rw [hfresh] at hown
    cases hown

/-- A step of the creating thread that neither allocates nor frees its pair. -/
theorem keep (h : Booked m s) {m' : Machine} {c' : CreatePoint} {stale : Bool}
    (hallocated : c'.pair.or s.allocated = s.allocated) (hfreed : s.creator.freed = none)
    (hfailed : s.allocated ≠ none → c'.hasFailed = s.creator.hasFailed)
    (hpair : c'.pair = none → c'.finished = false → s.allocated = none) :
    Booked m { s with
      machine := m'
      creator := c'
      allocated := c'.pair.or s.allocated
      disposed := s.creator.freed.toList ++ s.disposed
      stale := stale } := by
  rw [hallocated, hfreed]
  refine ⟨h.unscanned, h.old, fun pp hpp ↦ ?_, h.whose, h.pending, h.collected, hpair⟩
  show _ = c'.hasFailed.toNat + _
  rw [hfailed (by rw [show s.allocated = some pp from hpp]; exact nofun)]
  exact h.own pp hpp

/-- A step of the creating thread gives back at most its own pair. -/
theorem create (h : Booked m s) (htabled : Tabled m s) (hm : TableOk m) {t : UnloadRace}
    (ht : next o d s .create = some t) : Booked m t := by
  obtain ⟨⟨m', c'⟩, hstep, rfl⟩ := Option.map_eq_some_iff.mp ht
  have hmove := move_of_step hstep
  obtain ⟨machine, c, cleaner, allocated, disposed, stale, atScan, atDestroy⟩ := s
  have hsame {c' : CreatePoint} (hpair : ∀ pp, c'.pair = some pp → c.pair = some pp) :
      c'.pair.or allocated = allocated := htabled.allocated_eq hpair
  cases hmove with
  | work hframe hworks =>
      cases hworks with
      | refused requested st =>
          have hnone : allocated = none := h.unallocated rfl rfl
          exact h.keep rfl rfl (absurd hnone) nofun
      | notAllocated i n => exact h.keep rfl rfl (fun _ ↦ rfl) fun _ _ ↦ h.unallocated rfl rfl
      | freed pp st =>
          have hown : allocated = some pp := htabled.pair pp rfl
          subst hown
          refine ⟨h.unscanned, fun qq hqq ↦ ?_, fun qq hqq ↦ ?_, fun qq hqq ↦ ?_, h.pending,
            h.collected, nofun⟩
          · -- The pair of the create is not an old one.
            have hne : pp ≠ qq := fun heq ↦
              absurd (htabled.fresh pp rfl) (Nat.not_le.mpr (heq ▸ hm.entry_lt hqq))
            show (pp :: disposed).count qq + _ = _
            rw [List.count_cons_of_ne hne]
            exact h.old qq hqq
          · cases hqq
            show (pp :: disposed).count pp + _ = 1 + _
            rw [List.count_cons_self, Nat.add_right_comm, Nat.add_comm 1]
            refine congrArg (· + 1) ((h.own pp rfl).trans (Nat.zero_add _))
          · rcases List.mem_cons.mp hqq with rfl | hqq
            · exact .inr rfl
            · exact h.whose qq hqq
      | _ =>
          exact h.keep (hsame fun _ hpp ↦ hpp) rfl (fun _ ↦ rfl) nofun
  | reserve i n hfree => exact h.keep rfl rfl (fun _ ↦ rfl) fun _ _ ↦ h.unallocated rfl rfl
  | allocate i n =>
      have hnone : allocated = none := h.unallocated rfl rfl
      subst hnone
      have hnew {list : List ℕ} (hlist : ∀ pp ∈ list, pp ∈ disposed ++ cleaner.pending) :
          list.count machine.pool.next = 0 :=
        List.count_eq_zero.mpr fun hmem ↦
          Nat.lt_irrefl _ (h.lt_next htabled hm rfl (hlist _ hmem))
      have hcollected : UnloadRace.collected
          ⟨machine, .reserved i n, cleaner, none, disposed, stale, atScan, atDestroy⟩ = false :=
        htabled.early rfl
      refine ⟨h.unscanned, h.old, fun pp hpp ↦ ?_, fun pp hpp ↦ ?_, fun pp hpp hmem ↦ ?_,
        fun _ ↦ nofun, nofun⟩
      · cases hpp
        show disposed.count machine.pool.next + cleaner.pending.count machine.pool.next =
          0 + (UnloadRace.collected
            ⟨machine, .reserved i n, cleaner, none, disposed, stale, atScan, atDestroy⟩).toNat
        rw [hnew fun _ hpp ↦ List.mem_append_left _ hpp,
          hnew fun _ hpp ↦ List.mem_append_right _ hpp, hcollected]
        rfl
      · exact (h.whose pp hpp).imp_right nofun
      · cases hpp
        exact absurd (h.lt_next htabled hm rfl (List.mem_append_right _ hmem)) (Nat.lt_irrefl _)
  | unreserve i st =>
      have hnone : allocated = none := h.unallocated rfl rfl
      exact h.keep rfl rfl (absurd hnone) nofun
  | publish i pp n | delist i pp st | sentinel i pp st =>
      exact h.keep (hsame fun _ hpp ↦ hpp) rfl (fun _ ↦ rfl) nofun

/-- The scan collects every pair that is in the table, once. -/
theorem count_collected (htabled : Tabled m s) (hm : TableOk m) (hentered : s.cleaner = .entered)
    (pp : ℕ) :
    (collectPairs s.machine (List.range gcomMaxPorts)).2.count pp ≤ 1 ∧
      (0 < (collectPairs s.machine (List.range gcomMaxPorts)).2.count pp ↔
        ∃ j, s.machine.table.Holds j (.pair pp)) := by
  obtain ⟨hlist, -, -⟩ := collect_pairs_spec (m := s.machine) (List.nodup_range (n := gcomMaxPorts))
  rw [hlist]
  constructor
  · refine List.nodup_iff_count_le_one.mp (List.nodup_range.filterMap ?_) pp
    intro i j qq hi hj
    have hi := (active_pair_iff.mp hi).1
    have hj := (active_pair_iff.mp hj).1
    -- A pair is in one slot: an old one by the table invariant, the new one because it is new.
    rcases (htabled.slots i _).mp hi with ⟨-, hi⟩ | hi <;>
      rcases (htabled.slots j _).mp hj with ⟨-, hj⟩ | hj
    · exact hm.at_unique hi hj
    · exact absurd hj.listed.1 (htabled.not_own hm (List.mem_of_getElem? hi))
    · exact absurd hi.listed.1 (htabled.not_own hm (List.mem_of_getElem? hj))
    · exact hi.slot_unique hj
  · rw [List.count_pos_iff, List.mem_filterMap]
    constructor
    · rintro ⟨j, -, hj⟩
      exact ⟨j, (active_pair_iff.mp hj).1⟩
    · rintro ⟨j, hj⟩
      have hlt : j < gcomMaxPorts :=
        Nat.lt_of_lt_of_eq (List.getElem?_eq_some_iff.mp hj).1 s.machine.table.size
      exact ⟨j, List.mem_range.mpr hlt,
        active_pair_iff.mpr ⟨hj, (htabled.active_of_holds hentered hj).2⟩⟩

/-- The scan collects the old pairs. -/
theorem count_old (htabled : Tabled m s) (hm : TableOk m) (hentered : s.cleaner = .entered)
    {pp : ℕ} (hmem : some (.pair pp) ∈ m.table.slots) :
    (collectPairs s.machine (List.range gcomMaxPorts)).2.count pp = 1 := by
  obtain ⟨hle, hpos⟩ := count_collected htabled hm hentered pp
  obtain ⟨j, hj⟩ := List.mem_iff_getElem?.mp hmem
  have := hpos.mpr ⟨j, (htabled.slots j _).mpr (.inl ⟨hentered, hj⟩)⟩
  omega

/-- The scan collects the pair of the create if it is in the table. -/
theorem count_own (h : Booked m s) (htabled : Tabled m s) (hm : TableOk m)
    (hentered : s.cleaner = .entered) {pp : ℕ} (hpp : s.allocated = some pp) :
    (collectPairs s.machine (List.range gcomMaxPorts)).2.count pp = s.creator.listed.toNat := by
  obtain ⟨hle, hpos⟩ := count_collected htabled hm hentered pp
  have hcollected : s.collected = false := by
    unfold UnloadRace.collected
    rw [h.unscanned hentered]
    rfl
  cases hlisted : s.creator.listed with
  | true =>
      obtain ⟨i, qq, hqq, hown⟩ := CreatePoint.owns_of_listed hlisted s.machine.table
      cases (htabled.pair qq hqq).symm.trans hpp
      have := hpos.mpr ⟨i, (htabled.slots i _).mpr (.inr (hcollected ▸ hown))⟩
      show _ = 1
      omega
  | false =>
      refine Nat.eq_zero_of_not_pos fun hcount ↦ ?_
      obtain ⟨j, hj⟩ := hpos.mp hcount
      rcases (htabled.active_of_holds hentered hj).1 with hmem | ⟨-, htrue⟩
      · exact absurd (hm.entry_lt hmem) (Nat.not_lt.mpr (htabled.fresh pp hpp))
      · exact Bool.false_ne_true (hlisted.symm.trans htrue)

/-- The scan puts the pairs of the table on the list. -/
theorem scan (h : Booked m s) (htabled : Tabled m s) (hm : TableOk m)
    (hentered : s.cleaner = .entered) {atDestroy : Option CreatePoint} :
    Booked m { s with
      machine := (collectPairs s.machine (List.range gcomMaxPorts)).1
      cleaner := .destroying (collectPairs s.machine (List.range gcomMaxPorts)).2
      atScan := some s.creator
      atDestroy := atDestroy } := by
  have hpending : s.cleaner.pending = [] := by rw [hentered]; rfl
  refine ⟨nofun, fun pp hmem ↦ ?_, fun pp hpp ↦ ?_, fun pp hpp ↦ ?_, fun pp hpp hmem ↦ ?_,
    fun hlisted hnone ↦ ?_, h.unallocated⟩
  · have hold := h.old pp hmem
    rw [hpending, if_pos hentered] at hold
    show s.disposed.count pp + (collectPairs _ _).2.count pp = 1
    rw [count_old htabled hm hentered hmem]
    exact congrArg (· + 1) hold
  · have hown := h.own pp hpp
    rw [hpending, show s.collected = false by
      unfold UnloadRace.collected; rw [h.unscanned hentered]; rfl] at hown
    show s.disposed.count pp + (collectPairs _ _).2.count pp = _ + s.creator.listed.toNat
    rw [h.count_own htabled hm hentered hpp]
    exact congrArg (· + s.creator.listed.toNat) hown
  · rcases List.mem_append.mp hpp with hpp | hpp
    · exact h.whose pp (List.mem_append_left _ hpp)
    · obtain ⟨j, hj⟩ := (count_collected htabled hm hentered pp).2.mp (List.count_pos_iff.mpr hpp)
      exact (htabled.active_of_holds hentered hj).1.imp_right fun hpair ↦ htabled.pair pp hpair.1
  · have hcount := List.count_pos_iff.mpr (show pp ∈ (collectPairs _ _).2 from hmem)
    rw [h.count_own htabled hm hentered hpp] at hcount
    show s.creator.listed = true
    cases hlisted : s.creator.listed with
    | true => rfl
    | false =>
        rw [hlisted] at hcount
        exact absurd hcount (Nat.lt_irrefl 0)
  · obtain ⟨i, pp, hpp, -⟩ :=
      CreatePoint.owns_of_listed (show s.creator.listed = true from hlisted) s.machine.table
    exact absurd (htabled.pair pp hpp) (by rw [show s.allocated = none from hnone]; exact nofun)

/-- The steps between the scan and the end of a destruction. -/
theorem advance (h : Booked m s) (hscanned : s.cleaner ≠ .entered) {m' : Machine}
    {k : CleanupPoint} (hk : k ≠ .entered) (hpending : k.pending = s.cleaner.pending)
    {atDestroy : Option CreatePoint} :
    Booked m { s with machine := m', cleaner := k, atDestroy := atDestroy } := by
  refine ⟨fun hentered ↦ absurd hentered hk, fun pp hmem ↦ ?_, fun pp hpp ↦ ?_, fun pp hpp ↦ ?_,
    fun pp hpp hmem ↦ ?_, h.collected, h.unallocated⟩
  · show _ + k.pending.count pp = if k = .entered then 0 else 1
    rw [hpending, if_neg hk]
    exact (h.old pp hmem).trans (if_neg hscanned)
  · show _ + k.pending.count pp = _
    rw [hpending]
    exact h.own pp hpp
  · refine h.whose pp ?_
    rw [← hpending]
    exact hpp
  · refine h.pending pp hpp ?_
    rw [← hpending]
    exact hmem

/-- The end of a destruction moves a pair from one list to the other. -/
theorem dispose (h : Booked m s) {pp : ℕ} {rest : List ℕ} (hcleaner : s.cleaner = .delisted pp rest)
    {m' : Machine} {atDestroy : Option CreatePoint} :
    Booked m { s with
      machine := m'
      cleaner := .destroying rest
      disposed := pp :: s.disposed
      atDestroy := atDestroy } := by
  have hmoved (qq : ℕ) : (pp :: s.disposed).count qq + rest.count qq =
      s.disposed.count qq + s.cleaner.pending.count qq := by
    rw [hcleaner]
    show _ = s.disposed.count qq + (pp :: rest).count qq
    rw [List.count_cons, List.count_cons]
    omega
  refine ⟨nofun, fun qq hmem ↦ ?_, fun qq hqq ↦ (hmoved qq).trans (h.own qq hqq), fun qq hqq ↦ ?_,
    fun qq hqq hmem ↦ ?_, h.collected, h.unallocated⟩
  · refine (hmoved qq).trans ((h.old qq hmem).trans (if_neg ?_))
    rw [hcleaner]
    exact nofun
  · refine h.whose qq ?_
    rw [hcleaner]
    exact List.perm_middle.mem_iff.mpr hqq
  · refine h.pending qq hqq ?_
    rw [hcleaner]
    exact List.mem_cons_of_mem _ hmem

/-- A pair that is to be destroyed is not in the table. -/
theorem not_in_table (h : Booked m s) (htabled : Tabled m s) (hscanned : s.cleaner ≠ .entered)
    {pp : ℕ} (hpp : pp ∈ s.cleaner.pending) : some (.pair pp) ∉ s.machine.table.slots := by
  intro hmem
  obtain ⟨j, hj⟩ := List.mem_iff_getElem?.mp hmem
  rcases (htabled.slots j _).mp hj with ⟨hentered, -⟩ | hown
  · exact hscanned hentered
  · have hcollected := h.pending pp (htabled.pair pp hown.listed.1) hpp
    rw [hcollected] at hown
    exact CreatePoint.not_owns_listed (hown.listed.2 ▸ hown)

end Booked

/-- What holds of the moment at which the pair of the create was destroyed. -/
structure Marked (s : UnloadRace) : Prop where
  destroyed : ∀ c, s.atDestroy = some c →
    s.collected = true ∧ ∃ pp, s.allocated = some pp ∧ pp ∈ s.disposed
  late : ∀ c, s.atDestroy = some c → c.finished = true → s.creator.finished = true
  marked : s.creator.finished = false → ∀ pp, s.allocated = some pp → pp ∈ s.disposed →
    s.atDestroy ≠ none
  stale : s.stale = true → ∃ c, s.atDestroy = some c ∧ c.finished = false
  responded : s.creator.hasResponded = true → ∀ c, s.atDestroy = some c → c.finished = false →
    s.stale = true

/-- A thread that takes a step has not finished, and if the step frees no pair and allocates none it
leaves the pair of the create as it is. -/
theorem move_cases {m m' : Machine} {c c' : CreatePoint} (h : Move m c m' c') :
    c.finished = false ∧
      ((∀ pp, c'.pair = some pp → c.pair = some pp) ∨
        c.pair = none ∧ c.freed = none ∧ c'.pair = some m.pool.next ∧ c'.hasResponded = false) ∧
      (c'.finished = false → c.freed = none) ∧
      (c'.hasResponded = true → c.touched = c'.pair) ∧
      ∀ pp, c.touched = some pp → c.pair = some pp := by
  cases h with
  | work hframe hworks =>
      have hpair (pp : ℕ) (hpp : _ = some pp) := hworks.pair hpp
      cases hworks with
      | freed => exact ⟨rfl, .inl hpair, nofun, nofun, fun _ hpp ↦ hpp⟩
      | responded => exact ⟨rfl, .inl hpair, fun _ ↦ rfl, fun _ ↦ rfl, fun _ hpp ↦ hpp⟩
      | refused | notAllocated => exact ⟨rfl, .inl hpair, fun _ ↦ rfl, nofun, nofun⟩
      | _ => exact ⟨rfl, .inl hpair, fun _ ↦ rfl, nofun, fun _ hpp ↦ hpp⟩
  | allocate => exact ⟨rfl, .inr ⟨rfl, rfl, rfl, rfl⟩, fun _ ↦ rfl, nofun, nofun⟩
  | reserve | unreserve => exact ⟨rfl, .inl nofun, fun _ ↦ rfl, nofun, nofun⟩
  | publish | delist | sentinel =>
      exact ⟨rfl, .inl fun _ hpp ↦ hpp, fun _ ↦ rfl, nofun, nofun⟩

namespace Marked

variable {m : Machine} {s : UnloadRace} {o : CreateOutcomes} {d : ℕ → DestroyOutcomes}

theorem start (m : Machine) (requestedPortNumber : ULONG) : Marked (start m requestedPortNumber) :=
  ⟨nofun, nofun, nofun, nofun, nofun⟩

/-- A step of the creating thread that touches a destroyed pair is recorded. -/
theorem create (h : Marked s) (htabled : Tabled m s) (hbooked : Booked m s) (hm : TableOk m)
    {t : UnloadRace} (ht : next o d s .create = some t) : Marked t := by
  obtain ⟨⟨m', c'⟩, hstep, rfl⟩ := Option.map_eq_some_iff.mp ht
  obtain ⟨hrunning, hpair, hfreed, hresponded, htouched⟩ := move_cases (move_of_step hstep)
  -- The pair stays the same once there is one.
  have hallocated {pp : ℕ} (hpp : s.allocated = some pp) : c'.pair.or s.allocated = some pp := by
    rcases hpair with hsame | ⟨hnone, -⟩
    · exact (htabled.allocated_eq hsame).trans hpp
    · exact absurd (hbooked.unallocated hnone hrunning) (by rw [hpp]; exact nofun)
  refine ⟨fun c hc ↦ ?_, fun c hc hfinished ↦ ?_, fun hunfinished pp hpp hmem ↦ ?_, fun hstale ↦ ?_,
    fun hlast c hc hunfinished ↦ ?_⟩
  · obtain ⟨hcollected, pp, hpp, hmem⟩ := h.destroyed c hc
    exact ⟨hcollected, pp, hallocated hpp, List.mem_append_right _ hmem⟩
  · exact absurd ((h.late c hc hfinished).symm.trans hrunning) nofun
  · replace hmem : pp ∈ s.creator.freed.toList ++ s.disposed := hmem
    rw [hfreed hunfinished] at hmem
    rcases hpair with hsame | ⟨hnone, -, hnew, -⟩
    · exact h.marked hrunning pp ((htabled.allocated_eq hsame).symm.trans hpp) hmem
    · replace hpp : c'.pair.or s.allocated = some pp := hpp
      rw [hnew] at hpp
      cases hpp
      exact absurd (hbooked.lt_next htabled hm (hbooked.unallocated hnone hrunning)
        (List.mem_append_left _ hmem)) (Nat.lt_irrefl _)
  · rcases Bool.or_eq_true_iff.mp hstale with hold | hnew
    · exact h.stale hold
    obtain ⟨pp, hpp, hmem⟩ := (Option.any_eq_true _ _).mp hnew
    have hmarked := h.marked hrunning pp (htabled.pair pp (htouched pp hpp))
      (List.contains_iff_mem.mp hmem)
    obtain ⟨c, hc⟩ := Option.ne_none_iff_exists'.mp hmarked
    refine ⟨c, hc, Bool.eq_false_iff.mpr fun hfinished ↦ ?_⟩
    exact absurd ((h.late c hc hfinished).symm.trans hrunning) nofun
  · obtain ⟨-, pp, hpp, hmem⟩ := h.destroyed c hc
    rcases hpair with hsame | ⟨hnone, -⟩
    · cases c' with
      | responded i qq reply =>
          cases (htabled.pair qq (hsame qq rfl)).symm.trans hpp
          show (s.stale || s.creator.touched.any s.disposed.contains) = true
          rw [show s.creator.touched = some pp from hresponded rfl]
          exact Bool.or_eq_true_iff.mpr (.inr (List.contains_iff_mem.mpr hmem))
      | _ => cases hlast
    · exact absurd (hbooked.unallocated hnone hrunning) (by rw [hpp]; exact nofun)

/-- A step of the cleanup that ends no destruction. -/
theorem advance (h : Marked s) {m' : Machine} {k : CleanupPoint} :
    Marked { s with machine := m', cleaner := k, atDestroy := s.atDestroy.or none } := by
  rw [Option.or_none]
  exact ⟨h.destroyed, h.late, h.marked, h.stale, h.responded⟩

/-- The scan comes before all destructions. -/
theorem scan (h : Marked s) (hbooked : Booked m s) (hentered : s.cleaner = .entered)
    {m' : Machine} {k : CleanupPoint} :
    Marked { s with
      machine := m'
      cleaner := k
      atScan := some s.creator
      atDestroy := s.atDestroy.or none } := by
  have hnone (c : CreatePoint) : s.atDestroy ≠ some c := by
    intro hc
    have hcollected := (h.destroyed c hc).1
    unfold UnloadRace.collected at hcollected
    rw [hbooked.unscanned hentered] at hcollected
    cases hcollected
  rw [Option.or_none]
  exact ⟨fun c hc ↦ absurd hc (hnone c), h.late, h.marked, h.stale, h.responded⟩

/-- The end of a destruction is recorded if it is that of the pair of the create. -/
theorem dispose (h : Marked s) (hbooked : Booked m s) {pp : ℕ} {rest : List ℕ}
    (hcleaner : s.cleaner = .delisted pp rest) {m' : Machine} :
    Marked { s with
      machine := m'
      cleaner := .destroying rest
      disposed := pp :: s.disposed
      atDestroy := s.atDestroy.or
        (if (some pp).isSome && some pp == s.allocated then some s.creator else none) } := by
  have hpending : pp ∈ s.cleaner.pending := by
    rw [hcleaner]
    exact List.mem_cons_self ..
  -- The record of an earlier destruction stays; a new one is made of the present point.
  have hrecord {c : CreatePoint} (hc : s.atDestroy.or
      (if (some pp).isSome && some pp == s.allocated then some s.creator else none) = some c) :
      s.atDestroy = some c ∨ s.allocated = some pp ∧ c = s.creator := by
    rcases Option.or_eq_some_iff.mp hc with hold | ⟨-, hnew⟩
    · exact .inl hold
    · obtain ⟨hown, hnew⟩ := Option.ite_none_right_eq_some.mp hnew
      exact .inr ⟨(beq_iff_eq.mp hown).symm, (Option.some.inj hnew).symm⟩
  refine ⟨fun c hc ↦ ?_, fun c hc hfinished ↦ ?_, fun hrunning qq hqq hmem ↦ ?_, fun hstale ↦ ?_,
    fun hlast c hc hunfinished ↦ ?_⟩
  · rcases hrecord hc with hold | ⟨hown, -⟩
    · obtain ⟨hcollected, qq, hqq, hmem⟩ := h.destroyed c hold
      exact ⟨hcollected, qq, hqq, List.mem_cons_of_mem _ hmem⟩
    · exact ⟨hbooked.pending pp hown hpending, pp, hown, List.mem_cons_self ..⟩
  · rcases hrecord hc with hold | ⟨-, rfl⟩
    · exact h.late c hold hfinished
    · exact hfinished
  · intro hnone
    obtain ⟨hold, hnew⟩ := Option.or_eq_none_iff.mp hnone
    rcases List.mem_cons.mp hmem with rfl | hmem
    · rw [show s.allocated = some qq from hqq] at hnew
      simp at hnew
    · exact h.marked hrunning qq hqq hmem hold
  · obtain ⟨c, hc, hunfinished⟩ := h.stale hstale
    refine ⟨c, ?_, hunfinished⟩
    show s.atDestroy.or _ = some c
    rw [hc]
    rfl
  · rcases hrecord hc with hold | ⟨-, rfl⟩
    · exact h.responded hlast c hold hunfinished
    · have hfinished : s.creator.finished = true :=
        Bool.or_eq_true_iff.mpr (.inr hlast)
      exact absurd (hfinished.symm.trans hunfinished) nofun

end Marked

/-- Everything that holds in every state of a race. -/
structure Raced (m : Machine) (s : UnloadRace) : Prop where
  tabled : Tabled m s
  booked : Booked m s
  marked : Marked s

namespace Raced

variable {m : Machine} {s t : UnloadRace} {o : CreateOutcomes} {d : ℕ → DestroyOutcomes}

theorem start (hm : TableOk m) (requestedPortNumber : ULONG) :
    Raced m (start m requestedPortNumber) :=
  ⟨.start m hm requestedPortNumber, .start m requestedPortNumber, .start m requestedPortNumber⟩

/-- A step of the cleanup. -/
theorem cleanup (h : Raced m s) (hm : TableOk m) (ht : next o d s .cleanup = some t) :
    Raced m t := by
  obtain ⟨⟨m', k⟩, hstep, rfl⟩ := Option.map_eq_some_iff.mp ht
  obtain ⟨machine, c, cleaner, allocated, disposed, stale, atScan, atDestroy⟩ := s
  have hbooked := h.booked
  cases cleaner with
  | entered =>
      obtain ⟨rfl, rfl⟩ := Prod.mk.inj (Option.some.inj ((scan_step machine d).symm.trans hstep))
      exact ⟨h.tabled.scan hm rfl, hbooked.scan h.tabled hm rfl, h.marked.scan hbooked rfl⟩
  | destroying toDestroy =>
      cases toDestroy with
      | nil | cons =>
          cases hstep
          refine ⟨h.tabled.destroy nofun ?_ ?_ ?_, hbooked.advance nofun ?_ ?_, h.marked.advance⟩
          · exact nofun
          · rfl
          · exact Nat.le_refl _
          · exact nofun
          · rfl
  | deactivated pp rest =>
      cases hstep
      have hnot := hbooked.not_in_table h.tabled nofun (List.mem_cons_self ..)
      rw [remove_absent hnot]
      refine ⟨h.tabled.destroy nofun ?_ ?_ ?_, hbooked.advance nofun ?_ ?_, h.marked.advance⟩
      · exact nofun
      · rfl
      · exact Nat.le_refl _
      · exact nofun
      · rfl
  | delisted pp rest =>
      cases hstep
      obtain ⟨hkept, htable⟩ := destroy_end_kept machine (d pp) pp
      refine ⟨h.tabled.destroy nofun ?_ htable hkept.next_le, hbooked.dispose rfl,
        h.marked.dispose hbooked rfl⟩
      exact nofun
  | finished => cases hstep

/-- Every step keeps it. -/
theorem next (h : Raced m s) (hm : TableOk m) {e : RaceEvent} (ht : next o d s e = some t) :
    Raced m t := by
  cases e with
  | create =>
      exact ⟨h.tabled.create hm ht, h.booked.create h.tabled hm ht,
        h.marked.create h.tabled h.booked hm ht⟩
  | cleanup => exact h.cleanup hm ht

/-- A finished race has ended well exactly when its schedule is timely. -/
theorem settled_iff (h : Raced m s) (hdone : s.Finished) : s.Settled m ↔ s.Timely := by
  obtain ⟨hcreator, hcleaner⟩ := hdone
  have hold {pp : ℕ} (hmem : some (.pair pp) ∈ m.table.slots) : s.disposed.count pp = 1 := by
    have := h.booked.old pp hmem
    rw [hcleaner] at this
    exact this
  have hown {pp : ℕ} (hpp : s.allocated = some pp) :
      s.disposed.count pp = s.creator.hasFailed.toNat + s.collected.toNat := by
    have := h.booked.own pp hpp
    rw [hcleaner] at this
    exact this
  have hslots (j : ℕ) (entry : PortEntry) : s.machine.table.Holds j entry ↔
      s.creator.Owns s.collected s.machine.table j entry :=
    (h.tabled.slots j entry).trans (or_iff_right fun hentry ↦
      nomatch hcleaner.symm.trans hentry.1)
  constructor
  · intro hsettled
    refine ⟨fun hfailed ↦ ?_, fun hresponded ↦ ?_⟩
    · -- A pair that was collected and freed by the failed create is given back twice.
      refine Bool.eq_false_iff.mpr fun hcollected ↦ ?_
      obtain ⟨pp, hpp⟩ := Option.ne_none_iff_exists'.mp (h.booked.collected hcollected)
      have htwice := hown hpp
      rw [hsettled.once pp (.inr hpp), hfailed, hcollected] at htwice
      cases htwice
    · cases hc : s.creator with
      | responded i pp reply =>
          have hcollected : s.collected = true := by
            have honce := hown (h.tabled.pair pp (by rw [hc]; rfl))
            rw [hsettled.once pp (.inr (h.tabled.pair pp (by rw [hc]; rfl))), hc] at honce
            cases hcollected : s.collected with
            | true => rfl
            | false =>
                rw [hcollected] at honce
                cases honce
          refine ⟨hcollected, fun c hdestroy ↦ ?_⟩
          by_contra hunfinished
          have hstale :=
            h.marked.responded hresponded c hdestroy (Bool.eq_false_iff.mpr hunfinished)
          exact absurd (hstale.symm.trans hsettled.untouched) nofun
      | _ =>
          rw [hc] at hresponded
          cases hresponded
  · intro htimely
    -- Either way the pair of the create is given back once and is not in the table.
    have hcases : (∃ st, s.creator = .failed st) ∧ s.collected = false ∨
        (∃ i pp reply, s.creator = .responded i pp reply) ∧ s.collected = true := by
      cases hc : s.creator with
      | failed st => exact .inl ⟨⟨st, rfl⟩, htimely.failed (by rw [hc]; rfl)⟩
      | responded i pp reply =>
          exact .inr ⟨⟨i, pp, reply, rfl⟩, (htimely.responded (by rw [hc]; rfl)).1⟩
      | _ =>
          rw [hc] at hcreator
          cases hcreator
    refine ⟨fun pp hpp ↦ ?_, PortTable.eq_none_of_not_holds fun j entry hholds ↦ ?_, ?_⟩
    · rcases hpp with hmem | hpp
      · exact hold hmem
      · rw [hown hpp]
        rcases hcases with ⟨⟨st, hc⟩, hcollected⟩ | ⟨⟨i, qq, reply, hc⟩, hcollected⟩ <;>
          rw [hc, hcollected] <;> rfl
    · have howns := (hslots j entry).mp hholds
      rcases hcases with ⟨⟨st, hc⟩, -⟩ | ⟨⟨i, qq, reply, hc⟩, hcollected⟩
      · rw [hc] at howns
        exact howns
      · rw [hc, hcollected] at howns
        cases howns.2.2
    · refine Bool.eq_false_iff.mpr fun hstale ↦ ?_
      obtain ⟨c, hdestroy, hunfinished⟩ := h.marked.stale hstale
      rcases hcases with ⟨-, hcollected⟩ | ⟨⟨i, qq, reply, hc⟩, -⟩
      · exact absurd ((h.marked.destroyed c hdestroy).1.symm.trans hcollected) nofun
      · have hfinished := (htimely.responded (by rw [hc]; rfl)).2 c hdestroy
        exact absurd (hfinished.symm.trans hunfinished) nofun

end Raced

/-- A race between an unload and a create that both finish ends well, with every pair given back
once, an empty table and no use of a destroyed pair, exactly when the schedule is timely. -/
theorem unload_settled_iff {m : Machine} (hm : TableOk m) (o : CreateOutcomes)
    (d : ℕ → DestroyOutcomes) (requestedPortNumber : ULONG) {es : List RaceEvent} {s : UnloadRace}
    (hrun : run (next o d) (start m requestedPortNumber) es = some s) (hdone : s.Finished) :
    s.Settled m ↔ s.Timely := by
  have hraced : Raced m s :=
    Transition.run_invariant (I := Raced m) (fun _ _ _ h ht ↦ h.next hm ht)
      (.start hm requestedPortNumber) hrun
  exact hraced.settled_iff hdone

/-- A destroy in which everything succeeds. -/
def destroySucceeds : DestroyOutcomes := ⟨true, .ok (), ⟨true, true⟩⟩

/-- A race for COM5 on a driver without ports in which everything succeeds. -/
def raceForCom5 (es : List RaceEvent) : Option UnloadRace :=
  run (next .allSucceed fun _ ↦ destroySucceeds) (start .initial 5) es

/-- A create that has finished before the cleanup begins: the race ends well. -/
theorem unload_after_create :
    ∃ s, raceForCom5 (List.replicate 7 .create ++ List.replicate 5 .cleanup) = some s ∧
      s.Settled .initial := by
  have hends : (raceForCom5 (List.replicate 7 .create ++ List.replicate 5 .cleanup)).any fun s ↦
      decide (s.creator = .responded 0 0 (.created 5 5) ∧ s.cleaner = .finished ∧
        s.atScan = some s.creator ∧ s.atDestroy = some s.creator) := by
    decide +kernel
  obtain ⟨s, hrun, hs⟩ := (Option.any_eq_true _ _).mp hends
  obtain ⟨hcreator, hcleaner, hscan, hdestroy⟩ := of_decide_eq_true hs
  refine ⟨s, hrun, (unload_settled_iff .initial .allSucceed (fun _ ↦ destroySucceeds) 5 hrun
    ⟨by rw [hcreator]; rfl, hcleaner⟩).mpr ⟨?_, fun _ ↦ ⟨?_, ?_⟩⟩⟩
  · rw [hcreator]
    exact nofun
  · unfold UnloadRace.collected
    rw [hscan, hcreator]
    rfl
  · intro c hc
    cases hdestroy.symm.trans hc
    rw [hcreator]
    rfl

/-- A scan that comes while the slot is reserved leaves the pair behind: `COM5` is stored in the
table after the cleanup has finished. -/
theorem unload_leaves_pair :
    ¬∀ (m : Machine) (o : CreateOutcomes) (d : ℕ → DestroyOutcomes) (requestedPortNumber : ULONG)
      (es : List RaceEvent) (s : UnloadRace), TableOk m →
        run (next o d) (start m requestedPortNumber) es = some s → s.Finished → s.Settled m := by
  intro h
  have hends :
      (raceForCom5 ([.create] ++ List.replicate 2 .cleanup ++ List.replicate 6 .create)).any fun s ↦
        decide (s.creator = .responded 0 0 (.created 5 5) ∧ s.cleaner = .finished ∧
          s.machine.table.slots[0]? = some (some (.pair 0))) := by
    decide +kernel
  obtain ⟨s, hrun, hs⟩ := (Option.any_eq_true _ _).mp hends
  obtain ⟨hcreator, hcleaner, hslot⟩ := of_decide_eq_true hs
  have hsettled := h _ _ _ _ _ s .initial hrun ⟨by rw [hcreator]; rfl, hcleaner⟩
  have hempty := hsettled.emptied _ (List.mem_of_getElem? hslot)
  cases hempty

end Unload

end GhostCom
