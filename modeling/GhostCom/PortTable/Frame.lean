import GhostCom.PortTable.Control

/-!
# What creates and destroys leave alone

`Frame m m'` says that the way from `m` to `m'` has touched neither the table nor the control fields
of any pair. `create_cases` and `destroy_control` sum up `GcomPortPairCreate` and
`GcomPortPairDestroy` by what they do to these.
-/

namespace GhostCom

/-- The table, the control fields of all pairs and the control device are as before. -/
structure Frame (m m' : Machine) : Prop where
  table : m'.table = m.table
  control : ∀ q, (m'.pairs q).control = (m.pairs q).control
  next_le : m.pool.next ≤ m'.pool.next
  controlDevice : m'.controlDevice = m.controlDevice

namespace Frame

variable {m m' m'' : Machine}

theorem refl (m : Machine) : Frame m m := ⟨rfl, fun _ ↦ rfl, Nat.le_refl _, rfl⟩

theorem trans (h : Frame m m') (h' : Frame m' m'') : Frame m m'' where
  table := h'.table.trans h.table
  control q := (h'.control q).trans (h.control q)
  next_le := Nat.le_trans h.next_le h'.next_le
  controlDevice := h'.controlDevice.trans h.controlDevice

/-- Then changing other parts of the state. -/
theorem other (h : Frame m m') (htable : m''.table = m'.table) (hpairs : m''.pairs = m'.pairs)
    (hpool : m'.pool.next ≤ m''.pool.next) (hcontrol : m''.controlDevice = m'.controlDevice) :
    Frame m m'' :=
  h.trans ⟨htable, fun q ↦ by rw [hpairs], hpool, hcontrol⟩

/-- Then changing a pair but not its control fields. -/
theorem setPair (h : Frame m m') {pp : ℕ} {f : PairRecord → PairRecord}
    (hf : ∀ r, (f r).control = r.control) : Frame m (m'.setPair pp f) := by
  refine h.trans ⟨rfl, fun q ↦ ?_, Nat.le_refl _, rfl⟩
  by_cases hq : q = pp
  · subst hq
    simp only [Machine.setPair, Function.update_self]
    exact hf _
  · simp only [Machine.setPair, Function.update_of_ne hq]

/-- Then freeing a block. -/
theorem exFreePool (h : Frame m m') (block : Option ℕ) : Frame m (m'.exFreePool block) := by
  refine h.other rfl rfl ?_ rfl
  cases block <;> exact Nat.le_refl _

/-- Then allocating a block. -/
theorem alloc (h : Frame m m') : Frame m { m' with pool := m'.pool.alloc } :=
  h.other rfl rfl (Nat.le_succ _) rfl

/-- Then deleting a lock. -/
theorem wdfLockDelete (h : Frame m m') (lock : Option ℕ) : Frame m (m'.wdfLockDelete lock) :=
  h.other rfl rfl (Nat.le_refl _) rfl

theorem wdfDeviceCreate (h : Frame m m') {name : DeviceName} {outcome : Outcome}
    (hcreate : m'.wdfDeviceCreate name outcome = .ok m'') : Frame m m'' := by
  unfold Machine.wdfDeviceCreate at hcreate
  split at hcreate
  · cases hcreate
  · cases outcome <;> cases hcreate
    exact h.other rfl rfl (Nat.le_refl _) rfl

theorem wdfDeviceCreateSymbolicLink (h : Frame m m') {others : LinkName → Bool} {name : DeviceName}
    {link : LinkName} {outcome : Outcome}
    (hlink : m'.wdfDeviceCreateSymbolicLink others name link outcome = .ok m'') : Frame m m'' := by
  unfold Machine.wdfDeviceCreateSymbolicLink at hlink
  split at hlink
  · cases hlink
  · cases outcome <;> cases hlink
    exact h.other rfl rfl (Nat.le_refl _) rfl

/-- Then a call that returns early if the one before has failed. -/
theorem andThen {result : Machine × Outcome} {next : Machine → Machine × Outcome}
    (h : Frame m result.1) (hnext : ∀ m', Frame m' (next m').1) :
    Frame m (andThen result next).1 := by
  unfold GhostCom.andThen
  split
  · exact h
  · exact h.trans (hnext _)

end Frame

section Functions

variable (m : Machine)

theorem create_named_device_frame (side : Side) (n : ULONG) (pp : ℕ) (o : DeviceOutcomes) :
    Frame m (createNamedDevice m side n pp o).1 := by
  unfold createNamedDevice
  split
  · exact .refl m
  next hcreate =>
  dsimp only
  apply Frame.setPair
  · exact ((Frame.refl m).wdfDeviceCreate hcreate).other rfl rfl (Nat.le_refl _) rfl
  · exact fun _ ↦ rfl

theorem create_sym_link_frame (others : LinkName → Bool) (side : Side) (n : ULONG) (pp : ℕ)
    (o : DeviceOutcomes) : Frame m (createSymLink m others side n pp o).1 := by
  unfold createSymLink
  split
  · exact .refl m
  dsimp only
  split
  · exact (Frame.refl m).alloc.exFreePool _
  next hlink =>
  dsimp only
  apply Frame.setPair
  · exact (Frame.refl m).alloc.wdfDeviceCreateSymbolicLink hlink
  · exact fun _ ↦ rfl

/-- Creating a device, whether it succeeds or not. -/
theorem create_device_frame (others : LinkName → Bool) (side : Side) (n : ULONG) (pp : ℕ)
    (o : DeviceOutcomes) : Frame m (createDevice m others side n pp o).1 := by
  refine Frame.andThen (Frame.refl m) fun m ↦ ?_
  refine Frame.andThen (Frame.refl m) fun m ↦ ?_
  refine Frame.andThen (create_named_device_frame m side n pp o) fun m ↦ ?_
  exact Frame.andThen (Frame.refl m) fun m ↦ create_sym_link_frame m others side n pp o

theorem destroy_device_frame (side : Side) (pp : ℕ) : Frame m (destroyDevice m side pp) := by
  have hbuffer := (Frame.refl m).exFreePool ((m.pairs pp).sides side).symLinkBuffer
  unfold destroyDevice
  apply Frame.setPair
  · split
    · exact hbuffer.other rfl rfl (Nat.le_refl _) rfl
    · exact hbuffer
  · exact fun _ ↦ rfl

theorem com_port_create_frame (o : CreateOutcomes) (pp : ℕ) (portNumber : ULONG) :
    Frame m (gcomComPortCreate m o pp portNumber).1 :=
  (create_device_frame m o.others .com portNumber pp o.com).andThen fun m ↦
    (Frame.refl m).other rfl rfl (Nat.le_refl _) rfl

theorem companion_create_frame (o : CreateOutcomes) (pp : ℕ) :
    Frame m (gcomCompanionCreate m o pp).1 :=
  create_device_frame m _ _ _ _ _

theorem com_port_destroy_frame (o : KeyOutcomes) (pp : ℕ) :
    Frame m (gcomComPortDestroy m o pp) := by
  have hkey : Frame m (unregisterComPort m o pp) :=
    (Frame.refl m).other rfl rfl (Nat.le_refl _) rfl
  exact hkey.trans (destroy_device_frame _ .com pp)

theorem init_ring_frame (success : Bool) (pp : ℕ) {store : PairRecord → ℕ → PairRecord}
    (hstore : ∀ record b, (store record b).control = record.control) :
    Frame m (initRing m success pp store).1 := by
  unfold initRing
  split
  · exact .refl m
  · exact (Frame.refl m).alloc.setPair fun _ ↦ hstore _ _

theorem create_lock_frame (outcome : Outcome) (pp : ℕ) {store : PairRecord → ℕ → PairRecord}
    (hstore : ∀ record b, (store record b).control = record.control) :
    Frame m (createLock m outcome pp store).1 := by
  unfold createLock
  split
  · exact .refl m
  · dsimp only
    apply Frame.setPair
    · exact (Frame.refl m).other rfl rfl (Nat.le_refl _) rfl
    · exact fun _ ↦ hstore _ _

/-- The rings and locks of a new pair, whether all are created or not. -/
theorem init_pair_frame (o : CreateOutcomes) (pp : ℕ) : Frame m (initPair m o pp).1 := by
  unfold initPair
  refine Frame.andThen ?_ fun m ↦ Frame.andThen ?_ fun m ↦ Frame.andThen ?_ fun m ↦ ?_
  · apply init_ring_frame
    exact fun _ _ ↦ rfl
  · apply init_ring_frame
    exact fun _ _ ↦ rfl
  · apply create_lock_frame
    exact fun _ _ ↦ rfl
  · apply create_lock_frame
    exact fun _ _ ↦ rfl

/-! ## Failed creates -/

/-- `fail_alloc` clears a slot that still holds the sentinel and no other. -/
theorem fail_alloc_table (slotIndex pp : ℕ) :
    (failAlloc m slotIndex pp).table =
      if m.table.slots[slotIndex]? = some (some .reserved) then m.table.clear slotIndex
      else m.table := by
  unfold failAlloc
  dsimp only
  split
  · next hreserved =>
      exact (if_pos hreserved).symm
  · next hother =>
      exact (if_neg hother).symm

/-- Apart from the table, the state is as before but for the pair `pp`. -/
structure Kept (pp : ℕ) (m m' : Machine) : Prop where
  control : ∀ q ≠ pp, (m'.pairs q).control = (m.pairs q).control
  next_le : m.pool.next ≤ m'.pool.next
  controlDevice : m'.controlDevice = m.controlDevice

variable {m}

theorem Frame.kept {m' : Machine} (h : Frame m m') (pp : ℕ) : Kept pp m m' :=
  ⟨fun q _ ↦ h.control q, h.next_le, h.controlDevice⟩

theorem Kept.trans {m' m'' : Machine} {pp : ℕ} (h : Kept pp m m') (h' : Kept pp m' m'') :
    Kept pp m m'' :=
  ⟨fun q hq ↦ (h'.control q hq).trans (h.control q hq), Nat.le_trans h.next_le h'.next_le,
    h'.controlDevice.trans h.controlDevice⟩

/-- Then changing the table. -/
theorem Kept.setTable {m' : Machine} {pp : ℕ} (h : Kept pp m m') (t : PortTable) :
    Kept pp m { m' with table := t } :=
  ⟨h.control, h.next_le, h.controlDevice⟩

/-- Changing the pair itself. -/
theorem kept_setPair (m : Machine) (pp : ℕ) (f : PairRecord → PairRecord) :
    Kept pp m (m.setPair pp f) where
  control q hq := by
    simp only [Machine.setPair, Function.update_of_ne hq]
  next_le := Nat.le_refl _
  controlDevice := rfl

theorem fail_alloc_kept (m : Machine) (slotIndex pp : ℕ) :
    Kept pp m (failAlloc m slotIndex pp) := by
  have hfreed := ((((Frame.refl m).wdfLockDelete (m.pairs pp).dataLock).wdfLockDelete
    (m.pairs pp).signalLock).exFreePool (m.pairs pp).companionToComBuffer).exFreePool
      (m.pairs pp).comToCompanionBuffer
  unfold failAlloc
  dsimp only
  split
  · exact ((hfreed.kept pp).setTable _).trans (((Frame.refl _).exFreePool _).kept pp)
  · exact (hfreed.exFreePool _).kept pp

/-- The slot that a create reserves holds the sentinel. -/
theorem reserve_slot {t : PortTable} {i : ℕ} (h : t.firstFree = some i) :
    (t.reserve i).slots[i]? = some (some .reserved) :=
  List.getElem?_set_self (List.getElem?_eq_some_iff.mp (SlotTable.slot_of_firstFree h)).1

/-- What a failed create may have done to the table. -/
inductive FailedTable (m m' : Machine) : Prop
  | same (h : m'.table = m.table)
  | reserved (i : ℕ) (hfree : m.table.firstFree = some i)
      (h : m'.table = (m.table.reserve i).clear i)
  | published (i : ℕ) (hfree : m.table.firstFree = some i)
      (h : m'.table = ((m.table.reserve i).publish i m.pool.next).clear i)
      (hnext : m.pool.next < m'.pool.next)

/-- A failed create leaves slots and `PortCount` as they were. -/
theorem FailedTable.restored {m' : Machine} (h : FailedTable m m') :
    m'.table.toSlotTable = m.table.toSlotTable := by
  cases h with
  | same h => rw [h]
  | reserved i hfree h =>
      rw [h]
      exact SlotTable.vacate_occupy (SlotTable.slot_of_firstFree hfree)
  | published i hfree h =>
      rw [h]
      show ((m.table.occupy i .reserved).replace i (.pair m.pool.next)).vacate i = _
      rw [SlotTable.vacate_replace]
      exact SlotTable.vacate_occupy (SlotTable.slot_of_firstFree hfree)

/-- `fail_cleanup` clears the slot, once. -/
theorem fail_cleanup_table (m : Machine) (pp : ℕ) {slotIndex : ℕ} {slot : Option PortEntry}
    (hslot : m.table.slots[slotIndex]? = some slot) :
    (failCleanup m slotIndex pp).table = m.table.clear slotIndex := by
  have hnone : (m.table.clear slotIndex).slots[slotIndex]? = some none :=
    List.getElem?_set_self (List.getElem?_eq_some_iff.mp hslot).1
  rw [failCleanup, fail_alloc_table, if_neg]
  rw [hnone]
  exact nofun

theorem fail_cleanup_kept (m : Machine) (slotIndex pp : ℕ) :
    Kept pp m (failCleanup m slotIndex pp) :=
  (((Frame.refl m).kept pp).setTable _).trans (fail_alloc_kept _ slotIndex pp)

/-- The part of a create that runs with the pair in its slot: the slot is cleared if it fails, and
nothing else of the table and of the control fields is touched. -/
theorem create_devices_cases (m : Machine) (o : CreateOutcomes) {slotIndex : ℕ} (pp : ℕ)
    (portNumber : ULONG) {slot : Option PortEntry}
    (hslot : m.table.slots[slotIndex]? = some slot) :
    let result := createDevices m o slotIndex pp portNumber
    (∃ st, result.2 = .error st ∧ Kept pp m result.1 ∧
      result.1.table = m.table.clear slotIndex) ∨
    (result.2 = .ok pp ∧ Frame m result.1) := by
  intro result
  have hcom := com_port_create_frame m o pp portNumber
  unfold result createDevices
  split
  · next m' st heq =>
      rw [heq] at hcom
      have htable : (failCleanup m' slotIndex pp).table = m'.table.clear slotIndex :=
        fail_cleanup_table m' pp (by rw [hcom.table]; exact hslot)
      exact .inl ⟨st, rfl, (hcom.kept pp).trans (fail_cleanup_kept ..), by
        rw [htable, hcom.table]⟩
  next m' heq =>
  rw [heq] at hcom
  have hcompanion := hcom.trans (companion_create_frame m' o pp)
  split
  · next m'' st heq' =>
      rw [heq'] at hcompanion
      have hdestroy := hcompanion.trans (com_port_destroy_frame m'' o.destroy pp)
      have htable := fail_cleanup_table (gcomComPortDestroy m'' o.destroy pp) pp
        (hdestroy.table.symm ▸ hslot)
      exact .inl ⟨st, rfl, (hdestroy.kept pp).trans (fail_cleanup_kept ..), by
        rw [htable, hdestroy.table]⟩
  · next m'' heq' =>
      rw [heq'] at hcompanion
      exact .inr ⟨rfl, hcompanion⟩

/-- A create fails and leaves the table as it was or with its slot cleared again, or it stores a new
pair, with a number that was free, in the first empty slot. -/
theorem create_cases (m : Machine) (o : CreateOutcomes) (requestedPortNumber : ULONG) :
    let result := gcomPortPairCreate m o requestedPortNumber
    Kept m.pool.next m result.1 ∧
      ((∃ st, result.2 = .error st ∧ FailedTable m result.1) ∨
      ∃ i portNumber, m.table.firstFree = some i ∧
        choosePortNumber m o.others requestedPortNumber = .ok portNumber ∧
        result.2 = .ok m.pool.next ∧
        result.1.table = (m.table.reserve i).publish i m.pool.next ∧
        (result.1.pairs m.pool.next).control = (PortPair.initial portNumber).control ∧
        m.pool.next < result.1.pool.next) := by
  intro result
  unfold result gcomPortPairCreate
  split
  · exact ⟨(Frame.refl m).kept _, .inl ⟨_, rfl, .same rfl⟩⟩
  next i hfree =>
  split
  · exact ⟨(Frame.refl m).kept _, .inl ⟨_, rfl, .same rfl⟩⟩
  next portNumber hnumber =>
  dsimp only
  split
  · exact ⟨((Frame.refl m).kept _).setTable _, .inl ⟨_, rfl, .reserved i hfree rfl⟩⟩
  -- the pair is allocated: its block is the only one whose control fields change
  have hstart : Kept m.pool.next m ({ m with
      table := m.table.reserve i
      pool := m.pool.alloc }.setPair m.pool.next fun _ ↦ .initial portNumber) :=
    (((Frame.refl m).alloc.kept _).setTable (m.table.reserve i)).trans (kept_setPair ..)
  have hinit := init_pair_frame ({ m with
      table := m.table.reserve i
      pool := m.pool.alloc }.setPair m.pool.next fun _ ↦ .initial portNumber) o m.pool.next
  have hslot := reserve_slot hfree
  split
  · next m' st heq =>
      rw [heq] at hinit
      have htable : m'.table = m.table.reserve i := hinit.table
      refine ⟨(hstart.trans (hinit.kept _)).trans (fail_alloc_kept ..),
        .inl ⟨st, rfl, .reserved i hfree ?_⟩⟩
      rw [fail_alloc_table, htable, if_pos hslot]
  next m' heq =>
  rw [heq] at hinit
  have htable : m'.table = m.table.reserve i := hinit.table
  have hnext : m.pool.next < m'.pool.next := Nat.lt_of_succ_le hinit.next_le
  have hpublished : Kept m.pool.next m { m' with table := m'.table.publish i m.pool.next } :=
    (hstart.trans (hinit.kept _)).setTable _
  have hentry : (m'.table.publish i m.pool.next).slots[i]? = some (some (.pair m.pool.next)) := by
    rw [htable]
    exact List.getElem?_set_self (List.getElem?_eq_some_iff.mp hslot).1
  rcases create_devices_cases { m' with table := m'.table.publish i m.pool.next } o m.pool.next
    portNumber hentry with ⟨st, hst, hkept, hclear⟩ | ⟨hok, hframe⟩
  · refine ⟨hpublished.trans hkept, .inl ⟨st, hst, .published i hfree ?_ ?_⟩⟩
    · rw [hclear, htable]
    · exact Nat.lt_of_lt_of_le hnext hkept.next_le
  · refine ⟨hpublished.trans (hframe.kept _), .inr ⟨i, portNumber, hfree, hnumber, hok, ?_, ?_, ?_⟩⟩
    · rw [hframe.table, htable]
    · rw [hframe.control]
      show (m'.pairs m.pool.next).control = _
      rw [hinit.control]
      simp only [Machine.setPair, Function.update_self]
      rfl
    · exact Nat.lt_of_lt_of_le hnext hframe.next_le

/-- The port number that is chosen belongs to no active pair of the table. -/
theorem choose_unused {m : Machine} {others : LinkName → Bool} {requested portNumber : ULONG}
    (h : choosePortNumber m others requested = .ok portNumber) :
    m.portInUse portNumber = false := by
  unfold choosePortNumber at h
  split at h
  · split at h
    · cases h
    next hunused =>
    split at h
    · cases h
    · cases h
      exact Bool.eq_false_iff.mpr hunused
  · dsimp only at h
    split at h
    · cases h
    next hne =>
    cases h
    unfold gcomFindFreePortNumber at hne ⊢
    cases hfind : candidates.find? fun candidate ↦ !m.portInUse candidate &&
        !m.linkExists others (.com candidate) && !m.linkExists others (.gcom candidate) with
    | none =>
        rw [hfind] at hne
        exact absurd rfl hne
    | some candidate =>
        have hgood := List.find?_some hfind
        simp only [Bool.and_eq_true, Bool.not_eq_true'] at hgood
        exact hgood.1.1

/-! ## Destroys -/

theorem release_pair_kept (m : Machine) (pp : ℕ) :
    Kept pp m (releasePair m pp) ∧ (releasePair m pp).table = m.table := by
  have hfreed := ((((Frame.refl m).exFreePool (m.pairs pp).comToCompanionBuffer).exFreePool
    (m.pairs pp).companionToComBuffer).wdfLockDelete (m.pairs pp).dataLock).wdfLockDelete
      (m.pairs pp).signalLock
  unfold releasePair
  dsimp only
  split
  · exact ⟨((hfreed.kept pp).trans (kept_setPair _ pp _)).trans
      (((Frame.refl _).exFreePool (some pp)).kept pp), hfreed.table⟩
  · exact ⟨(hfreed.kept pp).trans (kept_setPair _ pp _), hfreed.table⟩

/-- The section of `GcomPortPairDestroy` under the lock finds nothing if the pair is not in the
table. -/
theorem remove_absent {m : Machine} {pp : ℕ} (hnot : some (.pair pp) ∉ m.table.slots) :
    removeFromTable m pp = m := by
  have hnone : m.table.slots.findIdx? (· == some (.pair pp)) = none := by
    rw [List.findIdx?_eq_none_iff]
    intro entry hentry
    exact beq_false_of_ne fun heq ↦ hnot (heq ▸ hentry)
  unfold removeFromTable
  rw [hnone]

/-- What `GcomPortPairDestroy` does after that section touches the pair only. -/
theorem destroy_end_kept (m : Machine) (o : DestroyOutcomes) (pp : ℕ) :
    let m' := releasePair
      (gcomCompanionDestroy (gcomComPortDestroy (markChildMissing m o pp) o.key pp) pp) pp
    Kept pp m m' ∧ m'.table = m.table := by
  have hchild : Frame m (markChildMissing m o pp) :=
    (Frame.refl m).other rfl rfl (Nat.le_refl _) rfl
  have hdevices := (hchild.trans (com_port_destroy_frame _ o.key pp)).trans
    (destroy_device_frame _ .companion pp)
  obtain ⟨hrelease, htable⟩ := release_pair_kept
    (gcomCompanionDestroy (gcomComPortDestroy (markChildMissing m o pp) o.key pp) pp) pp
  exact ⟨(hdevices.kept pp).trans hrelease, htable.trans hdevices.table⟩

/-- Destroying a pair that is not in the table touches that pair only. -/
theorem destroy_kept (m : Machine) (o : DestroyOutcomes) {pp : ℕ}
    (hnot : some (.pair pp) ∉ m.table.slots) :
    Kept pp m (gcomPortPairDestroy m o pp) ∧ (gcomPortPairDestroy m o pp).table = m.table := by
  have hremove : removeFromTable (deactivate m pp) pp = deactivate m pp := remove_absent hnot
  obtain ⟨hkept, htable⟩ := destroy_end_kept (deactivate m pp) o pp
  unfold gcomPortPairDestroy
  dsimp only
  rw [hremove]
  exact ⟨(kept_setPair m pp _).trans hkept, htable⟩

/-- The pair that a companion index names. -/
theorem find_pair {m : Machine} {companionIndex : ULONG} {i pp : ℕ}
    (h : findPair m companionIndex = some (i, pp)) :
    m.table.slots[i]? = some (some (.pair pp)) ∧
      (m.pairs pp).companionIndex = companionIndex ∧ (m.pairs pp).active = true := by
  unfold findPair at h
  split at h
  · cases h
  next j hfind =>
  obtain ⟨hlt, hmatch, -⟩ := List.findIdx?_eq_some_iff_getElem.mp hfind
  split at h
  · next qq hslot =>
      cases h
      rw [List.getElem?_eq_getElem hlt] at hslot
      rw [Option.some.inj hslot] at hmatch
      simp only [Machine.entryMatches, Bool.and_eq_true, beq_iff_eq] at hmatch
      exact ⟨(List.getElem?_eq_getElem hlt).trans hslot, hmatch.2, hmatch.1⟩
  · cases h

end Functions

end GhostCom
