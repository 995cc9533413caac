import GhostCom.PortTable.Frame

/-!
# Failed creates and what they leave behind

The resources a create acquires, at every point where it can fail. Rings, locks, the pair and its
slot are released on every failure path; a device whose creation did not get to its end is not
deleted, and the child description that `GcomComPortCreate` reports is not taken back when the
companion device cannot be created. `create_failure_traceless_iff` is the exact condition under
which a failed create leaves the trace of the driver as it was.
-/

namespace GhostCom

/-- What a failed create must leave as it was: the table and `PortCount`, the devices and symbolic
links, the `SERIALCOMM` values, the child descriptions, the pool allocations and the locks. -/
@[ext] structure Trace where
  slots : List (Option PortEntry)
  portCount : ULONG
  devices : ObjectNamespace DeviceName LinkName
  serialComm : Finset ULONG
  children : Finset ULONG
  live : Finset ℕ
  locks : Finset ℕ

/-- The trace of a state. -/
def Machine.trace (m : Machine) : Trace where
  slots := m.table.slots
  portCount := m.table.count
  devices := m.devices
  serialComm := m.serialComm
  children := m.children
  live := m.pool.live
  locks := m.locks.live

/-- No device comes to exist: the create of the device fails at `WdfDeviceCreate` or before. -/
def DeviceOutcomes.Refused (o : DeviceOutcomes) (m : Machine) (name : DeviceName) : Prop :=
  o.initAllocate = false ∨ o.assignName ≠ .ok () ∨ name ∈ m.devices.objects ∨
    o.deviceCreate ≠ .ok ()

/-- The device is created with its queues and its link. -/
def DeviceOutcomes.Completes (o : DeviceOutcomes) (m : Machine) (others : LinkName → Bool)
    (name : DeviceName) (link : LinkName) : Prop :=
  ¬o.Refused m name ∧ createQueues o.queueCreate = .ok () ∧ o.symLinkBuffer = true ∧
    m.linkExists others link = false ∧ o.createSymbolicLink = .ok ()

namespace CreateOutcomes

/-- The pair is allocated and gets its rings and locks. -/
def Initialises (o : CreateOutcomes) : Prop :=
  o.pair = true ∧ o.comToCompanion = true ∧ o.companionToCom = true ∧ o.signalLock = .ok () ∧
    o.dataLock = .ok ()

end CreateOutcomes

/-! ## Rings and locks -/

/-- What holds of the state of a call, and of every state the next one starts from, holds at the
end, provided an early return keeps it. -/
theorem andThen_spec {P Q : Machine → Prop} {result : Machine × Outcome}
    {next : Machine → Machine × Outcome} (h : P result.1) (hearly : ∀ m, P m → Q m)
    (hnext : ∀ m, P m → Q (next m).1) : Q (andThen result next).1 := by
  unfold andThen
  split
  · exact hearly _ h
  · exact hnext _ h

namespace PairRecord

/-- The blocks of the rings of a pair. -/
def ringBlocks (r : PairRecord) : Finset ℕ :=
  Pool.block r.comToCompanionBuffer ∪ Pool.block r.companionToComBuffer

/-- The locks of a pair. -/
def lockBlocks (r : PairRecord) : Finset ℕ :=
  Pool.block r.signalLock ∪ Pool.block r.dataLock

end PairRecord

/-- From `m` to `m'` the pair has been allocated and given rings and locks, which its record shows;
no other block and no other lock has been allocated. -/
structure Acquired (m m' : Machine) (pp : ℕ) : Prop where
  pool : Pool.Since m.pool ({pp} ∪ (m'.pairs pp).ringBlocks) m'.pool
  locks : Pool.Since m.locks (m'.pairs pp).lockBlocks m'.locks

namespace Acquired

variable {m m' : Machine} {pp : ℕ}

/-- A ring is acquired, if it can be. -/
theorem init_ring (h : Acquired m m' pp) {success : Bool} {store : PairRecord → ℕ → PairRecord}
    (hring : ∀ b, (store (m'.pairs pp) b).ringBlocks = insert b (m'.pairs pp).ringBlocks)
    (hlock : ∀ b, (store (m'.pairs pp) b).lockBlocks = (m'.pairs pp).lockBlocks) :
    Acquired m (initRing m' success pp store).1 pp := by
  unfold initRing
  split
  · exact h
  · refine ⟨?_, ?_⟩
    · simp only [Machine.setPair, Function.update_self, hring, Finset.union_insert]
      exact h.pool.alloc
    · simp only [Machine.setPair, Function.update_self, hlock]
      exact h.locks

/-- A lock is acquired, if it can be. -/
theorem create_lock (h : Acquired m m' pp) {outcome : Outcome} {store : PairRecord → ℕ → PairRecord}
    (hring : ∀ b, (store (m'.pairs pp) b).ringBlocks = (m'.pairs pp).ringBlocks)
    (hlock : ∀ b, (store (m'.pairs pp) b).lockBlocks = insert b (m'.pairs pp).lockBlocks) :
    Acquired m (createLock m' outcome pp store).1 pp := by
  unfold createLock
  split
  · exact h
  · refine ⟨?_, ?_⟩
    · simp only [Machine.setPair, Function.update_self, hring]
      exact h.pool
    · simp only [Machine.setPair, Function.update_self, hlock]
      exact h.locks.alloc

/-- A ring call stores its block in the pair, or leaves the pair alone. -/
theorem init_ring_pair (m' : Machine) (pp : ℕ) (success : Bool)
    (store : PairRecord → ℕ → PairRecord) :
    ∃ b : Option ℕ, (initRing m' success pp store).1.pairs pp =
      b.elim (m'.pairs pp) (store (m'.pairs pp)) := by
  unfold initRing
  split
  · exact ⟨none, rfl⟩
  · exact ⟨some m'.pool.next, Function.update_self ..⟩

/-- A lock call stores its lock in the pair, or leaves the pair alone. -/
theorem create_lock_pair (m' : Machine) (pp : ℕ) (outcome : Outcome)
    (store : PairRecord → ℕ → PairRecord) :
    ∃ b : Option ℕ, (createLock m' outcome pp store).1.pairs pp =
      b.elim (m'.pairs pp) (store (m'.pairs pp)) := by
  unfold createLock
  split
  · exact ⟨none, rfl⟩
  · exact ⟨some m'.locks.next, Function.update_self ..⟩

/-- The rings and locks of a new pair are acquired, whether all of them can be or not. -/
theorem init_pair (h : Acquired m m' pp) {n : ULONG} (hnew : m'.pairs pp = .initial n)
    (o : CreateOutcomes) : Acquired m (initPair m' o pp).1 pp := by
  unfold initPair
  -- the handle that a call is about to store is `NULL` before
  refine andThen_spec (P := fun m₁ ↦ Acquired m m₁ pp ∧ ∃ b,
    m₁.pairs pp = { PairRecord.initial n with comToCompanionBuffer := b }) ?_ (fun _ h ↦ h.1) ?_
  · refine ⟨h.init_ring (fun b ↦ by rw [hnew]; rfl) fun _ ↦ rfl, ?_⟩
    obtain ⟨b, hb⟩ := init_ring_pair m' pp o.comToCompanion _
    refine ⟨b, hb.trans ?_⟩
    rw [hnew]
    cases b <;> rfl
  rintro m₁ ⟨h₁, b, hb⟩
  refine andThen_spec (P := fun m₂ ↦ Acquired m m₂ pp ∧ ∃ c,
    m₂.pairs pp = { PairRecord.initial n with
      comToCompanionBuffer := b
      companionToComBuffer := c }) ?_ (fun _ h ↦ h.1) ?_
  · refine ⟨h₁.init_ring (fun c ↦ ?_) fun _ ↦ rfl, ?_⟩
    · rw [hb]
      exact Pool.union_block_some (Pool.block b) c
    · obtain ⟨c, hc⟩ := init_ring_pair m₁ pp o.companionToCom _
      refine ⟨c, hc.trans ?_⟩
      rw [hb]
      cases c <;> rfl
  rintro m₂ ⟨h₂, c, hc⟩
  refine andThen_spec (P := fun m₃ ↦ Acquired m m₃ pp ∧ (m₃.pairs pp).dataLock = none)
    ?_ (fun _ h ↦ h.1) ?_
  · refine ⟨h₂.create_lock (fun _ ↦ rfl) fun l ↦ by rw [hc]; rfl, ?_⟩
    obtain ⟨l, hl⟩ := create_lock_pair m₂ pp o.signalLock _
    rw [hl, hc]
    cases l <;> rfl
  rintro m₃ ⟨h₃, hnone⟩
  refine h₃.create_lock (fun _ ↦ rfl) fun l ↦ ?_
  simp only [PairRecord.lockBlocks, hnone]
  exact Pool.union_block_some _ l

/-- `fail_alloc` releases everything that a pair has acquired. -/
theorem fail_alloc (h : Acquired m m' pp) (slotIndex : ℕ) :
    let final := failAlloc m' slotIndex pp
    final.pool.live = m.pool.live ∧ final.locks.live = m.locks.live := by
  intro final
  have hring (b : ℕ) (hb : b ∈ (m'.pairs pp).ringBlocks) : m.pool.next ≤ b :=
    h.pool.held_ge b (Finset.mem_union_right _ hb)
  have hpool := (((h.pool.freeOption (o := (m'.pairs pp).companionToComBuffer) fun b hb ↦
    hring b (Finset.mem_union_right _ hb)).freeOption
      (o := (m'.pairs pp).comToCompanionBuffer) fun b hb ↦
        hring b (Finset.mem_union_left _ hb)).freeOption (o := some pp) fun b hb ↦
          h.pool.held_ge b (Finset.mem_union_left _ hb))
  have hlocks := (h.locks.freeOption (o := (m'.pairs pp).dataLock) fun b hb ↦
    h.locks.held_ge b (Finset.mem_union_right _ hb)).freeOption
      (o := (m'.pairs pp).signalLock) fun b hb ↦
        h.locks.held_ge b (Finset.mem_union_left _ hb)
  have hnone : (((({pp} ∪ (m'.pairs pp).ringBlocks) \ Pool.block
      (m'.pairs pp).companionToComBuffer) \ Pool.block (m'.pairs pp).comToCompanionBuffer) \
        Pool.block (some pp)) = ∅ := by
    ext b
    simp only [PairRecord.ringBlocks, Pool.block, Finset.mem_sdiff, Finset.mem_union,
      Finset.mem_singleton, Finset.notMem_empty, iff_false]
    tauto
  have hnolock : ((m'.pairs pp).lockBlocks \ Pool.block (m'.pairs pp).dataLock) \
      Pool.block (m'.pairs pp).signalLock = ∅ := by
    ext b
    simp only [PairRecord.lockBlocks, Finset.mem_sdiff, Finset.mem_union, Finset.notMem_empty,
      iff_false]
    tauto
  rw [hnone] at hpool
  rw [hnolock] at hlocks
  unfold final GhostCom.failAlloc
  dsimp only
  split <;> exact ⟨hpool.live_of_empty, hlocks.live_of_empty⟩

end Acquired

/-- Devices, links, `SERIALCOMM` values and child descriptions are as before. -/
structure Unregistered (m m' : Machine) : Prop where
  devices : m'.devices = m.devices
  serialComm : m'.serialComm = m.serialComm
  children : m'.children = m.children

namespace Unregistered

variable (m : Machine)

theorem refl : Unregistered m m := ⟨rfl, rfl, rfl⟩

theorem init_ring (success : Bool) (pp : ℕ) (store : PairRecord → ℕ → PairRecord) :
    Unregistered m (initRing m success pp store).1 := by
  unfold initRing
  split <;> exact ⟨rfl, rfl, rfl⟩

theorem create_lock (outcome : Outcome) (pp : ℕ) (store : PairRecord → ℕ → PairRecord) :
    Unregistered m (createLock m outcome pp store).1 := by
  unfold createLock
  split <;> exact ⟨rfl, rfl, rfl⟩

theorem trans {m m' m'' : Machine} (h : Unregistered m m') (h' : Unregistered m' m'') :
    Unregistered m m'' :=
  ⟨h'.devices.trans h.devices, h'.serialComm.trans h.serialComm, h'.children.trans h.children⟩

theorem init_pair (o : CreateOutcomes) (pp : ℕ) : Unregistered m (initPair m o pp).1 := by
  unfold initPair
  refine andThen_spec (P := Unregistered m) (init_ring ..) (fun _ ↦ id) fun m₁ h₁ ↦ ?_
  refine andThen_spec (P := Unregistered m) (h₁.trans (init_ring ..)) (fun _ ↦ id) fun m₂ h₂ ↦ ?_
  refine andThen_spec (P := Unregistered m) (h₂.trans (create_lock ..)) (fun _ ↦ id) fun m₃ h₃ ↦ ?_
  exact h₃.trans (create_lock ..)

theorem fail_alloc (slotIndex pp : ℕ) : Unregistered m (failAlloc m slotIndex pp) := by
  unfold GhostCom.failAlloc
  dsimp only
  split <;> exact ⟨rfl, rfl, rfl⟩

theorem fail_cleanup (slotIndex pp : ℕ) : Unregistered m (failCleanup m slotIndex pp) := by
  have hclear : Unregistered m { m with table := m.table.clear slotIndex } := ⟨rfl, rfl, rfl⟩
  exact hclear.trans (fail_alloc ..)

end Unregistered

/-! ## Devices -/

section Devices

variable {m : Machine} {others : LinkName → Bool} (side : Side) {n : ULONG} (pp : ℕ)
  {o : DeviceOutcomes}

/-- The call before has succeeded. -/
theorem andThen_ok {m : Machine} {outcome : Outcome} {next : Machine → Machine × Outcome}
    (h : outcome = .ok ()) : andThen (m, outcome) next = next m := by
  rw [h]
  rfl

/-- A device that does not come to exist leaves no trace at all. -/
theorem create_device_refused (others : LinkName → Bool)
    (h : o.Refused m (side.deviceName n)) :
    ∃ st, createDevice m others side n pp o = (m, .error st) := by
  unfold createDevice
  cases hinit : o.initAllocate with
  | false => exact ⟨_, rfl⟩
  | true =>
      rw [andThen_ok (by rfl)]
      cases hname : o.assignName with
      | error st => exact ⟨st, rfl⟩
      | ok =>
          rw [andThen_ok (by rfl), createNamedDevice, Machine.wdfDeviceCreate]
          by_cases hfree : side.deviceName n ∈ m.devices.objects
          · rw [if_pos hfree]
            exact ⟨_, rfl⟩
          rw [if_neg hfree]
          cases hcreate : o.deviceCreate with
          | error st => exact ⟨st, rfl⟩
          | ok =>
              rcases h with h | h | h | h
              · rw [hinit] at h
                cases h
              · exact absurd hname h
              · exact absurd h hfree
              · exact absurd hcreate h

/-- The state after the device has been created and stored in the pair. -/
def withDevice (m : Machine) (side : Side) (n : ULONG) (pp : ℕ) : Machine :=
  { m with
    devices := m.devices.create (side.deviceName n)
    context := Function.update m.context (side.deviceName n) pp }
  |>.setPair pp (·.setSide side ⟨some (side.deviceName n), none⟩)

/-- Once the device exists, the create is the rest of its body. -/
theorem create_device_accepted (h : ¬o.Refused m (side.deviceName n)) :
    createDevice m others side n pp o =
      andThen (withDevice m side n pp, createQueues o.queueCreate) fun m ↦
        createSymLink m others side n pp o := by
  simp only [DeviceOutcomes.Refused, not_or, Bool.not_eq_false, not_not] at h
  obtain ⟨hinit, hname, hfree, hcreate⟩ := h
  unfold createDevice
  rw [andThen_ok (by rw [hinit]; rfl), andThen_ok hname, createNamedDevice,
    Machine.wdfDeviceCreate, if_neg hfree, hcreate]
  rfl

/-- A device that exists and does not get its queues and its link stays behind. -/
theorem create_device_leaks (hrefused : ¬o.Refused m (side.deviceName n))
    (hcompletes : ¬o.Completes m others (side.deviceName n) (side.linkName n)) :
    ∃ m' st, createDevice m others side n pp o = (m', .error st) ∧
      m'.devices = m.devices.create (side.deviceName n) ∧
      ∀ other ≠ side, (m'.pairs pp).sides other = (m.pairs pp).sides other := by
  have hsides (other : Side) (hne : other ≠ side) :
      ((withDevice m side n pp).pairs pp).sides other = (m.pairs pp).sides other := by
    simp [withDevice, Machine.setPair, PairRecord.setSide, Function.update_of_ne hne]
  rw [create_device_accepted side pp hrefused]
  cases hqueues : createQueues o.queueCreate with
  | error st => exact ⟨_, st, rfl, rfl, hsides⟩
  | ok =>
      rw [andThen_ok (by rfl), createSymLink]
      split
      · exact ⟨_, _, rfl, rfl, hsides⟩
      next hbuffer =>
      dsimp only
      rw [Machine.wdfDeviceCreateSymbolicLink]
      have hexists : ({ withDevice m side n pp with
          pool := (withDevice m side n pp).pool.alloc } : Machine).linkExists others
            (side.linkName n) = m.linkExists others (side.linkName n) := rfl
      rw [hexists]
      by_cases hlink : m.linkExists others (side.linkName n) = true
      · rw [if_pos hlink]
        exact ⟨_, _, rfl, rfl, hsides⟩
      rw [if_neg hlink]
      cases hcreate : o.createSymbolicLink with
      | error st => exact ⟨_, st, rfl, rfl, hsides⟩
      | ok =>
          refine absurd ⟨hrefused, hqueues, by simpa using hbuffer, ?_, hcreate⟩ hcompletes
          exact Bool.eq_false_iff.mpr hlink

/-- A device that is completed: what the state is then. -/
theorem create_device_completes
    (h : o.Completes m others (side.deviceName n) (side.linkName n)) :
    ∃ m', createDevice m others side n pp o = (m', .ok ()) ∧
      m'.devices = (m.devices.create (side.deviceName n)).link (side.deviceName n)
        (side.linkName n) ∧
      m'.pool = m.pool.alloc ∧ m'.locks = m.locks ∧ m'.serialComm = m.serialComm ∧
      m'.children = m.children ∧
      m'.pairs pp = (m.pairs pp).setSide side
        ⟨some (side.deviceName n), some m.pool.next⟩ := by
  obtain ⟨hrefused, hqueues, hbuffer, hlink, hcreate⟩ := h
  have hexists : ({ withDevice m side n pp with
      pool := (withDevice m side n pp).pool.alloc } : Machine).linkExists others
        (side.linkName n) = m.linkExists others (side.linkName n) := rfl
  rw [create_device_accepted side pp hrefused, andThen_ok hqueues, createSymLink]
  simp only [hbuffer, Bool.not_true, Bool.false_eq_true, if_false,
    Machine.wdfDeviceCreateSymbolicLink, hexists, hlink, hcreate, Except.map]
  refine ⟨_, rfl, rfl, rfl, rfl, rfl, rfl, ?_⟩
  simp [withDevice, Machine.setPair, PairRecord.setSide]

/-- A device whose creation is reported as a success is complete. -/
theorem completes_of_ok (h : createDevice m others side n pp o = (m', .ok ())) :
    o.Completes m others (side.deviceName n) (side.linkName n) := by
  by_contra hincomplete
  by_cases hrefused : o.Refused m (side.deviceName n)
  · obtain ⟨st, heq⟩ := create_device_refused side pp others hrefused
    rw [h] at heq
    cases heq
  · obtain ⟨_, st, heq, -⟩ := create_device_leaks side pp hrefused hincomplete
    rw [h] at heq
    cases heq

end Devices

/-! ## Failed creates -/

section Failures

variable {m x : Machine} {o : CreateOutcomes} {slotIndex pp : ℕ} {n : ULONG}

/-- Whether a device is refused depends on the names that exist. -/
theorem refused_congr {o : DeviceOutcomes} {name : DeviceName}
    (h : name ∈ x.devices.objects ↔ name ∈ m.devices.objects) :
    o.Refused x name ↔ o.Refused m name := by
  simp only [DeviceOutcomes.Refused, h]

/-- Destroying a device deletes it. -/
theorem destroy_device_devices {side : Side} {name : DeviceName}
    (h : ((x.pairs pp).sides side).device = some name) :
    (destroyDevice x side pp).devices = x.devices.delete name := by
  unfold destroyDevice
  dsimp only
  rw [h]
  rfl

/-- Whether a device is completed depends on the names that exist. -/
theorem completes_congr {d : DeviceOutcomes} (h : x.devices = m.devices) {name : DeviceName}
    {link : LinkName} : d.Completes x o.others name link ↔ d.Completes m o.others name link := by
  simp only [DeviceOutcomes.Completes, DeviceOutcomes.Refused, Machine.linkExists, h]

/-- A create whose COM device does not come about. -/
theorem create_devices_com_error {y : Machine} {st : ErrorStatus}
    (h : createDevice x o.others .com n pp o.com = (y, .error st)) :
    createDevices x o slotIndex pp n = (failCleanup y slotIndex pp, .error st) := by
  rw [createDevices, gcomComPortCreate, h]
  rfl

/-- The state when the companion device is to be created. -/
theorem com_port_created (hindex : (x.pairs pp).companionIndex = n)
    (hcompletes : o.com.Completes x o.others (.gcomSerial n) (.com n)) :
    ∃ y, createDevice x o.others .com n pp o.com = (y, .ok ()) ∧
      gcomComPortCreate x o pp n = (registerComPort y o n, .ok ()) ∧
      ((registerComPort y o n).pairs pp).companionIndex = n ∧
      (registerComPort y o n).devices =
        (x.devices.create (.gcomSerial n)).link (.gcomSerial n) (.com n) ∧
      (((registerComPort y o n).pairs pp).sides .com).device = some (.gcomSerial n) := by
  obtain ⟨y, hy, hdevices, -, -, -, -, hpair⟩ := create_device_completes .com pp hcompletes
  refine ⟨y, hy, ?_, ?_, hdevices, ?_⟩
  · rw [gcomComPortCreate, hy]
    rfl
  · show (y.pairs pp).companionIndex = n
    rw [hpair]
    exact hindex
  · show ((y.pairs pp).sides .com).device = _
    rw [hpair]
    simp [PairRecord.setSide, Side.deviceName]

/-- The rings and locks of a pair can be had, or not. -/
theorem init_pair_ok_iff (x : Machine) (o : CreateOutcomes) (pp : ℕ) :
    (initPair x o pp).2 = .ok () ↔ o.comToCompanion = true ∧ o.companionToCom = true ∧
      o.signalLock = .ok () ∧ o.dataLock = .ok () := by
  have hring (y : Machine) (success : Bool) (store : PairRecord → ℕ → PairRecord) :
      (initRing y success pp store).2 = allocated success := by
    unfold initRing allocated
    cases success <;> rfl
  have hlock (y : Machine) (outcome : Outcome) (store : PairRecord → ℕ → PairRecord) :
      (createLock y outcome pp store).2 = outcome := by
    unfold createLock
    cases outcome <;> rfl
  have hthen (result : Machine × Outcome) (next : Machine → Machine × Outcome) :
      (andThen result next).2 = .ok () ↔ result.2 = .ok () ∧ (next result.1).2 = .ok () := by
    unfold andThen
    rcases result with ⟨y, _ | _⟩
    · exact ⟨nofun, fun h ↦ nomatch h.1⟩
    · exact ⟨fun h ↦ ⟨rfl, h⟩, And.right⟩
  have hallocated (success : Bool) : allocated success = .ok () ↔ success = true := by
    cases success
    · exact ⟨nofun, nofun⟩
    · exact ⟨fun _ ↦ rfl, fun _ ↦ rfl⟩
  unfold initPair
  rw [hthen, hthen, hthen, hring, hring, hlock, hlock, hallocated, hallocated]

end Failures

/-- The state when a slot is reserved and the pair is allocated. -/
def withPair (m : Machine) (slotIndex : ℕ) (portNumber : ULONG) : Machine :=
  { m with
    table := m.table.reserve slotIndex
    pool := m.pool.alloc }.setPair m.pool.next fun _ ↦ .initial portNumber

/-- The state when the pair has its rings and locks, or could not get them. -/
def withInit (m : Machine) (o : CreateOutcomes) (slotIndex : ℕ) (portNumber : ULONG) : Machine :=
  (initPair (withPair m slotIndex portNumber) o m.pool.next).1

/-- By then the pair has been acquired, and nothing has been registered. -/
theorem with_init_spec (m : Machine) (o : CreateOutcomes) (slotIndex : ℕ) (n : ULONG) :
    Acquired m (withInit m o slotIndex n) m.pool.next ∧
      Unregistered m (withInit m o slotIndex n) ∧
      ((withInit m o slotIndex n).pairs m.pool.next).control =
        (PairRecord.initial n).control := by
  have hnew : (withPair m slotIndex n).pairs m.pool.next = .initial n := Function.update_self ..
  have hstart : Acquired m (withPair m slotIndex n) m.pool.next := by
    refine ⟨?_, ?_⟩
    · rw [hnew]
      exact (Pool.Since.refl m.pool).alloc
    · rw [hnew]
      exact Pool.Since.refl m.locks
  have hregistered : Unregistered m (withPair m slotIndex n) := ⟨rfl, rfl, rfl⟩
  refine ⟨hstart.init_pair hnew o, hregistered.trans (.init_pair _ o _), ?_⟩
  have hframe := init_pair_frame (withPair m slotIndex n) o m.pool.next
  unfold withInit
  rw [hframe.control, hnew]

section Create

variable {m : Machine} {o : CreateOutcomes} {requestedPortNumber : ULONG} {i : ℕ} {n : ULONG}

/-- A create whose pair is allocated is the initialisation of the pair, and the rest. -/
theorem create_of_init (hfree : m.table.firstFree = some i)
    (hnumber : choosePortNumber m o.others requestedPortNumber = .ok n) (hpair : o.pair = true)
    {x : Machine} {outcome : Outcome}
    (hinit : initPair (withPair m i n) o m.pool.next = (x, outcome)) :
    gcomPortPairCreate m o requestedPortNumber =
      match outcome with
      | .error st => (failAlloc x i m.pool.next, .error st)
      | .ok () => createDevices { x with table := x.table.publish i m.pool.next } o i
          m.pool.next n := by
  unfold withPair at hinit
  unfold gcomPortPairCreate
  simp only [hfree, hnumber, hpair, Bool.not_true, Bool.false_eq_true, if_false, hinit]
  cases outcome <;> rfl

end Create

namespace CreateOutcomes

/-- The outcomes of a create in which everything succeeds. -/
def allSucceed : CreateOutcomes where
  others _ := false
  pair := true
  comToCompanion := true
  companionToCom := true
  signalLock := .ok ()
  dataLock := .ok ()
  com := ⟨true, .ok (), .ok (), fun _ ↦ .ok (), true, .ok ()⟩
  createKey := true
  setValue := true
  childList := true
  addChild := .ok ()
  companion := ⟨true, .ok (), .ok (), fun _ ↦ .ok (), true, .ok ()⟩
  destroy := ⟨true, true⟩

/-- The default queue of the COM device cannot be created. -/
def queueFails : CreateOutcomes :=
  { allSucceed with
    com := { allSucceed.com with queueCreate := fun _ ↦ .error insufficientResources } }

end CreateOutcomes

end GhostCom
