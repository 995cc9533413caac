import GhostCom.Library.Owned
import GhostCom.PortTable.Registry

/-!
# What the driver owns

Every pool block, lock, device and symbolic link that the driver holds belongs to exactly one pair
of the table, as long as no device is left behind half created: creates, also failed ones, and
destroys in any order leak nothing, and nothing that belongs to a pair is freed with another one.
-/

namespace GhostCom

/-! ## The parts of a pair -/

namespace PairRecord

/-- The pool blocks of a pair: the pair itself, its rings and the buffers of its link names. -/
def blocks (pp : ℕ) (r : PairRecord) : Finset ℕ :=
  {pp} ∪ r.ringBlocks ∪
    (Pool.block (r.sides .com).symLinkBuffer ∪ Pool.block (r.sides .companion).symLinkBuffer)

end PairRecord

/-- The devices of a port number. -/
def deviceNames (n : ULONG) : Finset DeviceName :=
  {Side.com.deviceName n, Side.companion.deviceName n}

/-- The links of a port number, with the devices they lead to. -/
def deviceLinks (n : ULONG) : Finset (LinkName × DeviceName) :=
  {(Side.com.linkName n, Side.com.deviceName n),
    (Side.companion.linkName n, Side.companion.deviceName n)}

/-- A link is one of a number's if it leads to a device of that number. -/
theorem mem_device_links {link : LinkName × DeviceName} {k n : ULONG} (h : link ∈ deviceLinks k) :
    link ∈ deviceLinks n ↔ link.2 ∈ deviceNames n := by
  rcases Finset.mem_insert.mp h with rfl | h
  · simp [deviceLinks, deviceNames, Side.deviceName, Side.linkName]
  · rw [Finset.mem_singleton.mp h]
    simp [deviceLinks, deviceNames, Side.deviceName, Side.linkName]

/-- A pair that nobody has opened is held by its creation reference only, and its devices have its
number. -/
structure PairRecord.Settled (r : PairRecord) : Prop where
  refCount : r.refCount = 1
  device : ∀ side, (r.sides side).device = some (side.deviceName r.portNumber)

/-- Everything that the driver holds belongs to exactly one of the pairs, and the devices of a pair
lead to it. -/
structure Machine.OwnedBy (m : Machine) (owners : ℕ → Prop) : Prop where
  settled : ∀ pp, owners pp → (m.pairs pp).Settled
  leads : ∀ pp, owners pp → ∀ side : Side, m.context (side.deviceName (m.pairs pp).portNumber) = pp
  blocks : Owned m.pool.live owners fun pp ↦ (m.pairs pp).blocks pp
  locks : Owned m.locks.live owners fun pp ↦ (m.pairs pp).lockBlocks
  devices : Owned m.devices.objects owners fun pp ↦ deviceNames (m.pairs pp).portNumber
  links : Owned m.devices.links owners fun pp ↦ deviceLinks (m.pairs pp).portNumber

/-! ## Other pairs -/

/-- All pairs but one are as before. -/
def OnlyPair (pp : ℕ) (m m' : Machine) : Prop := ∀ qq ≠ pp, m'.pairs qq = m.pairs qq

namespace OnlyPair

variable {pp : ℕ} {m m' m'' : Machine}

theorem of_eq (h : m'.pairs = m.pairs) : OnlyPair pp m m' := fun _ _ ↦ by rw [h]

theorem trans (h : OnlyPair pp m m') (h' : OnlyPair pp m' m'') : OnlyPair pp m m'' :=
  fun qq hne ↦ (h' qq hne).trans (h qq hne)

theorem of_update {r : PairRecord} (h : m'.pairs = Function.update m.pairs pp r) :
    OnlyPair pp m m' := by
  intro qq hne
  rw [h]
  exact Function.update_of_ne hne ..

theorem andThen {result : Machine × Outcome} {next : Machine → Machine × Outcome}
    (h : OnlyPair pp m result.1) (hnext : ∀ m', OnlyPair pp m' (next m').1) :
    OnlyPair pp m (andThen result next).1 :=
  andThen_spec (P := OnlyPair pp m) h (fun _ h ↦ h) fun m' h ↦ h.trans (hnext m')

end OnlyPair

section OnlyPair

variable (m : Machine) (pp : ℕ)

theorem init_ring_only (success : Bool) (store : PairRecord → ℕ → PairRecord) :
    OnlyPair pp m (initRing m success pp store).1 := by
  unfold initRing
  split
  · exact .of_eq rfl
  · exact .of_update rfl

theorem create_lock_only (outcome : Outcome) (store : PairRecord → ℕ → PairRecord) :
    OnlyPair pp m (createLock m outcome pp store).1 := by
  unfold createLock
  split
  · exact .of_eq rfl
  · exact .of_update rfl

theorem init_pair_only (o : CreateOutcomes) : OnlyPair pp m (initPair m o pp).1 := by
  unfold initPair
  refine (init_ring_only m pp _ _).andThen fun m' ↦ ?_
  refine (init_ring_only m' pp _ _).andThen fun m' ↦ ?_
  exact (create_lock_only m' pp _ _).andThen fun m' ↦ create_lock_only m' pp _ _

/-- `WdfDeviceCreate` does not touch the pairs. -/
theorem device_create_pairs {m m' : Machine} {name : DeviceName} {outcome : Outcome}
    (h : m.wdfDeviceCreate name outcome = .ok m') : m'.pairs = m.pairs := by
  unfold Machine.wdfDeviceCreate at h
  split at h
  · cases h
  · cases outcome with
    | error st => cases h
    | ok =>
        cases h
        rfl

/-- Nor does `WdfDeviceCreateSymbolicLink`. -/
theorem link_create_pairs {m m' : Machine} {others : LinkName → Bool} {name : DeviceName}
    {link : LinkName} {outcome : Outcome}
    (h : m.wdfDeviceCreateSymbolicLink others name link outcome = .ok m') : m'.pairs = m.pairs := by
  unfold Machine.wdfDeviceCreateSymbolicLink at h
  split at h
  · cases h
  · cases outcome with
    | error st => cases h
    | ok =>
        cases h
        rfl

theorem create_device_only (others : LinkName → Bool) (side : Side) (n : ULONG)
    (o : DeviceOutcomes) : OnlyPair pp m (createDevice m others side n pp o).1 := by
  have hdevice (m : Machine) : OnlyPair pp m (createNamedDevice m side n pp o).1 := by
    unfold createNamedDevice
    split
    · exact .of_eq rfl
    · next m' hcreate => exact (OnlyPair.of_eq (device_create_pairs hcreate)).trans (.of_update rfl)
  have hlink (m : Machine) : OnlyPair pp m (createSymLink m others side n pp o).1 := by
    unfold createSymLink
    split
    · exact .of_eq rfl
    dsimp only
    split
    · exact .of_eq rfl
    · next m' hcreate =>
        have hpairs : m'.pairs = m.pairs := (link_create_pairs hcreate).trans rfl
        exact (OnlyPair.of_eq hpairs).trans (.of_update rfl)
  unfold createDevice
  refine OnlyPair.andThen (.of_eq rfl) fun m ↦ ?_
  refine OnlyPair.andThen (.of_eq rfl) fun m ↦ ?_
  refine (hdevice m).andThen fun m ↦ ?_
  exact OnlyPair.andThen (.of_eq rfl) fun m ↦ hlink m

theorem destroy_device_only (side : Side) : OnlyPair pp m (destroyDevice m side pp) := by
  unfold destroyDevice
  dsimp only
  refine OnlyPair.trans (.of_eq ?_) (.of_update rfl)
  cases ((m.pairs pp).sides side).symLinkBuffer <;> cases ((m.pairs pp).sides side).device <;> rfl

theorem fail_alloc_only (slotIndex : ℕ) : OnlyPair pp m (failAlloc m slotIndex pp) := by
  unfold failAlloc
  apply OnlyPair.of_eq
  dsimp only
  split <;> rfl

theorem create_devices_only (o : CreateOutcomes) (slotIndex : ℕ) (n : ULONG) :
    OnlyPair pp m (createDevices m o slotIndex pp n).1 := by
  have hcom : OnlyPair pp m (gcomComPortCreate m o pp n).1 :=
    (create_device_only m pp o.others .com n o.com).andThen fun m' ↦ .of_eq rfl
  have hcompanion (m : Machine) : OnlyPair pp m (gcomCompanionCreate m o pp).1 :=
    create_device_only m pp o.others .companion _ o.companion
  unfold createDevices
  split
  · next m' st heq =>
      rw [heq] at hcom
      exact hcom.trans ((OnlyPair.of_eq rfl).trans (fail_alloc_only _ pp slotIndex))
  · next m' heq =>
      rw [heq] at hcom
      have hnext := hcompanion m'
      split
      · next m'' st heq' =>
          rw [heq'] at hnext
          have hdestroyed : OnlyPair pp m'' (gcomComPortDestroy m'' o.destroy pp) :=
            (OnlyPair.of_eq rfl).trans (destroy_device_only (unregisterComPort m'' o.destroy pp) pp
              .com)
          exact (hcom.trans hnext).trans
            (hdestroyed.trans ((OnlyPair.of_eq rfl).trans (fail_alloc_only _ pp slotIndex)))
      · next m'' heq' =>
          rw [heq'] at hnext
          exact hcom.trans hnext

/-- A create touches no pair but its own. -/
theorem create_only (o : CreateOutcomes) (requestedPortNumber : ULONG) :
    OnlyPair m.pool.next m (gcomPortPairCreate m o requestedPortNumber).1 := by
  unfold gcomPortPairCreate
  split
  · exact .of_eq rfl
  next i hfree =>
  split
  · exact .of_eq rfl
  next n hnumber =>
  dsimp only
  split
  · exact .of_eq rfl
  have hinit := init_pair_only (withPair m i n) m.pool.next o
  have hstart : OnlyPair m.pool.next m (withPair m i n) := .of_update rfl
  split
  · next m' st heq =>
      rw [show initPair (withPair m i n) o m.pool.next = _ from heq] at hinit
      exact (hstart.trans hinit).trans (fail_alloc_only m' _ i)
  · next m' heq =>
      rw [show initPair (withPair m i n) o m.pool.next = _ from heq] at hinit
      exact (hstart.trans hinit).trans
        ((OnlyPair.of_eq rfl).trans (create_devices_only _ m.pool.next o i n))

end OnlyPair

/-! ## Creates -/

/-- From `m` to `m'` a pair with a number has acquired its parts, none of which was there. -/
structure PairAcquired (m m' : Machine) (pp : ℕ) (n : ULONG) : Prop where
  pool : Pool.Since m.pool ((m'.pairs pp).blocks pp) m'.pool
  locks : Pool.Since m.locks (m'.pairs pp).lockBlocks m'.locks
  device : ∀ side, ((m'.pairs pp).sides side).device = some (side.deviceName n)
  leads : ∀ side : Side, m'.context (side.deviceName n) = pp
  free : ∀ side : Side, side.deviceName n ∉ m.devices.objects
  devices : m'.devices = (((m.devices.create (.gcomSerial n)).link (.gcomSerial n) (.com n)).create
    (.gcom n)).link (.gcom n) (.gcom n)

/-- The blocks of a pair that has been given its devices. -/
theorem blocks_with_sides (pp : ℕ) {r : PairRecord} {b c : ℕ} (d e : Option DeviceName) :
    ((r.setSide .com ⟨d, some b⟩).setSide .companion ⟨e, some c⟩).blocks pp =
      insert c (insert b ({pp} ∪ r.ringBlocks)) := by
  ext a
  simp [PairRecord.blocks, PairRecord.setSide, PairRecord.ringBlocks, Pool.block]
  tauto

/-- Two devices that are completed one after the other. -/
theorem devices_acquire {m x y z : Machine} {o : CreateOutcomes} {pp : ℕ} {n : ULONG}
    (hacquired : Acquired m x pp) (hregistered : Unregistered m x)
    (hcom : createDevice x o.others .com n pp o.com = (y, .ok ()))
    (hcompanion : createDevice (registerComPort y o n) o.others .companion n pp o.companion =
      (z, .ok ())) : PairAcquired m z pp n := by
  have hcompletes := completes_of_ok .com pp hcom
  have hcompletes' := completes_of_ok .companion pp hcompanion
  obtain ⟨y', hy, hdevices, hpool, hlocks, -, -, hpair⟩ :=
    create_device_completes .com pp hcompletes
  obtain rfl : y' = y := congrArg Prod.fst (hy.symm.trans hcom)
  obtain ⟨z', hz, hdevices', hpool', hlocks', -, -, hpair'⟩ :=
    create_device_completes .companion pp hcompletes'
  obtain rfl : z' = z := congrArg Prod.fst (hz.symm.trans hcompanion)
  change z'.pool = y'.pool.alloc at hpool'
  change z'.locks = y'.locks at hlocks'
  change z'.pairs pp = (y'.pairs pp).setSide .companion
    ⟨some (Side.companion.deviceName n), some y'.pool.next⟩ at hpair'
  change z'.devices = (y'.devices.create _).link _ _ at hdevices'
  rw [hpair] at hpair'
  have hcomFree : (.gcomSerial n : DeviceName) ∉ x.devices.objects :=
    fun hmem ↦ hcompletes.1 (.inr (.inr (.inl hmem)))
  have hcompanionFree : (.gcom n : DeviceName) ∉ x.devices.objects := by
    intro hmem
    apply hcompletes'.1 (.inr (.inr (.inl _)))
    show _ ∈ y'.devices.objects
    rw [hdevices]
    exact Finset.mem_insert_of_mem hmem
  refine ⟨?_, ?_, ?_, ?_, ?_, ?_⟩
  · have hsince := hacquired.pool.alloc.alloc
    rw [hpool', hpool, hpair', hpool]
    rw [blocks_with_sides]
    exact hsince
  · rw [hlocks', hlocks, hpair']
    exact hacquired.locks
  · intro side
    rw [hpair']
    cases side <;> simp [PairRecord.setSide]
  · have hcontext := create_device_context x o.others .com n pp o.com
    rw [hcom] at hcontext
    have hcontext' := create_device_context (registerComPort y' o n) o.others .companion n pp
      o.companion
    rw [hcompanion] at hcontext'
    have hleads : y'.context = Function.update x.context (Side.com.deviceName n) pp :=
      hcontext.resolve_left (by simp)
    have hleads' : z'.context = Function.update y'.context (Side.companion.deviceName n) pp :=
      hcontext'.resolve_left (by simp)
    intro side
    rw [hleads', hleads]
    cases side <;> simp [Side.deviceName]
  · intro side
    rw [← hregistered.devices]
    cases side with
    | com => exact hcomFree
    | companion => exact hcompanionFree
  · rw [hdevices', hdevices, hregistered.devices]
    rfl

/-- Creating a device keeps the devices that exist, with their contexts. -/
theorem create_device_keeps (m : Machine) (others : LinkName → Bool) (side : Side) (n : ULONG)
    (pp : ℕ) (o : DeviceOutcomes) {name : DeviceName} (hname : name ∈ m.devices.objects) :
    let m' := (createDevice m others side n pp o).1
    name ∈ m'.devices.objects ∧ m'.context name = m.context name := by
  intro m'
  by_cases hrefused : o.Refused m (side.deviceName n)
  · obtain ⟨st, heq⟩ := create_device_refused side pp others hrefused
    rw [show m' = m from congrArg Prod.fst heq]
    exact ⟨hname, rfl⟩
  have hne : name ≠ side.deviceName n := fun heq ↦ hrefused (.inr (.inr (.inl (heq ▸ hname))))
  refine ⟨?_, ?_⟩
  · by_cases hcompletes : o.Completes m others (side.deviceName n) (side.linkName n)
    · obtain ⟨y, hy, hdevices, -⟩ := create_device_completes side pp hcompletes
      rw [show m' = y from congrArg Prod.fst hy, hdevices]
      exact Finset.mem_insert_of_mem hname
    · obtain ⟨y, st, hy, hdevices, -⟩ := create_device_leaks side pp hrefused hcompletes
      rw [show m' = y from congrArg Prod.fst hy, hdevices]
      exact Finset.mem_insert_of_mem hname
  · rcases create_device_context m others side n pp o with ⟨-, -, hcontext⟩ | hcontext
    · exact congrFun hcontext name
    · exact (congrFun hcontext name).trans (Function.update_of_ne hne ..)

/-- The devices of a pair are created one after the other, and the paths that undo them leave all
contexts alone. -/
theorem create_devices_keep (m : Machine) (o : CreateOutcomes) (slotIndex pp : ℕ) (n : ULONG)
    {name : DeviceName} (hname : name ∈ m.devices.objects) :
    (createDevices m o slotIndex pp n).1.context name = m.context name := by
  have hcom : name ∈ (gcomComPortCreate m o pp n).1.devices.objects ∧
      (gcomComPortCreate m o pp n).1.context name = m.context name := by
    unfold gcomComPortCreate
    exact andThen_spec
      (P := fun m' ↦ name ∈ m'.devices.objects ∧ m'.context name = m.context name)
      (create_device_keeps m o.others .com n pp o.com hname) (fun _ ↦ id) fun _ ↦ id
  unfold createDevices
  split
  · next m' st heq =>
      rw [heq] at hcom
      exact (congrFun (fail_cleanup_context m' slotIndex pp) name).trans hcom.2
  next m' heq =>
  rw [heq] at hcom
  have hcompanion := create_device_keeps m' o.others .companion (m'.pairs pp).companionIndex pp
    o.companion hcom.1
  split
  · next m'' st heq' =>
      rw [show createDevice m' o.others .companion _ pp o.companion = _ from heq'] at hcompanion
      rw [fail_cleanup_context, com_port_destroy_context]
      exact hcompanion.2.trans hcom.2
  · next m'' heq' =>
      rw [show createDevice m' o.others .companion _ pp o.companion = _ from heq'] at hcompanion
      exact hcompanion.2.trans hcom.2

/-- A create keeps the contexts of the devices that exist. -/
theorem create_keeps_contexts (m : Machine) (o : CreateOutcomes) (requestedPortNumber : ULONG) :
    ∀ name ∈ m.devices.objects,
      (gcomPortPairCreate m o requestedPortNumber).1.context name = m.context name := by
  intro name hname
  cases hfree : m.table.firstFree with
  | none => simp only [gcomPortPairCreate, hfree]
  | some i =>
  cases hnumber : choosePortNumber m o.others requestedPortNumber with
  | error st => simp only [gcomPortPairCreate, hfree, hnumber]
  | ok n =>
  by_cases hpair : o.pair = true
  case neg =>
    simp only [gcomPortPairCreate, hfree, hnumber, hpair, Bool.not_false, if_true]
  have hcontext := init_pair_context (withPair m i n) o m.pool.next
  obtain ⟨-, hregistered, -⟩ := with_init_spec m o i n
  rcases hinit : initPair (withPair m i n) o m.pool.next with ⟨x, st | _⟩
  · rw [create_of_init hfree hnumber hpair hinit]
    rw [hinit] at hcontext
    exact (congrFun (fail_alloc_context x i _) name).trans (congrFun hcontext name)
  rw [create_of_init hfree hnumber hpair hinit]
  rw [hinit] at hcontext
  rw [withInit, hinit] at hregistered
  have hstart : name ∈ x.devices.objects := hregistered.devices ▸ hname
  have hbefore : x.context name = m.context name := congrFun hcontext name
  exact (create_devices_keep { x with table := x.table.publish i m.pool.next } o i m.pool.next n
    hstart).trans hbefore

/-- A create whose devices are completed. -/
theorem create_devices_acquire {m x z : Machine} {o : CreateOutcomes} {slotIndex pp : ℕ} {n : ULONG}
    (hacquired : Acquired m x pp) (hregistered : Unregistered m x)
    (hindex : (x.pairs pp).companionIndex = n)
    (h : createDevices x o slotIndex pp n = (z, .ok pp)) : PairAcquired m z pp n := by
  rcases hcom : createDevice x o.others .com n pp o.com with ⟨y, st | _⟩
  · rw [create_devices_com_error hcom] at h
    cases h
  have hcreated : gcomComPortCreate x o pp n = (registerComPort y o n, .ok ()) := by
    rw [gcomComPortCreate, hcom]
    rfl
  have hcompanionIndex : ((registerComPort y o n).pairs pp).companionIndex = n := by
    have hframe := create_device_frame x o.others .com n pp o.com
    rw [hcom] at hframe
    exact (PortPair.companionIndex_eq (hframe.control pp)).trans hindex
  unfold createDevices at h
  rw [hcreated] at h
  rcases hcompanion : gcomCompanionCreate (registerComPort y o n) o pp with ⟨y', st | _⟩
  · simp only [hcompanion] at h
    cases h
  · simp only [hcompanion] at h
    cases h
    rw [gcomCompanionCreate, hcompanionIndex] at hcompanion
    exact devices_acquire hacquired hregistered hcom hcompanion

/-- A create that succeeds acquires the parts of its pair. -/
theorem create_acquires {m : Machine} {o : CreateOutcomes} {requestedPortNumber : ULONG} {i : ℕ}
    {n : ULONG} (hfree : m.table.firstFree = some i)
    (hnumber : choosePortNumber m o.others requestedPortNumber = .ok n)
    (hok : (gcomPortPairCreate m o requestedPortNumber).2 = .ok m.pool.next) :
    PairAcquired m (gcomPortPairCreate m o requestedPortNumber).1 m.pool.next n := by
  by_cases hpair : o.pair = true
  case neg =>
    simp only [gcomPortPairCreate, hfree, hnumber, hpair, Bool.not_false, if_true] at hok
    cases hok
  obtain ⟨hacquired, hregistered, hcontrol⟩ := with_init_spec m o i n
  rcases hinit : initPair (withPair m i n) o m.pool.next with ⟨x, st | _⟩
  · rw [create_of_init hfree hnumber hpair hinit] at hok
    cases hok
  rw [create_of_init hfree hnumber hpair hinit] at hok ⊢
  rw [withInit, hinit] at hacquired hregistered hcontrol
  have hpublished : Acquired m { x with table := x.table.publish i m.pool.next } m.pool.next :=
    ⟨hacquired.pool, hacquired.locks⟩
  have hunregistered : Unregistered m { x with table := x.table.publish i m.pool.next } :=
    ⟨hregistered.devices, hregistered.serialComm, hregistered.children⟩
  exact create_devices_acquire hpublished hunregistered
    (congrArg PairControl.companionIndex hcontrol) (Prod.ext rfl hok)

/-- A pair that has acquired its devices owns their links. -/
theorem PairAcquired.links {m m' : Machine} {pp : ℕ} {n : ULONG} {owners owners' : ℕ → Prop}
    (hacquired : PairAcquired m m' pp n)
    (h : Owned m.devices.links owners fun pp ↦ deviceLinks (m.pairs pp).portNumber)
    (howners : ∀ qq, owners' qq ↔ qq = pp ∨ owners qq) (hfresh : ¬owners pp)
    (hnumber : (m'.pairs pp).portNumber = n) (hpairs : ∀ qq, owners qq → m'.pairs qq = m.pairs qq) :
    Owned m'.devices.links owners' fun pp ↦ deviceLinks (m'.pairs pp).portNumber := by
  refine h.add ?_ ?_ howners hfresh (by rw [hnumber]) fun qq hqq ↦ by rw [hpairs qq hqq]
  · rw [hacquired.devices]
    ext link
    simp [ObjectNamespace.create, ObjectNamespace.link, deviceLinks, Side.deviceName,
      Side.linkName]
    tauto
  · intro link hlink hmem
    have howned := m.devices.owned link hmem
    rcases Finset.mem_insert.mp hlink with rfl | hlink
    · exact hacquired.free .com howned
    · rw [Finset.mem_singleton.mp hlink] at howned
      exact hacquired.free .companion howned

namespace Machine.OwnedBy

variable {m m' : Machine} {owners owners' : ℕ → Prop} {pp : ℕ}

/-- The devices of a pair exist. -/
theorem device_mem (h : m.OwnedBy owners) (hpp : owners pp) (side : Side) :
    side.deviceName (m.pairs pp).portNumber ∈ m.devices.objects := by
  refine (h.devices.mem_iff _).mpr ⟨pp, hpp, ?_⟩
  cases side <;> simp [deviceNames]

/-- The same pairs, active or not, hold the same things. -/
theorem same (h : m.OwnedBy owners) (howners : ∀ qq, owners' qq ↔ owners qq)
    (hpairs : ∀ qq, owners qq → ∃ active, m'.pairs qq = { m.pairs qq with active := active })
    (hpool : m'.pool.live = m.pool.live) (hlocks : m'.locks.live = m.locks.live)
    (hdevices : m'.devices = m.devices)
    (hcontext : ∀ name ∈ m.devices.objects, m'.context name = m.context name) :
    m'.OwnedBy owners' where
  leads qq hqq side := by
    have hold := (howners qq).mp hqq
    obtain ⟨_, hpair⟩ := hpairs qq hold
    rw [hpair]
    exact (hcontext _ (h.device_mem hold side)).trans (h.leads qq hold side)
  settled qq hqq := by
    have hold := (howners qq).mp hqq
    obtain ⟨_, hpair⟩ := hpairs qq hold
    rw [hpair]
    exact ⟨(h.settled qq hold).refCount, (h.settled qq hold).device⟩
  blocks := by
    rw [hpool]
    refine h.blocks.congr howners fun qq hqq ↦ ?_
    obtain ⟨_, hpair⟩ := hpairs qq hqq
    rw [hpair]
    rfl
  locks := by
    rw [hlocks]
    refine h.locks.congr howners fun qq hqq ↦ ?_
    obtain ⟨_, hpair⟩ := hpairs qq hqq
    rw [hpair]
    rfl
  devices := by
    rw [hdevices]
    refine h.devices.congr howners fun qq hqq ↦ ?_
    obtain ⟨_, hpair⟩ := hpairs qq hqq
    rw [hpair]
  links := by
    rw [hdevices]
    refine h.links.congr howners fun qq hqq ↦ ?_
    obtain ⟨_, hpair⟩ := hpairs qq hqq
    rw [hpair]

/-- A pair that is deactivated still owns its parts. -/
theorem deactivate (h : m.OwnedBy owners) (pp : ℕ) : (deactivate m pp).OwnedBy owners := by
  refine h.same (fun _ ↦ .rfl) (fun qq _ ↦ ?_) rfl rfl rfl fun _ _ ↦ rfl
  by_cases hqq : qq = pp
  · subst hqq
    exact ⟨false, Function.update_self ..⟩
  · exact ⟨(m.pairs qq).active, Function.update_of_ne hqq ..⟩

/-- The table is nobody's part. -/
theorem setTable (h : m.OwnedBy owners) (t : PortTable) :
    ({ m with table := t } : Machine).OwnedBy owners :=
  h.same (fun _ ↦ .rfl) (fun qq _ ↦ ⟨(m.pairs qq).active, rfl⟩) rfl rfl rfl fun _ _ ↦ rfl

/-- A pair that has acquired its parts owns them. -/
theorem acquired (h : m.OwnedBy owners) {n : ULONG} (hacquired : PairAcquired m m' pp n)
    (honly : OnlyPair pp m m')
    (hcontext : ∀ name ∈ m.devices.objects, m'.context name = m.context name)
    (hcontrol : (m'.pairs pp).control = (PortPair.initial n).control)
    (howners : ∀ qq, owners' qq ↔ qq = pp ∨ owners qq) (hfresh : ¬owners pp) :
    m'.OwnedBy owners' := by
  have hpairs (qq : ℕ) (hqq : owners qq) : m'.pairs qq = m.pairs qq :=
    honly qq fun heq ↦ hfresh (heq ▸ hqq)
  have hnumber : (m'.pairs pp).portNumber = n := congrArg PairControl.portNumber hcontrol
  have hnew (b : ℕ) {p q : Pool} {held : Finset ℕ} (hsince : Pool.Since p held q)
      (hb : b ∈ held) : b ∉ p.live :=
    fun hmem ↦ absurd (p.fresh b hmem) (Nat.not_lt.mpr (hsince.held_ge b hb))
  refine ⟨fun qq hqq ↦ ?_, fun qq hqq side ↦ ?_, ?_, ?_, ?_, ?_⟩
  · rcases (howners qq).mp hqq with rfl | hold
    · refine ⟨congrArg PairControl.refCount hcontrol, fun side ↦ ?_⟩
      rw [hnumber]
      exact hacquired.device side
    · rw [hpairs qq hold]
      exact h.settled qq hold
  · rcases (howners qq).mp hqq with rfl | hold
    · rw [hnumber]
      exact hacquired.leads side
    · rw [hpairs qq hold]
      exact (hcontext _ (h.device_mem hold side)).trans (h.leads qq hold side)
  · exact h.blocks.add hacquired.pool.live_eq (fun b hb ↦ hnew b hacquired.pool hb) howners hfresh
      rfl fun qq hqq ↦ by rw [hpairs qq hqq]
  · exact h.locks.add hacquired.locks.live_eq (fun b hb ↦ hnew b hacquired.locks hb) howners hfresh
      rfl fun qq hqq ↦ by rw [hpairs qq hqq]
  · refine h.devices.add ?_ ?_ howners hfresh (by rw [hnumber])
      fun qq hqq ↦ by rw [hpairs qq hqq]
    · rw [hacquired.devices]
      ext name
      simp [ObjectNamespace.create, ObjectNamespace.link, deviceNames, Side.deviceName]
      tauto
    · intro name hname
      rcases Finset.mem_insert.mp hname with rfl | hname
      · exact hacquired.free .com
      · rw [Finset.mem_singleton.mp hname]
        exact hacquired.free .companion
  · exact hacquired.links h.links howners hfresh hnumber hpairs

end Machine.OwnedBy

/-! ## Destroys -/

/-- What destroying a device frees, and what it leaves in the pair. -/
theorem destroy_device_frees {m : Machine} {side : Side} {pp : ℕ} {name : DeviceName}
    (h : ((m.pairs pp).sides side).device = some name) :
    let m' := destroyDevice m side pp
    m'.pool = m.pool.freeOption ((m.pairs pp).sides side).symLinkBuffer ∧ m'.locks = m.locks ∧
      m'.devices = m.devices.delete name ∧
      m'.pairs pp = (m.pairs pp).setSide side ⟨none, none⟩ := by
  intro m'
  unfold m' destroyDevice
  dsimp only
  rw [h]
  refine ⟨?_, rfl, rfl, ?_⟩
  · cases ((m.pairs pp).sides side).symLinkBuffer <;> rfl
  · exact Function.update_self ..

theorem release_pair_only (m : Machine) (pp : ℕ) : OnlyPair pp m (releasePair m pp) := by
  unfold releasePair
  dsimp only
  split <;> exact .of_update rfl

theorem destroy_only (m : Machine) (o : DestroyOutcomes) (pp : ℕ) :
    OnlyPair pp m (gcomPortPairDestroy m o pp) := by
  have hremove : (removeFromTable (deactivate m pp) pp).pairs = (deactivate m pp).pairs := by
    unfold removeFromTable
    split <;> rfl
  have hdeactivate : OnlyPair pp m (deactivate m pp) := .of_update rfl
  -- the two registrations do not touch the pairs
  let x := unregisterComPort (markChildMissing (removeFromTable (deactivate m pp) pp) o pp) o.key pp
  have hfirst : OnlyPair pp m x := hdeactivate.trans (.of_eq hremove)
  exact ((hfirst.trans (destroy_device_only x pp .com)).trans
    (destroy_device_only _ pp .companion)).trans (release_pair_only _ pp)

/-- From `m` to `m'` a pair has given back its parts. -/
structure PairReleased (m m' : Machine) (pp : ℕ) : Prop where
  pool : m'.pool.live = m.pool.live \ (m.pairs pp).blocks pp
  locks : m'.locks.live = m.locks.live \ (m.pairs pp).lockBlocks
  devices : m'.devices = (m.devices.delete (.gcomSerial (m.pairs pp).portNumber)).delete
    (.gcom (m.pairs pp).portNumber)

/-- A pair whose devices are deleted owns no links any more. -/
theorem links_removed {m m' : Machine} {owners owners' : ℕ → Prop} {pp : ℕ}
    (h : Owned m.devices.links owners fun pp ↦ deviceLinks (m.pairs pp).portNumber)
    (hpp : owners pp)
    (hdevices : m'.devices = (m.devices.delete (.gcomSerial (m.pairs pp).portNumber)).delete
      (.gcom (m.pairs pp).portNumber))
    (howners : ∀ qq, owners' qq ↔ qq ≠ pp ∧ owners qq)
    (hparts : ∀ qq, owners qq → qq ≠ pp →
      deviceLinks (m'.pairs qq).portNumber = deviceLinks (m.pairs qq).portNumber) :
    Owned m'.devices.links owners' fun pp ↦ deviceLinks (m'.pairs pp).portNumber := by
  refine h.remove hpp ?_ howners hparts
  rw [hdevices]
  ext link
  simp only [ObjectNamespace.delete, Finset.mem_filter, Finset.mem_sdiff]
  -- every link is one of a pair's, so that it leads to the device its name says
  constructor
  · rintro ⟨⟨hmem, hserial⟩, hgcom⟩
    refine ⟨hmem, fun hlink ↦ ?_⟩
    rcases Finset.mem_insert.mp hlink with rfl | hlink
    · exact hserial rfl
    · rw [Finset.mem_singleton.mp hlink] at hgcom
      exact hgcom rfl
  · rintro ⟨hmem, hlink⟩
    obtain ⟨qq, -, howned⟩ := (h.mem_iff link).mp hmem
    rw [mem_device_links howned, deviceNames, Finset.mem_insert, Finset.mem_singleton,
      not_or] at hlink
    exact ⟨⟨hmem, hlink.1⟩, hlink.2⟩

/-- A pair that has released its parts owns nothing any more. -/
theorem Machine.OwnedBy.released {m m' : Machine} {owners owners' : ℕ → Prop} {pp : ℕ}
    (h : m.OwnedBy owners) (hpp : owners pp) (hreleased : PairReleased m m' pp)
    (honly : OnlyPair pp m m') (hcontext : m'.context = m.context)
    (howners : ∀ qq, owners' qq ↔ qq ≠ pp ∧ owners qq) : m'.OwnedBy owners' := by
  refine ⟨fun qq hqq ↦ ?_, fun qq hqq side ↦ ?_, ?_, ?_, ?_, ?_⟩
  · obtain ⟨hne, hold⟩ := (howners qq).mp hqq
    rw [honly qq hne]
    exact h.settled qq hold
  · obtain ⟨hne, hold⟩ := (howners qq).mp hqq
    rw [honly qq hne, hcontext]
    exact h.leads qq hold side
  · exact h.blocks.remove hpp hreleased.pool howners fun qq _ hne ↦ by rw [honly qq hne]
  · exact h.locks.remove hpp hreleased.locks howners fun qq _ hne ↦ by rw [honly qq hne]
  · refine h.devices.remove hpp ?_ howners fun qq _ hne ↦ by rw [honly qq hne]
    rw [hreleased.devices]
    ext name
    simp [ObjectNamespace.delete, deviceNames, Side.deviceName]
    tauto
  · exact links_removed h.links hpp hreleased.devices howners fun qq _ hne ↦ by rw [honly qq hne]

/-! ## Failed creates -/

/-- A device is refused, or its create gets to its end. -/
def DeviceOutcomes.Atomic (o : DeviceOutcomes) (m : Machine) (others : LinkName → Bool)
    (name : DeviceName) (link : LinkName) : Prop :=
  o.Refused m name ∨ o.Completes m others name link

instance (o : DeviceOutcomes) (m : Machine) (others : LinkName → Bool) (name : DeviceName)
    (link : LinkName) : Decidable (o.Atomic m others name link) :=
  have : Decidable (o.Refused m name) := inferInstanceAs (Decidable (_ ∨ _ ∨ _ ∨ _))
  inferInstanceAs (Decidable (_ ∨ ¬_ ∧ _ ∧ _ ∧ _ ∧ _))

/-- No device is left behind half created. -/
def CreateOutcomes.Clean (o : CreateOutcomes) (m : Machine) (requestedPortNumber : ULONG) : Prop :=
  ∀ portNumber, choosePortNumber m o.others requestedPortNumber = .ok portNumber →
    o.com.Atomic m o.others (.gcomSerial portNumber) (.com portNumber) ∧
      o.companion.Atomic m o.others (.gcom portNumber) (.gcom portNumber)

/-- The COM device takes no name from the companion device. -/
theorem companion_completes_iff {m x : Machine} {o : CreateOutcomes} {n : ULONG}
    (hdevices : x.devices = (m.devices.create (.gcomSerial n)).link (.gcomSerial n) (.com n)) :
    (o.companion.Refused x (.gcom n) ↔ o.companion.Refused m (.gcom n)) ∧
      (o.companion.Completes x o.others (.gcom n) (.gcom n) ↔
        o.companion.Completes m o.others (.gcom n) (.gcom n)) := by
  have hnames : (.gcom n : DeviceName) ∈ x.devices.objects ↔ .gcom n ∈ m.devices.objects := by
    rw [hdevices]
    simp [ObjectNamespace.link, ObjectNamespace.create]
  have hlinks : x.linkExists o.others (.gcom n) = m.linkExists o.others (.gcom n) := by
    unfold Machine.linkExists
    rw [hdevices, ObjectNamespace.hasLink_link (by simp)]
    rfl
  refine ⟨refused_congr hnames, ?_⟩
  rw [DeviceOutcomes.Completes, DeviceOutcomes.Completes, refused_congr hnames, hlinks]

namespace TableOk

variable {m : Machine}

/-- The first loop of the cleanup collects each pair that it takes out of the table once. -/
theorem collect_pairs_listed (h : TableOk m) (indices : List ℕ) :
    let result := collectPairs m indices
    result.1 = { m with table := result.1.table } ∧ result.2.Nodup ∧
      ∀ pp, m.Listed pp ↔ result.1.Listed pp ∨ pp ∈ result.2 := by
  induction indices generalizing m with
  | nil => exact ⟨rfl, .nil, fun pp ↦ ⟨.inl, fun hpp ↦ hpp.resolve_right (List.not_mem_nil)⟩⟩
  | cons i rest ih =>
      dsimp only
      rw [collectPairs]
      split
      · next pp hslot =>
          rw [if_pos (h.real pp (List.mem_of_getElem? hslot)).1]
          have hcleared : TableOk { m with table := m.table.clear i } :=
            h.cleared (((Frame.refl m).kept pp).setTable _) hslot rfl
          obtain ⟨heq, hnodup, hlisted⟩ := ih hcleared
          have hmem (qq : ℕ) : qq ≠ pp ∧ m.Listed qq ↔ _ :=
            (h.mem_clear hslot).symm.trans (hlisted qq)
          refine ⟨heq, List.nodup_cons.mpr ⟨fun hpp ↦ ?_, hnodup⟩, fun qq ↦ ?_⟩
          · exact ((hmem pp).mpr (.inr hpp)).1 rfl
          · rw [List.mem_cons, or_left_comm, ← hmem qq]
            by_cases hqq : qq = pp
            · exact iff_of_true (hqq ▸ List.mem_of_getElem? hslot) (.inl hqq)
            · exact ⟨fun hold ↦ .inr ⟨hqq, hold⟩, fun hold ↦ (hold.resolve_left hqq).2⟩
      · exact ih h

/-- After the first loop no pair is listed. -/
theorem collect_pairs_empty (h : TableOk m) (pp : ℕ) :
    ¬(collectPairs m (List.range gcomMaxPorts)).1.Listed pp := by
  obtain ⟨-, -, hnone, -⟩ := h.collect_pairs (List.range gcomMaxPorts)
  intro hpp
  obtain ⟨i, hi⟩ := PortTable.mem_iff_at.mp hpp
  refine hnone i ?_ pp hi
  rw [List.mem_range, ← (collectPairs m (List.range gcomMaxPorts)).1.table.size]
  exact (List.getElem?_eq_some_iff.mp hi).1

/-- After the cleanup no pair is listed. -/
theorem cleanup_lists_none (h : TableOk m) (o : ℕ → DestroyOutcomes) (pp : ℕ) :
    ¬(gcomEvtSelfManagedIoCleanup m o).Listed pp := by
  intro hpp
  have hcleaned := (h.cleanup o).cleaned rfl _ hpp
  cases hcleaned

end TableOk

/-- A create of this event leaves no device behind half created. -/
def ControlEvent.Clean (m : Machine) : ControlEvent → Prop
  | .request _ _ (.createPort portNumber o) => o.Clean m portNumber
  | _ => True

/-- The same for every event of a run. -/
def Machine.Clean (m : Machine) : List ControlEvent → Prop
  | [] => True
  | event :: rest => event.Clean m ∧ (m.serve event).Clean rest

/-- An event creates a pair, destroys one that it has found, cleans up, or changes nothing. -/
theorem serve_cases {m : Machine} {P : Machine → Prop} (event : ControlEvent) (hsame : P m)
    (hcreate : ∀ wdf req portNumber o, event = .request wdf req (.createPort portNumber o) →
      P (gcomPortPairCreate m o portNumber).1)
    (hdestroy : ∀ wdf req companionIndex o i pp,
      event = .request wdf req (.destroyPort companionIndex o) → m.table.At i pp →
        P (gcomPortPairDestroy (deactivate { m with table := m.table.clear i } pp) o pp))
    (hcleanup : ∀ o, event = .cleanup o → P (gcomEvtSelfManagedIoCleanup m o)) :
    P (m.serve event) := by
  cases event with
  | cleanup o => exact hcleanup o rfl
  | request wdf req request =>
      generalize hresult : gcomControlIoDeviceControl m wdf req request = result
      have hserve : m.serve (.request wdf req request) = result.1 := congrArg Prod.fst hresult
      rw [hserve]
      unfold gcomControlIoDeviceControl at hresult
      split at hresult
      · subst hresult
        exact hsame
      cases request with
      | createPort portNumber o =>
          have hcreated := hcreate wdf req portNumber o rfl
          dsimp only at hresult
          unfold gcomHandleCreatePort at hresult
          split at hresult
          · subst hresult
            exact hsame
          split at hresult
          · subst hresult
            exact hsame
          split at hresult <;> next heq =>
            rw [heq] at hcreated
            subst hresult
            exact hcreated
      | destroyPort companionIndex o =>
          dsimp only at hresult
          unfold gcomHandleDestroyPort at hresult
          split at hresult
          · subst hresult
            exact hsame
          split at hresult
          · subst hresult
            exact hsame
          · next i pp hfind =>
              subst hresult
              exact hdestroy wdf req companionIndex o i pp rfl (find_pair hfind).1
      | listPorts | getVersion | unknown =>
          subst hresult
          exact hsame

end GhostCom
