import GhostCom.PortTable.Machine

/-!
# Creating a port pair

`GcomPortPairCreate` with `GcomFindFreePortNumber`, `GcomComPortCreate` and `GcomCompanionCreate`,
and the functions its failure paths call. Everything asked of the framework, the pool and the
registry has an outcome, fixed for the call by a `CreateOutcomes`; every function returns the state
it leaves, also when it fails.
-/

namespace GhostCom

/-- The outcomes of creating one device: the allocation of its init structure, the assignment of its
name, `WdfDeviceCreate`, the default queue and the three manual ones, the buffer of the link name,
and the symbolic link. -/
structure DeviceOutcomes where
  initAllocate : Bool
  assignName : Outcome
  deviceCreate : Outcome
  queueCreate : Fin 4 → Outcome
  symLinkBuffer : Bool
  createSymbolicLink : Outcome

/-- The outcomes of removing a value from `SERIALCOMM`. -/
structure KeyOutcomes where
  openKey : Bool
  deleteValue : Bool

/-- The outcomes of a create. `others` are the links of other drivers and of crashed sessions,
`setValue` is the outcome of `ZwSetValueKey`, `childList` says whether the FDO has a child list, and
`destroy` is used when the COM device is destroyed again. -/
structure CreateOutcomes where
  others : LinkName → Bool
  pair : Bool
  comToCompanion : Bool
  companionToCom : Bool
  signalLock : Outcome
  dataLock : Outcome
  com : DeviceOutcomes
  createKey : Bool
  setValue : Bool
  childList : Bool
  addChild : Outcome
  companion : DeviceOutcomes
  destroy : KeyOutcomes

/-- `STATUS_INSUFFICIENT_RESOURCES` and `STATUS_OBJECT_NAME_COLLISION` as errors. -/
def insufficientResources : ErrorStatus := ⟨.insufficientResources, nofun⟩
def objectNameCollision : ErrorStatus := ⟨.objectNameCollision, object_name_collision_ne_success⟩

/-- The outcome of an allocation. -/
def allocated (success : Bool) : Outcome :=
  if success then .ok () else .error insufficientResources

/-- Go on with the state that a call leaves if it succeeds, return its error if it does not. -/
def andThen (result : Machine × Outcome) (next : Machine → Machine × Outcome) :
    Machine × Outcome :=
  match result.2 with
  | .error st => (result.1, .error st)
  | .ok () => next result.1

/-- The port numbers `GcomFindFreePortNumber` tries, in order. -/
def candidates : List ULONG := (List.range' 1 255).map (BitVec.ofNat 32)

/-- `GcomFindFreePortNumber`; the device name it formats is not checked. -/
def gcomFindFreePortNumber (m : Machine) (others : LinkName → Bool) : ULONG :=
  (candidates.find? fun candidate ↦
    !m.portInUse candidate && !m.linkExists others (.com candidate) &&
      !m.linkExists others (.gcom candidate)).getD 0

/-- The part of `GcomPortPairCreate` that determines the port number. -/
def choosePortNumber (m : Machine) (others : LinkName → Bool) (requestedPortNumber : ULONG) :
    Except ErrorStatus ULONG :=
  if requestedPortNumber ≠ 0 then
    if m.portInUse requestedPortNumber then .error objectNameCollision
    else if m.linkExists others (.com requestedPortNumber) then .error objectNameCollision
    else .ok requestedPortNumber
  else
    let portNumber := gcomFindFreePortNumber m others
    if portNumber = 0 then .error insufficientResources else .ok portNumber

/-- The default queue and the manual queues, in order, up to the first that fails. -/
def createQueues (queueCreate : Fin 4 → Outcome) : Outcome := do
  queueCreate 0
  queueCreate 1
  queueCreate 2
  queueCreate 3

/-- The handles of a side of a pair. -/
def PairRecord.setSide (pp : PairRecord) (side : Side) (handles : SideHandles) : PairRecord :=
  { pp with sides := Function.update pp.sides side handles }

/-- Create the device of a side and store it in the pair, and the pair in its context. -/
def createNamedDevice (m : Machine) (side : Side) (n : ULONG) (pp : ℕ) (o : DeviceOutcomes) :
    Machine × Outcome :=
  match m.wdfDeviceCreate (side.deviceName n) o.deviceCreate with
  | .error st => (m, .error st)
  | .ok m =>
      ({ m with context := Function.update m.context (side.deviceName n) pp }
        |>.setPair pp (·.setSide side ⟨some (side.deviceName n), none⟩), .ok ())

/-- Allocate the buffer of the link name and create the link; the buffer is freed again if the link
cannot be created. -/
def createSymLink (m : Machine) (others : LinkName → Bool) (side : Side) (n : ULONG) (pp : ℕ)
    (o : DeviceOutcomes) : Machine × Outcome :=
  if !o.symLinkBuffer then (m, .error insufficientResources)
  else
    let buffer := m.pool.next
    let m := { m with pool := m.pool.alloc }
    match m.wdfDeviceCreateSymbolicLink others (side.deviceName n) (side.linkName n)
        o.createSymbolicLink with
    | .error st => (m.exFreePool (some buffer), .error st)
    | .ok m => (m.setPair pp (·.setSide side ⟨some (side.deviceName n), some buffer⟩), .ok ())

/-- The body shared by `GcomComPortCreate` and `GcomCompanionCreate`. Once the device exists, its
failure paths return without deleting it. -/
def createDevice (m : Machine) (others : LinkName → Bool) (side : Side) (n : ULONG) (pp : ℕ)
    (o : DeviceOutcomes) : Machine × Outcome :=
  andThen (m, allocated o.initAllocate) fun m ↦
    andThen (m, o.assignName) fun m ↦
      andThen (createNamedDevice m side n pp o) fun m ↦
        andThen (m, createQueues o.queueCreate) fun m ↦ createSymLink m others side n pp o

/-- The end of `GcomComPortCreate`: the value in `SERIALCOMM` and the child description are
registered if that succeeds; the create goes on if it does not. -/
def registerComPort (m : Machine) (o : CreateOutcomes) (portNumber : ULONG) : Machine :=
  { m with
    serialComm :=
      if o.createKey && o.setValue then insert portNumber m.serialComm else m.serialComm
    children :=
      if o.childList && o.addChild.isOk then insert portNumber m.children else m.children }

/-- `GcomComPortCreate`. -/
def gcomComPortCreate (m : Machine) (o : CreateOutcomes) (pp : ℕ) (portNumber : ULONG) :
    Machine × Outcome :=
  andThen (createDevice m o.others .com portNumber pp o.com) fun m ↦
    (registerComPort m o portNumber, .ok ())

/-- `GcomCompanionCreate`. -/
def gcomCompanionCreate (m : Machine) (o : CreateOutcomes) (pp : ℕ) : Machine × Outcome :=
  createDevice m o.others .companion (m.pairs pp).companionIndex pp o.companion

/-- The body shared by `GcomComPortDestroy` and `GcomCompanionDestroy`: free the buffer of the link
name, delete the device. -/
def destroyDevice (m : Machine) (side : Side) (pp : ℕ) : Machine :=
  let handles := (m.pairs pp).sides side
  let m := m.exFreePool handles.symLinkBuffer
  let m := match handles.device with
    | some name => m.wdfDeviceDelete name
    | none => m
  m.setPair pp (·.setSide side ⟨none, none⟩)

/-- Remove the value of a pair from `SERIALCOMM`, if the key can be opened. -/
def unregisterComPort (m : Machine) (o : KeyOutcomes) (pp : ℕ) : Machine :=
  { m with
    serialComm :=
      if o.openKey && o.deleteValue then m.serialComm.erase (m.pairs pp).portNumber
      else m.serialComm }

/-- `GcomComPortDestroy`. -/
def gcomComPortDestroy (m : Machine) (o : KeyOutcomes) (pp : ℕ) : Machine :=
  destroyDevice (unregisterComPort m o pp) .com pp

/-- `GcomCompanionDestroy`. -/
def gcomCompanionDestroy (m : Machine) (pp : ℕ) : Machine := destroyDevice m .companion pp

/-- `GcomRingInit` of a ring of a pair. -/
def initRing (m : Machine) (success : Bool) (pp : ℕ) (store : PairRecord → ℕ → PairRecord) :
    Machine × Outcome :=
  if !success then (m, .error insufficientResources)
  else ({ m with pool := m.pool.alloc }.setPair pp (store · m.pool.next), .ok ())

/-- `WdfSpinLockCreate` of a lock of a pair. -/
def createLock (m : Machine) (outcome : Outcome) (pp : ℕ) (store : PairRecord → ℕ → PairRecord) :
    Machine × Outcome :=
  match outcome with
  | .error st => (m, .error st)
  | .ok () => ({ m with locks := m.locks.alloc }.setPair pp (store · m.locks.next), .ok ())

/-- The rings and the locks of a new pair. -/
def initPair (m : Machine) (o : CreateOutcomes) (pp : ℕ) : Machine × Outcome :=
  andThen (initRing m o.comToCompanion pp fun record buffer ↦
      { record with comToCompanionBuffer := some buffer }) fun m ↦
    andThen (initRing m o.companionToCom pp fun record buffer ↦
        { record with companionToComBuffer := some buffer }) fun m ↦
      andThen (createLock m o.signalLock pp fun record lock ↦
          { record with signalLock := some lock }) fun m ↦
        createLock m o.dataLock pp fun record lock ↦ { record with dataLock := some lock }

/-- The label `fail_alloc`. -/
def failAlloc (m : Machine) (slotIndex pp : ℕ) : Machine :=
  let record := m.pairs pp
  let m := m.wdfLockDelete record.dataLock
  let m := m.wdfLockDelete record.signalLock
  let m := m.exFreePool record.companionToComBuffer
  let m := m.exFreePool record.comToCompanionBuffer
  let m :=
    if m.table.slots[slotIndex]? = some (some .reserved) then
      { m with table := m.table.clear slotIndex }
    else m
  m.exFreePool (some pp)

/-- The label `fail_cleanup`, which falls through to `fail_alloc`. -/
def failCleanup (m : Machine) (slotIndex pp : ℕ) : Machine :=
  failAlloc { m with table := m.table.clear slotIndex } slotIndex pp

/-- `GcomPortPairCreate` from the moment the pair is initialised and stored in the table. -/
def createDevices (m : Machine) (o : CreateOutcomes) (slotIndex pp : ℕ) (portNumber : ULONG) :
    Machine × Except ErrorStatus ℕ :=
  match gcomComPortCreate m o pp portNumber with
  | (m, .error st) => (failCleanup m slotIndex pp, .error st)
  | (m, .ok ()) =>
    match gcomCompanionCreate m o pp with
    | (m, .error st) => (failCleanup (gcomComPortDestroy m o.destroy pp) slotIndex pp, .error st)
    | (m, .ok ()) => (m, .ok pp)

/-- `GcomPortPairCreate`. -/
def gcomPortPairCreate (m : Machine) (o : CreateOutcomes) (requestedPortNumber : ULONG) :
    Machine × Except ErrorStatus ℕ :=
  match m.table.firstFree with
  | none => (m, .error insufficientResources)
  | some slotIndex =>
    match choosePortNumber m o.others requestedPortNumber with
    | .error st => (m, .error st)
    | .ok portNumber =>
      let m := { m with table := m.table.reserve slotIndex }
      if !o.pair then
        ({ m with table := m.table.clear slotIndex }, .error insufficientResources)
      else
        let pp := m.pool.next
        let m := { m with pool := m.pool.alloc }
        let m := m.setPair pp fun _ ↦ .initial portNumber
        match initPair m o pp with
        | (m, .error st) => (failAlloc m slotIndex pp, .error st)
        | (m, .ok ()) =>
          createDevices { m with table := m.table.publish slotIndex pp } o slotIndex pp portNumber

end GhostCom
