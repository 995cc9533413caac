import GhostCom.Driver.ComIoctl
import GhostCom.PortTable.Create

/-!
# Control requests

`GcomPortPairDestroy`, the handlers of the control device and `GcomEvtSelfManagedIoCleanup`. The
control queue is sequential, so each request is served as a whole. The cleanup deletes the control
device and clears `g_DevCtx`; a request that arrives afterwards finds no device context.
-/

namespace GhostCom

/-- The outcomes of a destroy: whether the FDO has a child list, the removal of the child
description, and the removal of the `SERIALCOMM` value. -/
structure DestroyOutcomes where
  childList : Bool
  markMissing : Outcome
  key : KeyOutcomes

/-- Clear `Active`. -/
def deactivate (m : Machine) (pp : ℕ) : Machine :=
  m.setPair pp ({ · with active := false })

/-- Report the child description of a pair as missing. -/
def markChildMissing (m : Machine) (o : DestroyOutcomes) (pp : ℕ) : Machine :=
  { m with
    children :=
      if o.childList && o.markMissing.isOk then m.children.erase (m.pairs pp).portNumber
      else m.children }

/-- The loop of `GcomPortPairDestroy` that removes a pair from the table, if it is still there. -/
def removeFromTable (m : Machine) (pp : ℕ) : Machine :=
  match m.table.slots.findIdx? (· == some (.pair pp)) with
  | some i => { m with table := m.table.clear i }
  | none => m

/-- The end of `GcomPortPairDestroy`: the rings are freed, the locks deleted and the creation
reference released. -/
def releasePair (m : Machine) (pp : ℕ) : Machine :=
  let record := m.pairs pp
  let m := m.exFreePool record.comToCompanionBuffer
  let m := m.exFreePool record.companionToComBuffer
  let m := m.wdfLockDelete record.dataLock
  let m := m.wdfLockDelete record.signalLock
  let (pair, freed) := portPairTeardown record.toPortPair
  let m := m.setPair pp fun record ↦
    { record with
      toPortPair := pair
      comToCompanionBuffer := none
      companionToComBuffer := none
      signalLock := none
      dataLock := none }
  if freed then m.exFreePool (some pp) else m

/-- `GcomPortPairDestroy`. -/
def gcomPortPairDestroy (m : Machine) (o : DestroyOutcomes) (pp : ℕ) : Machine :=
  let m := deactivate m pp
  let m := removeFromTable m pp
  let m := markChildMissing m o pp
  let m := gcomComPortDestroy m o.key pp
  let m := gcomCompanionDestroy m pp
  releasePair m pp

/-- `GCOM_PORT_INFO`. -/
structure PortInfo where
  portNumber : ULONG
  companionIndex : ULONG
  comSideOpen : ULONG
  companionSideOpen : ULONG
deriving DecidableEq, Repr

/-- What a control request that succeeds returns. -/
inductive ControlOutput where
  | created (portNumber companionIndex : ULONG)
  | destroyed
  | ports (entries : List PortInfo)
  | version (major minor patch protocolMajor protocolMinor : BitVec 16)
deriving DecidableEq, Repr

/-- A control request is completed with an output or with an error status. -/
abbrev ControlReply := Except ErrorStatus ControlOutput

/-- A buffer of a control request; a handler returns its own status when it cannot be used. -/
def controlBuffer (wdf : Wdf) (id : RequestId) (minimum length : ℕ) (st : ErrorStatus) : Outcome :=
  match retrieveBuffer wdf id minimum length with
  | .ok () => .ok ()
  | .error _ => .error st

/-- The statuses of the control handlers. -/
def invalidParameter : ErrorStatus := ⟨.invalidParameter, nofun⟩
def notFound : ErrorStatus := ⟨.notFound, nofun⟩
def bufferTooSmall : ErrorStatus := ⟨.bufferTooSmall, buffer_too_small_ne_success⟩
def deviceNotConnected : ErrorStatus := ⟨.deviceNotConnected, nofun⟩
def invalidDeviceRequest : ErrorStatus := ⟨.invalidDeviceRequest, nofun⟩

/-- `GcomHandleCreatePort`. -/
def gcomHandleCreatePort (m : Machine) (wdf : Wdf) (req : IoctlRequest) (o : CreateOutcomes)
    (portNumber : ULONG) : Machine × ControlReply :=
  match controlBuffer wdf req.id 4 req.inputLength invalidParameter with
  | .error st => (m, .error st)
  | .ok () =>
    match controlBuffer wdf req.id 8 req.outputLength invalidParameter with
    | .error st => (m, .error st)
    | .ok () =>
      match gcomPortPairCreate m o portNumber with
      | (m, .error st) => (m, .error st)
      | (m, .ok pp) =>
          (m, .ok (.created (m.pairs pp).portNumber (m.pairs pp).companionIndex))

/-- The search of `GcomHandleDestroyPort`: the slot and the pair of a companion index. -/
def findPair (m : Machine) (companionIndex : ULONG) : Option (ℕ × ℕ) :=
  match m.table.slots.findIdx? (m.entryMatches (·.companionIndex == companionIndex)) with
  | none => none
  | some i =>
    match m.table.slots[i]? with
    | some (some (.pair pp)) => some (i, pp)
    | _ => none

/-- `GcomHandleDestroyPort`. -/
def gcomHandleDestroyPort (m : Machine) (wdf : Wdf) (req : IoctlRequest) (o : DestroyOutcomes)
    (companionIndex : ULONG) : Machine × ControlReply :=
  match controlBuffer wdf req.id 4 req.inputLength invalidParameter with
  | .error st => (m, .error st)
  | .ok () =>
    match findPair m companionIndex with
    | none => (m, .error notFound)
    | some (i, pp) =>
      let m := deactivate { m with table := m.table.clear i } pp
      (gcomPortPairDestroy m o pp, .ok .destroyed)

/-- The description of an entry in `GcomHandleListPorts`, if it is valid and active. -/
def portInfo (m : Machine) : Option PortEntry → Option PortInfo
  | some (.pair pp) =>
      let pair := m.pairs pp
      if pair.active then
        some ⟨pair.portNumber, pair.companionIndex, boolean (isTrue pair.comSideOpen),
          boolean (isTrue pair.companionSideOpen)⟩
      else none
  | _ => none

/-- `GcomHandleListPorts`: the header has 4 bytes and each description 16. -/
def gcomHandleListPorts (m : Machine) (wdf : Wdf) (req : IoctlRequest) : ControlReply :=
  match controlBuffer wdf req.id 4 req.outputLength bufferTooSmall with
  | .error st => .error st
  | .ok () =>
      let maxEntries := (req.outputLength - 4) / 16
      .ok (.ports ((m.table.slots.filterMap (portInfo m)).take maxEntries))

/-- `GcomHandleGetVersion`. -/
def gcomHandleGetVersion (wdf : Wdf) (req : IoctlRequest) : ControlReply :=
  match controlBuffer wdf req.id 12 req.outputLength bufferTooSmall with
  | .error st => .error st
  | .ok () => .ok (.version 0 1 0 1 0)

/-- The control IOCTLs, with their input and the outcomes of what they ask for. -/
inductive ControlRequest where
  | createPort (portNumber : ULONG) (o : CreateOutcomes)
  | destroyPort (companionIndex : ULONG) (o : DestroyOutcomes)
  | listPorts
  | getVersion
  | unknown

/-- `GcomControlIoDeviceControl`. -/
def gcomControlIoDeviceControl (m : Machine) (wdf : Wdf) (req : IoctlRequest)
    (request : ControlRequest) : Machine × ControlReply :=
  if !m.controlDevice then (m, .error deviceNotConnected)
  else
    match request with
    | .createPort portNumber o => gcomHandleCreatePort m wdf req o portNumber
    | .destroyPort companionIndex o => gcomHandleDestroyPort m wdf req o companionIndex
    | .listPorts => (m, gcomHandleListPorts m wdf req)
    | .getVersion => (m, gcomHandleGetVersion wdf req)
    | .unknown => (m, .error invalidDeviceRequest)

/-- The first loop of `GcomEvtSelfManagedIoCleanup` over the given slots: the table is emptied of
active pairs, which are collected. -/
def collectPairs (m : Machine) : List ℕ → Machine × List ℕ
  | [] => (m, [])
  | i :: rest =>
    match m.table.slots[i]? with
    | some (some (.pair pp)) =>
        if (m.pairs pp).active then
          let (m, toDestroy) := collectPairs { m with table := m.table.clear i } rest
          (m, pp :: toDestroy)
        else collectPairs m rest
    | _ => collectPairs m rest

/-- The second loop: every collected pair is destroyed. -/
def destroyPairs (m : Machine) (o : ℕ → DestroyOutcomes) : List ℕ → Machine
  | [] => m
  | pp :: rest =>
      destroyPairs (gcomPortPairDestroy (deactivate m pp) (o pp) pp) o rest

/-- `GcomEvtSelfManagedIoCleanup`. -/
def gcomEvtSelfManagedIoCleanup (m : Machine) (o : ℕ → DestroyOutcomes) : Machine :=
  let (m, toDestroy) := collectPairs m (List.range gcomMaxPorts)
  let m := destroyPairs m o toDestroy
  { m with controlDevice := false }

end GhostCom
