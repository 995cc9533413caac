import Mathlib.Logic.Function.Basic
import GhostCom.Driver.FileEvents
import GhostCom.Library.ObjectNamespace
import GhostCom.Library.Pool
import GhostCom.Library.SlotTable

/-!
# The driver's global state

The port table with the pairs it points to, and what the driver owns outside of it: pool blocks, WDF
lock objects, named devices with their symbolic links, the values of the `SERIALCOMM` key and the
child descriptions reported to PnP. Pointers are pool blocks. A number stands for the names that are
built from it.
-/

namespace GhostCom

/-- `GCOM_MAX_PORTS`. -/
def gcomMaxPorts : ℕ := 64

/-- A table entry that is not `NULL`: the sentinel `GCOM_PORT_RESERVED` or a pair. -/
inductive PortEntry where
  | reserved
  | pair (pp : ℕ)
deriving DecidableEq, Repr

/-- What has happened to the table: a pair was stored in it, or an entry was replaced by `NULL` when
`PortCount` had the given value. -/
inductive TableEvent where
  | published (pp : ℕ)
  | cleared (entry : Option PortEntry) (portCount : ULONG)
deriving DecidableEq, Repr

/-- `Ports` and `PortCount`, with a record of the changes. -/
structure PortTable extends SlotTable PortEntry 32 gcomMaxPorts where
  history : List TableEvent

namespace PortTable

/-- No port has been created yet. -/
def initial : PortTable := ⟨.empty, []⟩

/-- Reserve a slot. -/
def reserve (t : PortTable) (i : ℕ) : PortTable := { t with toSlotTable := t.occupy i .reserved }

/-- Replace the sentinel in a slot by the pair. -/
def publish (t : PortTable) (i pp : ℕ) : PortTable where
  toSlotTable := t.replace i (.pair pp)
  history := t.history ++ [.published pp]

/-- Set a slot to `NULL` and decrement `PortCount`. -/
def clear (t : PortTable) (i : ℕ) : PortTable where
  toSlotTable := t.vacate i
  history := t.history ++ [.cleared (t.slots[i]?).join t.count]

end PortTable

/-- The device names `\Device\GCOMSerial<N>` and `\Device\GCOM<N>`. -/
inductive DeviceName where
  | gcomSerial (portNumber : ULONG)
  | gcom (companionIndex : ULONG)
deriving DecidableEq, Repr

/-- The link names `\DosDevices\COM<N>` and `\DosDevices\GCOM<N>`. -/
inductive LinkName where
  | com (portNumber : ULONG)
  | gcom (companionIndex : ULONG)
deriving DecidableEq, Repr

/-- The name of the device of a side. -/
def Side.deviceName : Side → ULONG → DeviceName
  | .com, n => .gcomSerial n
  | .companion, n => .gcom n

/-- The symbolic link of the device of a side. -/
def Side.linkName : Side → ULONG → LinkName
  | .com, n => .com n
  | .companion, n => .gcom n

/-- What a pair owns for one of its devices: `ComDevice` and the buffer of `ComSymLink`, or
`CompanionDevice` and the buffer of `CompSymLink`. -/
structure SideHandles where
  device : Option DeviceName
  symLinkBuffer : Option ℕ
deriving DecidableEq, Repr

/-- `GCOM_PORT_PAIR` with what it points to: the buffers of its rings, its locks, and its devices
with the buffers of their link names. -/
structure PairRecord extends PortPair where
  comToCompanionBuffer : Option ℕ
  companionToComBuffer : Option ℕ
  signalLock : Option ℕ
  dataLock : Option ℕ
  sides : Side → SideHandles

/-- A pair right after its allocation. -/
def PairRecord.initial (portNumber : ULONG) : PairRecord where
  toPortPair := .initial portNumber
  comToCompanionBuffer := none
  companionToComBuffer := none
  signalLock := none
  dataLock := none
  sides _ := ⟨none, none⟩

/-- The global state. `pairs` is the memory pair pointers point into, `context` is the pair in the
context of a device, and `controlDevice` says whether the control device and `g_DevCtx` are set. -/
structure Machine where
  table : PortTable
  pairs : ℕ → PairRecord
  pool : Pool
  locks : Pool
  devices : ObjectNamespace DeviceName LinkName
  context : DeviceName → ℕ
  serialComm : Finset ULONG
  children : Finset ULONG
  controlDevice : Bool

namespace Machine

/-- The state when the control device has been created. -/
def initial : Machine where
  table := .initial
  pairs _ := .initial 0
  pool := .empty
  locks := .empty
  devices := .empty
  context _ := 0
  serialComm := ∅
  children := ∅
  controlDevice := true

variable (m : Machine)

/-- Change a pair. -/
def setPair (pp : ℕ) (f : PairRecord → PairRecord) : Machine :=
  { m with pairs := Function.update m.pairs pp (f (m.pairs pp)) }

/-- The pair of a valid entry (`GCOM_PORT_IS_VALID`) that is active and satisfies the condition. -/
def entryMatches (p : PairRecord → Bool) : Option PortEntry → Bool
  | some (.pair pp) => (m.pairs pp).active && p (m.pairs pp)
  | _ => false

/-- Whether the table has an active pair with the port number. -/
def portInUse (portNumber : ULONG) : Bool :=
  m.table.slots.any (m.entryMatches (·.portNumber == portNumber))

/-- Whether a link can be opened: one of the driver's own, or one of those `others` created. -/
def linkExists (others : LinkName → Bool) (link : LinkName) : Bool :=
  m.devices.hasLink link || others link

/-- `WdfDeviceCreate` of a named device: a name that exists is refused, any other failure is the
framework's. -/
def wdfDeviceCreate (name : DeviceName) (outcome : Outcome) : Except ErrorStatus Machine :=
  if name ∈ m.devices.objects then
    .error ⟨.objectNameCollision, object_name_collision_ne_success⟩
  else outcome.map fun _ ↦ { m with devices := m.devices.create name }

/-- `WdfDeviceCreateSymbolicLink`: likewise for the name of the link. -/
def wdfDeviceCreateSymbolicLink (others : LinkName → Bool) (name : DeviceName) (link : LinkName)
    (outcome : Outcome) : Except ErrorStatus Machine :=
  if m.linkExists others link then
    .error ⟨.objectNameCollision, object_name_collision_ne_success⟩
  else outcome.map fun _ ↦ { m with devices := m.devices.link name link }

/-- `WdfObjectDelete` of a device, which deletes its queues and links. -/
def wdfDeviceDelete (name : DeviceName) : Machine :=
  { m with devices := m.devices.delete name }

/-- `WdfObjectDelete` of a lock that may be `NULL`. -/
def wdfLockDelete (lock : Option ℕ) : Machine :=
  { m with locks := m.locks.freeOption lock }

/-- `ExFreePoolWithTag` of a block that may be `NULL`. -/
def exFreePool (block : Option ℕ) : Machine :=
  { m with pool := m.pool.freeOption block }

end Machine

end GhostCom
