import GhostCom.Library.Transition
import GhostCom.PortTable.Table

/-!
# Processes that use the driver

`createPort` with `tryHealZombie`, `VirtualPort.destroy`, and the native calls under them, in any
number of processes. Both functions run without a suspension, so a process is inside at most one of
them; a step is one native call of one process, or the end of a process or of one of its handles at
any moment. `obtainedBy` records which process got a pair from its create; no step looks at it.
-/

namespace GhostCom

/-! ## Native calls -/

/-- How a native call reaches the driver: whether its device could be opened, the outcomes of the
WDF calls that are made for its request, and the handle of the request. -/
structure NativeCall where
  opened : Bool
  wdf : Wdf
  id : RequestId

/-- Whether the message of an error has `HRESULT_ALREADY_EXISTS` in it. -/
inductive NativeError where
  | alreadyExists
  | other
deriving DecidableEq, Repr

/-- The error of a request that the driver has completed with an error status:
`STATUS_OBJECT_NAME_COLLISION` becomes `ERROR_ALREADY_EXISTS`. -/
def nativeError (st : ErrorStatus) : NativeError :=
  if st.1 = .objectNameCollision then .alreadyExists else .other

/-- What a native call on the control device returns or throws. -/
abbrev NativeResult := Except NativeError ControlOutput

/-- `device_ioctl` on the control device, with the lengths of the buffers. -/
def deviceIoctl (m : Machine) (call : NativeCall) (inputLength outputLength : ℕ)
    (request : ControlRequest) : Machine × NativeResult :=
  if !call.opened then (m, .error .other)
  else
    let (m, reply) :=
      gcomControlIoDeviceControl m call.wdf ⟨call.id, inputLength, outputLength⟩ request
    (m, reply.mapError nativeError)

/-- `create_port`. -/
def nativeCreatePort (m : Machine) (call : NativeCall) (o : CreateOutcomes) (portNumber : ULONG) :
    Machine × NativeResult :=
  deviceIoctl m call 4 8 (.createPort portNumber o)

/-- `destroy_port`. -/
def nativeDestroyPort (m : Machine) (call : NativeCall) (o : DestroyOutcomes)
    (companionIndex : ULONG) : Machine × NativeResult :=
  deviceIoctl m call 4 0 (.destroyPort companionIndex o)

/-- `list_ports`, with room for 64 descriptions. -/
def nativeListPorts (m : Machine) (call : NativeCall) : NativeResult :=
  (deviceIoctl m call 0 (4 + 64 * 16) .listPorts).2

/-- `open_port`: open the companion device, which leads to the pair in its context. The result is
the pair that the file object holds, if it could be opened. -/
def openPort (m : Machine) (call : NativeCall) (companionIndex : ULONG) : Machine × Option ℕ :=
  if call.opened && (LinkName.gcom companionIndex, DeviceName.gcom companionIndex) ∈
      m.devices.links then
    let pp := m.context (.gcom companionIndex)
    let outcome := gcomCompEvtFileCreate (m.pairs pp).toPortPair call.id
    (m.setPair pp ({ · with toPortPair := outcome.pp }), if outcome.accepted then some pp else none)
  else (m, none)

/-- The close of a handle of a companion device, whose file object holds the pair. -/
def closeHandle (m : Machine) (pp : ℕ) : Machine :=
  let outcome := gcomCompEvtFileClose (m.pairs pp).toPortPair
  let m := m.setPair pp ({ · with toPortPair := outcome.pp })
  if outcome.freed then m.exFreePool (some pp) else m

/-! ## Processes -/

/-- A `VirtualPort` that has not been destroyed, with the pair that the file object of its handle
holds. -/
structure VirtualPort where
  portNumber : ULONG
  companionIndex : ULONG
  handle : ℕ
deriving DecidableEq, Repr

/-- Where a process is: outside of `createPort` and `destroy`; in `tryHealZombie` before its list
and before its destroy; before the second create; before the open; in `destroy` after the companion
device has been closed; or no longer running. -/
inductive Activity where
  | idle
  | listing (portNumber : ULONG)
  | healing (portNumber companionIndex : ULONG)
  | retrying (portNumber : ULONG)
  | opening (portNumber companionIndex : ULONG)
  | destroying (companionIndex : ULONG)
  | exited
deriving DecidableEq, Repr

/-- A process: the ports whose handles it has open, and where it is. -/
structure Client where
  ports : List VirtualPort
  activity : Activity
deriving DecidableEq, Repr

/-- `createPort` after a create: it opens the companion device, heals after a collision, or
throws. -/
def afterCreate (healZombies : Bool) (portNumber : ULONG) : NativeResult → Activity
  | .ok (.created portNumber companionIndex) => .opening portNumber companionIndex
  | .error .alreadyExists => if healZombies && portNumber ≠ 0 then .listing portNumber else .idle
  | _ => .idle

/-- The zombie that `tryHealZombie` finds. -/
def staleEntry (portNumber : ULONG) (ports : List PortInfo) : Option PortInfo :=
  ports.find? fun p ↦ p.portNumber = portNumber && !isTrue p.companionSideOpen

/-- `tryHealZombie` after its list: it destroys the zombie, or `createPort` throws. -/
def afterList (portNumber : ULONG) : NativeResult → Activity
  | .ok (.ports ports) =>
      match staleEntry portNumber ports with
      | some stale => .healing portNumber stale.companionIndex
      | none => .idle
  | _ => .idle

/-- `tryHealZombie` after its destroy: the create is repeated, or `createPort` throws. -/
def afterHeal (portNumber : ULONG) : NativeResult → Activity
  | .ok _ => .retrying portNumber
  | .error _ => .idle

/-- The driver, the processes, and for each pair the process whose create returned it. -/
structure Clients (ι : Type*) where
  machine : Machine
  clients : ι → Client
  obtainedBy : ℕ → Option ι

/-- A step of a process. -/
inductive ClientEvent (ι : Type*) where
  | createPort (c : ι) (call : NativeCall) (o : CreateOutcomes) (portNumber : ULONG)
      (healZombies : Bool)
  | listPorts (c : ι) (call : NativeCall)
  | destroyStale (c : ι) (call : NativeCall) (o : DestroyOutcomes)
  | retryCreate (c : ι) (call : NativeCall) (o : CreateOutcomes)
  | openPort (c : ι) (call : NativeCall)
  | closePort (c : ι) (i : ℕ)
  | destroyPort (c : ι) (call : NativeCall) (o : DestroyOutcomes)
  | dropHandle (c : ι) (i : ℕ)
  | exit (c : ι)

/-- The process that takes the step. -/
def ClientEvent.client {ι : Type*} : ClientEvent ι → ι
  | .createPort c .. | .listPorts c _ | .destroyStale c .. | .retryCreate c .. | .openPort c _
  | .closePort c _ | .destroyPort c .. | .dropHandle c _ | .exit c => c

namespace Clients

variable {ι : Type*}

/-- The processes start with a driver that has served some requests before: their pairs, if any are
left, are zombies. -/
def start (prior : List ControlEvent) : Clients ι where
  machine := prior.foldl Machine.serve .initial
  clients _ := ⟨[], .idle⟩
  obtainedBy _ := none

variable [DecidableEq ι] (s : Clients ι)

/-- The driver and a process after a step of the process. -/
def update (c : ι) (m : Machine) (client : Client) : Clients ι :=
  { s with machine := m, clients := Function.update s.clients c client }

/-- A process is somewhere else. -/
def moveTo (c : ι) (m : Machine) (activity : Activity) : Clients ι :=
  s.update c m { s.clients c with activity := activity }

/-- The create of `createPort`. If it succeeds, the process has obtained the pair in the block that
the create allocates for it. -/
def create (c : ι) (call : NativeCall) (o : CreateOutcomes) (portNumber : ULONG)
    (healZombies : Bool) : Clients ι :=
  let result := nativeCreatePort s.machine call o portNumber
  { s.moveTo c result.1 (afterCreate healZombies portNumber result.2) with
    obtainedBy :=
      match result.2 with
      | .ok (.created _ _) => Function.update s.obtainedBy s.machine.pool.next (some c)
      | _ => s.obtainedBy }

/-- The end of `createPort`: the companion device is opened and the port returned, or it throws. -/
def openCompanion (c : ι) (call : NativeCall) (portNumber companionIndex : ULONG) : Clients ι :=
  match GhostCom.openPort s.machine call companionIndex with
  | (m, some pp) => s.update c m ⟨(s.clients c).ports ++ [⟨portNumber, companionIndex, pp⟩], .idle⟩
  | (m, none) => s.moveTo c m .idle

/-- A handle of a process is closed. -/
def close (c : ι) (i : ℕ) (port : VirtualPort) (activity : Activity) : Clients ι :=
  s.update c (GhostCom.closeHandle s.machine port.handle) ⟨(s.clients c).ports.eraseIdx i, activity⟩

/-- The state after a step, if the process can take it. `closePort` and `destroyPort` are the two
native calls of `VirtualPort.destroy`; `dropHandle` is the close of a handle by the end of its
process or by the garbage collector. -/
def next (s : Clients ι) : ClientEvent ι → Option (Clients ι)
  | .createPort c call o portNumber healZombies =>
    match (s.clients c).activity with
    | .idle => some (s.create c call o portNumber healZombies)
    | _ => none
  | .listPorts c call =>
    match (s.clients c).activity with
    | .listing portNumber =>
        some (s.moveTo c s.machine (afterList portNumber (nativeListPorts s.machine call)))
    | _ => none
  | .destroyStale c call o =>
    match (s.clients c).activity with
    | .healing portNumber companionIndex =>
        let result := nativeDestroyPort s.machine call o companionIndex
        some (s.moveTo c result.1 (afterHeal portNumber result.2))
    | _ => none
  | .retryCreate c call o =>
    match (s.clients c).activity with
    | .retrying portNumber => some (s.create c call o portNumber false)
    | _ => none
  | .openPort c call =>
    match (s.clients c).activity with
    | .opening portNumber companionIndex =>
        some (s.openCompanion c call portNumber companionIndex)
    | _ => none
  | .closePort c i =>
    match (s.clients c).activity, (s.clients c).ports[i]? with
    | .idle, some port => some (s.close c i port (.destroying port.companionIndex))
    | _, _ => none
  | .destroyPort c call o =>
    match (s.clients c).activity with
    | .destroying companionIndex =>
        some (s.moveTo c (nativeDestroyPort s.machine call o companionIndex).1 .idle)
    | _ => none
  | .dropHandle c i =>
    match (s.clients c).ports[i]? with
    | some port => some (s.close c i port (s.clients c).activity)
    | none => none
  | .exit c => some (s.moveTo c s.machine .exited)

end Clients

end GhostCom
