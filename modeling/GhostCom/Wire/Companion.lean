import GhostCom.Clients.ComOpen
import GhostCom.Wire.Control

/-!
# Signals on their way between two applications

`GcomCompEvtIoctl` on the system buffer of a request, and the calls of a `NativePort` with the bytes
that they send and receive: `get_signals`, `set_signals` and the waits of the watcher. Around them
the pair lives on; what the application at the COM port does is any event of the pair.
-/

namespace GhostCom

open RecordLayout
open Register (latest)

/-! ## Codes and records -/

/-- The codes of the companion IOCTLs. -/
structure CompanionCodes where
  waitSignalChange : ULONG
  getSignals : ULONG
  setSignals : ULONG

/-- The companion codes of `ioctls.h`. -/
def driverCompanionCodes : CompanionCodes where
  waitSignalChange := ctlCode 0x8001 0x810 methodBuffered fileReadAccess
  getSignals := ctlCode 0x8001 0x811 methodBuffered fileReadAccess
  setSignals := ctlCode 0x8001 0x812 methodBuffered fileWriteAccess

/-- The companion codes of `ioctl.rs`. -/
def addonCompanionCodes : CompanionCodes where
  waitSignalChange := ctlCode 0x8001 0x810 methodBuffered fileReadAccess
  getSignals := ctlCode 0x8001 0x811 methodBuffered fileReadAccess
  setSignals := ctlCode 0x8001 0x812 methodBuffered fileWriteAccess

/-- The members of `GCOM_SET_SIGNALS` under `#pragma pack(push, 1)`: `DtrState` and `RtsState`. -/
def gcomSetSignalsMembers : List Field := pack 1 [word32, word32]

/-- The fields of `GcomSetSignals` under `#[repr(C)]`: `dtr_state` and `rts_state`. -/
def gcomSetSignalsFields : List Field := [word32, word32]

/-! ## The handler -/

/-- What a companion IOCTL does: the pair after it, the effects on other requests, and how its own
request is completed, if it is not pended. -/
structure CompanionOutcome where
  pair : PortPair
  effects : List Effect
  reply : Option (Except ErrorStatus BufferReply)

/-- `IOCTL_GCOM_GET_SIGNALS`. The padding is that of `pp->SignalState`. -/
def getSignalsBytes (wdf : Wdf) (pad : SignalStatePadding) (pp : PortPair) (id : RequestId)
    (buffer : SystemBuffer) : Except ErrorStatus BufferReply :=
  match retrieveBuffer wdf id (recordSize gcomSignalStateMembers) buffer.outputLength with
  | .error st => .error st
  | .ok () =>
      let output := store buffer.bytes 0 (pp.signalState.bytes pad)
      let output := setMember gcomSignalStateMembers output 7 (boolean pp.compDtr).toNat
      let output := setMember gcomSignalStateMembers output 8 (boolean pp.compRts).toNat
      .ok ⟨output, recordSize gcomSignalStateMembers⟩

/-- `IOCTL_GCOM_SET_SIGNALS`. -/
def setSignalsBytes (wdf : Wdf) (pp : PortPair) (id : RequestId) (buffer : SystemBuffer) :
    CompanionOutcome :=
  match retrieveBuffer wdf id (recordSize gcomSetSignalsMembers) buffer.inputLength with
  | .error st => ⟨pp, [], some (.error st)⟩
  | .ok () =>
      let dtrState := BitVec.ofNat 32 (member gcomSetSignalsMembers buffer.bytes 0)
      let rtsState := BitVec.ofNat 32 (member gcomSetSignalsMembers buffer.bytes 1)
      let (pp, effects) := setSignals wdf pp dtrState rtsState
      ⟨pp, effects, some (.ok ⟨buffer.bytes, 0⟩)⟩

/-- `IOCTL_GCOM_WAIT_SIGNAL_CHANGE`. -/
def waitSignalChangeBytes (wdf : Wdf) (pp : PortPair) (id : RequestId) (buffer : SystemBuffer) :
    CompanionOutcome :=
  match wdf.forward id with
  | .ok () =>
      ⟨{ pp with signalWaitQueue := pp.signalWaitQueue ++ [⟨id, buffer.outputLength⟩] }, [], none⟩
  | .error st => ⟨pp, [], some (.error st)⟩

/-- `GcomCompEvtIoctl`. -/
def compIoctlBytes (wdf : Wdf) (pad : SignalStatePadding) (pp : PortPair) (id : RequestId)
    (ioControlCode : ULONG) (buffer : SystemBuffer) : CompanionOutcome :=
  if !pp.active then ⟨pp, [], some (.error deviceNotConnected)⟩
  else if ioControlCode = driverCompanionCodes.waitSignalChange then
    waitSignalChangeBytes wdf pp id buffer
  else if ioControlCode = driverCompanionCodes.getSignals then
    ⟨pp, [], some (getSignalsBytes wdf pad pp id buffer)⟩
  else if ioControlCode = driverCompanionCodes.setSignals then setSignalsBytes wdf pp id buffer
  else ⟨pp, [], some (.error invalidDeviceRequest)⟩

/-- What the loop of `GcomSignalChanged` completes a wait with. -/
def signalWaitReply (pad : SignalStatePadding) (snapshot : SignalState) (buffer : SystemBuffer) :
    BufferReply :=
  ⟨store buffer.bytes 0 (snapshot.bytes pad), recordSize gcomSignalStateMembers⟩

/-! ## The addon -/

/-- `open_device_overlapped`. -/
def openDeviceOverlapped : ULONG := genericRead ||| genericWrite

/-- How a call of `sync_ioctl` goes: whether its event can be made and reset, whether the wait for a
request that is not completed at once succeeds, the outcomes of the WDF calls, what the system
buffer holds behind the input, and the padding that the driver sends. -/
structure PortCall where
  issued : Bool
  waited : Bool
  wdf : Wdf
  pool : ℕ → UCHAR
  pad : SignalStatePadding

/-- What `get_signals` passes. -/
def getSignalsArguments : IoctlArguments where
  desiredAccess := openDeviceOverlapped
  ioControlCode := addonCompanionCodes.getSignals
  input := []
  output := zeroed gcomSignalStateFields
  fits := by decide

/-- What `set_signals` passes. -/
def setSignalsArguments (dtr rts : Bool) : IoctlArguments where
  desiredAccess := openDeviceOverlapped
  ioControlCode := addonCompanionCodes.setSignals
  input := recordBytes gcomSetSignalsFields [(boolean dtr).toNat, (boolean rts).toNat]
  output := []
  fits := Nat.two_pow_pos 32

/-- What the watcher passes. -/
def waitArguments : IoctlArguments where
  desiredAccess := openDeviceOverlapped
  ioControlCode := addonCompanionCodes.waitSignalChange
  input := []
  output := zeroed gcomSignalStateFields
  fits := by decide

/-- A `NativePort` over its pair, with the handle of the next request, and whether a wait of its
watcher for a request has failed, since when its requests may share an `OVERLAPPED`. -/
structure NativePort where
  pair : PortPair
  nextRequest : RequestId
  shared : Bool

/-- What a step of a port does: the port after it, the effects on requests other than its own, and
what its call returns, if there is one that returns. -/
structure PortOutcome (α : Type) where
  port : NativePort
  effects : List Effect
  result : Option (Except NativeError α)

namespace NativePort

/-- The port of a new pair. -/
def start (portNumber : ULONG) : NativePort := ⟨.initial portNumber, 0, false⟩

variable (s : NativePort) (call : PortCall)

/-- `sync_ioctl`: the output buffer, once the request has been completed. -/
def syncIoctl (args : IoctlArguments) : PortOutcome (List UCHAR) :=
  if !call.issued then ⟨s, [], some (.error .other)⟩
  else if !permits (grantedAccess args.desiredAccess) args.ioControlCode then
    ⟨s, [], some (.error .other)⟩
  else
    let outcome := compIoctlBytes call.wdf call.pad s.pair s.nextRequest args.ioControlCode
      (systemBuffer call.pool args)
    { port := { s with pair := outcome.pair, nextRequest := s.nextRequest + 1 }
      effects := outcome.effects
      result := outcome.reply.map fun reply ↦
        if !call.waited then .error .other
        else
          match reply with
          | .error st => .error (nativeError st)
          | .ok reply => .ok (copyBack reply args.output) }

/-- `get_signals`, with what the constructor of `VirtualPort` makes of it. -/
def getSignals : PortOutcome ClientSignalState :=
  let outcome := s.syncIoctl call getSignalsArguments
  ⟨outcome.port, outcome.effects, outcome.result.map (·.map receiveSignalState)⟩

/-- `set_signals`. -/
def setSignals (dtr rts : Bool) : PortOutcome Unit :=
  let outcome := s.syncIoctl call (setSignalsArguments dtr rts)
  ⟨outcome.port, outcome.effects, outcome.result.map (·.map fun _ ↦ ())⟩

/-- The request of a turn of `SignalWatcher::thread_main`, which is made as that of `sync_ioctl`. -/
def wait : PortOutcome (List UCHAR) := s.syncIoctl call waitArguments

end NativePort

/-- What the callback of `onSignalChange` is called with when a wait of the watcher is completed:
the buffer of the wait after the request, if all of it has been returned. -/
def watcherReceives (pool : RequestId → ℕ → UCHAR) (pad : SignalStatePadding) :
    Effect → Option ClientSignalState
  | .completed id .success _ (.snapshot snapshot) =>
      let reply := signalWaitReply pad snapshot (systemBuffer (pool id) waitArguments)
      if recordSize gcomSignalStateFields ≤ reply.information then
        some (receiveSignalState (copyBack reply waitArguments.output))
      else none
  | _ => none

/-- What can happen to the pair of a port: a call of `get_signals` or `set_signals` or a wait of the
watcher, on bytes, or any event of the pair. The watcher may also fail to wait for its event, and
goes on. -/
inductive NativePortEvent where
  | pair (e : PairEvent)
  | getSignals (call : PortCall)
  | setSignals (call : PortCall) (dtr rts : Bool)
  | wait (call : PortCall)
  | waitFails

namespace NativePort

/-- The port after an event of its pair. -/
def serve (s : NativePort) (e : PairEvent) : NativePort :=
  { s with
    pair := (e.call s.nextRequest s.pair).1
    nextRequest := e.nextRequest s.nextRequest }

/-- The port after an event, with what the event does to other requests. -/
def perform (s : NativePort) : NativePortEvent → NativePort × List Effect
  | .pair e => (s.serve e, (e.call s.nextRequest s.pair).2)
  | .getSignals call => ((s.getSignals call).port, (s.getSignals call).effects)
  | .setSignals call dtr rts =>
      ((s.setSignals call dtr rts).port, (s.setSignals call dtr rts).effects)
  | .wait call => ((s.wait call).port, (s.wait call).effects)
  | .waitFails => ({ s with shared := true }, [])

/-- A run of events. -/
def run (s : NativePort) (events : List NativePortEvent) : NativePort :=
  events.foldl (fun s e ↦ (s.perform e).1) s

/-- What the callback of `onSignalChange` may be called with in an event: what a wait is completed
with, or anything if the request that is completed may be another than the one that the watcher
waits for. -/
inductive Receives (s : NativePort) (e : NativePortEvent) (pool : RequestId → ℕ → UCHAR)
    (pad : SignalStatePadding) : ClientSignalState → Prop where
  | completed {effect : Effect} {state : ClientSignalState} (hmem : effect ∈ (s.perform e).2)
      (h : watcherReceives pool pad effect = some state) : Receives s e pool pad state
  | stale (h : s.shared = true) (state : ClientSignalState) : Receives s e pool pad state

/-- No wait of the watcher for its event fails. -/
def WaitsSucceed (events : List NativePortEvent) : Prop := ∀ e ∈ events, e ≠ .waitFails

end NativePort

/-! ## The handler as a typed one -/

/-- The IOCTL that a code and the bytes of its input stand for. -/
def CompIoctl.ofBytes (ioControlCode : ULONG) (bytes : List UCHAR) : CompIoctl :=
  if ioControlCode = driverCompanionCodes.waitSignalChange then .waitSignalChange
  else if ioControlCode = driverCompanionCodes.getSignals then .getSignals
  else if ioControlCode = driverCompanionCodes.setSignals then
    .setSignals (BitVec.ofNat 32 (member gcomSetSignalsMembers bytes 0))
      (BitVec.ofNat 32 (member gcomSetSignalsMembers bytes 1))
  else .unknown

/-- The reply holds the output of a typed request at the beginning of the system buffer. -/
def HoldsOutput (pad : SignalStatePadding) (buffer : List UCHAR) (reply : BufferReply) :
    Output → Prop
  | .signals state => reply = ⟨store buffer 0 (state.bytes pad), sizeofSignalState⟩
  | .none => reply = ⟨buffer, 0⟩
  | _ => False

/-- A companion request on bytes and a typed one leave the same pair and have the same effects on
other requests, and both are completed with the same error, or with the same output, or pended. -/
inductive ServedAs (pad : SignalStatePadding) (id : RequestId) (buffer : List UCHAR) :
    CompanionOutcome → PortPair × List Effect → Prop
  | refused (pp : PortPair) (out : List Effect) (st : ErrorStatus) :
      ServedAs pad id buffer ⟨pp, out, some (.error st)⟩ (pp, out ++ [.completed id st 0 .none])
  | replied (pp : PortPair) (out : List Effect) {reply : BufferReply} {output : Output}
      (h : HoldsOutput pad buffer reply output) :
      ServedAs pad id buffer ⟨pp, out, some (.ok reply)⟩
        (pp, out ++ [.completed id .success reply.information output])
  | pended (pp : PortPair) (out : List Effect) :
      ServedAs pad id buffer ⟨pp, out, none⟩ (pp, out)

namespace ServedAs

variable {pad : SignalStatePadding} {id : RequestId} {buffer : List UCHAR}
  {outcome : CompanionOutcome} {typed : PortPair × List Effect}

theorem pair_eq (h : ServedAs pad id buffer outcome typed) : outcome.pair = typed.1 := by
  cases h with
  | refused | replied | pended => rfl

/-- The effects on other requests are among those of the typed request. -/
theorem mem_effects (h : ServedAs pad id buffer outcome typed) {effect : Effect}
    (hmem : effect ∈ outcome.effects) : effect ∈ typed.2 := by
  cases h with
  | refused | replied => exact List.mem_append_left _ hmem
  | pended => exact hmem

/-- A reply holds the output that the typed request is completed with. -/
theorem output (h : ServedAs pad id buffer outcome typed) {reply : BufferReply}
    (hreply : outcome.reply = some (.ok reply)) : ∃ output,
    .completed id .success reply.information output ∈ typed.2 ∧
      HoldsOutput pad buffer reply output := by
  cases h with
  | replied pp out hholds =>
      cases hreply
      exact ⟨_, List.mem_append_right _ (List.mem_singleton_self _), hholds⟩
  | refused | pended => cases hreply

end ServedAs

/-- An assignment to a line changes that line of the state in the buffer. -/
theorem set_dtr_state (state : SignalState) (pad : SignalStatePadding) (back : List UCHAR)
    (x : ULONG) :
    setMember gcomSignalStateMembers (state.bytes pad ++ back) 7 x.toNat =
      { state with dtrState := x }.bytes pad ++ back := by
  have h := @store_image 0 _ (state.values_fit pad) back 7 (⟨4, 1⟩, state.dtrState.toNat) rfl
    x.toNat
  rw [List.map_fst_zip (by rfl)] at h
  exact h

theorem set_rts_state (state : SignalState) (pad : SignalStatePadding) (back : List UCHAR)
    (x : ULONG) :
    setMember gcomSignalStateMembers (state.bytes pad ++ back) 8 x.toNat =
      { state with rtsState := x }.bytes pad ++ back := by
  have h := @store_image 0 _ (state.values_fit pad) back 8 (⟨4, 1⟩, state.rtsState.toNat) rfl
    x.toNat
  rw [List.map_fst_zip (by rfl)] at h
  exact h

section Handler

variable (wdf : Wdf) (pad : SignalStatePadding) (pp : PortPair) (id : RequestId)

/-- `GET_SIGNALS` stores the state with the companion's own lines. -/
theorem get_signals_served (buffer : SystemBuffer) :
    ServedAs pad id buffer.bytes ⟨pp, [], some (getSignalsBytes wdf pad pp id buffer)⟩
      (getRequest wdf pp ⟨id, buffer.inputLength, buffer.outputLength⟩ sizeofSignalState (.signals
        { pp.signalState with
          dtrState := boolean pp.compDtr
          rtsState := boolean pp.compRts })) := by
  unfold getSignalsBytes getRequest
  rw [same_record_size.1]
  cases retrieveBuffer wdf id sizeofSignalState buffer.outputLength with
  | error st => exact .refused pp [] st
  | ok =>
      refine .replied pp [] ?_
      show BufferReply.mk _ _ = BufferReply.mk _ _
      rw [store_zero, store_zero, set_dtr_state, set_rts_state, SignalState.length_bytes,
        SignalState.length_bytes]

/-- `SET_SIGNALS` stores the lines that its input has. -/
theorem set_signals_served (buffer : SystemBuffer) :
    ServedAs pad id buffer.bytes (setSignalsBytes wdf pp id buffer)
      (setRequest wdf pp ⟨id, buffer.inputLength, buffer.outputLength⟩ 8 (setSignals wdf pp
        (BitVec.ofNat 32 (member gcomSetSignalsMembers buffer.bytes 0))
        (BitVec.ofNat 32 (member gcomSetSignalsMembers buffer.bytes 1)))) := by
  unfold setSignalsBytes setRequest
  rw [show recordSize gcomSetSignalsMembers = 8 from rfl]
  cases retrieveBuffer wdf id 8 buffer.inputLength with
  | error st => exact .refused pp [] st
  | ok => exact .replied _ _ (show HoldsOutput pad buffer.bytes _ .none from rfl)

/-- `GcomCompEvtIoctl` on bytes serves the IOCTL that they stand for, whatever the code is and
whatever buffers the caller has. -/
theorem comp_ioctl_served (ioControlCode : ULONG) (buffer : SystemBuffer) :
    ServedAs pad id buffer.bytes (compIoctlBytes wdf pad pp id ioControlCode buffer)
      (gcomCompEvtIoctl wdf pp ⟨id, buffer.inputLength, buffer.outputLength⟩
        (.ofBytes ioControlCode buffer.bytes)) := by
  unfold compIoctlBytes gcomCompEvtIoctl CompIoctl.ofBytes
  split
  · exact .refused pp [] deviceNotConnected
  split
  · unfold waitSignalChangeBytes
    dsimp only
    unfold waitSignalChange
    cases wdf.forward id with
    | error st => exact .refused pp [] st
    | ok => exact .pended _ []
  split
  · exact get_signals_served wdf pad pp id buffer
  split
  · exact set_signals_served wdf pad pp id buffer
  · exact .refused pp [] invalidDeviceRequest

end Handler

/-! ## The calls as requests -/

/-- The request that reaches the driver with an event. -/
def NativePortEvent.request : NativePortEvent → Option PairEvent
  | .pair e => some e
  | .getSignals call =>
      if call.issued then some (.compIoctl 0 sizeofSignalState .getSignals call.wdf) else none
  | .setSignals call dtr rts =>
      if call.issued then
        some (.compIoctl 8 0 (.setSignals (boolean dtr) (boolean rts)) call.wdf)
      else none
  | .wait call =>
      if call.issued then
        some (.compIoctl 0 sizeofSignalState .waitSignalChange call.wdf)
      else none
  | .waitFails => none

/-- The code of the watcher stands for `WAIT_SIGNAL_CHANGE`. -/
theorem of_bytes_wait (bytes : List UCHAR) :
    CompIoctl.ofBytes addonCompanionCodes.waitSignalChange bytes = .waitSignalChange :=
  if_pos rfl

/-- The code of `get_signals` stands for `GET_SIGNALS`. -/
theorem of_bytes_get_signals (bytes : List UCHAR) :
    CompIoctl.ofBytes addonCompanionCodes.getSignals bytes = .getSignals := by
  rw [CompIoctl.ofBytes, if_neg (by decide)]
  exact if_pos rfl

/-- The bytes that `set_signals` sends stand for its two lines. -/
theorem of_bytes_set_signals (pool : ℕ → UCHAR) (dtr rts : Bool) :
    CompIoctl.ofBytes addonCompanionCodes.setSignals
        (systemBuffer pool (setSignalsArguments dtr rts)).bytes =
      .setSignals (boolean dtr) (boolean rts) := by
  have hmember (k : ℕ) : member gcomSetSignalsMembers
      (systemBuffer pool (setSignalsArguments dtr rts)).bytes k =
        [(boolean dtr).toNat, (boolean rts).toNat].getD k 0 :=
    member_image (by decide) (by decide) rfl (by simp [gcomSetSignalsFields, word32_fits]) _ k
  rw [CompIoctl.ofBytes, if_neg (by decide), if_neg (by decide), if_pos (by decide), hmember,
    hmember]
  simp only [List.getD_cons_zero, List.getD_cons_succ, BitVec.ofNat_toNat, BitVec.setWidth_eq]

/-- The handle of a port has every access that its codes demand. -/
theorem port_calls_permitted :
    permits (grantedAccess openDeviceOverlapped) addonCompanionCodes.waitSignalChange = true ∧
      permits (grantedAccess openDeviceOverlapped) addonCompanionCodes.getSignals = true ∧
      permits (grantedAccess openDeviceOverlapped) addonCompanionCodes.setSignals = true := by
  decide

namespace NativePort

/-- A call of `sync_ioctl` that is issued does to the pair what its request does, and if it succeeds
the buffer holds what the request is completed with. -/
structure Issues (s : NativePort) (call : PortCall) (args : IoctlArguments) (request : PairEvent) :
    Prop where
  port : (s.syncIoctl call args).port = s.serve request
  effects : ∀ effect ∈ (s.syncIoctl call args).effects,
    effect ∈ (request.call s.nextRequest s.pair).2
  result : ∀ bytes, (s.syncIoctl call args).result = some (.ok bytes) → ∃ reply output,
    .completed s.nextRequest .success reply.information output ∈
        (request.call s.nextRequest s.pair).2 ∧
      HoldsOutput call.pad (systemBuffer call.pool args).bytes reply output ∧
      bytes = copyBack reply args.output

/-- Only a wait is pended. -/
theorem reply_ne_none (wdf : Wdf) (pad : SignalStatePadding) (pp : PortPair) (id : RequestId)
    {ioControlCode : ULONG} (buffer : SystemBuffer)
    (h : ioControlCode ≠ driverCompanionCodes.waitSignalChange) :
    (compIoctlBytes wdf pad pp id ioControlCode buffer).reply ≠ none := by
  unfold compIoctlBytes
  rw [if_neg h]
  split
  · exact nofun
  split
  · exact nofun
  split
  · unfold setSignalsBytes
    split
    · exact nofun
    · exact nofun
  · exact nofun

variable {s : NativePort} {call : PortCall}

theorem sync_ioctl_issues {args : IoctlArguments} {ioctl : CompIoctl}
    (hissued : call.issued = true)
    (hpermits : permits (grantedAccess args.desiredAccess) args.ioControlCode = true)
    (hioctl : CompIoctl.ofBytes args.ioControlCode (systemBuffer call.pool args).bytes = ioctl) :
    Issues s call args (.compIoctl args.input.length args.output.length ioctl call.wdf) := by
  let request : PairEvent := .compIoctl args.input.length args.output.length ioctl call.wdf
  let outcome := compIoctlBytes call.wdf call.pad s.pair s.nextRequest args.ioControlCode
    (systemBuffer call.pool args)
  have hserved : ServedAs call.pad s.nextRequest (systemBuffer call.pool args).bytes outcome
      (request.call s.nextRequest s.pair) := by
    have h := comp_ioctl_served call.wdf call.pad s.pair s.nextRequest args.ioControlCode
      (systemBuffer call.pool args)
    rwa [hioctl] at h
  have hcall : s.syncIoctl call args =
      { port := { s with pair := outcome.pair, nextRequest := s.nextRequest + 1 }
        effects := outcome.effects
        result := outcome.reply.map fun reply ↦
          if !call.waited then .error .other
          else
            match reply with
            | .error st => .error (nativeError st)
            | .ok reply => .ok (copyBack reply args.output) } := by
    unfold syncIoctl
    rw [hissued, hpermits]
    rfl
  refine ⟨?_, ?_, ?_⟩
  · rw [hcall, hserved.pair_eq]
    rfl
  · rw [hcall]
    exact fun effect ↦ hserved.mem_effects
  · intro bytes hbytes
    rw [hcall] at hbytes
    obtain ⟨reply, hreply, hresult⟩ := Option.map_eq_some_iff.mp hbytes
    split at hresult
    · cases hresult
    cases reply with
    | error st => cases hresult
    | ok reply =>
        cases hresult
        obtain ⟨output, hcompleted, hholds⟩ := hserved.output hreply
        exact ⟨reply, output, hcompleted, hholds, rfl⟩

/-- A call that is not issued changes nothing. -/
theorem sync_ioctl_not_issued (hissued : call.issued = false) (args : IoctlArguments) :
    s.syncIoctl call args = ⟨s, [], some (.error .other)⟩ := by
  rw [syncIoctl, hissued]
  rfl

theorem get_signals_issues (hissued : call.issued = true) :
    Issues s call getSignalsArguments (.compIoctl 0 sizeofSignalState .getSignals call.wdf) :=
  sync_ioctl_issues hissued port_calls_permitted.2.1 (of_bytes_get_signals _)

theorem set_signals_issues (dtr rts : Bool) (hissued : call.issued = true) :
    Issues s call (setSignalsArguments dtr rts)
      (.compIoctl 8 0 (.setSignals (boolean dtr) (boolean rts)) call.wdf) :=
  sync_ioctl_issues hissued port_calls_permitted.2.2 (of_bytes_set_signals _ dtr rts)

theorem wait_issues (hissued : call.issued = true) :
    Issues s call waitArguments (.compIoctl 0 sizeofSignalState .waitSignalChange call.wdf) :=
  sync_ioctl_issues hissued port_calls_permitted.1 (of_bytes_wait _)

section SyncIoctl

variable {args : IoctlArguments} {request : PairEvent}

/-- The port after a call, whether it is issued or not. -/
theorem sync_ioctl_port (h : call.issued = true → Issues s call args request) :
    (s.syncIoctl call args).port =
      (if call.issued then some request else none).elim s s.serve := by
  cases hissued : call.issued with
  | false =>
      rw [sync_ioctl_not_issued hissued]
      rfl
  | true => exact (h hissued).port

/-- A call that is no wait returns. -/
theorem sync_ioctl_returns
    (hcode : args.ioControlCode ≠ driverCompanionCodes.waitSignalChange) :
    (s.syncIoctl call args).result ≠ none := by
  unfold syncIoctl
  split
  · exact nofun
  split
  · exact nofun
  · exact mt Option.map_eq_none_iff.mp (reply_ne_none _ _ _ _ _ hcode)

/-- A call that succeeds has been issued. -/
theorem issued_of_ok {bytes : List UCHAR}
    (h : (s.syncIoctl call args).result = some (.ok bytes)) : call.issued = true := by
  cases hissued : call.issued with
  | false =>
      rw [sync_ioctl_not_issued hissued] at h
      cases h
  | true => rfl

end SyncIoctl

/-- An event does to the port what its request does, unless a wait fails. -/
theorem perform_port {e : NativePortEvent} (h : e ≠ .waitFails) :
    (s.perform e).1 = e.request.elim s s.serve := by
  cases e with
  | pair e => rfl
  | getSignals call => exact sync_ioctl_port get_signals_issues
  | setSignals call dtr rts => exact sync_ioctl_port (set_signals_issues dtr rts)
  | wait call => exact sync_ioctl_port wait_issues
  | waitFails => exact absurd rfl h

/-- As long as the waits succeed no two requests share an `OVERLAPPED`. -/
theorem shared_run {events : List NativePortEvent} (h : WaitsSucceed events) :
    (s.run events).shared = s.shared := by
  induction events generalizing s with
  | nil => rfl
  | cons e events ih =>
      obtain ⟨hsucceeds, hrest⟩ := List.forall_mem_cons.mp h
      have hperform : (s.perform e).1.shared = s.shared := by
        rw [perform_port hsucceeds]
        cases e.request <;> rfl
      exact (ih hrest).trans hperform

end NativePort

/-! ## What the watcher is handed -/

/-- Every snapshot of a callback is the signal state that it leaves, with the bits it announces. -/
def HandsOver (result : PortPair × List Effect) : Prop :=
  ∀ snapshot ∈ snapshots result.2, ∃ changedBits, .signalChanged changedBits ∈ result.2 ∧
    snapshot = { result.1.signalState with changedMask := changedBits }

section HandsOver

variable {wdf : Wdf} {pp : PortPair} {id : RequestId} {req : IoctlRequest}

/-- Without a delivery there is no snapshot. -/
theorem hands_over_quiet {out : List Effect} (h : signalEntries out = []) :
    HandsOver (pp, out) := by
  intro snapshot hmem
  rw [(snapshots_eq_nil_iff out).mpr (by rw [h]; exact fun _ ↦ List.not_mem_nil)] at hmem
  cases hmem

/-- Effects without deliveries may come first and follow, and the rest of the pair may change. -/
theorem HandsOver.extend {result : PortPair × List Effect} (h : HandsOver result)
    {before after : List Effect} {pp : PortPair} (hstate : pp.signalState = result.1.signalState)
    (hbefore : signalEntries before = []) (hafter : signalEntries after = []) :
    HandsOver (pp, before ++ result.2 ++ after) := by
  have hnone {out : List Effect} (hout : signalEntries out = []) : snapshots out = [] :=
    (snapshots_eq_nil_iff out).mpr (by rw [hout]; exact fun _ ↦ List.not_mem_nil)
  intro snapshot hmem
  rw [snapshots_append, snapshots_append, hnone hbefore, hnone hafter, List.append_nil,
    List.nil_append] at hmem
  obtain ⟨changedBits, hchanged, heq⟩ := h snapshot hmem
  refine ⟨changedBits, ?_, ?_⟩
  · exact List.mem_append_left _ (List.mem_append_right _ hchanged)
  · rw [heq, hstate]

theorem HandsOver.complete {result : PortPair × List Effect} (h : HandsOver result)
    (req : IoctlRequest) (st : NTSTATUS) :
    HandsOver (result.1, result.2 ++ [complete req st]) :=
  @HandsOver.extend result h [] _ result.1 rfl rfl (signal_entries_complete req st)

/-- `GcomSignalChanged` hands over the state that it leaves, if all earlier bits are cleared. -/
theorem signal_changed_hands_over (changedBits : ULONG) (hmask : pp.signalState.changedMask = 0) :
    HandsOver (gcomSignalChanged wdf pp changedBits) := by
  unfold gcomSignalChanged
  split
  · exact hands_over_quiet rfl
  intro snapshot h
  refine ⟨changedBits, List.mem_cons_self, ?_⟩
  obtain ⟨effect, hmem, hsnapshot⟩ := List.mem_filterMap.mp h
  rcases List.mem_cons.mp hmem with rfl | hmem
  · cases hsnapshot
  obtain ⟨waitReq, -, rfl⟩ := List.mem_map.mp hmem
  unfold completeSignalWait at hsnapshot
  split at hsnapshot
  · cases hsnapshot
    simp [signalUpdate, signalClear, hmask]
  · next st _ =>
      obtain ⟨st, hst⟩ := st
      cases st <;> cases hsnapshot

/-- A code with an input structure hands over what its body does. -/
theorem set_request_hands_over {size : ℕ} {body : PortPair × List Effect} (h : HandsOver body) :
    HandsOver (setRequest wdf pp req size body) := by
  unfold setRequest
  split
  · exact h.complete req .success
  · exact hands_over_quiet (signal_entries_complete _ _)

/-- A change that a COM-side IOCTL announces is handed over as it is stored. -/
theorem notify_hands_over {state : SignalState} (changedBits : ULONG)
    (hmask : state.changedMask = 0) : HandsOver (notify wdf pp state changedBits) :=
  signal_changed_hands_over changedBits hmask

theorem notify_request_hands_over {state : SignalState} (changedBits : ULONG)
    (hmask : state.changedMask = 0) :
    HandsOver (notifyRequest wdf pp req state changedBits) :=
  (notify_hands_over changedBits hmask).complete req .success

/-- `SET_BREAK_ON` raises a comm event after the change. -/
theorem set_break_on_hands_over (hmask : pp.signalState.changedMask = 0) :
    HandsOver (setBreakOn wdf pp req) := by
  let result := notify wdf pp { pp.signalState with breakState := 1 } changedBreak
  have hnotify : HandsOver result := notify_hands_over _ hmask
  have hstate : (gcomCheckWaitMask wdf result.1 serialEvBreak).1.signalState =
      result.1.signalState :=
    congrArg Settings.signalState (check_wait_mask_settings ..)
  have hevents : signalEntries (gcomCheckWaitMask wdf result.1 serialEvBreak).2 = [] :=
    (check_wait_mask_announces wdf result.1 serialEvBreak).entries
  exact (@HandsOver.extend result hnotify [] _ _ hstate rfl hevents).complete req .success

/-- `SET_WAIT_MASK` cancels waits of another kind before the change. -/
theorem set_wait_mask_hands_over (mask : ULONG) (hmask : pp.signalState.changedMask = 0) :
    HandsOver (setWaitMask wdf pp mask) := by
  let result := notify wdf { pp with waitMaskQueue := [] } { pp.signalState with waitMask := mask }
    changedWaitMask
  have hnotify : HandsOver result := notify_hands_over _ hmask
  have hcancelled : signalEntries (pp.waitMaskQueue.map fun req ↦
      Effect.completed req.id .cancelled 0 .none) = [] := by
    simp [signalEntries, Effect.signalEntry]
  have h := @HandsOver.extend result hnotify _ [] result.1 rfl hcancelled rfl
  rwa [List.append_nil] at h

/-- A COM-side IOCTL hands over the state that it leaves. -/
theorem com_ioctl_hands_over (ioctl : ComIoctl) (hmask : pp.signalState.changedMask = 0) :
    HandsOver (gcomComEvtIoctl wdf pp req ioctl) := by
  by_cases hactive : pp.active = true
  case neg =>
    unfold gcomComEvtIoctl
    rw [if_pos (by simpa using hactive)]
    exact hands_over_quiet (signal_entries_complete _ _)
  have hannounces : Announces wdf pp (ioctl.changedBits wdf req)
      (gcomComEvtIoctl wdf pp req ioctl) := com_ioctl_announces ioctl hactive
  by_cases hbits : ioctl.changedBits wdf req = none
  · rw [hbits] at hannounces
    exact hands_over_quiet hannounces.entries
  unfold gcomComEvtIoctl
  rw [if_neg (by simp [hactive])]
  cases ioctl with
  | setBaudRate | setLineControl | setHandflow | setChars | setModemControl =>
      exact set_request_hands_over (notify_hands_over _ hmask)
  | setDtr | clrDtr | setRts | clrRts | setBreakOff =>
      exact notify_request_hands_over _ hmask
  | setBreakOn => exact set_break_on_hands_over hmask
  | setWaitMask mask => exact set_request_hands_over (set_wait_mask_hands_over mask hmask)
  | _ => exact absurd rfl hbits

/-- A companion IOCTL delivers nothing. -/
theorem comp_ioctl_quiet (ioctl : CompIoctl) :
    signalEntries (gcomCompEvtIoctl wdf pp req ioctl).2 = [] := by
  unfold gcomCompEvtIoctl
  split
  · exact signal_entries_complete _ _
  cases ioctl with
  | waitSignalChange =>
      dsimp only
      unfold waitSignalChange
      split
      · rfl
      · exact signal_entries_complete _ _
  | getSignals =>
      have hquiet (state : SignalState) :
          Announces wdf pp none (getRequest wdf pp req sizeofSignalState (.signals state)) :=
        get_request_quiet nofun
      exact (hquiet _).entries
  | setSignals dtrState rtsState =>
      have hquiet : signalEntries (setSignals wdf pp dtrState rtsState).2 = [] := by
        unfold setSignals
        dsimp only
        split
        · exact (check_wait_mask_announces ..).entries
        · rfl
      dsimp only
      unfold setRequest
      split
      · rw [signal_entries_append, hquiet, List.nil_append]
        exact signal_entries_complete _ _
      · exact signal_entries_complete _ _
  | unknown => exact signal_entries_complete _ _

/-- The data path hands over nothing. -/
theorem data_hands_over (e : DataEvent) (hmask : pp.signalState.changedMask = 0) :
    HandsOver (e.call id pp) := by
  -- a write may be followed by a comm event
  have hwrite (d : Direction) (out : List LaneEffect) (wdf : Wdf) (pp : PortPair) (events : ULONG) :
      HandsOver ((gcomCheckWaitMask wdf pp events).1,
        laneEffects d out ++ (gcomCheckWaitMask wdf pp events).2) := by
    refine hands_over_quiet ?_
    rw [signal_entries_append, signal_entries_lane_effects,
      (check_wait_mask_announces wdf pp events).entries]
    rfl
  cases e with
  | setTimeouts inputLength timeouts wdf => exact com_ioctl_hands_over _ hmask
  | cancel request =>
      refine hands_over_quiet ?_
      rw [signal_entries_append, signal_entries_lane_effects, signal_entries_lane_effects]
      rfl
  | comRead length wdf =>
      show HandsOver (gcomComEvtRead wdf pp _)
      unfold gcomComEvtRead
      split
      · exact hands_over_quiet rfl
      · exact hands_over_quiet (signal_entries_lane_effects ..)
  | compRead length wdf =>
      show HandsOver (gcomCompEvtRead wdf pp _)
      unfold gcomCompEvtRead
      split
      · exact hands_over_quiet rfl
      · exact hands_over_quiet (signal_entries_lane_effects ..)
  | comWrite data fits wdf =>
      show HandsOver (gcomComEvtWrite wdf pp _)
      unfold gcomComEvtWrite
      split
      · exact hands_over_quiet rfl
      dsimp only
      split
      · exact hwrite _ _ _ _ _
      · exact hands_over_quiet (signal_entries_lane_effects ..)
  | compWrite data fits wdf =>
      show HandsOver (gcomCompEvtWrite wdf pp _)
      unfold gcomCompEvtWrite
      split
      · exact hands_over_quiet rfl
      dsimp only
      split
      · exact hwrite _ _ _ _ _
      · exact hands_over_quiet (signal_entries_lane_effects ..)

/-- An open of the COM side hands over the state that it leaves. -/
theorem com_open_hands_over (hmask : pp.signalState.changedMask = 0) :
    HandsOver ((gcomComEvtFileCreate wdf pp id).pp, (gcomComEvtFileCreate wdf pp id).effects) := by
  unfold gcomComEvtFileCreate
  split
  · exact hands_over_quiet rfl
  split
  · exact hands_over_quiet rfl
  · exact (@signal_changed_hands_over wdf (gcomPortPairAddRef { pp with comSideOpen := 1 })
      changedComOpen hmask).complete ⟨id, 0, 0⟩ .success

/-- And so does a close. -/
theorem com_close_hands_over (hmask : pp.signalState.changedMask = 0) :
    HandsOver ((gcomComEvtFileClose wdf pp).pp, (gcomComEvtFileClose wdf pp).effects) := by
  unfold gcomComEvtFileClose
  dsimp only
  split
  · have hchanged := @signal_changed_hands_over wdf { pp with comSideOpen := 0 } changedComClose
      hmask
    have h := @HandsOver.extend _ hchanged [] []
      (gcomPortPairRelease (gcomSignalChanged wdf { pp with comSideOpen := 0 } changedComClose).1).1
      rfl rfl rfl
    rwa [List.append_nil] at h
  · exact hands_over_quiet rfl

/-- Waits that are cancelled are handed nothing. -/
theorem signal_entries_cancelled (waits : List WaitRequest) :
    signalEntries (waits.map cancelledWait) = [] := by
  simp [signalEntries, cancelledWait, Effect.signalEntry]

/-- Every callback hands over the state that it leaves, with the bits it announces, if all earlier
bits are cleared. -/
theorem call_hands_over (e : PairEvent) (hmask : pp.signalState.changedMask = 0) :
    HandsOver (e.call id pp) := by
  cases e with
  | data e => exact data_hands_over e hmask
  | comIoctl inputLength outputLength ioctl wdf => exact com_ioctl_hands_over ioctl hmask
  | compIoctl inputLength outputLength ioctl wdf => exact hands_over_quiet (comp_ioctl_quiet ioctl)
  | comOpen wdf => exact com_open_hands_over hmask
  | comClose wdf => exact com_close_hands_over hmask
  | compOpen =>
      refine hands_over_quiet ?_
      unfold gcomCompEvtFileCreate
      split
      · rfl
      · split <;> rfl
  | compClose => exact hands_over_quiet rfl
  | cancelWait request =>
      refine hands_over_quiet ?_
      rw [signal_entries_append, signal_entries_cancelled, signal_entries_cancelled]
      rfl
  | teardown =>
      refine hands_over_quiet ?_
      rw [signal_entries_append, signal_entries_append, signal_entries_lane_effects,
        signal_entries_lane_effects, signal_entries_cancelled]
      rfl

end HandsOver

/-- What the addon reads from the buffer of a request whose reply holds a state. -/
theorem receive_stored (state : SignalState) (pad : SignalStatePadding) (buffer : List UCHAR) :
    Shows (receiveSignalState (copyBack ⟨store buffer 0 (state.bytes pad), sizeofSignalState⟩
      (zeroed gcomSignalStateFields))) state := by
  have hrest : (zeroed gcomSignalStateFields).drop sizeofSignalState = [] := rfl
  rw [copy_back_store (state.length_bytes pad), hrest, List.append_nil]
  exact receive_shows state pad

/-- The callback of `onSignalChange` is called for snapshots only, and shows them. -/
theorem watcher_receives_shows {pool : RequestId → ℕ → UCHAR} {pad : SignalStatePadding}
    {effect : Effect} {state : ClientSignalState}
    (h : watcherReceives pool pad effect = some state) :
    ∃ snapshot, effect.snapshot = some snapshot ∧ Shows state snapshot := by
  unfold watcherReceives at h
  split at h
  · next snapshot =>
      dsimp only at h
      split at h
      · cases h
        exact ⟨snapshot, rfl, receive_stored snapshot pad _⟩
      · cases h
  · cases h

/-! ## Runs -/

/-- The state that `get_signals` is to show after a history: the COM side's fields, with the
companion's own lines. -/
def companionView (history : List PairEvent) : SignalState :=
  { (settingsOf history).signalState with
    dtrState := boolean (latest PairEvent.compDtr true history)
    rtsState := boolean (latest PairEvent.compRts true history) }

namespace NativePort

/-- A port is over the pair of a typed run. -/
structure Follows (s : NativePort) (t : SettingsRun) : Prop where
  pair : s.pair = t.path.pair
  nextRequest : s.nextRequest = t.path.nextRequest

variable {s : NativePort} {t : SettingsRun} {call : PortCall}

/-- The port follows what its requests do. -/
theorem Follows.perform (h : s.Follows t) (e : NativePortEvent) :
    (s.perform e).1.Follows (e.request.elim t t.step) := by
  obtain ⟨hpair, hnext⟩ := h
  by_cases hfails : e = .waitFails
  · subst hfails
    exact ⟨hpair, hnext⟩
  rw [perform_port hfails]
  cases e.request with
  | none => exact ⟨hpair, hnext⟩
  | some request =>
      constructor
      · show (request.call s.nextRequest s.pair).1 = (request.call _ _).1
        rw [hpair, hnext]
      · show request.nextRequest s.nextRequest = request.nextRequest _
        rw [hnext]

/-- And so it does over a run. -/
theorem Follows.run (h : s.Follows t) (events : List NativePortEvent) :
    (s.run events).Follows (t.run (events.filterMap NativePortEvent.request)) := by
  induction events generalizing s t with
  | nil => exact h
  | cons e events ih =>
      have hrest := ih (h.perform e)
      cases hrequest : e.request with
      | none =>
          rw [hrequest] at hrest
          rw [List.filterMap_cons_none hrequest]
          exact hrest
      | some request =>
          rw [hrequest] at hrest
          rw [List.filterMap_cons_some hrequest]
          exact hrest

/-- `get_signals` shows the state of the history, if it succeeds. -/
theorem get_signals_shows (h : s.Follows t) (hcurrent : t.Current) {state : ClientSignalState}
    (hstate : (s.getSignals call).result = some (.ok state)) :
    Shows state (companionView t.history) := by
  obtain ⟨result, hresult, hmap⟩ := Option.map_eq_some_iff.mp hstate
  cases result with
  | error e => cases hmap
  | ok bytes =>
      cases hmap
      obtain ⟨reply, output, hcompleted, hholds, rfl⟩ :=
        (get_signals_issues (issued_of_ok hresult)).result bytes hresult
      have hsettings : s.pair.settings = settingsOf t.history := by rw [h.pair]; exact hcurrent
      have houtput : output = .signals (companionView t.history) :=
        signals_query_answer hsettings hcompleted
      subst houtput
      rw [show reply = _ from hholds]
      exact receive_stored _ _ _

/-- `set_signals` stores its two lines and nothing else, if it succeeds. -/
theorem set_signals_stores (h : s.Follows t) (hcurrent : t.Current) {dtr rts : Bool}
    (hresult : (s.setSignals call dtr rts).result = some (.ok ())) :
    (s.setSignals call dtr rts).port.pair.settings =
      { settingsOf t.history with compDtr := dtr, compRts := rts } := by
  obtain ⟨result, hresult, hmap⟩ := Option.map_eq_some_iff.mp hresult
  cases result with
  | error e => cases hmap
  | ok bytes =>
      have hissues := @set_signals_issues s call dtr rts (issued_of_ok hresult)
      obtain ⟨reply, output, hcompleted, -⟩ := hissues.result bytes hresult
      let request : PairEvent :=
        .compIoctl 8 0 (.setSignals (boolean dtr) (boolean rts)) call.wdf
      have hsucceeds : request.succeeds s.nextRequest s.pair = true :=
        List.any_eq_true.mpr ⟨_, hcompleted, decide_eq_true rfl⟩
      have hsettings : s.pair.settings = settingsOf t.history := by rw [h.pair]; exact hcurrent
      have hmask : s.pair.signalState.changedMask = 0 :=
        congrArg (·.signalState.changedMask) hsettings
      have hport : (s.setSignals call dtr rts).port = s.serve request := hissues.port
      have hcall := @call_settings s.pair s.nextRequest request hmask
      rw [hsucceeds, if_pos rfl, hsettings] at hcall
      rw [hport]
      refine hcall.trans ?_
      show Settings.mk _ _ (isTrue (boolean dtr)) (isTrue (boolean rts)) = _
      rw [isTrue_boolean, isTrue_boolean]
      rfl

/-- A call delivers nothing. -/
theorem sync_ioctl_quiet {args : IoctlArguments} {inputLength outputLength : ℕ}
    {ioctl : CompIoctl}
    (h : call.issued = true →
      Issues s call args (.compIoctl inputLength outputLength ioctl call.wdf)) :
    signalEntries (s.syncIoctl call args).effects = [] := by
  cases hissued : call.issued with
  | false =>
      rw [sync_ioctl_not_issued hissued]
      rfl
  | true =>
      have hquiet : signalEntries (gcomCompEvtIoctl call.wdf s.pair
          ⟨s.nextRequest, inputLength, outputLength⟩ ioctl).2 = [] := comp_ioctl_quiet ioctl
      refine List.filterMap_eq_nil_iff.mpr fun effect hmem ↦ ?_
      exact List.filterMap_eq_nil_iff.mp hquiet effect ((h hissued).effects effect hmem)

/-- What an event hands over is the state that it leaves, with the bits it announces. -/
theorem perform_hands_over (hmask : s.pair.signalState.changedMask = 0) (e : NativePortEvent) :
    HandsOver ((s.perform e).1.pair, (s.perform e).2) := by
  cases e with
  | pair e => exact call_hands_over e hmask
  | getSignals call => exact hands_over_quiet (sync_ioctl_quiet get_signals_issues)
  | setSignals call dtr rts =>
      exact hands_over_quiet (sync_ioctl_quiet (set_signals_issues dtr rts))
  | wait call => exact hands_over_quiet (sync_ioctl_quiet wait_issues)
  | waitFails => exact hands_over_quiet rfl

theorem Follows.start (portNumber : ULONG) :
    (NativePort.start portNumber).Follows (SettingsRun.start portNumber) :=
  ⟨rfl, rfl⟩

/-- The history is current after the request of an event, if there is one. -/
theorem current_elim (hcurrent : t.Current) (e : NativePortEvent) :
    (e.request.elim t t.step).Current := by
  cases e.request with
  | none => exact hcurrent
  | some request => exact hcurrent.step request

end NativePort

open NativePort in
/-- The application at the COM port and the one at the `VirtualPort` see each other's signals, on
the bytes that pass between them. After any events of the pair, with any calls of `get_signals` and
`set_signals` and waits of the watcher among them, both calls return; `get_signals`, if it succeeds,
shows what the COM side has set last and the companion's own lines; `set_signals`, if it succeeds,
has stored its two lines and changed no other setting. Whatever happens next, the callback of
`onSignalChange`, as long as the waits of the watcher have succeeded, is called only with the
settings that the event leaves and the bits that it announces. -/
theorem applications_see_signals (portNumber : ULONG) (events : List NativePortEvent) :
    let s := (NativePort.start portNumber).run events
    let t := (SettingsRun.start portNumber).run (events.filterMap NativePortEvent.request)
    s.Follows t ∧
      (∀ call, (s.getSignals call).result ≠ none ∧
        ∀ state, (s.getSignals call).result = some (.ok state) →
          Shows state (companionView t.history)) ∧
      (∀ call dtr rts, (s.setSignals call dtr rts).result ≠ none ∧
        ((s.setSignals call dtr rts).result = some (.ok ()) →
          (s.setSignals call dtr rts).port.pair.settings =
            { settingsOf t.history with compDtr := dtr, compRts := rts })) ∧
      (WaitsSucceed events → ∀ e pool pad state, s.Receives e pool pad state →
        ∃ changedBits, .signalChanged changedBits ∈ (s.perform e).2 ∧
          Shows state { (settingsOf (e.request.elim t t.step).history).signalState with
            changedMask := changedBits }) := by
  intro s t
  have hfollows : s.Follows t := (Follows.start portNumber).run events
  have hcurrent : t.Current := (SettingsRun.start_current portNumber).run _
  have hsettings : s.pair.settings = settingsOf t.history := by rw [hfollows.pair]; exact hcurrent
  have hmask : s.pair.signalState.changedMask = 0 :=
    congrArg (·.signalState.changedMask) hsettings
  refine ⟨hfollows, ?_, ?_, ?_⟩
  · intro call
    refine ⟨?_, fun state hstate ↦ get_signals_shows hfollows hcurrent hstate⟩
    have hcode : addonCompanionCodes.getSignals ≠ driverCompanionCodes.waitSignalChange := by
      decide
    exact mt Option.map_eq_none_iff.mp (sync_ioctl_returns hcode)
  · intro call dtr rts
    refine ⟨?_, set_signals_stores hfollows hcurrent⟩
    have hcode : addonCompanionCodes.setSignals ≠ driverCompanionCodes.waitSignalChange := by
      decide
    exact mt Option.map_eq_none_iff.mp (sync_ioctl_returns hcode)
  · intro hwaits e pool pad state hreceives
    have hshared : s.shared = false := shared_run hwaits
    obtain ⟨effect, heffect, hreceived⟩ : ∃ effect ∈ (s.perform e).2,
        watcherReceives pool pad effect = some state := by
      cases hreceives with
      | completed hmem h => exact ⟨_, hmem, h⟩
      | stale h =>
          rw [hshared] at h
          cases h
    obtain ⟨snapshot, hsnapshot, hshows⟩ := watcher_receives_shows hreceived
    obtain ⟨changedBits, hchanged, heq⟩ :=
      perform_hands_over hmask e snapshot (List.mem_filterMap.mpr ⟨effect, heffect, hsnapshot⟩)
    refine ⟨changedBits, hchanged, ?_⟩
    have hleft : (s.perform e).1.pair.signalState =
        (settingsOf (e.request.elim t t.step).history).signalState := by
      rw [(hfollows.perform e).pair]
      exact congrArg Settings.signalState (current_elim hcurrent e)
    rw [heq, hleft] at hshows
    exact hshows

end GhostCom
