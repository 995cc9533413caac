import GhostCom.Clients.VirtualPort
import GhostCom.PortTable.Registry
import GhostCom.Wire.ListPorts

/-!
# Control requests on their way to the driver

The codes and records of `ioctls.h` and of the addon's `ioctl.rs`, the control handlers on the
system buffer of a request, and the calls of the addon with the bytes that they send and receive.
The system buffer is as long as the longer of the caller's two buffers, begins with the bytes of the
input, and holds anything behind them. The calls change the driver and return what the requests of
`Clients.VirtualPort` do, which know of no bytes.
-/

namespace GhostCom

open RecordLayout

/-! ## Codes and records -/

/-- `CTL_CODE`, which the addon has as `ctl_code`. -/
def ctlCode (deviceType function method access : ULONG) : ULONG :=
  (deviceType <<< 16) ||| (access <<< 14) ||| (function <<< 2) ||| method

/-- `METHOD_BUFFERED`. -/
def methodBuffered : ULONG := 0

/-- `FILE_READ_ACCESS`. -/
def fileReadAccess : ULONG := 1

/-- `FILE_WRITE_ACCESS`. -/
def fileWriteAccess : ULONG := 2

/-- The codes of the control IOCTLs. -/
structure ControlCodes where
  createPort : ULONG
  destroyPort : ULONG
  listPorts : ULONG
  getVersion : ULONG

/-- The codes of `ioctls.h`. -/
def driverCodes : ControlCodes where
  createPort := ctlCode 0x8001 0x800 methodBuffered fileWriteAccess
  destroyPort := ctlCode 0x8001 0x801 methodBuffered fileWriteAccess
  listPorts := ctlCode 0x8001 0x802 methodBuffered fileReadAccess
  getVersion := ctlCode 0x8001 0x803 methodBuffered fileReadAccess

/-- The codes of `ioctl.rs`. -/
def addonCodes : ControlCodes where
  createPort := ctlCode 0x8001 0x800 methodBuffered fileWriteAccess
  destroyPort := ctlCode 0x8001 0x801 methodBuffered fileWriteAccess
  listPorts := ctlCode 0x8001 0x802 methodBuffered fileReadAccess
  getVersion := ctlCode 0x8001 0x803 methodBuffered fileReadAccess

/-- A 16-bit member: `USHORT` or `u16`. -/
def word16 : Field := ⟨2, 2⟩

/-- The members of the control records under `#pragma pack(push, 1)`:
`GCOM_CREATE_PORT_REQUEST`, `GCOM_CREATE_PORT_RESPONSE`, `GCOM_DESTROY_PORT_REQUEST` and
`GCOM_VERSION_INFO`. -/
def gcomCreatePortRequestMembers : List Field := pack 1 [word32]
def gcomCreatePortResponseMembers : List Field := pack 1 [word32, word32]
def gcomDestroyPortRequestMembers : List Field := pack 1 [word32]
def gcomVersionInfoMembers : List Field := pack 1 [word16, word16, word16, word16, word16, word16]

/-- The fields of the addon's records under `#[repr(C)]`. -/
def gcomCreatePortRequestFields : List Field := [word32]
def gcomCreatePortResponseFields : List Field := [word32, word32]
def gcomDestroyPortRequestFields : List Field := [word32]
def gcomVersionInfoFields : List Field := [word16, word16, word16, word16, word16, word16]

/-- Read the member of a record with the given position. -/
def member (fs : List Field) (buffer : List UCHAR) (k : ℕ) : ℕ := (parse fs buffer).getD k 0

/-- Assign a value to the member of a record with the given position. -/
def setMember (fs : List Field) (buffer : List UCHAR) (k v : ℕ) : List UCHAR :=
  store buffer ((offsets fs).getD k 0) (toBytes ((fs.map Field.size).getD k 0) v)

/-! ## The handlers -/

/-- `GCOM_VERSION_INFO` without `Reserved`, which the handler sets to zero. -/
structure VersionInfo where
  major : BitVec 16
  minor : BitVec 16
  patch : BitVec 16
  protocolMajor : BitVec 16
  protocolMinor : BitVec 16
deriving DecidableEq, Repr

/-- `GCOM_VERSION_MAJOR` to `GCOM_PROTOCOL_VERSION_MINOR`. -/
def driverVersion : VersionInfo := ⟨0, 1, 0, 1, 0⟩

/-- The system buffer of a request, with the lengths of the caller's buffers, which are `ULONG`. -/
structure SystemBuffer where
  bytes : List UCHAR
  inputLength : ℕ
  outputLength : ℕ
  fits : outputLength < 2 ^ 32

/-- `GcomHandleCreatePort`. -/
def createPortBytes (m : Machine) (wdf : Wdf) (id : RequestId) (o : CreateOutcomes)
    (buffer : SystemBuffer) : Machine × Except ErrorStatus BufferReply :=
  match controlBuffer wdf id (recordSize gcomCreatePortRequestMembers) buffer.inputLength
      invalidParameter with
  | .error st => (m, .error st)
  | .ok () =>
    match controlBuffer wdf id (recordSize gcomCreatePortResponseMembers) buffer.outputLength
        invalidParameter with
    | .error st => (m, .error st)
    | .ok () =>
      let portNumber := BitVec.ofNat 32 (member gcomCreatePortRequestMembers buffer.bytes 0)
      match gcomPortPairCreate m o portNumber with
      | (m, .error st) => (m, .error st)
      | (m, .ok pp) =>
          let output := setMember gcomCreatePortResponseMembers buffer.bytes 0
            (m.pairs pp).portNumber.toNat
          let output := setMember gcomCreatePortResponseMembers output 1
            (m.pairs pp).companionIndex.toNat
          (m, .ok ⟨output, recordSize gcomCreatePortResponseMembers⟩)

/-- `GcomHandleDestroyPort`. -/
def destroyPortBytes (m : Machine) (wdf : Wdf) (id : RequestId) (o : DestroyOutcomes)
    (buffer : SystemBuffer) : Machine × Except ErrorStatus BufferReply :=
  match controlBuffer wdf id (recordSize gcomDestroyPortRequestMembers) buffer.inputLength
      invalidParameter with
  | .error st => (m, .error st)
  | .ok () =>
    match findPair m (BitVec.ofNat 32 (member gcomDestroyPortRequestMembers buffer.bytes 0)) with
    | none => (m, .error notFound)
    | some (i, pp) =>
        let m := deactivate { m with table := m.table.clear i } pp
        (gcomPortPairDestroy m o pp, .ok ⟨buffer.bytes, 0⟩)

/-- The part of the system buffer that the caller's output buffer has room for. -/
def SystemBuffer.output (buffer : SystemBuffer) : OutputBuffer where
  bytes := buffer.bytes.take buffer.outputLength
  fits := Nat.lt_of_le_of_lt (List.length_take_le ..) buffer.fits

/-- `GcomHandleListPorts`. -/
def listPortsBytes (m : Machine) (wdf : Wdf) (id : RequestId) (buffer : SystemBuffer) :
    Except ErrorStatus BufferReply :=
  gcomHandleListPortsBuffer m wdf id buffer.output

/-- The assignments of `GcomHandleGetVersion`. -/
def assignVersion (version : VersionInfo) (output : List UCHAR) : List UCHAR :=
  let output := setMember gcomVersionInfoMembers output 0 version.major.toNat
  let output := setMember gcomVersionInfoMembers output 1 version.minor.toNat
  let output := setMember gcomVersionInfoMembers output 2 version.patch.toNat
  let output := setMember gcomVersionInfoMembers output 3 version.protocolMajor.toNat
  let output := setMember gcomVersionInfoMembers output 4 version.protocolMinor.toNat
  setMember gcomVersionInfoMembers output 5 0

/-- `GcomHandleGetVersion` of a driver with the version. -/
def getVersionBytes (version : VersionInfo) (wdf : Wdf) (id : RequestId) (buffer : SystemBuffer) :
    Except ErrorStatus BufferReply :=
  match controlBuffer wdf id (recordSize gcomVersionInfoMembers) buffer.outputLength
      bufferTooSmall with
  | .error st => .error st
  | .ok () => .ok ⟨assignVersion version buffer.bytes, recordSize gcomVersionInfoMembers⟩

/-- The outcomes of what a control request asks for. -/
structure ControlOutcomes where
  create : CreateOutcomes
  destroy : DestroyOutcomes

/-- `GcomControlIoDeviceControl`. -/
def controlBytes (m : Machine) (wdf : Wdf) (id : RequestId) (o : ControlOutcomes)
    (ioControlCode : ULONG) (buffer : SystemBuffer) : Machine × Except ErrorStatus BufferReply :=
  if !m.controlDevice then (m, .error deviceNotConnected)
  else if ioControlCode = driverCodes.createPort then createPortBytes m wdf id o.create buffer
  else if ioControlCode = driverCodes.destroyPort then destroyPortBytes m wdf id o.destroy buffer
  else if ioControlCode = driverCodes.listPorts then (m, listPortsBytes m wdf id buffer)
  else if ioControlCode = driverCodes.getVersion then
    (m, getVersionBytes driverVersion wdf id buffer)
  else (m, .error invalidDeviceRequest)

/-! ## The addon -/

/-- `GENERIC_READ` and `GENERIC_WRITE`. -/
def genericRead : ULONG := 0x80000000
def genericWrite : ULONG := 0x40000000

/-- The accesses, as in an IOCTL code, that a handle opened with the desired access has. -/
def grantedAccess (desired : ULONG) : ULONG :=
  (if desired &&& genericRead = 0 then 0 else fileReadAccess) |||
    if desired &&& genericWrite = 0 then 0 else fileWriteAccess

/-- Whether a handle with the accesses may be used for a code. -/
def permits (granted ioControlCode : ULONG) : Bool :=
  (ioControlCode >>> 14) &&& 3 &&& ~~~granted == 0

/-- What a call of `device_ioctl` passes. -/
structure IoctlArguments where
  desiredAccess : ULONG
  ioControlCode : ULONG
  input : List UCHAR
  output : List UCHAR
  fits : output.length < 2 ^ 32

/-- How a call reaches the driver: `NativeCall`, the outcomes of what it asks for, and what the
system buffer holds behind the bytes of the input. -/
structure WireCall extends NativeCall where
  outcomes : ControlOutcomes
  pool : ℕ → UCHAR

/-- The system buffer that the I/O manager makes for a call; behind the bytes of the input it holds
what the pool does. -/
def systemBuffer (pool : ℕ → UCHAR) (args : IoctlArguments) : SystemBuffer where
  bytes := args.input ++
    (List.range' args.input.length (args.output.length - args.input.length)).map pool
  inputLength := args.input.length
  outputLength := args.output.length
  fits := args.fits

/-- The device is opened, `device_ioctl` called and the handle closed. The result is the output
buffer, with how many of its bytes have been returned. -/
def deviceIoctlBytes (m : Machine) (call : WireCall) (args : IoctlArguments) :
    Machine × Except NativeError (List UCHAR × ULONG) :=
  if !call.opened then (m, .error .other)
  else if !permits (grantedAccess args.desiredAccess) args.ioControlCode then (m, .error .other)
  else
    let (m, reply) := controlBytes m call.wdf call.id call.outcomes args.ioControlCode
      (systemBuffer call.pool args)
    (m, match reply with
      | .error st => .error (nativeError st)
      | .ok reply => .ok (copyBack reply args.output, BitVec.ofNat 32 reply.information))

/-- `open_device_sync` and `open_device_sync_read`. -/
def openDeviceSync : ULONG := 0xC0000000
def openDeviceSyncRead : ULONG := 0x80000000

/-- The bytes of a record of the addon. -/
def recordBytes (fs : List Field) (vs : List ℕ) : List UCHAR := image 0 (fs.zip vs)

/-- A record of the addon that is all zero. -/
def zeroed (fs : List Field) : List UCHAR := List.replicate (recordSize fs) 0

/-- What the addon's calls return to JavaScript. -/
inductive AddonResult where
  | created (portNumber companionIndex : BitVec 32)
  | destroyed
  | ports (ports : List PortInfoJs)
  | version (version : Option String)
  | compatibility (message : Option String)
deriving DecidableEq, Repr

/-- What `create_port` passes. -/
def createPortArguments (portNumber : ULONG) : IoctlArguments where
  desiredAccess := openDeviceSync
  ioControlCode := addonCodes.createPort
  input := recordBytes gcomCreatePortRequestFields [portNumber.toNat]
  output := zeroed gcomCreatePortResponseFields
  fits := by decide

/-- `create_port`. -/
def createPortCall (m : Machine) (call : WireCall) (portNumber : ULONG) :
    Machine × Except NativeError AddonResult :=
  let (m, result) := deviceIoctlBytes m call (createPortArguments portNumber)
  (m, result.map fun (response, _) ↦
    .created (BitVec.ofNat 32 (member gcomCreatePortResponseFields response 0))
      (BitVec.ofNat 32 (member gcomCreatePortResponseFields response 1)))

/-- What `destroy_port` passes. -/
def destroyPortArguments (companionIndex : ULONG) : IoctlArguments where
  desiredAccess := openDeviceSync
  ioControlCode := addonCodes.destroyPort
  input := recordBytes gcomDestroyPortRequestFields [companionIndex.toNat]
  output := []
  fits := by decide

/-- `destroy_port`. -/
def destroyPortCall (m : Machine) (call : WireCall) (companionIndex : ULONG) :
    Machine × Except NativeError AddonResult :=
  let (m, result) := deviceIoctlBytes m call (destroyPortArguments companionIndex)
  (m, result.map fun _ ↦ .destroyed)

/-- What `list_ports` passes. -/
def listPortsArguments : IoctlArguments where
  desiredAccess := openDeviceSyncRead
  ioControlCode := addonCodes.listPorts
  input := []
  output := listPortsBuffer.bytes
  fits := listPortsBuffer.fits

/-- `list_ports`. -/
def listPortsCall (m : Machine) (call : WireCall) : Machine × Except NativeError AddonResult :=
  let (m, result) := deviceIoctlBytes m call listPortsArguments
  (m, result.map fun (buffer, bytesReturned) ↦ .ports (readPorts buffer bytesReturned).ports)

/-- What `get_driver_version` and `check_driver_compatibility` pass. -/
def getVersionArguments : IoctlArguments where
  desiredAccess := openDeviceSyncRead
  ioControlCode := addonCodes.getVersion
  input := []
  output := zeroed gcomVersionInfoFields
  fits := by decide

/-- The request of `get_driver_version` and `check_driver_compatibility`. -/
def queryVersion (m : Machine) (call : WireCall) : Machine × Except NativeError (List UCHAR) :=
  let (m, result) := deviceIoctlBytes m call getVersionArguments
  (m, result.map Prod.fst)

/-- The version that the addon reads from a `GcomVersionInfo`. -/
def readVersion (response : List UCHAR) : VersionInfo :=
  let field (k : ℕ) : BitVec 16 := BitVec.ofNat 16 (member gcomVersionInfoFields response k)
  ⟨field 0, field 1, field 2, field 3, field 4⟩

/-- The text of `get_driver_version`. -/
def VersionInfo.text (version : VersionInfo) : String :=
  toString version.major.toNat ++ "." ++ toString version.minor.toNat ++ "." ++
    toString version.patch.toNat

/-- What `get_driver_version` returns for a reply: nothing if the request fails. -/
def versionShown : Except NativeError (List UCHAR) → AddonResult
  | .ok response => .version (some (readVersion response).text)
  | .error _ => .version none

/-- `get_driver_version`. -/
def getDriverVersion (m : Machine) (call : WireCall) :
    Machine × Except NativeError AddonResult :=
  let (m, result) := queryVersion m call
  (m, .ok (versionShown result))

/-- The addon's `GCOM_PROTOCOL_VERSION_MAJOR` and `GCOM_PROTOCOL_VERSION_MINOR`. -/
def protocolVersionMajor : BitVec 16 := 1
def protocolVersionMinor : BitVec 16 := 0

/-- The message of `check_driver_compatibility` for a version, if the driver is not compatible. -/
def VersionInfo.incompatibility (version : VersionInfo) : Option String :=
  if version.protocolMajor ≠ protocolVersionMajor then
    some ("Driver protocol version " ++ toString version.protocolMajor.toNat ++ "." ++
      toString version.protocolMinor.toNat ++ " is incompatible with addon protocol version " ++
      toString protocolVersionMajor.toNat ++ "." ++ toString protocolVersionMinor.toNat ++
      ". Please update the " ++
      (if version.protocolMajor < protocolVersionMajor then "driver" else "addon (npm package)") ++
      " to match.")
  else none

/-- What `check_driver_compatibility` returns for a reply. -/
def compatibilityShown : Except NativeError (List UCHAR) → AddonResult
  | .ok response => .compatibility (readVersion response).incompatibility
  | .error _ => .compatibility (some "Failed to query driver version")

/-- `check_driver_compatibility`. -/
def checkDriverCompatibility (m : Machine) (call : WireCall) :
    Machine × Except NativeError AddonResult :=
  if !call.opened then (m, .ok (.compatibility (some "Driver not installed")))
  else
    let (m, result) := queryVersion m call
    (m, .ok (compatibilityShown result))

/-- A call of the addon on the control device. -/
inductive AddonCall where
  | createPort (portNumber : ULONG)
  | destroyPort (companionIndex : ULONG)
  | listPorts
  | getDriverVersion
  | checkDriverCompatibility

/-- A call on the bytes that it sends and receives. -/
def AddonCall.perform (m : Machine) (call : WireCall) :
    AddonCall → Machine × Except NativeError AddonResult
  | .createPort portNumber => createPortCall m call portNumber
  | .destroyPort companionIndex => destroyPortCall m call companionIndex
  | .listPorts => listPortsCall m call
  | .getDriverVersion => GhostCom.getDriverVersion m call
  | .checkDriverCompatibility => GhostCom.checkDriverCompatibility m call

/-! ## The calls as requests -/

/-- The addon's description of a port. -/
def PortInfo.js (info : PortInfo) : PortInfoJs where
  portNumber := info.portNumber
  companionIndex := info.companionIndex
  comSideOpen := isTrue info.comSideOpen
  companionSideOpen := isTrue info.companionSideOpen

namespace AddonCall

/-- The request of a call. -/
def request (o : ControlOutcomes) : AddonCall → ControlRequest
  | .createPort portNumber => .createPort portNumber o.create
  | .destroyPort companionIndex => .destroyPort companionIndex o.destroy
  | .listPorts => .listPorts
  | .getDriverVersion | .checkDriverCompatibility => .getVersion

/-- The lengths of its buffers. -/
def lengths : AddonCall → ℕ × ℕ
  | .createPort _ => (4, 8)
  | .destroyPort _ => (4, 0)
  | .listPorts => (0, listPortsBufferSize)
  | .getDriverVersion | .checkDriverCompatibility => (0, 12)

/-- What it makes of the result of the request. -/
def shows (opened : Bool) : AddonCall → NativeResult → Except NativeError AddonResult
  | .getDriverVersion, .ok (.version a b c d e) =>
      .ok (.version (some (VersionInfo.mk a b c d e).text))
  | .getDriverVersion, _ => .ok (.version none)
  | .checkDriverCompatibility, .ok (.version a b c d e) =>
      .ok (.compatibility (VersionInfo.mk a b c d e).incompatibility)
  | .checkDriverCompatibility, _ =>
      .ok (.compatibility (some (if opened then "Failed to query driver version"
        else "Driver not installed")))
  | _, .error e => .error e
  | _, .ok (.created portNumber companionIndex) => .ok (.created portNumber companionIndex)
  | _, .ok (.ports infos) => .ok (.ports (infos.map PortInfo.js))
  | _, .ok _ => .ok .destroyed

/-- A call as a request, without bytes. -/
def ask (m : Machine) (call : WireCall) (addonCall : AddonCall) :
    Machine × Except NativeError AddonResult :=
  let (m, result) := deviceIoctl m call.toNativeCall addonCall.lengths.1 addonCall.lengths.2
    (addonCall.request call.outcomes)
  (m, addonCall.shows call.opened result)

end AddonCall

/-! ## Members -/

/-- A member of a record is read where its bytes are, whatever follows the record. -/
theorem member_image {fs fs' : List Field} {vs : List ℕ} (hsize : fs'.map Field.size =
    fs.map Field.size) (hoffset : offsets fs' = offsets fs) (hlength : fs.length = vs.length)
    (hfits : ∀ fv ∈ fs.zip vs, Fits fv) (back : List UCHAR) (k : ℕ) :
    member fs' (image 0 (fs.zip vs) ++ back) k = vs.getD k 0 := by
  have himage := parse_image_append 0 hfits back
  rw [List.map_fst_zip (Nat.le_of_eq hlength), List.map_snd_zip (Nat.le_of_eq hlength.symm)]
    at himage
  rw [member, parse_congr hsize hoffset, himage]

theorem word32_fits (x : BitVec 32) : Fits (word32, x.toNat) := ⟨Nat.succ_pos 3, x.isLt⟩

theorem word16_fits (x : BitVec 16) : Fits (word16, x.toNat) := ⟨Nat.succ_pos 1, x.isLt⟩

/-- The handler finds the number that the addon has sent. -/
theorem read_word (x : BitVec 32) (back : List UCHAR) :
    BitVec.ofNat 32 (member (pack 1 [word32]) (recordBytes [word32] [x.toNat] ++ back) 0) = x := by
  have hmember := @member_image [word32] (pack 1 [word32]) [x.toNat]
    (by decide) (by decide) rfl (by simp [word32_fits]) back 0
  rw [recordBytes, hmember]
  exact BitVec.ofNat_toNat ..

/-- The bytes that a handler has stored at the beginning of the system buffer and reported are the
beginning of the caller's buffer. -/
theorem copy_back_store {buffer w output : List UCHAR} {information : ℕ}
    (hlength : w.length = information) :
    copyBack ⟨store buffer 0 w, information⟩ output = w ++ output.drop information := by
  subst hlength
  rw [copyBack, store_zero, List.take_left' rfl]

/-- The system buffer has room for the caller's output. -/
theorem length_system_buffer (pool : ℕ → UCHAR) (args : IoctlArguments) :
    args.output.length ≤ (systemBuffer pool args).bytes.length := by
  simp only [systemBuffer, List.length_append, List.length_map, List.length_range']
  omega

theorem length_system_output (pool : ℕ → UCHAR) (args : IoctlArguments) :
    (systemBuffer pool args).output.bytes.length = args.output.length :=
  List.length_take_of_le (length_system_buffer pool args)

/-- The two members of the response of a create. -/
theorem set_response {buffer : List UCHAR} (hroom : 8 ≤ buffer.length) (x y : ULONG) :
    setMember gcomCreatePortResponseMembers
        (setMember gcomCreatePortResponseMembers buffer 0 x.toNat) 1 y.toNat =
      store buffer 0 (recordBytes gcomCreatePortResponseFields [x.toNat, y.toNat]) := by
  show store (store buffer 0 (toBytes 4 _)) 4 (toBytes 4 _) = _
  rw [store_append (by rw [length_toBytes]) (by omega)]
  rfl

/-- The six members of a version. -/
theorem assign_version_eq {buffer : List UCHAR} (hroom : 12 ≤ buffer.length) (v : VersionInfo) :
    assignVersion v buffer = store buffer 0 (recordBytes gcomVersionInfoFields
      [v.major.toNat, v.minor.toNat, v.patch.toNat, v.protocolMajor.toNat, v.protocolMinor.toNat,
        0]) := by
  have hlength (x : ℕ) : (toBytes 2 x).length = 2 := length_toBytes 2 x
  show store (store (store (store (store (store buffer 0 (toBytes 2 _)) 2 (toBytes 2 _)) 4
    (toBytes 2 _)) 6 (toBytes 2 _)) 8 (toBytes 2 _)) 10 (toBytes 2 _) = _
  rw [store_append (o := 0) (by rw [hlength]) (by omega)]
  rw [store_append (o := 0) (by simp only [List.length_append, hlength]) (by omega)]
  rw [store_append (o := 0) (by simp only [List.length_append, hlength]) (by omega)]
  rw [store_append (o := 0) (by simp only [List.length_append, hlength]) (by omega)]
  rw [store_append (o := 0) (by simp only [List.length_append, hlength]) (by omega)]
  simp only [List.append_assoc]
  rfl

/-! ## One request -/

/-- A request on bytes and a typed one leave the same state, and fail with the same error or succeed
with a reply and an output that belong together. -/
inductive Agrees {ε α β : Type} (R : α → β → Prop) :
    Machine × Except ε α → Machine × Except ε β → Prop
  | failed (m : Machine) (e : ε) : Agrees R (m, .error e) (m, .error e)
  | done (m : Machine) {a : α} {b : β} (h : R a b) : Agrees R (m, .ok a) (m, .ok b)

theorem Agrees.inv {ε α β : Type} {R : α → β → Prop} {x : Machine × Except ε α}
    {y : Machine × Except ε β} (h : Agrees R x y) :
    (∃ m e, x = (m, .error e) ∧ y = (m, .error e)) ∨
      ∃ m a b, R a b ∧ x = (m, .ok a) ∧ y = (m, .ok b) := by
  cases h with
  | failed m e => exact .inl ⟨m, e, rfl, rfl⟩
  | done m h => exact .inr ⟨m, _, _, h, rfl, rfl⟩

/-- What is made of the two results is the same, if that is so of every error and of every reply
with its output. -/
theorem Agrees.show_eq {ε α β γ : Type} {R : α → β → Prop} {x : Machine × Except ε α}
    {y : Machine × Except ε β} (h : Agrees R x y) {f : Except ε α → γ} {g : Except ε β → γ}
    (hfailed : ∀ e, f (.error e) = g (.error e))
    (hdone : ∀ a b, R a b → f (.ok a) = g (.ok b)) : (x.1, f x.2) = (y.1, g y.2) := by
  cases h with
  | failed m e => exact congrArg (m, ·) (hfailed e)
  | done m h => exact congrArg (m, ·) (hdone _ _ h)

/-- The reply to `create_port`: the two numbers at the beginning of the system buffer. -/
def CreateReply (buffer : List UCHAR) (reply : BufferReply) (output : ControlOutput) : Prop :=
  ∃ x y : ULONG, output = .created x y ∧
    reply = ⟨store buffer 0 (recordBytes gcomCreatePortResponseFields [x.toNat, y.toNat]), 8⟩

/-- The values of the fields of a version, with `_reserved`. -/
def VersionInfo.values (version : VersionInfo) : List ℕ :=
  [version.major.toNat, version.minor.toNat, version.patch.toNat, version.protocolMajor.toNat,
    version.protocolMinor.toNat, 0]

/-- The reply to a version request: the version at the beginning of the system buffer. -/
def VersionReply (version : VersionInfo) (buffer : List UCHAR) (reply : BufferReply)
    (output : ControlOutput) : Prop :=
  output = .version version.major version.minor version.patch version.protocolMajor
      version.protocolMinor ∧
    reply = ⟨store buffer 0 (recordBytes gcomVersionInfoFields version.values), 12⟩

/-- The reply to `list_ports`. -/
def ListReply (m : Machine) (buffer : OutputBuffer) (reply : BufferReply) (output : ControlOutput) :
    Prop :=
  output = .ports (listed m buffer.bytes.length) ∧ reply = listPortsReply m buffer

section Requests

variable (m : Machine) (call : WireCall) (wdf : Wdf) (id : RequestId)

/-- `GcomHandleCreatePort` on the bytes that `create_port` sends. -/
theorem create_port_agrees (o : CreateOutcomes) (portNumber : ULONG) :
    let buffer := systemBuffer call.pool (createPortArguments portNumber)
    Agrees (CreateReply buffer.bytes) (createPortBytes m wdf id o buffer)
      (gcomHandleCreatePort m wdf ⟨id, 4, 8⟩ o portNumber) := by
  intro buffer
  have hroom : 8 ≤ buffer.bytes.length :=
    length_system_buffer call.pool (createPortArguments portNumber)
  have hnumber : BitVec.ofNat 32 (member gcomCreatePortRequestMembers buffer.bytes 0) =
      portNumber := read_word portNumber _
  have hinput : controlBuffer wdf id (recordSize gcomCreatePortRequestMembers) buffer.inputLength
      invalidParameter = controlBuffer wdf id 4 4 invalidParameter := rfl
  have houtput : controlBuffer wdf id (recordSize gcomCreatePortResponseMembers)
      buffer.outputLength invalidParameter = controlBuffer wdf id 8 8 invalidParameter := rfl
  unfold createPortBytes gcomHandleCreatePort
  rw [hinput, houtput, hnumber]
  dsimp only
  cases controlBuffer wdf id 4 4 invalidParameter with
  | error st => exact .failed m st
  | ok =>
  cases controlBuffer wdf id 8 8 invalidParameter with
  | error st => exact .failed m st
  | ok =>
  rcases gcomPortPairCreate m o portNumber with ⟨m', st | pp⟩
  · exact .failed m' st
  · refine .done m' ⟨(m'.pairs pp).portNumber, (m'.pairs pp).companionIndex, rfl, ?_⟩
    rw [set_response hroom]
    rfl

/-- `GcomHandleDestroyPort` on the bytes that `destroy_port` sends. -/
theorem destroy_port_agrees (o : DestroyOutcomes) (companionIndex : ULONG) :
    let buffer := systemBuffer call.pool (destroyPortArguments companionIndex)
    Agrees (fun _ output ↦ output = .destroyed) (destroyPortBytes m wdf id o buffer)
      (gcomHandleDestroyPort m wdf ⟨id, 4, 0⟩ o companionIndex) := by
  intro buffer
  have hindex : BitVec.ofNat 32 (member gcomDestroyPortRequestMembers buffer.bytes 0) =
      companionIndex := read_word companionIndex _
  have hinput : controlBuffer wdf id (recordSize gcomDestroyPortRequestMembers) buffer.inputLength
      invalidParameter = controlBuffer wdf id 4 4 invalidParameter := rfl
  unfold destroyPortBytes gcomHandleDestroyPort
  rw [hinput, hindex]
  cases controlBuffer wdf id 4 4 invalidParameter with
  | error st => exact .failed m st
  | ok =>
  cases findPair m companionIndex with
  | none => exact .failed m notFound
  | some found => exact .done _ rfl

/-- `GcomHandleListPorts` on any output buffer. -/
theorem list_ports_reply_agrees (buffer : OutputBuffer) :
    Agrees (ListReply m buffer)
      (m, gcomHandleListPortsBuffer m wdf id buffer)
      (m, gcomHandleListPorts m wdf ⟨id, 0, buffer.bytes.length⟩) := by
  unfold gcomHandleListPortsBuffer gcomHandleListPorts
  dsimp only
  rw [show controlBuffer wdf id sizeofListPortsHeader buffer.bytes.length bufferTooSmall =
    controlBuffer wdf id 4 buffer.bytes.length bufferTooSmall from rfl]
  cases controlBuffer wdf id 4 buffer.bytes.length bufferTooSmall with
  | error st => exact .failed m st
  | ok =>
      refine .done m ⟨?_, rfl⟩
      rw [filterMap_portInfo, ← List.map_take]
      rfl

/-- `GcomHandleGetVersion` on the buffer of the addon. -/
theorem get_version_agrees :
    let buffer := systemBuffer call.pool getVersionArguments
    Agrees (VersionReply driverVersion buffer.bytes)
      (m, getVersionBytes driverVersion wdf id buffer)
      (m, gcomHandleGetVersion wdf ⟨id, 0, 12⟩) := by
  intro buffer
  have houtput : controlBuffer wdf id (recordSize gcomVersionInfoMembers) buffer.outputLength
      bufferTooSmall = controlBuffer wdf id 12 12 bufferTooSmall := rfl
  unfold getVersionBytes gcomHandleGetVersion
  rw [houtput, assign_version_eq (length_system_buffer call.pool getVersionArguments)]
  cases controlBuffer wdf id 12 12 bufferTooSmall with
  | error st => exact .failed m st
  | ok => exact .done m ⟨rfl, rfl⟩

end Requests

/-! ## One call -/

section Calls

variable (m : Machine) (call : WireCall)

/-- Every call asks for the access that its code demands. -/
theorem calls_permitted :
    permits (grantedAccess openDeviceSync) addonCodes.createPort = true ∧
      permits (grantedAccess openDeviceSync) addonCodes.destroyPort = true ∧
      permits (grantedAccess openDeviceSyncRead) addonCodes.listPorts = true ∧
      permits (grantedAccess openDeviceSyncRead) addonCodes.getVersion = true := by
  decide

/-- The driver tells the codes of the addon apart. -/
theorem codes_distinct :
    addonCodes.destroyPort ≠ driverCodes.createPort ∧
      addonCodes.listPorts ≠ driverCodes.createPort ∧
      addonCodes.listPorts ≠ driverCodes.destroyPort ∧
      addonCodes.getVersion ≠ driverCodes.createPort ∧
      addonCodes.getVersion ≠ driverCodes.destroyPort ∧
      addonCodes.getVersion ≠ driverCodes.listPorts := by
  decide

variable {m call}

/-- A call fails before it reaches the driver, or it is answered as the driver answers it. -/
theorem device_ioctl_agrees {args : IoctlArguments} {inputLength outputLength : ℕ}
    {request : ControlRequest} {R : BufferReply → ControlOutput → Prop}
    (hpermits : permits (grantedAccess args.desiredAccess) args.ioControlCode = true)
    (h : Agrees R
      (controlBytes m call.wdf call.id call.outcomes args.ioControlCode
        (systemBuffer call.pool args))
      (gcomControlIoDeviceControl m call.wdf ⟨call.id, inputLength, outputLength⟩ request)) :
    Agrees (fun result output ↦ ∃ reply, R reply output ∧
        result = (copyBack reply args.output, BitVec.ofNat 32 reply.information))
      (deviceIoctlBytes m call args)
      (deviceIoctl m call.toNativeCall inputLength outputLength request) := by
  unfold deviceIoctlBytes deviceIoctl
  rw [hpermits]
  cases hopened : call.opened with
  | false => exact .failed m NativeError.other
  | true =>
      obtain ⟨m', st, hbytes, hasked⟩ | ⟨m', reply, output, hreply, hbytes, hasked⟩ := h.inv
      · rw [hbytes, hasked]
        exact .failed m' (nativeError st)
      · rw [hbytes, hasked]
        exact .done m' ⟨reply, hreply, rfl⟩

/-- The driver serves a code as the handler of the code does, while it has a control device. -/
theorem control_agrees {code : ULONG} {buffer : SystemBuffer} {req : IoctlRequest}
    {request : ControlRequest} {R : BufferReply → ControlOutput → Prop}
    (h : m.controlDevice = true →
      Agrees R (controlBytes m call.wdf call.id call.outcomes code buffer)
        (gcomControlIoDeviceControl m call.wdf req request)) :
    Agrees R (controlBytes m call.wdf call.id call.outcomes code buffer)
      (gcomControlIoDeviceControl m call.wdf req request) := by
  cases hdevice : m.controlDevice with
  | true => exact h hdevice
  | false =>
      unfold controlBytes gcomControlIoDeviceControl
      rw [hdevice]
      exact .failed m deviceNotConnected

/-- The response of a call of the addon, from the bytes that the handler has stored. -/
theorem read_response {fs : List Field} {vs : List ℕ} {buffer output : List UCHAR}
    {information : ℕ} (hlength : (recordBytes fs vs).length = information)
    (hvs : fs.length = vs.length) (hfits : ∀ fv ∈ fs.zip vs, Fits fv) (k : ℕ) :
    member fs (copyBack ⟨store buffer 0 (recordBytes fs vs), information⟩ output) k =
      vs.getD k 0 := by
  rw [copy_back_store hlength]
  exact member_image rfl rfl hvs hfits _ k

theorem read_created (buffer output : List UCHAR) (x y : ULONG) (k : ℕ) :
    member gcomCreatePortResponseFields (copyBack
      ⟨store buffer 0 (recordBytes gcomCreatePortResponseFields [x.toNat, y.toNat]), 8⟩ output) k =
      [x.toNat, y.toNat].getD k 0 := by
  refine read_response rfl rfl (fun fv hfv ↦ ?_) k
  rcases List.mem_cons.mp hfv with rfl | hfv
  · exact word32_fits x
  · rw [List.mem_singleton.mp hfv]
    exact word32_fits y

theorem VersionInfo.values_fit (version : VersionInfo) :
    ∀ fv ∈ gcomVersionInfoFields.zip version.values, Fits fv := by
  intro fv hfv
  simp only [gcomVersionInfoFields, VersionInfo.values, List.zip_cons_cons, List.zip_nil_right,
    List.mem_cons, List.not_mem_nil, or_false] at hfv
  rcases hfv with rfl | rfl | rfl | rfl | rfl | rfl
  exacts [word16_fits _, word16_fits _, word16_fits _, word16_fits _, word16_fits _, word16_fits 0]

/-- The addon reads the version that the driver has written. -/
theorem read_version_eq (version : VersionInfo) (buffer output : List UCHAR) :
    readVersion (copyBack ⟨store buffer 0 (recordBytes gcomVersionInfoFields version.values), 12⟩
      output) = version := by
  have hmember (k : ℕ) :=
    @read_response gcomVersionInfoFields version.values buffer output 12 rfl rfl
      version.values_fit k
  unfold readVersion
  simp only [hmember]
  simp only [VersionInfo.values, List.getD_cons_zero, List.getD_cons_succ, BitVec.ofNat_toNat,
    BitVec.setWidth_eq]

/-- `create_port` sends its number and reads the two numbers of the reply. -/
theorem create_port_call (portNumber : ULONG) :
    createPortCall m call portNumber = (AddonCall.createPort portNumber).ask m call := by
  have hagrees : Agrees (fun result output ↦ ∃ reply,
      CreateReply (systemBuffer call.pool (createPortArguments portNumber)).bytes reply output ∧ _)
      (deviceIoctlBytes m call (createPortArguments portNumber))
      (deviceIoctl m call.toNativeCall 4 8 (.createPort portNumber call.outcomes.create)) :=
    device_ioctl_agrees calls_permitted.1 <| control_agrees fun hdevice ↦ by
      unfold controlBytes gcomControlIoDeviceControl
      rw [hdevice]
      exact create_port_agrees m call call.wdf call.id call.outcomes.create portNumber
  refine hagrees.show_eq (fun e ↦ rfl) ?_
  rintro result output ⟨reply, ⟨x, y, rfl, rfl⟩, rfl⟩
  simp only [Except.map, read_created, List.getD_cons_zero, List.getD_cons_succ,
    BitVec.ofNat_toNat, BitVec.setWidth_eq]
  rfl

/-- `destroy_port` sends its index. -/
theorem destroy_port_call (companionIndex : ULONG) :
    destroyPortCall m call companionIndex = (AddonCall.destroyPort companionIndex).ask m call := by
  have hagrees : Agrees (fun result output ↦ ∃ reply : BufferReply, output = .destroyed ∧ _)
      (deviceIoctlBytes m call (destroyPortArguments companionIndex))
      (deviceIoctl m call.toNativeCall 4 0
        (.destroyPort companionIndex call.outcomes.destroy)) :=
    device_ioctl_agrees calls_permitted.2.1 <| control_agrees fun hdevice ↦ by
      have hbytes :=
        destroy_port_agrees m call call.wdf call.id call.outcomes.destroy companionIndex
      unfold controlBytes gcomControlIoDeviceControl
      rw [hdevice]
      exact hbytes
  refine hagrees.show_eq (fun e ↦ rfl) ?_
  rintro result output ⟨reply, rfl, rfl⟩
  rfl

/-- `list_ports` returns the descriptions that the driver lists. -/
theorem list_ports_call : listPortsCall m call = AddonCall.listPorts.ask m call := by
  let buffer := (systemBuffer call.pool listPortsArguments).output
  have hlength : buffer.bytes.length = listPortsBufferSize :=
    (length_system_output call.pool listPortsArguments).trans length_list_ports_buffer
  have hagrees : Agrees (fun result output ↦ ∃ reply, ListReply m buffer reply output ∧ _)
      (deviceIoctlBytes m call listPortsArguments)
      (deviceIoctl m call.toNativeCall 0 listPortsBufferSize .listPorts) :=
    device_ioctl_agrees calls_permitted.2.2.1 <| control_agrees fun hdevice ↦ by
      have hbytes := list_ports_reply_agrees m call.wdf call.id buffer
      rw [hlength] at hbytes
      have hdispatch : controlBytes m call.wdf call.id call.outcomes addonCodes.listPorts
          (systemBuffer call.pool listPortsArguments) =
            (m, gcomHandleListPortsBuffer m call.wdf call.id buffer) := by
        rw [controlBytes, hdevice, if_neg (by decide), if_neg codes_distinct.2.1,
          if_neg codes_distinct.2.2.1]
        exact if_pos rfl
      have hasked : gcomControlIoDeviceControl m call.wdf ⟨call.id, 0, listPortsBufferSize⟩
          .listPorts = (m, gcomHandleListPorts m call.wdf ⟨call.id, 0, listPortsBufferSize⟩) := by
        rw [gcomControlIoDeviceControl, hdevice]
        rfl
      rw [show listPortsArguments.ioControlCode = addonCodes.listPorts from rfl, hdispatch, hasked]
      exact hbytes
  refine hagrees.show_eq (fun e ↦ rfl) ?_
  rintro result output ⟨reply, ⟨rfl, rfl⟩, rfl⟩
  have hports := (list_ports_complete m buffer hlength).1
  have hlisted : listed m buffer.bytes.length = (activePairs m m.table.slots).map (infoOf m) := by
    rw [listed, hlength, List.take_of_length_le]
    exact length_active_pairs m
  have hjs : (listed m buffer.bytes.length).map PortInfo.js =
      (activePairs m m.table.slots).map (portOf m) := by
    rw [hlisted, List.map_map]
    refine List.map_congr_left fun pp _ ↦ ?_
    simp [PortInfo.js, infoOf, portOf]
  show Except.ok (AddonResult.ports _) = Except.ok (AddonResult.ports _)
  rw [hjs, ← hports]
  rfl

/-- The version request is answered with the driver's version. -/
theorem query_version_agrees : Agrees (fun response output ↦ readVersion response = driverVersion ∧
      output = .version driverVersion.major driverVersion.minor driverVersion.patch
        driverVersion.protocolMajor driverVersion.protocolMinor)
    (queryVersion m call) (deviceIoctl m call.toNativeCall 0 12 .getVersion) := by
  have hagrees : Agrees (fun result output ↦ ∃ reply,
      VersionReply driverVersion (systemBuffer call.pool getVersionArguments).bytes reply output ∧
        _)
      (deviceIoctlBytes m call getVersionArguments)
      (deviceIoctl m call.toNativeCall 0 12 .getVersion) :=
    device_ioctl_agrees calls_permitted.2.2.2 <| control_agrees fun hdevice ↦ by
      have hbytes := get_version_agrees m call call.wdf call.id
      unfold controlBytes gcomControlIoDeviceControl
      rw [hdevice]
      exact hbytes
  unfold queryVersion
  obtain ⟨m', e, hbytes, hasked⟩ | ⟨m', _, output, ⟨reply, ⟨rfl, rfl⟩, rfl⟩, hbytes, hasked⟩ :=
    hagrees.inv
  · rw [hbytes, hasked]
    exact .failed m' e
  · rw [hbytes, hasked]
    exact .done m' ⟨read_version_eq driverVersion _ _, rfl⟩

/-- `get_driver_version` returns the text of the driver's version. -/
theorem get_driver_version_call :
    getDriverVersion m call = AddonCall.getDriverVersion.ask m call := by
  have hagrees := @query_version_agrees m call
  refine hagrees.show_eq (f := fun result ↦ Except.ok (versionShown result)) (fun e ↦ rfl) ?_
  rintro response output ⟨hversion, rfl⟩
  dsimp only [versionShown]
  rw [hversion]
  rfl

/-- `check_driver_compatibility` judges the driver's version. -/
theorem check_driver_compatibility_call :
    checkDriverCompatibility m call = AddonCall.checkDriverCompatibility.ask m call := by
  unfold checkDriverCompatibility
  cases hopened : call.opened with
  | false =>
      unfold AddonCall.ask deviceIoctl
      rw [hopened]
      rfl
  | true =>
      unfold AddonCall.ask
      rw [hopened]
      have hagrees := @query_version_agrees m call
      refine hagrees.show_eq (f := fun result ↦ Except.ok (compatibilityShown result))
        (fun e ↦ rfl) ?_
      rintro response output ⟨hversion, rfl⟩
      dsimp only [compatibilityShown]
      rw [hversion]
      rfl

/-- A call on bytes is the call as a request. -/
theorem perform_eq_ask (addonCall : AddonCall) :
    addonCall.perform m call = addonCall.ask m call := by
  cases addonCall with
  | createPort portNumber => exact create_port_call portNumber
  | destroyPort companionIndex => exact destroy_port_call companionIndex
  | listPorts => exact list_ports_call
  | getDriverVersion => exact get_driver_version_call
  | checkDriverCompatibility => exact check_driver_compatibility_call

end Calls

/-! ## Runs -/

/-- Make calls one after the other, each with its own outcomes: the state they leave and what they
return. -/
def callAll (make : Machine → WireCall → AddonCall → Machine × Except NativeError AddonResult)
    (m : Machine) : List (WireCall × AddonCall) → Machine × List (Except NativeError AddonResult)
  | [] => (m, [])
  | (call, addonCall) :: rest =>
      let (m, result) := make m call addonCall
      let (m, results) := callAll make m rest
      (m, result :: results)

/-- The request that reaches the driver with a call, if the device could be opened. -/
def AddonCall.event : WireCall × AddonCall → Option ControlEvent
  | (call, addonCall) =>
      if call.opened then
        some (.request call.wdf ⟨call.id, addonCall.lengths.1, addonCall.lengths.2⟩
          (addonCall.request call.outcomes))
      else none

theorem call_all_perform (m : Machine) (calls : List (WireCall × AddonCall)) :
    callAll AddonCall.perform m calls = callAll AddonCall.ask m calls := by
  induction calls generalizing m with
  | nil => rfl
  | cons call rest ih =>
      obtain ⟨call, addonCall⟩ := call
      simp only [callAll, perform_eq_ask, ih]

/-- The calls leave the state that their requests leave. -/
theorem call_all_serve (m : Machine) (calls : List (WireCall × AddonCall)) :
    (callAll AddonCall.ask m calls).1 =
      (calls.filterMap AddonCall.event).foldl Machine.serve m := by
  induction calls generalizing m with
  | nil => rfl
  | cons call rest ih =>
      obtain ⟨call, addonCall⟩ := call
      have hstep : (callAll AddonCall.ask m ((call, addonCall) :: rest)).1 =
          (callAll AddonCall.ask (addonCall.ask m call).1 rest).1 := rfl
      rw [hstep, ih]
      cases hopened : call.opened with
      | false =>
          rw [List.filterMap_cons_none (by simp [AddonCall.event, hopened])]
          unfold AddonCall.ask deviceIoctl
          rw [hopened]
          rfl
      | true =>
          rw [List.filterMap_cons_some (by simp [AddonCall.event, hopened]; rfl)]
          unfold AddonCall.ask deviceIoctl
          rw [hopened]
          rfl

/-- The addon and the driver agree on the wire. Whatever calls are made in whatever order, with
whatever outcomes and whatever the system buffers hold behind the inputs, every call on bytes
changes the driver and returns as its request without bytes does, and the requests are a run of the
registry of port numbers that starts empty. -/
theorem addon_calls_agree (calls : List (WireCall × AddonCall)) :
    let bytes := callAll AddonCall.perform .initial calls
    bytes = callAll AddonCall.ask .initial calls ∧
      Registry.Trace ⟨∅, true⟩ (exchanges .initial (calls.filterMap AddonCall.event))
        bytes.1.registry := by
  intro bytes
  have hagree : bytes = callAll AddonCall.ask .initial calls := call_all_perform .initial calls
  refine ⟨hagree, ?_⟩
  have hinitial : Machine.initial.registry = ⟨∅, true⟩ :=
    congrArg (Registry.mk · true) (by decide)
  have htrace := TableOk.initial.trace (calls.filterMap AddonCall.event)
  rwa [hinitial, ← call_all_serve, ← hagree] at htrace

end GhostCom
