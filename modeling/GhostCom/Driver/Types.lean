import Mathlib.Algebra.Group.Nat.Defs
import Mathlib.Tactic.Common

/-!
# Vocabulary of the driver

Machine types, status codes, requests and the records of `ioctls.h` and `ntddser.h` that the driver
reads or writes. `WDFREQUEST` handles are natural numbers, in order of arrival.
-/

namespace GhostCom

/-- A 32-bit unsigned word. -/
abbrev ULONG := BitVec 32

/-- A 32-bit signed word; the interlocked counters and flags wrap as such words do. -/
abbrev LONG := BitVec 32

/-- An 8-bit byte. -/
abbrev UCHAR := BitVec 8

/-- The `NTSTATUS` values the driver returns itself; `failure` is any other error code handed back
by a WDF call. -/
inductive NTSTATUS where
  | success
  | invalidParameter
  | insufficientResources
  | objectNameCollision
  | deviceNotConnected
  | sharingViolation
  | notFound
  | bufferTooSmall
  | invalidDeviceRequest
  | cancelled
  | failure (code : ULONG)
deriving DecidableEq, Repr

/-- A status for which `NT_SUCCESS` is false. -/
abbrev ErrorStatus := {st : NTSTATUS // st ≠ .success}

theorem buffer_too_small_ne_success : NTSTATUS.bufferTooSmall ≠ .success := nofun

theorem object_name_collision_ne_success : NTSTATUS.objectNameCollision ≠ .success := nofun

/-- The outcome of a WDF call that can fail. -/
abbrev Outcome := Except ErrorStatus Unit

/-- A WDFREQUEST handle; handles are numbered in order of arrival. -/
abbrev RequestId := ℕ

/-- A read request: its handle and the length of its output buffer. -/
structure ReadRequest where
  id : RequestId
  length : ULONG
deriving DecidableEq, Repr

/-- A write request: its handle and the bytes of its input buffer, whose length is a `ULONG`. -/
structure WriteRequest where
  id : RequestId
  data : List UCHAR
  fits : data.length < 2 ^ 32
deriving DecidableEq, Repr

theorem one_byte_fits (b : UCHAR) : [b].length < 2 ^ 32 := by simp

/-- The length of a write request's buffer as the `ULONG` passed to the handler. -/
def WriteRequest.length (req : WriteRequest) : ULONG :=
  BitVec.ofNat 32 req.data.length

/-- The length word of a write request loses nothing. -/
@[simp] theorem WriteRequest.length_toNat (req : WriteRequest) :
    req.length.toNat = req.data.length := by
  rw [WriteRequest.length, BitVec.toNat_ofNat, Nat.mod_eq_of_lt req.fits]

/-- A pended wait (`WAIT_SIGNAL_CHANGE` or `WAIT_ON_MASK`): its handle and the length of its output
buffer. -/
structure WaitRequest where
  id : RequestId
  outputLength : ℕ
deriving DecidableEq, Repr

/-- Outcomes of the WDF calls a callback makes on behalf of a request: mapping its buffer, and
forwarding it to a manual queue. -/
structure Wdf where
  retrieve : RequestId → Outcome
  forward : RequestId → Outcome

/-- Every WDF call succeeds. -/
def Wdf.ok : Wdf where
  retrieve _ := .ok ()
  forward _ := .ok ()

/-- `WdfRequestRetrieveInputBuffer` and `WdfRequestRetrieveOutputBuffer`: a buffer shorter than the
required minimum is refused, any other failure is the framework's. -/
def retrieveBuffer (wdf : Wdf) (id : RequestId) (minimum length : ℕ) : Outcome :=
  if length < minimum then
    .error ⟨.bufferTooSmall, buffer_too_small_ne_success⟩
  else wdf.retrieve id

/-- `GCOM_SIGNAL_STATE` without its padding. -/
structure SignalState where
  sequenceNumber : ULONG
  changedMask : ULONG
  baudRate : ULONG
  stopBits : UCHAR
  parity : UCHAR
  dataBits : UCHAR
  dtrState : ULONG
  rtsState : ULONG
  breakState : ULONG
  controlHandShake : ULONG
  flowReplace : ULONG
  xonLimit : LONG
  xoffLimit : LONG
  eofChar : UCHAR
  errorChar : UCHAR
  breakChar : UCHAR
  eventChar : UCHAR
  xonChar : UCHAR
  xoffChar : UCHAR
  waitMask : ULONG
deriving DecidableEq, Repr

/-- `sizeof(GCOM_SIGNAL_STATE)`. -/
def sizeofSignalState : ℕ := 56

/-- `SERIAL_LINE_CONTROL`. -/
structure SerialLineControl where
  stopBits : UCHAR
  parity : UCHAR
  wordLength : UCHAR
deriving DecidableEq, Repr

/-- `SERIAL_HANDFLOW`. -/
structure SerialHandflow where
  controlHandShake : ULONG
  flowReplace : ULONG
  xonLimit : LONG
  xoffLimit : LONG
deriving DecidableEq, Repr

/-- `SERIAL_CHARS`. -/
structure SerialChars where
  eofChar : UCHAR
  errorChar : UCHAR
  breakChar : UCHAR
  eventChar : UCHAR
  xonChar : UCHAR
  xoffChar : UCHAR
deriving DecidableEq, Repr

/-- `SERIAL_TIMEOUTS`. -/
structure SerialTimeouts where
  readIntervalTimeout : ULONG
  readTotalTimeoutMultiplier : ULONG
  readTotalTimeoutConstant : ULONG
  writeTotalTimeoutMultiplier : ULONG
  writeTotalTimeoutConstant : ULONG
deriving DecidableEq, Repr

/-- The fields of `SERIALPERF_STATS` the driver counts. -/
structure PerfStats where
  receivedCount : ULONG
  transmittedCount : ULONG
deriving DecidableEq, Repr

/-- The `ChangedMask` bits of `ioctls.h`. -/
def changedBaud : ULONG := 0x0001
def changedLineCtrl : ULONG := 0x0002
def changedDtr : ULONG := 0x0004
def changedRts : ULONG := 0x0008
def changedBreak : ULONG := 0x0010
def changedHandflow : ULONG := 0x0020
def changedChars : ULONG := 0x0040
def changedWaitMask : ULONG := 0x0080
def changedComOpen : ULONG := 0x0100
def changedComClose : ULONG := 0x0200

/-- The `SERIAL_EV_*` bits of `ntddser.h` that the driver raises. -/
def serialEvRxChar : ULONG := 0x0001
def serialEvTxEmpty : ULONG := 0x0004
def serialEvCts : ULONG := 0x0008
def serialEvDsr : ULONG := 0x0010
def serialEvRlsd : ULONG := 0x0020
def serialEvBreak : ULONG := 0x0040

/-- The value `MAXDWORD`. -/
def maxDword : ULONG := 0xFFFFFFFF

end GhostCom
