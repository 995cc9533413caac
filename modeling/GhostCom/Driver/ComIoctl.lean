import GhostCom.Driver.Signals

/-!
# COM-side IOCTLs

`GcomComEvtIoctl`. The input structure of a request is the argument of its code; it is read only
after `WdfRequestRetrieveInputBuffer` has accepted the length of the buffer. Codes that take their
input or return their output in the same way share `setRequest` and `getRequest`.
-/

namespace GhostCom

/-- An IOCTL request: its handle and the lengths of its buffers. -/
structure IoctlRequest where
  id : RequestId
  inputLength : ℕ
  outputLength : ℕ
deriving DecidableEq, Repr

/-- The IOCTL codes `GcomComEvtIoctl` tells apart, each with its input structure. `noOp` stands for
the six codes that are accepted without effect. -/
inductive ComIoctl where
  | setBaudRate (baudRate : ULONG)
  | getBaudRate
  | setLineControl (lc : SerialLineControl)
  | getLineControl
  | setDtr
  | clrDtr
  | setRts
  | clrRts
  | setBreakOn
  | setBreakOff
  | setTimeouts (timeouts : SerialTimeouts)
  | getTimeouts
  | setHandflow (hf : SerialHandflow)
  | getHandflow
  | setChars (ch : SerialChars)
  | getChars
  | setWaitMask (mask : ULONG)
  | getWaitMask
  | waitOnMask
  | getModemStatus
  | getCommStatus
  | getProperties
  | purge (flags : ULONG)
  | setQueueSize
  | getDtrRts
  | getStats
  | clearStats
  | noOp
  | immediateChar (ch : UCHAR)
  | configSize
  | getModemControl
  | setModemControl (mcr : ULONG)
  | unknown
deriving DecidableEq, Repr

/-- The flags of `IOCTL_SERIAL_PURGE`. -/
def serialPurgeTxAbort : ULONG := 1
def serialPurgeRxAbort : ULONG := 2
def serialPurgeTxClear : ULONG := 4
def serialPurgeRxClear : ULONG := 8

/-- Bits of the modem control register, of `GET_DTRRTS` and of `GET_MODEMSTATUS`. -/
def serialMcrDtr : ULONG := 0x01
def serialMcrRts : ULONG := 0x02
def serialDtrState : ULONG := 0x01
def serialRtsState : ULONG := 0x02
def serialCtsState : ULONG := 0x10
def serialDsrState : ULONG := 0x20
def serialDcdState : ULONG := 0x80

/-- The word with the bits of the conditions that hold. -/
def flagBits (flags : List (Bool × ULONG)) : ULONG :=
  flags.foldl (fun bits flag ↦ if flag.1 then bits ||| flag.2 else bits) 0

/-- The truth value of a word in C. -/
def isTrue (value : ULONG) : Bool := value ≠ 0

/-- `TRUE` and `FALSE` as a `ULONG`. -/
def boolean (value : Bool) : ULONG := if value then 1 else 0

@[simp] theorem isTrue_boolean (value : Bool) : isTrue (boolean value) = value := by
  cases value <;> rfl

/-- The truth value of a word, as the addon writes it. -/
theorem bne_zero_eq_isTrue (value : ULONG) : (value != 0) = isTrue value := by
  rw [isTrue, bne, beq_eq_decide, decide_not]

theorem boolean_ne_zero (value : Bool) : (boolean value != 0) = value := by
  rw [bne_zero_eq_isTrue, isTrue_boolean]

/-- Complete a request without output. -/
def complete (req : IoctlRequest) (st : NTSTATUS) : Effect := .completed req.id st 0 .none

/-- A code with an input structure of `size` bytes: run `body`, then complete with success. -/
def setRequest (wdf : Wdf) (pp : PortPair) (req : IoctlRequest) (size : ℕ)
    (body : PortPair × List Effect) : PortPair × List Effect :=
  match retrieveBuffer wdf req.id size req.inputLength with
  | .ok () => (body.1, body.2 ++ [complete req .success])
  | .error st => (pp, [complete req st])

/-- A code with an output structure of `size` bytes. -/
def getRequest (wdf : Wdf) (pp : PortPair) (req : IoctlRequest) (size : ℕ) (output : Output) :
    PortPair × List Effect :=
  match retrieveBuffer wdf req.id size req.outputLength with
  | .ok () => (pp, [.completed req.id .success size output])
  | .error st => (pp, [complete req st])

/-- Store a new signal state and announce the change. -/
def notify (wdf : Wdf) (pp : PortPair) (state : SignalState) (changedBits : ULONG) :
    PortPair × List Effect :=
  gcomSignalChanged wdf { pp with signalState := state } changedBits

/-- A code without input: announce the change, then complete with success. -/
def notifyRequest (wdf : Wdf) (pp : PortPair) (req : IoctlRequest) (state : SignalState)
    (changedBits : ULONG) : PortPair × List Effect :=
  let (pp, effects) := notify wdf pp state changedBits
  (pp, effects ++ [complete req .success])

/-- `IOCTL_SERIAL_SET_BREAK_ON`: the change is announced, then the comm event is raised. -/
def setBreakOn (wdf : Wdf) (pp : PortPair) (req : IoctlRequest) : PortPair × List Effect :=
  let (pp, changed) := notify wdf pp { pp.signalState with breakState := 1 } changedBreak
  let (pp, events) := gcomCheckWaitMask wdf pp serialEvBreak
  (pp, changed ++ events ++ [complete req .success])

/-- `IOCTL_SERIAL_SET_WAIT_MASK`: the waits under the old mask are purged. -/
def setWaitMask (wdf : Wdf) (pp : PortPair) (mask : ULONG) : PortPair × List Effect :=
  let cancelled := pp.waitMaskQueue.map fun req ↦ Effect.completed req.id .cancelled 0 .none
  let (pp, changed) := notify wdf { pp with waitMaskQueue := [] }
    { pp.signalState with waitMask := mask } changedWaitMask
  (pp, cancelled ++ changed)

/-- `IOCTL_SERIAL_WAIT_ON_MASK`. -/
def waitOnMask (wdf : Wdf) (pp : PortPair) (req : IoctlRequest) : PortPair × List Effect :=
  match wdf.forward req.id with
  | .ok () =>
      ({ pp with waitMaskQueue := pp.waitMaskQueue ++ [⟨req.id, req.outputLength⟩] }, [])
  | .error st => (pp, [complete req st])

/-- The `TXABORT` and `RXABORT` sections of `IOCTL_SERIAL_PURGE`: purge one of the two COM
queues. -/
def purgeQueue (pp : PortPair) : Direction → PortPair × List Effect
  | .comToCompanion =>
      let (lane, out) := (pp.lane .comToCompanion).purgeWrites
      (pp.withLane .comToCompanion lane, laneEffects .comToCompanion out)
  | .companionToCom =>
      let (lane, out) := (pp.lane .companionToCom).purgeReads
      (pp.withLane .companionToCom lane, laneEffects .companionToCom out)

/-- `GcomRingFlush` of the ring of a direction. -/
def flushRing (pp : PortPair) (d : Direction) : PortPair :=
  pp.withLane d (pp.lane d).flush

/-- The section of `IOCTL_SERIAL_PURGE` under the data lock: flush the rings whose flag is set. -/
def flushRings (pp : PortPair) (tx rx : Bool) : PortPair :=
  let pp := if tx then flushRing pp .comToCompanion else pp
  if rx then flushRing pp .companionToCom else pp

/-- `IOCTL_SERIAL_PURGE`. -/
def purge (pp : PortPair) (flags : ULONG) : PortPair × List Effect :=
  let (pp, aborted) :=
    if isTrue (flags &&& serialPurgeTxAbort) then purgeQueue pp .comToCompanion else (pp, [])
  let (pp, aborted') :=
    if isTrue (flags &&& serialPurgeRxAbort) then purgeQueue pp .companionToCom else (pp, [])
  (flushRings pp (isTrue (flags &&& serialPurgeTxClear)) (isTrue (flags &&& serialPurgeRxClear)),
    aborted ++ aborted')

/-- `IOCTL_SERIAL_IMMEDIATE_CHAR`: the count written is not looked at. -/
def immediateChar (wdf : Wdf) (pp : PortPair) (req : IoctlRequest) (ch : UCHAR) :
    PortPair × List Effect :=
  let lane := pp.lane .comToCompanion
  let char : WriteRequest := ⟨req.id, [ch], one_byte_fits ch⟩
  let (ring, written) := lane.ring.write char
  let (ring, reads, out) := gcomDrainRingToReads wdf ring lane.readQueue
  (pp.withLane .comToCompanion ⟨ring, reads, lane.writeQueue⟩,
    laneEffects .comToCompanion (.accepted char written.toNat :: out))

/-- `GcomComEvtIoctl`. -/
def gcomComEvtIoctl (wdf : Wdf) (pp : PortPair) (req : IoctlRequest) (ioctl : ComIoctl) :
    PortPair × List Effect :=
  if !pp.active then (pp, [complete req .deviceNotConnected])
  else
    let state := pp.signalState
    match ioctl with
    | .setBaudRate baudRate =>
        setRequest wdf pp req 4 (notify wdf pp { state with baudRate := baudRate } changedBaud)
    | .getBaudRate => getRequest wdf pp req 4 (.baudRate state.baudRate)
    | .setLineControl lc =>
        setRequest wdf pp req 3 (notify wdf pp
          { state with stopBits := lc.stopBits, parity := lc.parity, dataBits := lc.wordLength }
          changedLineCtrl)
    | .getLineControl =>
        getRequest wdf pp req 3 (.lineControl ⟨state.stopBits, state.parity, state.dataBits⟩)
    | .setDtr => notifyRequest wdf pp req { state with dtrState := 1 } changedDtr
    | .clrDtr => notifyRequest wdf pp req { state with dtrState := 0 } changedDtr
    | .setRts => notifyRequest wdf pp req { state with rtsState := 1 } changedRts
    | .clrRts => notifyRequest wdf pp req { state with rtsState := 0 } changedRts
    | .setBreakOn => setBreakOn wdf pp req
    | .setBreakOff => notifyRequest wdf pp req { state with breakState := 0 } changedBreak
    | .setTimeouts timeouts => setRequest wdf pp req 20 ({ pp with timeouts := timeouts }, [])
    | .getTimeouts => getRequest wdf pp req 20 (.timeouts pp.timeouts)
    | .setHandflow hf =>
        setRequest wdf pp req 16 (notify wdf pp
          { state with
            controlHandShake := hf.controlHandShake
            flowReplace := hf.flowReplace
            xonLimit := hf.xonLimit
            xoffLimit := hf.xoffLimit }
          changedHandflow)
    | .getHandflow =>
        getRequest wdf pp req 16 (.handflow
          ⟨state.controlHandShake, state.flowReplace, state.xonLimit, state.xoffLimit⟩)
    | .setChars ch =>
        setRequest wdf pp req 6 (notify wdf pp
          { state with
            eofChar := ch.eofChar
            errorChar := ch.errorChar
            breakChar := ch.breakChar
            eventChar := ch.eventChar
            xonChar := ch.xonChar
            xoffChar := ch.xoffChar }
          changedChars)
    | .getChars =>
        getRequest wdf pp req 6 (.chars
          ⟨state.eofChar, state.errorChar, state.breakChar, state.eventChar, state.xonChar,
            state.xoffChar⟩)
    | .setWaitMask mask => setRequest wdf pp req 4 (setWaitMask wdf pp mask)
    | .getWaitMask => getRequest wdf pp req 4 (.ulong state.waitMask)
    | .waitOnMask => waitOnMask wdf pp req
    | .getModemStatus =>
        getRequest wdf pp req 4 (.ulong (flagBits
          [(pp.compDtr, serialDsrState ||| serialDcdState), (pp.compRts, serialCtsState)]))
    | .getCommStatus =>
        getRequest wdf pp req 20 (.commStatus pp.companionToCom.readAvailable
          pp.comToCompanion.readAvailable)
    | .getProperties => getRequest wdf pp req 64 .commProp
    | .purge flags => setRequest wdf pp req 4 (purge pp flags)
    | .setQueueSize => (pp, [complete req .success])
    | .getDtrRts =>
        getRequest wdf pp req 4 (.ulong (flagBits
          [(isTrue state.dtrState, serialDtrState), (isTrue state.rtsState, serialRtsState)]))
    | .getStats => getRequest wdf pp req 24 (.perfStats pp.perfStats)
    | .clearStats => ({ pp with perfStats := ⟨0, 0⟩ }, [complete req .success])
    | .noOp => (pp, [complete req .success])
    | .immediateChar ch => setRequest wdf pp req 1 (immediateChar wdf pp req ch)
    | .configSize => getRequest wdf pp req 4 (.ulong 0)
    | .getModemControl =>
        getRequest wdf pp req 4 (.ulong (flagBits
          [(isTrue state.dtrState, serialMcrDtr), (isTrue state.rtsState, serialMcrRts)]))
    | .setModemControl mcr =>
        setRequest wdf pp req 4 (notify wdf pp
          { state with
            dtrState := boolean (isTrue (mcr &&& serialMcrDtr))
            rtsState := boolean (isTrue (mcr &&& serialMcrRts)) }
          (changedDtr ||| changedRts))
    | .unknown => (pp, [complete req .invalidDeviceRequest])

end GhostCom
