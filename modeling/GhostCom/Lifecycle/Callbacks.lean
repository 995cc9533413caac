import GhostCom.Driver.CompIoctl
import GhostCom.Driver.FileEvents
import GhostCom.Driver.Handlers
import GhostCom.Library.Procedure

/-!
# Callbacks cut at their `Active` checks and locks

The read, write and IOCTL handlers and the file close callbacks as procedures whose blocks end where
the code checks `Active` or acquires a lock, so that `GcomPortPairDestroy` can come between any two
of them. Queue handles may be `NULL` here. Without interruption, and with its handles in place,
every procedure does to the pair what the function of the same name does.
-/

namespace GhostCom

/-- The fields of a pair that hold the handle of a manual queue. -/
inductive QueueField where
  | comRead
  | comWrite
  | waitMask
  | compRead
  | compWrite
  | signalWait
deriving DecidableEq, Repr

/-- The fields of a pair that hold a lock. -/
inductive LockField where
  | signal
  | data
deriving DecidableEq, Repr

/-- The two queue handles that are cleared under `SignalLock`. -/
def QueueField.isWait : QueueField → Bool
  | .waitMask | .signalWait => true
  | _ => false

/-- The queue with the pended reads of a direction. -/
def Direction.readQueue : Direction → QueueField
  | .comToCompanion => .compRead
  | .companionToCom => .comRead

/-- The queue with the pended writes of a direction. -/
def Direction.writeQueue : Direction → QueueField
  | .comToCompanion => .comWrite
  | .companionToCom => .compWrite

/-- A pair, and which of its queue handles are `NULL`. -/
structure PairMemory where
  pp : PortPair
  isNull : QueueField → Bool

namespace PairMemory

/-- A pair with all its queue handles. -/
def intact (pp : PortPair) : PairMemory := ⟨pp, fun _ ↦ false⟩

/-- Change the pair. -/
def setPair (m : PairMemory) (f : PortPair → PortPair) : PairMemory := { m with pp := f m.pp }

/-- Store one direction of the pair. -/
def setLane (m : PairMemory) (d : Direction) (lane : Lane) : PairMemory :=
  m.setPair (·.withLane d lane)

/-- Complete the pended requests of a wait queue, if its handle is there. -/
def clearWaits (m : PairMemory) (q : QueueField) (waits : List WaitRequest) : List WaitRequest :=
  if m.isNull q then waits else []

end PairMemory

/-- The ring after the read of a read handler, with the count. -/
def ringRead (pp : PortPair) (d : Direction) (req : ReadRequest) : Ring × ULONG :=
  let read := (pp.lane d).ring.read (ulongMin req.length req.length)
  (read.1, read.2.1)

/-- Whether a read handler pends its request. -/
def pendsRead (pp : PortPair) (d : Direction) (nonBlocking : SerialTimeouts → Bool)
    (req : ReadRequest) : Bool :=
  !((ringRead pp d req).2 > 0) && !nonBlocking pp.timeouts

/-- The ring after the write of a write handler, with the count. -/
def ringWrite (pp : PortPair) (d : Direction) (req : WriteRequest) : Ring × ULONG :=
  (pp.lane d).ring.write req

/-- What a block does with queues, rings and timeouts: nothing; it forwards its request to a wait
queue; stores timeouts; only looks at the rings; takes data for a read, which it pends if there is
none; puts the data of a write into a ring, and pends the write if there is no room; puts data there
and pends nothing; or flushes the rings. -/
inductive BlockUse where
  | nothing
  | forward (q : QueueField)
  | setTimeouts (timeouts : SerialTimeouts)
  | look
  | read (d : Direction) (nonBlocking : SerialTimeouts → Bool) (req : ReadRequest)
  | write (d : Direction) (req : WriteRequest)
  | insert (d : Direction) (req : WriteRequest)
  | flush (tx rx : Bool)

namespace BlockUse

/-- Whether the block uses the rings. -/
def rings : BlockUse → Bool
  | look | read .. | write .. | insert .. | flush .. => true
  | nothing | forward _ | setTimeouts _ => false

/-- The handle to which the block forwards its request, as the pair is. -/
def forwards (use : BlockUse) (pp : PortPair) : Option QueueField :=
  match use with
  | forward q => some q
  | read d nonBlocking req => if pendsRead pp d nonBlocking req then some d.readQueue else none
  | write d req => if (ringWrite pp d req).2 > 0 then none else some d.writeQueue
  | _ => none

end BlockUse

/-- What a block needs: the lock it acquires, and what it does with queues, rings and timeouts. -/
structure Access where
  lock : Option LockField
  use : BlockUse

namespace Access

/-- A block that needs nothing. -/
def free : Access := ⟨none, .nothing⟩

/-- A block under a lock. -/
def under (lock : LockField) (use : BlockUse) : Access := ⟨some lock, use⟩

end Access

/-- A callback in blocks. -/
abbrev Callback := Procedure PairMemory Access

namespace Callback

/-- Go on only if `Active` is set. -/
def ifActive (body : Callback) : Callback :=
  .block .free id fun m ↦ if m.pp.active then body else .done

/-- A last block under a lock. -/
def locked (lock : LockField) (use : BlockUse) (run : PairMemory → PairMemory) : Callback :=
  .block (.under lock use) run fun _ ↦ .done

/-- A last block that forwards the request to a wait queue. -/
def forwardTo (q : QueueField) (run : PairMemory → PairMemory) : Callback :=
  .block ⟨none, .forward q⟩ run fun _ ↦ .done

/-- Go on only if the buffer of the request can be retrieved. -/
def withBuffer (retrieved : Outcome) (body : Callback) : Callback :=
  match retrieved with
  | .ok () => body
  | .error _ => .done

/-! ## Signal changes and comm events -/

/-- `GcomSignalChanged`: the snapshot is taken and the waits are completed in one block, the bits
are cleared in another. -/
def gcomSignalChanged (changedBits : ULONG) : Callback :=
  ifActive <| .block (.under .signal .nothing)
    (fun m ↦ m.setPair fun pp ↦
      { pp with
        signalState := signalUpdate pp.signalState changedBits
        signalWaitQueue := m.clearWaits .signalWait pp.signalWaitQueue })
    fun m ↦ locked .signal .nothing (·.setPair fun pp ↦
      { pp with
        signalState := signalClear pp.signalState (signalUpdate m.pp.signalState changedBits) })

/-- `GcomCheckWaitMask`. -/
def gcomCheckWaitMask (events : ULONG) : Callback :=
  ifActive <| locked .signal .nothing fun m ↦
    if events &&& m.pp.signalState.waitMask = 0 then m
    else m.setPair fun pp ↦
      { pp with waitMaskQueue := m.clearWaits .waitMask pp.waitMaskQueue }

/-! ## Read and write handlers -/

/-- `GcomDrainWritesToRing` after a read, if the handle of the write queue is there. -/
def drainWrites (wdf : Wdf) (m : PairMemory) (d : Direction) (ring : Ring) : Lane :=
  let lane := m.pp.lane d
  if m.isNull d.writeQueue then { lane with ring := ring }
  else if m.isNull d.readQueue then
    { (gcomDrainWritesToRing wdf ring [] lane.writeQueue).1 with readQueue := lane.readQueue }
  else (gcomDrainWritesToRing wdf ring lane.readQueue lane.writeQueue).1

/-- `GcomDrainRingToReads` after a write, if the handle of the read queue is there. -/
def drainReads (wdf : Wdf) (m : PairMemory) (d : Direction) (ring : Ring) : Lane :=
  let lane := m.pp.lane d
  if m.isNull d.readQueue then { lane with ring := ring }
  else
    let drained := gcomDrainRingToReads wdf ring lane.readQueue
    ⟨drained.1, drained.2.1, lane.writeQueue⟩

/-- What a read handler does under the data lock. -/
def readSection (wdf : Wdf) (m : PairMemory) (d : Direction)
    (nonBlocking : SerialTimeouts → Bool) (count : PortPair → ULONG → PortPair)
    (req : ReadRequest) : PairMemory :=
  let read := ringRead m.pp d req
  if read.2 > 0 then
    (m.setLane d (drainWrites wdf m d read.1)).setPair (count · read.2)
  else if nonBlocking m.pp.timeouts then m
  else
    match wdf.forward req.id with
    | .ok () => m.setLane d { m.pp.lane d with readQueue := (m.pp.lane d).readQueue ++ [req] }
    | .error _ => m

/-- The body shared by the read handlers. -/
def evtRead (wdf : Wdf) (d : Direction) (nonBlocking : SerialTimeouts → Bool)
    (count : PortPair → ULONG → PortPair) (req : ReadRequest) : Callback :=
  ifActive <| withBuffer (retrieveBuffer wdf req.id 1 req.length.toNat) <|
    locked .data (.read d nonBlocking req) (readSection wdf · d nonBlocking count req)

/-- `GcomComEvtRead`. -/
def gcomComEvtRead (wdf : Wdf) (req : ReadRequest) : Callback :=
  evtRead wdf .companionToCom SerialTimeouts.nonBlocking
    (fun pp bytesRead ↦
      { pp with perfStats.receivedCount := pp.perfStats.receivedCount + bytesRead }) req

/-- `GcomCompEvtRead`. -/
def gcomCompEvtRead (wdf : Wdf) (req : ReadRequest) : Callback :=
  evtRead wdf .comToCompanion (fun _ ↦ false) (fun pp _ ↦ pp) req

/-- What a write handler does under the data lock. -/
def writeSection (wdf : Wdf) (m : PairMemory) (d : Direction) (count : PortPair → ULONG → PortPair)
    (req : WriteRequest) : PairMemory :=
  let written := ringWrite m.pp d req
  if written.2 > 0 then
    (m.setLane d (drainReads wdf m d written.1)).setPair (count · written.2)
  else
    match wdf.forward req.id with
    | .ok () => m.setLane d { m.pp.lane d with writeQueue := (m.pp.lane d).writeQueue ++ [req] }
    | .error _ => m

/-- The body shared by the write handlers. After a write of some bytes, `events` are the comm events
for the ring that is left. -/
def evtWrite (wdf : Wdf) (d : Direction) (count : PortPair → ULONG → PortPair)
    (events : Ring → Option ULONG) (req : WriteRequest) : Callback :=
  ifActive <| withBuffer (retrieveBuffer wdf req.id 1 req.data.length) <|
    .block (.under .data (.write d req)) (writeSection wdf · d count req) fun m ↦
      let written := ringWrite m.pp d req
      if written.2 > 0 then
        match events (drainReads wdf m d written.1).ring with
        | some mask => gcomCheckWaitMask mask
        | none => .done
      else .done

/-- `GcomComEvtWrite`. -/
def gcomComEvtWrite (wdf : Wdf) (req : WriteRequest) : Callback :=
  evtWrite wdf .comToCompanion
    (fun pp bytesWritten ↦
      { pp with perfStats.transmittedCount := pp.perfStats.transmittedCount + bytesWritten })
    (fun ring ↦ if ring.isEmpty then some serialEvTxEmpty else none) req

/-- `GcomCompEvtWrite`. -/
def gcomCompEvtWrite (wdf : Wdf) (req : WriteRequest) : Callback :=
  evtWrite wdf .companionToCom (fun pp _ ↦ pp) (fun _ ↦ some serialEvRxChar) req

/-! ## IOCTL handlers -/

/-- Change the signal state under `SignalLock` and announce the change. -/
def changeSignals (update : SignalState → SignalState) (changedBits : ULONG) : Callback :=
  (locked .signal .nothing (·.setPair fun pp ↦
    { pp with signalState := update pp.signalState })).seq (gcomSignalChanged changedBits)

/-- Read under `SignalLock`. -/
def readSignals : Callback := locked .signal .nothing id

/-- `IOCTL_SERIAL_SET_WAIT_MASK`: the queue is purged after the lock is released, if its handle is
there. -/
def setWaitMask (mask : ULONG) : Callback :=
  (locked .signal .nothing fun m ↦ m.setPair fun pp ↦
    { pp with
      signalState := { pp.signalState with waitMask := mask }
      waitMaskQueue := m.clearWaits .waitMask pp.waitMaskQueue }).seq
    (gcomSignalChanged changedWaitMask)

/-- `IOCTL_SERIAL_WAIT_ON_MASK`. -/
def waitOnMask (wdf : Wdf) (req : IoctlRequest) : Callback :=
  forwardTo .waitMask (·.setPair fun pp ↦ (GhostCom.waitOnMask wdf pp req).1)

/-- The `TXABORT` and `RXABORT` sections of `IOCTL_SERIAL_PURGE`, outside of the data lock. -/
def abortSection (m : PairMemory) (flags : ULONG) : PairMemory :=
  let m :=
    if isTrue (flags &&& serialPurgeTxAbort) && !m.isNull .comWrite then
      m.setPair fun pp ↦ (purgeQueue pp .comToCompanion).1
    else m
  if isTrue (flags &&& serialPurgeRxAbort) && !m.isNull .comRead then
    m.setPair fun pp ↦ (purgeQueue pp .companionToCom).1
  else m

/-- `IOCTL_SERIAL_PURGE`. -/
def purge (flags : ULONG) : Callback :=
  .block .free (abortSection · flags) fun _ ↦
    if isTrue (flags &&& (serialPurgeTxClear ||| serialPurgeRxClear)) then
      let tx := isTrue (flags &&& serialPurgeTxClear)
      let rx := isTrue (flags &&& serialPurgeRxClear)
      locked .data (.flush tx rx) (·.setPair (flushRings · tx rx))
    else .done

/-- `IOCTL_SERIAL_IMMEDIATE_CHAR`. -/
def immediateChar (wdf : Wdf) (req : IoctlRequest) (ch : UCHAR) : Callback :=
  let byte : WriteRequest := ⟨req.id, [ch], one_byte_fits ch⟩
  locked .data (.insert .comToCompanion byte) fun m ↦
    m.setLane .comToCompanion
      (drainReads wdf m .comToCompanion (ringWrite m.pp .comToCompanion byte).1)

/-- A code with an input structure of `size` bytes. -/
def setRequest (wdf : Wdf) (req : IoctlRequest) (size : ℕ) (body : Callback) : Callback :=
  withBuffer (retrieveBuffer wdf req.id size req.inputLength) body

/-- A code with an output structure of `size` bytes. -/
def getRequest (wdf : Wdf) (req : IoctlRequest) (size : ℕ) (body : Callback) : Callback :=
  withBuffer (retrieveBuffer wdf req.id size req.outputLength) body

/-- `GcomComEvtIoctl` after its `Active` check. -/
def comIoctlBody (wdf : Wdf) (req : IoctlRequest) : ComIoctl → Callback
  | .setBaudRate baudRate =>
      setRequest wdf req 4 (changeSignals ({ · with baudRate := baudRate }) changedBaud)
  | .getBaudRate => getRequest wdf req 4 readSignals
  | .setLineControl lc =>
      setRequest wdf req 3 (changeSignals
        ({ · with stopBits := lc.stopBits, parity := lc.parity, dataBits := lc.wordLength })
        changedLineCtrl)
  | .getLineControl => getRequest wdf req 3 readSignals
  | .setDtr => changeSignals ({ · with dtrState := 1 }) changedDtr
  | .clrDtr => changeSignals ({ · with dtrState := 0 }) changedDtr
  | .setRts => changeSignals ({ · with rtsState := 1 }) changedRts
  | .clrRts => changeSignals ({ · with rtsState := 0 }) changedRts
  | .setBreakOn =>
      (changeSignals ({ · with breakState := 1 }) changedBreak).seq
        (gcomCheckWaitMask serialEvBreak)
  | .setBreakOff => changeSignals ({ · with breakState := 0 }) changedBreak
  | .setTimeouts timeouts =>
      setRequest wdf req 20
        (locked .signal (.setTimeouts timeouts) (·.setPair ({ · with timeouts := timeouts })))
  | .getTimeouts => getRequest wdf req 20 readSignals
  | .setHandflow hf =>
      setRequest wdf req 16 (changeSignals
        ({ · with
          controlHandShake := hf.controlHandShake
          flowReplace := hf.flowReplace
          xonLimit := hf.xonLimit
          xoffLimit := hf.xoffLimit })
        changedHandflow)
  | .getHandflow => getRequest wdf req 16 readSignals
  | .setChars ch =>
      setRequest wdf req 6 (changeSignals
        ({ · with
          eofChar := ch.eofChar
          errorChar := ch.errorChar
          breakChar := ch.breakChar
          eventChar := ch.eventChar
          xonChar := ch.xonChar
          xoffChar := ch.xoffChar })
        changedChars)
  | .getChars => getRequest wdf req 6 readSignals
  | .setWaitMask mask => setRequest wdf req 4 (setWaitMask mask)
  | .getWaitMask => getRequest wdf req 4 readSignals
  | .waitOnMask => waitOnMask wdf req
  | .getModemStatus => getRequest wdf req 4 readSignals
  | .getCommStatus => getRequest wdf req 20 (locked .data .look id)
  | .getProperties => .done
  | .purge flags => setRequest wdf req 4 (purge flags)
  | .setQueueSize => .done
  | .getDtrRts => getRequest wdf req 4 readSignals
  | .getStats => getRequest wdf req 24 (locked .data .nothing id)
  | .clearStats => locked .data .nothing (·.setPair ({ · with perfStats := ⟨0, 0⟩ }))
  | .noOp => .done
  | .immediateChar ch => setRequest wdf req 1 (immediateChar wdf req ch)
  | .configSize => .done
  | .getModemControl => getRequest wdf req 4 readSignals
  | .setModemControl mcr =>
      setRequest wdf req 4 (changeSignals
        ({ · with
          dtrState := boolean (isTrue (mcr &&& serialMcrDtr))
          rtsState := boolean (isTrue (mcr &&& serialMcrRts)) })
        (changedDtr ||| changedRts))
  | .unknown => .done

/-- `GcomComEvtIoctl`. -/
def gcomComEvtIoctl (wdf : Wdf) (req : IoctlRequest) (ioctl : ComIoctl) : Callback :=
  ifActive (comIoctlBody wdf req ioctl)

/-- `IOCTL_GCOM_WAIT_SIGNAL_CHANGE`. -/
def waitSignalChange (wdf : Wdf) (req : IoctlRequest) : Callback :=
  forwardTo .signalWait (·.setPair fun pp ↦ (GhostCom.waitSignalChange wdf pp req).1)

/-- The comm events of the companion's lines that change. -/
def lineEvents (pp : PortPair) (dtrState rtsState : ULONG) : ULONG :=
  flagBits
    [(isTrue rtsState != pp.compRts, serialEvCts),
      (isTrue dtrState != pp.compDtr, serialEvDsr ||| serialEvRlsd)]

/-- `IOCTL_GCOM_SET_SIGNALS`. -/
def setSignals (dtrState rtsState : ULONG) : Callback :=
  .block (.under .signal .nothing)
    (·.setPair ({ · with compDtr := isTrue dtrState, compRts := isTrue rtsState })) fun m ↦
      if lineEvents m.pp dtrState rtsState ≠ 0 then
        gcomCheckWaitMask (lineEvents m.pp dtrState rtsState)
      else .done

/-- `GcomCompEvtIoctl` after its `Active` check. -/
def compIoctlBody (wdf : Wdf) (req : IoctlRequest) : CompIoctl → Callback
  | .waitSignalChange => waitSignalChange wdf req
  | .getSignals => getRequest wdf req sizeofSignalState readSignals
  | .setSignals dtrState rtsState => setRequest wdf req 8 (setSignals dtrState rtsState)
  | .unknown => .done

/-- `GcomCompEvtIoctl`. -/
def gcomCompEvtIoctl (wdf : Wdf) (req : IoctlRequest) (ioctl : CompIoctl) : Callback :=
  ifActive (compIoctlBody wdf req ioctl)

/-! ## File close callbacks -/

/-- `GcomPortPairRelease`. -/
def gcomPortPairRelease : Callback :=
  .block .free (·.setPair fun pp ↦ (GhostCom.gcomPortPairRelease pp).1) fun _ ↦ .done

/-- `GcomComEvtFileClose` of a file object that holds the pair. -/
def gcomComEvtFileClose : Callback :=
  .block .free (·.setPair ({ · with comSideOpen := 0 })) fun m ↦
    if m.pp.active then (gcomSignalChanged changedComClose).seq gcomPortPairRelease
    else gcomPortPairRelease

/-- `GcomCompEvtFileClose` of a file object that holds the pair. -/
def gcomCompEvtFileClose : Callback :=
  .block .free id fun m ↦
    if m.pp.active then
      .block .free (·.setPair ({ · with companionSideOpen := 0 })) fun _ ↦ gcomPortPairRelease
    else gcomPortPairRelease

/-! ## Without interruption -/

section Alone

variable (wdf : Wdf) (pp : PortPair)

/-- A callback that starts with an `Active` check does what a function does that starts with it. -/
theorem alone_if_active {body : Callback} {refused result : PortPair × List Effect}
    (hrefused : refused.1 = pp) (hbody : body.alone (.intact pp) = .intact result.1) :
    (ifActive body).alone (.intact pp) =
      .intact (if !pp.active then refused else result).1 := by
  show (if pp.active then body else .done : Callback).alone (.intact pp) = _
  by_cases hactive : pp.active = true
  · rw [if_pos hactive, if_neg (by simp [hactive])]
    exact hbody
  · rw [if_neg hactive, if_pos (by simpa using hactive), hrefused]
    rfl

theorem signal_changed_alone (changedBits : ULONG) :
    (gcomSignalChanged changedBits).alone (.intact pp) =
      .intact (GhostCom.gcomSignalChanged wdf pp changedBits).1 :=
  alone_if_active pp rfl rfl

theorem check_wait_mask_alone (events : ULONG) :
    (gcomCheckWaitMask events).alone (.intact pp) =
      .intact (GhostCom.gcomCheckWaitMask wdf pp events).1 := by
  refine alone_if_active pp rfl ?_
  show (if events &&& pp.signalState.waitMask = 0 then _ else _ : PairMemory) = _
  dsimp only
  split <;> rfl

/-- Storing a direction as it is changes nothing. -/
theorem with_lane_lane (d : Direction) : pp.withLane d (pp.lane d) = pp := by
  cases d <;> rfl

/-- A read handler does to the pair what `Lane.evtRead` does to its lane. -/
theorem evt_read_alone {d : Direction} {nonBlocking : SerialTimeouts → Bool}
    {count : PortPair → ULONG → PortPair} (req : ReadRequest)
    (hcount : ∀ pp' : PortPair, count pp' 0 = pp') {refused : PortPair × List Effect}
    (hrefused : refused.1 = pp) (effects : List Effect) :
    (evtRead wdf d nonBlocking count req).alone (.intact pp) =
      .intact (if !pp.active then refused
        else
          (count (pp.withLane d ((pp.lane d).evtRead wdf (nonBlocking pp.timeouts) req).1)
            ((pp.lane d).evtRead wdf (nonBlocking pp.timeouts) req).2.1, effects)).1 := by
  refine alone_if_active pp hrefused ?_
  unfold Lane.evtRead
  cases retrieveBuffer wdf req.id 1 req.length.toNat with
  | error st =>
      dsimp only
      rw [with_lane_lane, hcount]
      rfl
  | ok =>
      show readSection wdf (.intact pp) d nonBlocking count req = _
      by_cases hread : (ringRead (PairMemory.intact pp).pp d req).2 > 0
      · rw [readSection, if_pos hread]
        dsimp only
        rw [if_pos
          (show ((pp.lane d).ring.read (ulongMin req.length req.length)).2.1 > 0 from hread)]
        rfl
      rw [readSection, if_neg hread]
      dsimp only
      rw [if_neg
        (show ¬((pp.lane d).ring.read (ulongMin req.length req.length)).2.1 > 0 from hread)]
      by_cases hblocking : nonBlocking (PairMemory.intact pp).pp.timeouts = true
      · rw [if_pos hblocking, if_pos (show nonBlocking pp.timeouts = true from hblocking)]
        dsimp only
        rw [with_lane_lane, hcount]
      rw [if_neg hblocking, if_neg (show ¬nonBlocking pp.timeouts = true from hblocking)]
      -- an empty ring and a blocking read: the request is pended
      cases wdf.forward req.id with
      | ok =>
          dsimp only
          rw [hcount]
          rfl
      | error st =>
          dsimp only
          rw [with_lane_lane, hcount]

theorem com_read_alone (req : ReadRequest) :
    (gcomComEvtRead wdf req).alone (.intact pp) =
      .intact (GhostCom.gcomComEvtRead wdf pp req).1 :=
  evt_read_alone wdf pp req (fun pp' ↦ by simp) rfl _

theorem comp_read_alone (req : ReadRequest) :
    (gcomCompEvtRead wdf req).alone (.intact pp) =
      .intact (GhostCom.gcomCompEvtRead wdf pp req).1 :=
  evt_read_alone wdf pp req (fun _ ↦ rfl) rfl _

/-- A write handler does to the pair what `Lane.evtWrite` does to its lane, and raises its events.
-/
theorem evt_write_alone {d : Direction} {count : PortPair → ULONG → PortPair}
    {events : Ring → Option ULONG} (req : WriteRequest)
    (hcount : ∀ pp' : PortPair, count pp' 0 = pp') {refused : PortPair × List Effect}
    (hrefused : refused.1 = pp) {result : PortPair × List Effect}
    (hresult : let written := (pp.lane d).evtWrite wdf req
      let pp' := count (pp.withLane d written.1) written.2.1
      result.1 = if written.2.1 > 0 then
        match events written.1.ring with
        | some mask => (GhostCom.gcomCheckWaitMask wdf pp' mask).1
        | none => pp'
      else pp') :
    (evtWrite wdf d count events req).alone (.intact pp) =
      .intact (if !pp.active then refused else result).1 := by
  refine alone_if_active pp hrefused ?_
  rw [hresult]
  clear hresult hrefused
  unfold Lane.evtWrite
  cases retrieveBuffer wdf req.id 1 req.data.length with
  | error st =>
      dsimp only
      rw [with_lane_lane, hcount]
      rfl
  | ok =>
      show (if (ringWrite (PairMemory.intact pp).pp d req).2 > 0 then
          match events
              (drainReads wdf (.intact pp) d (ringWrite (PairMemory.intact pp).pp d req).1).ring with
          | some mask => gcomCheckWaitMask mask
          | none => .done
        else .done : Callback).alone (writeSection wdf (.intact pp) d count req) = _
      by_cases hwrite : (ringWrite (PairMemory.intact pp).pp d req).2 > 0
      · -- bytes went in: both sides drain to the pended reads and raise the same events
        rw [if_pos hwrite, writeSection, if_pos hwrite]
        dsimp only
        rw [if_pos (show ((pp.lane d).ring.write req).2 > 0 from hwrite)]
        dsimp only
        rw [if_pos (show ((pp.lane d).ring.write req).2 > 0 from hwrite)]
        have hlane : drainReads wdf (.intact pp) d (ringWrite (PairMemory.intact pp).pp d req).1 =
            ⟨(gcomDrainRingToReads wdf ((pp.lane d).ring.write req).1 (pp.lane d).readQueue).1,
              (gcomDrainRingToReads wdf ((pp.lane d).ring.write req).1 (pp.lane d).readQueue).2.1,
              (pp.lane d).writeQueue⟩ := rfl
        rw [hlane]
        cases events (gcomDrainRingToReads wdf ((pp.lane d).ring.write req).1
          (pp.lane d).readQueue).1 with
        | none => rfl
        | some mask => exact check_wait_mask_alone wdf _ mask
      · rw [if_neg hwrite, writeSection, if_neg hwrite]
        dsimp only
        rw [if_neg (show ¬((pp.lane d).ring.write req).2 > 0 from hwrite)]
        -- the ring is full: the write is pended, and nothing is raised
        cases wdf.forward req.id with
        | ok =>
            dsimp only
            rw [if_neg (by decide), hcount]
            rfl
        | error st =>
            dsimp only
            rw [if_neg (by decide), with_lane_lane, hcount]
            rfl

theorem com_write_alone (req : WriteRequest) :
    (gcomComEvtWrite wdf req).alone (.intact pp) =
      .intact (GhostCom.gcomComEvtWrite wdf pp req).1 := by
  refine evt_write_alone wdf pp req (fun pp' ↦ by simp) rfl ?_
  dsimp only
  by_cases hwrite : ((pp.lane .comToCompanion).evtWrite wdf req).2.1 > 0
  · rw [if_pos hwrite]
    by_cases hempty : ((pp.lane .comToCompanion).evtWrite wdf req).1.ring.isEmpty = true
    · rw [if_pos hempty, if_pos (Bool.and_eq_true_iff.mpr ⟨decide_eq_true hwrite, hempty⟩)]
    · rw [if_neg hempty, if_neg fun h ↦ hempty (Bool.and_eq_true_iff.mp h).2]
  · rw [if_neg hwrite, if_neg fun h ↦ hwrite (of_decide_eq_true (Bool.and_eq_true_iff.mp h).1)]

theorem comp_write_alone (req : WriteRequest) :
    (gcomCompEvtWrite wdf req).alone (.intact pp) =
      .intact (GhostCom.gcomCompEvtWrite wdf pp req).1 := by
  refine evt_write_alone wdf pp req (fun _ ↦ rfl) rfl ?_
  dsimp only
  split <;> rfl

/-- A body that goes on with an input buffer. -/
theorem set_request_alone {req : IoctlRequest} {size : ℕ} {body : Callback}
    {result : PortPair × List Effect} (hbody : body.alone (.intact pp) = .intact result.1) :
    (setRequest wdf req size body).alone (.intact pp) =
      .intact (GhostCom.setRequest wdf pp req size result).1 := by
  unfold setRequest GhostCom.setRequest
  cases retrieveBuffer wdf req.id size req.inputLength with
  | ok => exact hbody
  | error st => rfl

/-- A body that returns something in an output buffer changes nothing. -/
theorem get_request_alone {req : IoctlRequest} {size : ℕ} {body : Callback} (output : Output)
    (hbody : body.alone (.intact pp) = .intact pp) :
    (getRequest wdf req size body).alone (.intact pp) =
      .intact (GhostCom.getRequest wdf pp req size output).1 := by
  unfold getRequest GhostCom.getRequest
  cases retrieveBuffer wdf req.id size req.outputLength with
  | ok => exact hbody
  | error st => rfl

theorem change_signals_alone (update : SignalState → SignalState) (changedBits : ULONG) :
    (changeSignals update changedBits).alone (.intact pp) =
      .intact (notify wdf pp (update pp.signalState) changedBits).1 := by
  unfold changeSignals
  rw [Procedure.alone_seq]
  exact signal_changed_alone wdf { pp with signalState := update pp.signalState } changedBits

theorem notify_request_alone (req : IoctlRequest) (update : SignalState → SignalState)
    (changedBits : ULONG) :
    (changeSignals update changedBits).alone (.intact pp) =
      .intact (notifyRequest wdf pp req (update pp.signalState) changedBits).1 :=
  change_signals_alone wdf pp update changedBits

theorem set_wait_mask_alone (mask : ULONG) :
    (setWaitMask mask).alone (.intact pp) = .intact (GhostCom.setWaitMask wdf pp mask).1 := by
  unfold setWaitMask
  rw [Procedure.alone_seq]
  exact signal_changed_alone wdf { pp with
    signalState := { pp.signalState with waitMask := mask }
    waitMaskQueue := [] } changedWaitMask

/-- Neither flag is set if no bit of both is. -/
theorem flags_clear {flags a b : ULONG} (h : ¬isTrue (flags &&& (a ||| b)) = true) :
    isTrue (flags &&& a) = false ∧ isTrue (flags &&& b) = false := by
  simp only [isTrue, decide_eq_true_eq, not_not] at h
  rw [BitVec.and_or_distrib_left] at h
  simpa [isTrue] using h

theorem purge_alone (flags : ULONG) :
    (purge flags).alone (.intact pp) = .intact (GhostCom.purge pp flags).1 := by
  have habort : abortSection (.intact pp) flags = .intact
      (if isTrue (flags &&& serialPurgeRxAbort) then
        (purgeQueue (if isTrue (flags &&& serialPurgeTxAbort) then
          (purgeQueue pp .comToCompanion).1 else pp) .companionToCom).1
      else if isTrue (flags &&& serialPurgeTxAbort) then (purgeQueue pp .comToCompanion).1
      else pp) := by
    unfold abortSection
    cases isTrue (flags &&& serialPurgeTxAbort) <;> cases isTrue (flags &&& serialPurgeRxAbort) <;>
      rfl
  show (if isTrue (flags &&& (serialPurgeTxClear ||| serialPurgeRxClear)) then _
    else .done : Callback).alone (abortSection (.intact pp) flags) = _
  rw [habort]
  unfold GhostCom.purge
  split
  · cases isTrue (flags &&& serialPurgeTxAbort) <;> cases isTrue (flags &&& serialPurgeRxAbort) <;>
      rfl
  · next hclear =>
      obtain ⟨htx, hrx⟩ := flags_clear hclear
      rw [htx, hrx]
      cases isTrue (flags &&& serialPurgeTxAbort) <;>
        cases isTrue (flags &&& serialPurgeRxAbort) <;> rfl

theorem immediate_char_alone (req : IoctlRequest) (ch : UCHAR) :
    (immediateChar wdf req ch).alone (.intact pp) =
      .intact (GhostCom.immediateChar wdf pp req ch).1 := rfl

theorem com_ioctl_alone (req : IoctlRequest) (ioctl : ComIoctl) :
    (gcomComEvtIoctl wdf req ioctl).alone (.intact pp) =
      .intact (GhostCom.gcomComEvtIoctl wdf pp req ioctl).1 := by
  refine alone_if_active pp rfl ?_
  cases ioctl <;> dsimp only [comIoctlBody]
  case setBaudRate | setLineControl | setHandflow | setChars | setModemControl =>
    exact set_request_alone wdf pp (change_signals_alone wdf pp _ _)
  case setDtr | clrDtr | setRts | clrRts | setBreakOff =>
    exact notify_request_alone wdf pp req _ _
  case setBreakOn =>
    rw [Procedure.alone_seq, change_signals_alone wdf, check_wait_mask_alone wdf]
    rfl
  case setTimeouts => exact set_request_alone wdf pp rfl
  case setWaitMask mask => exact set_request_alone wdf pp (set_wait_mask_alone wdf pp mask)
  case purge flags => exact set_request_alone wdf pp (purge_alone pp flags)
  case immediateChar ch => exact set_request_alone wdf pp (immediate_char_alone wdf pp req ch)
  case waitOnMask | clearStats | setQueueSize | noOp | unknown => rfl
  case getProperties | configSize =>
    unfold GhostCom.getRequest
    cases retrieveBuffer wdf req.id _ req.outputLength <;> rfl
  all_goals exact get_request_alone wdf pp _ rfl

theorem set_signals_alone (dtrState rtsState : ULONG) :
    (setSignals dtrState rtsState).alone (.intact pp) =
      .intact (GhostCom.setSignals wdf pp dtrState rtsState).1 := by
  let after : PortPair := { pp with compDtr := isTrue dtrState, compRts := isTrue rtsState }
  have hset : GhostCom.setSignals wdf pp dtrState rtsState =
      if lineEvents pp dtrState rtsState ≠ 0 then
        GhostCom.gcomCheckWaitMask wdf after (lineEvents pp dtrState rtsState)
      else (after, []) := rfl
  show (if lineEvents pp dtrState rtsState ≠ 0 then
    gcomCheckWaitMask (lineEvents pp dtrState rtsState) else .done : Callback).alone
      (.intact after) = _
  rw [hset]
  split
  · exact check_wait_mask_alone wdf _ _
  · rfl

theorem comp_ioctl_alone (req : IoctlRequest) (ioctl : CompIoctl) :
    (gcomCompEvtIoctl wdf req ioctl).alone (.intact pp) =
      .intact (GhostCom.gcomCompEvtIoctl wdf pp req ioctl).1 := by
  refine alone_if_active pp rfl ?_
  cases ioctl
  case waitSignalChange | unknown => rfl
  case getSignals => exact get_request_alone wdf pp _ rfl
  case setSignals dtrState rtsState =>
    exact set_request_alone wdf pp (set_signals_alone wdf pp dtrState rtsState)

theorem com_file_close_alone :
    gcomComEvtFileClose.alone (.intact pp) =
      .intact (GhostCom.gcomComEvtFileClose wdf pp).pp := by
  have hchanged := signal_changed_alone wdf { pp with comSideOpen := 0 } changedComClose
  show (if pp.active then (gcomSignalChanged changedComClose).seq gcomPortPairRelease
    else gcomPortPairRelease : Callback).alone (.intact { pp with comSideOpen := 0 }) = _
  unfold GhostCom.gcomComEvtFileClose
  dsimp only
  split
  · rw [Procedure.alone_seq, hchanged]
    rfl
  · rfl

theorem comp_file_close_alone :
    gcomCompEvtFileClose.alone (.intact pp) =
      .intact (GhostCom.gcomCompEvtFileClose pp).pp := by
  show (if pp.active then _ else _ : Callback).alone (.intact pp) = _
  unfold GhostCom.gcomCompEvtFileClose
  dsimp only
  split <;> rfl

end Alone

end Callback

end GhostCom
