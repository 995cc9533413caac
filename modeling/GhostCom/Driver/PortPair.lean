import GhostCom.Driver.Lane

/-!
# Port pairs

`GCOM_PORT_PAIR` with the contents of its rings and manual queues, and what a callback does to the
outside world. A queue handle is the list of the requests pended in the queue; handles are `NULL`
only once `GcomPortPairDestroy` has cleared `Active`, which the callbacks modelled on a `PortPair`
check first.
-/

namespace GhostCom

/-- The two data directions of a pair, named after their rings. -/
inductive Direction where
  | comToCompanion
  | companionToCom
deriving DecidableEq, Repr

/-- The two devices of a pair. -/
inductive Side where
  | com
  | companion
deriving DecidableEq, Repr

/-- What a request that is completed returns in its output buffer. -/
inductive Output where
  | none
  | baudRate (value : ULONG)
  | lineControl (value : SerialLineControl)
  | timeouts (value : SerialTimeouts)
  | handflow (value : SerialHandflow)
  | chars (value : SerialChars)
  | ulong (value : ULONG)
  | commStatus (amountInInQueue amountInOutQueue : ULONG)
  | commProp
  | perfStats (value : PerfStats)
  | snapshot (state : SignalState)
  | signals (state : SignalState)
deriving DecidableEq, Repr

/-- What a callback does, in program order: an effect on a lane, the completion of another request,
or the call of `GcomSignalChanged`. -/
inductive Effect where
  | data (direction : Direction) (effect : LaneEffect)
  | completed (id : RequestId) (status : NTSTATUS) (information : ℕ) (output : Output)
  | signalChanged (changedBits : ULONG)
deriving DecidableEq, Repr

/-- Record what happened to a lane as effects of its direction. -/
def laneEffects (d : Direction) (out : List LaneEffect) : List Effect :=
  out.map (.data d)

/-- `GCOM_PORT_PAIR` without its device handles and link names. -/
structure PortPair where
  portNumber : ULONG
  companionIndex : ULONG
  active : Bool
  comSideOpen : LONG
  companionSideOpen : LONG
  comToCompanion : Ring
  companionToCom : Ring
  comReadQueue : List ReadRequest
  comWriteQueue : List WriteRequest
  compReadQueue : List ReadRequest
  compWriteQueue : List WriteRequest
  signalState : SignalState
  compDtr : Bool
  compRts : Bool
  signalWaitQueue : List WaitRequest
  waitMaskQueue : List WaitRequest
  timeouts : SerialTimeouts
  perfStats : PerfStats
  refCount : LONG

/-- The signal state a pair is created with: 9600 baud, 8 data bits, `STOP_BIT_1`, `NO_PARITY` and
zeroes. -/
def SignalState.initial : SignalState where
  sequenceNumber := 0
  changedMask := 0
  baudRate := 9600
  stopBits := 0
  parity := 0
  dataBits := 8
  dtrState := 0
  rtsState := 0
  breakState := 0
  controlHandShake := 0
  flowReplace := 0
  xonLimit := 0
  xoffLimit := 0
  eofChar := 0
  errorChar := 0
  breakChar := 0
  eventChar := 0
  xonChar := 0
  xoffChar := 0
  waitMask := 0

/-- A pair as `GcomPortPairCreate` initialises it, with its manual queues created. -/
def PortPair.initial (portNumber : ULONG) : PortPair where
  portNumber := portNumber
  companionIndex := portNumber
  active := true
  comSideOpen := 0
  companionSideOpen := 0
  comToCompanion := .initial
  companionToCom := .initial
  comReadQueue := []
  comWriteQueue := []
  compReadQueue := []
  compWriteQueue := []
  signalState := .initial
  compDtr := true
  compRts := true
  signalWaitQueue := []
  waitMaskQueue := []
  timeouts := ⟨0, 0, 0, 0, 0⟩
  perfStats := ⟨0, 0⟩
  refCount := 1

namespace PortPair

/-- One direction of a pair: its ring, the reads of the side that consumes it and the writes of the
side that fills it. -/
def lane (pp : PortPair) : Direction → Lane
  | .comToCompanion => ⟨pp.comToCompanion, pp.compReadQueue, pp.comWriteQueue⟩
  | .companionToCom => ⟨pp.companionToCom, pp.comReadQueue, pp.compWriteQueue⟩

/-- Store one direction of a pair. -/
def withLane (pp : PortPair) : Direction → Lane → PortPair
  | .comToCompanion, lane =>
      { pp with
        comToCompanion := lane.ring
        compReadQueue := lane.readQueue
        comWriteQueue := lane.writeQueue }
  | .companionToCom, lane =>
      { pp with
        companionToCom := lane.ring
        comReadQueue := lane.readQueue
        compWriteQueue := lane.writeQueue }

variable (pp : PortPair) (d : Direction) (lane : Lane)

/-- Storing a direction changes that direction only. -/
theorem lane_withLane (other : Direction) :
    (pp.withLane d lane).lane other = if other = d then lane else pp.lane other := by
  cases d <;> cases other <;> rfl

@[simp] theorem withLane_active : (pp.withLane d lane).active = pp.active := by
  cases d <;> rfl

/-- The lanes of a new pair are empty. -/
theorem initial_lane (portNumber : ULONG) : (initial portNumber).lane d = ⟨.initial, [], []⟩ := by
  cases d <;> rfl

end PortPair

end GhostCom
