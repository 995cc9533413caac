import GhostCom.Driver.Signals

/-!
# Read and write handlers

`GcomComEvtRead`, `GcomComEvtWrite`, `GcomCompEvtRead` and `GcomCompEvtWrite`. The COM side reads
from `companionToCom` and writes to `comToCompanion`, the companion side the other way round.
-/

namespace GhostCom

/-- The `MAXDWORD` timeout setting under which a COM read never pends. -/
def SerialTimeouts.nonBlocking (timeouts : SerialTimeouts) : Bool :=
  timeouts.readIntervalTimeout = maxDword ∧ timeouts.readTotalTimeoutMultiplier = 0 ∧
    timeouts.readTotalTimeoutConstant = 0

/-- `GcomComEvtRead`. -/
def gcomComEvtRead (wdf : Wdf) (pp : PortPair) (req : ReadRequest) : PortPair × List Effect :=
  if !pp.active then (pp, [.data .companionToCom (.readDone req .deviceNotConnected 0)])
  else
    let (lane, bytesRead, out) :=
      (pp.lane .companionToCom).evtRead wdf pp.timeouts.nonBlocking req
    let pp := pp.withLane .companionToCom lane
    ({ pp with perfStats.receivedCount := pp.perfStats.receivedCount + bytesRead },
      laneEffects .companionToCom out)

/-- `GcomComEvtWrite`. -/
def gcomComEvtWrite (wdf : Wdf) (pp : PortPair) (req : WriteRequest) : PortPair × List Effect :=
  if !pp.active then (pp, [.data .comToCompanion (.writeDone req .deviceNotConnected 0)])
  else
    let (lane, bytesWritten, out) := (pp.lane .comToCompanion).evtWrite wdf req
    let pp := pp.withLane .comToCompanion lane
    let pp :=
      { pp with perfStats.transmittedCount := pp.perfStats.transmittedCount + bytesWritten }
    if bytesWritten > 0 && lane.ring.isEmpty then
      let (pp, events) := gcomCheckWaitMask wdf pp serialEvTxEmpty
      (pp, laneEffects .comToCompanion out ++ events)
    else (pp, laneEffects .comToCompanion out)

/-- `GcomCompEvtRead`. -/
def gcomCompEvtRead (wdf : Wdf) (pp : PortPair) (req : ReadRequest) : PortPair × List Effect :=
  if !pp.active then (pp, [.data .comToCompanion (.readDone req .deviceNotConnected 0)])
  else
    let (lane, _, out) := (pp.lane .comToCompanion).evtRead wdf false req
    (pp.withLane .comToCompanion lane, laneEffects .comToCompanion out)

/-- `GcomCompEvtWrite`. -/
def gcomCompEvtWrite (wdf : Wdf) (pp : PortPair) (req : WriteRequest) : PortPair × List Effect :=
  if !pp.active then (pp, [.data .companionToCom (.writeDone req .deviceNotConnected 0)])
  else
    let (lane, bytesWritten, out) := (pp.lane .companionToCom).evtWrite wdf req
    let pp := pp.withLane .companionToCom lane
    if bytesWritten > 0 then
      let (pp, events) := gcomCheckWaitMask wdf pp serialEvRxChar
      (pp, laneEffects .companionToCom out ++ events)
    else (pp, laneEffects .companionToCom out)

end GhostCom
