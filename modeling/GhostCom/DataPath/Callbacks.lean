import GhostCom.DataPath.Runs
import GhostCom.Driver.CompIoctl
import GhostCom.Driver.FileEvents

/-!
# All callbacks of a pair

The data path together with everything else that can happen to a pair: every IOCTL of both sides,
opens and closes, cancellations of pended waits, and the teardown. Callbacks run one at a time and
in any order.
-/

namespace GhostCom

/-- What can happen to a pair. `wdf` is the outcome of the WDF calls the callback makes. -/
inductive PairEvent where
  | data (e : DataEvent)
  | comIoctl (inputLength outputLength : ℕ) (ioctl : ComIoctl) (wdf : Wdf)
  | compIoctl (inputLength outputLength : ℕ) (ioctl : CompIoctl) (wdf : Wdf)
  | comOpen (wdf : Wdf)
  | comClose (wdf : Wdf)
  | compOpen
  | compClose
  | cancelWait (id : RequestId)
  | teardown

/-- The completion of a wait the framework cancels. -/
def cancelledWait (waitReq : WaitRequest) : Effect := .completed waitReq.id .cancelled 0 .none

/-- The framework cancels a pended wait. -/
def PortPair.cancelWait (pp : PortPair) (id : RequestId) : PortPair × List Effect :=
  ({ pp with
      signalWaitQueue := pp.signalWaitQueue.filter (·.id ≠ id)
      waitMaskQueue := pp.waitMaskQueue.filter (·.id ≠ id) },
    (pp.signalWaitQueue.filter (·.id = id)).map cancelledWait ++
      (pp.waitMaskQueue.filter (·.id = id)).map cancelledWait)

/-- The teardown, with the cancellation of everything that is pended. -/
def PortPair.teardown (pp : PortPair) : PortPair × List Effect :=
  ((portPairTeardown pp).1,
    laneEffects .companionToCom
        ((pp.lane .companionToCom).purgeReads.2 ++ (pp.lane .companionToCom).purgeWrites.2) ++
      laneEffects .comToCompanion
        ((pp.lane .comToCompanion).purgeReads.2 ++ (pp.lane .comToCompanion).purgeWrites.2) ++
      (pp.signalWaitQueue ++ pp.waitMaskQueue).map cancelledWait)

namespace PairEvent

/-- The callback an event runs on the pair, for a request with handle `id`. -/
def call (id : RequestId) (pp : PortPair) : PairEvent → PortPair × List Effect
  | .data e => e.call id pp
  | .comIoctl inputLength outputLength ioctl wdf =>
      gcomComEvtIoctl wdf pp ⟨id, inputLength, outputLength⟩ ioctl
  | .compIoctl inputLength outputLength ioctl wdf =>
      gcomCompEvtIoctl wdf pp ⟨id, inputLength, outputLength⟩ ioctl
  | .comOpen wdf =>
      let result := gcomComEvtFileCreate wdf pp id
      (result.pp, result.effects)
  | .comClose wdf =>
      let result := gcomComEvtFileClose wdf pp
      (result.pp, result.effects)
  | .compOpen =>
      let result := gcomCompEvtFileCreate pp id
      (result.pp, result.effects)
  | .compClose =>
      let result := gcomCompEvtFileClose pp
      (result.pp, result.effects)
  | .cancelWait request => pp.cancelWait request
  | .teardown => pp.teardown

/-- The next handle after an event. -/
def nextRequest (id : RequestId) : PairEvent → RequestId
  | .data e => e.nextRequest id
  | _ => id + 1

end PairEvent

namespace DataPath

/-- One event. -/
def pairStep (s : DataPath) (e : PairEvent) : DataPath where
  pair := (e.call s.nextRequest s.pair).1
  nextRequest := e.nextRequest s.nextRequest
  trace := s.trace ++ (e.call s.nextRequest s.pair).2

/-- A run of events. -/
def pairRun (s : DataPath) (events : List PairEvent) : DataPath := events.foldl pairStep s

end DataPath

end GhostCom
