import GhostCom.Driver.ComIoctl

/-!
# Companion-side IOCTLs

`GcomCompEvtIoctl`.
-/

namespace GhostCom

/-- The IOCTL codes `GcomCompEvtIoctl` tells apart, each with its input structure. -/
inductive CompIoctl where
  | waitSignalChange
  | getSignals
  | setSignals (dtrState rtsState : ULONG)
  | unknown
deriving DecidableEq, Repr

/-- `IOCTL_GCOM_WAIT_SIGNAL_CHANGE`. -/
def waitSignalChange (wdf : Wdf) (pp : PortPair) (req : IoctlRequest) : PortPair × List Effect :=
  match wdf.forward req.id with
  | .ok () =>
      ({ pp with signalWaitQueue := pp.signalWaitQueue ++ [⟨req.id, req.outputLength⟩] }, [])
  | .error st => (pp, [complete req st])

/-- `IOCTL_GCOM_SET_SIGNALS`: store the companion's output lines and raise the comm events of the
lines that changed. -/
def setSignals (wdf : Wdf) (pp : PortPair) (dtrState rtsState : ULONG) :
    PortPair × List Effect :=
  let newDtr := isTrue dtrState
  let newRts := isTrue rtsState
  let events := flagBits
    [(newRts != pp.compRts, serialEvCts), (newDtr != pp.compDtr, serialEvDsr ||| serialEvRlsd)]
  let pp := { pp with compDtr := newDtr, compRts := newRts }
  if events ≠ 0 then gcomCheckWaitMask wdf pp events else (pp, [])

/-- `GcomCompEvtIoctl`. The lines that `GET_SIGNALS` returns are the companion's own. -/
def gcomCompEvtIoctl (wdf : Wdf) (pp : PortPair) (req : IoctlRequest) (ioctl : CompIoctl) :
    PortPair × List Effect :=
  if !pp.active then (pp, [complete req .deviceNotConnected])
  else
    match ioctl with
    | .waitSignalChange => waitSignalChange wdf pp req
    | .getSignals =>
        getRequest wdf pp req sizeofSignalState (.signals
          { pp.signalState with dtrState := boolean pp.compDtr, rtsState := boolean pp.compRts })
    | .setSignals dtrState rtsState =>
        setRequest wdf pp req 8 (setSignals wdf pp dtrState rtsState)
    | .unknown => (pp, [complete req .invalidDeviceRequest])

end GhostCom
