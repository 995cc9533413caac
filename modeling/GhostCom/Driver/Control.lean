import GhostCom.Driver.ComIoctl
import GhostCom.Driver.FileEvents
import GhostCom.Driver.Handlers

/-!
# I/O and the control fields

The `EvtIo` callbacks of the COM side do not touch the control fields of the pair: which pair it is,
whether it is active, who has it open and how many references it has.
-/

namespace GhostCom

/-- A request handed to an `EvtIo` callback of the COM side. -/
inductive ComRequest where
  | read (req : ReadRequest)
  | write (req : WriteRequest)
  | ioctl (req : IoctlRequest) (code : ComIoctl)

/-- The `EvtIo` callback of the COM side for a request. -/
def ComRequest.serve (wdf : Wdf) (pp : PortPair) : ComRequest → PortPair × List Effect
  | .read req => gcomComEvtRead wdf pp req
  | .write req => gcomComEvtWrite wdf pp req
  | .ioctl req code => gcomComEvtIoctl wdf pp req code

variable (wdf : Wdf) (pp : PortPair)

@[simp] theorem withLane_control (d : Direction) (lane : Lane) :
    (pp.withLane d lane).control = pp.control := by
  cases d <;> rfl

/-- Comm events leave the control fields alone. -/
theorem check_wait_mask_control (events : ULONG) :
    (gcomCheckWaitMask wdf pp events).1.control = pp.control := by
  obtain ⟨waits, h⟩ := check_wait_mask_pair wdf pp events
  rw [h]
  rfl

theorem com_evt_read_control (req : ReadRequest) :
    (gcomComEvtRead wdf pp req).1.control = pp.control := by
  unfold gcomComEvtRead
  split
  · rfl
  · exact withLane_control ..

theorem com_evt_write_control (req : WriteRequest) :
    (gcomComEvtWrite wdf pp req).1.control = pp.control := by
  unfold gcomComEvtWrite
  split
  · rfl
  · dsimp only
    split
    · exact (check_wait_mask_control ..).trans (withLane_control ..)
    · exact withLane_control ..

theorem notify_control (state : SignalState) (changedBits : ULONG) :
    (notify wdf pp state changedBits).1.control = pp.control :=
  signal_changed_control ..

/-- A code with an input structure does to the control fields what its body does. -/
theorem set_request_control {req : IoctlRequest} {size : ℕ} {body : PortPair × List Effect}
    (h : body.1.control = pp.control) :
    (setRequest wdf pp req size body).1.control = pp.control := by
  unfold setRequest
  split
  · exact h
  · rfl

theorem get_request_control {req : IoctlRequest} {size : ℕ} {output : Output} :
    (getRequest wdf pp req size output).1.control = pp.control := by
  unfold getRequest
  split <;> rfl

theorem purge_control (flags : ULONG) : (purge pp flags).1.control = pp.control := by
  have habort (pp : PortPair) (d : Direction) (flag : Bool) :
      (if flag then purgeQueue pp d else (pp, [])).1.control = pp.control := by
    cases flag <;> cases d <;> rfl
  have hflush (pp : PortPair) (tx rx : Bool) : (flushRings pp tx rx).control = pp.control := by
    cases tx <;> cases rx <;> rfl
  exact (hflush _ _ _).trans ((habort _ .companionToCom _).trans (habort pp .comToCompanion _))

theorem com_evt_ioctl_control (req : IoctlRequest) (ioctl : ComIoctl) :
    (gcomComEvtIoctl wdf pp req ioctl).1.control = pp.control := by
  unfold gcomComEvtIoctl
  split
  · rfl
  cases ioctl with
  | setBaudRate | setLineControl | setHandflow | setChars | setModemControl =>
      exact set_request_control wdf pp (notify_control ..)
  | setDtr | clrDtr | setRts | clrRts | setBreakOff => exact notify_control ..
  | getBaudRate | getLineControl | getTimeouts | getHandflow | getChars | getWaitMask
  | getModemStatus | getCommStatus | getProperties | getDtrRts | getStats | configSize
  | getModemControl => exact get_request_control ..
  | setQueueSize | noOp | unknown | clearStats => rfl
  | setTimeouts => exact set_request_control wdf pp rfl
  | setBreakOn => exact (check_wait_mask_control ..).trans (notify_control ..)
  | setWaitMask mask => exact set_request_control wdf pp (signal_changed_control ..)
  | waitOnMask =>
      unfold waitOnMask
      dsimp only
      split <;> rfl
  | purge flags => exact set_request_control wdf pp (purge_control ..)
  | immediateChar ch => exact set_request_control wdf pp rfl

/-- No `EvtIo` callback of the COM side touches the control fields. -/
theorem serve_control (request : ComRequest) :
    (request.serve wdf pp).1.control = pp.control := by
  cases request with
  | read req => exact com_evt_read_control ..
  | write req => exact com_evt_write_control ..
  | ioctl req code => exact com_evt_ioctl_control ..

end GhostCom
