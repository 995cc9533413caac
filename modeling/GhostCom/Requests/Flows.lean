import GhostCom.Library.Custody
import GhostCom.Lifecycle.Callbacks

/-!
# The flow of requests

Every callback of the driver as far as it moves requests: which requests it completes, forwards to a
manual queue or takes from one, under which tests. Whether a WDF call succeeds and how a test on the
driver's data goes is left open, so that a flow has a run for every outcome and every state. The end
of a loop stands for its condition and for a failed `WdfIoQueueRetrieveNextRequest` alike.

`pp` is the address of the pair a callback works on. Beside each flow stands the fact that it is
linear: it disposes of the request it was handed and of those it took.
-/

namespace GhostCom

/-- A manual queue of the pair at an address. -/
structure QueueHandle where
  pair : ℕ
  queue : QueueField
deriving DecidableEq, Repr

/-- What the driver tests between two calls that move requests. -/
inductive FlowTest where
  | connected
  | alreadyOpen
  | holdsPair
  | active
  | retrieveInput (request : RequestId)
  | retrieveOutput (request : RequestId)
  | bytesMoved
  | nonBlocking
  | ringEmpty
  | queueHandle (q : QueueField)
  | eventsMatch
  | linesChanged
  | purgeFlag (flag : ULONG)
  | deviceContext
  | slotFree
  | portNumberFree
  | allocated
  | initialised
  | comPortCreated
  | companionCreated
  | portPairFound
  | device (side : Side)
deriving DecidableEq, Repr

/-- The control flow of a callback. -/
abbrev RequestFlow := Custody.Program FlowTest QueueHandle RequestId

namespace RequestFlow

variable {held : Multiset RequestId} (pp : ℕ) (request : RequestId)

theorem done_linear : (Custody.Program.done : RequestFlow).Linear 0 := rfl

theorem complete_linear {after : RequestFlow} (hafter : after.Linear 0) :
    (Custody.Program.complete request after : RequestFlow).Linear {request} := by
  simp [hafter]

/-- Complete a request with success if the buffer it needs was retrieved, else with the error: in
both cases it is completed. -/
def completeEither (retrieve : RequestId → FlowTest) : RequestFlow :=
  .test (retrieve request) (.complete request .done) (.complete request .done)

/-- Forward a request to a manual queue, or complete it with the error. -/
def pend (queue : QueueHandle) : RequestFlow :=
  .forward request queue .done (.complete request .done)

@[simp] theorem complete_either_linear (retrieve : RequestId → FlowTest) :
    (completeEither request retrieve).Linear {request} := by
  simp [completeEither]

@[simp] theorem pend_linear (queue : QueueHandle) : (pend request queue).Linear {request} := by
  simp [pend]

/-! ## `portpair.c` -/

/-- `GcomSignalChanged`. -/
def gcomSignalChanged : RequestFlow :=
  .test .active
    (.test (.queueHandle .signalWait)
      (.drain ⟨pp, .signalWait⟩ (fun waitReq ↦ completeEither waitReq .retrieveOutput) .done)
      .done)
    .done

/-- `GcomDrainRingToReads`. -/
def gcomDrainRingToReads (readQueue : QueueHandle) : RequestFlow :=
  .drain readQueue
    (fun readReq ↦
      .test (.retrieveOutput readReq)
        (.test .bytesMoved
          (.complete readReq .done)
          -- no data after all: back to the queue, and `break` either way
          (.forward readReq readQueue .leave (.complete readReq .leave)))
        (.complete readReq .done))
    .done

/-- `GcomDrainWritesToRing`. -/
def gcomDrainWritesToRing (writeQueue peerReadQueue : QueueHandle) : RequestFlow :=
  .drain writeQueue
    (fun writeReq ↦
      .test (.retrieveInput writeReq)
        (.test .bytesMoved
          (.complete writeReq
            (.test (.queueHandle peerReadQueue.queue) (gcomDrainRingToReads peerReadQueue) .done))
          (.forward writeReq writeQueue .leave (.complete writeReq .leave)))
        (.complete writeReq .done))
    .done

/-- `GcomCheckWaitMask`. -/
def gcomCheckWaitMask : RequestFlow :=
  .test .active
    -- `matchedEvents != 0 && waitQueue`
    (.test .eventsMatch
      (.drain ⟨pp, .waitMask⟩ (fun waitReq ↦ completeEither waitReq .retrieveOutput) .done)
      .done)
    .done

@[simp] theorem signal_changed_linear : (gcomSignalChanged pp).Linear 0 := by
  simp [gcomSignalChanged]

@[simp] theorem drain_ring_linear (readQueue : QueueHandle) :
    (gcomDrainRingToReads readQueue).Linear 0 := by
  simp [gcomDrainRingToReads]

@[simp] theorem drain_writes_linear (writeQueue peerReadQueue : QueueHandle) :
    (gcomDrainWritesToRing writeQueue peerReadQueue).Linear 0 := by
  simp [gcomDrainWritesToRing]

@[simp] theorem check_wait_mask_linear : (gcomCheckWaitMask pp).Linear 0 := by
  simp [gcomCheckWaitMask]

/-! ## Reads, writes, opens and closes -/

/-- The body shared by the read callbacks. `empty` is what happens if the ring gave nothing. -/
def evtRead (readQueue peerWriteQueue : QueueHandle) (empty : RequestFlow) : RequestFlow :=
  .test .connected
    (.test (.retrieveOutput request)
      (.test .bytesMoved
        (.test (.queueHandle peerWriteQueue.queue)
          ((gcomDrainWritesToRing peerWriteQueue readQueue).seq (.complete request .done))
          (.complete request .done))
        empty)
      (.complete request .done))
    (.complete request .done)

/-- The body shared by the write callbacks. `after` is what happens once the write is completed. -/
def evtWrite (writeQueue peerReadQueue : QueueHandle) (after : RequestFlow) : RequestFlow :=
  .test .connected
    (.test (.retrieveInput request)
      (.test .bytesMoved
        (.test (.queueHandle peerReadQueue.queue)
          ((gcomDrainRingToReads peerReadQueue).seq (.complete request after))
          (.complete request after))
        (pend request writeQueue))
      (.complete request .done))
    (.complete request .done)

theorem evt_read_linear {readQueue peerWriteQueue : QueueHandle} {empty : RequestFlow}
    (hempty : empty.Linear {request}) :
    (evtRead request readQueue peerWriteQueue empty).Linear {request} := by
  have hdrained := (drain_writes_linear peerWriteQueue readQueue).seq
    (complete_linear request done_linear)
  simp [evtRead, hempty, hdrained]

theorem evt_write_linear {writeQueue peerReadQueue : QueueHandle} {after : RequestFlow}
    (hafter : after.Linear 0) :
    (evtWrite request writeQueue peerReadQueue after).Linear {request} := by
  have hdrained := (drain_ring_linear peerReadQueue).seq (complete_linear request hafter)
  simp [evtWrite, hafter, hdrained]

/-- `GcomComEvtRead`. -/
def gcomComEvtRead : RequestFlow :=
  evtRead request ⟨pp, .comRead⟩ ⟨pp, .compWrite⟩
    (.test .nonBlocking (.complete request .done) (pend request ⟨pp, .comRead⟩))

/-- `GcomComEvtWrite`. -/
def gcomComEvtWrite : RequestFlow :=
  evtWrite request ⟨pp, .comWrite⟩ ⟨pp, .compRead⟩
    (.test .ringEmpty (gcomCheckWaitMask pp) .done)

/-- `GcomCompEvtRead`. -/
def gcomCompEvtRead : RequestFlow :=
  evtRead request ⟨pp, .compRead⟩ ⟨pp, .comWrite⟩ (pend request ⟨pp, .compRead⟩)

/-- `GcomCompEvtWrite`. -/
def gcomCompEvtWrite : RequestFlow :=
  evtWrite request ⟨pp, .compWrite⟩ ⟨pp, .comRead⟩ (gcomCheckWaitMask pp)

/-- `GcomComEvtFileCreate`. -/
def gcomComEvtFileCreate : RequestFlow :=
  .test .connected
    (.test .alreadyOpen
      (.complete request .done)
      ((gcomSignalChanged pp).seq (.complete request .done)))
    (.complete request .done)

/-- `GcomComEvtFileClose`. -/
def gcomComEvtFileClose : RequestFlow :=
  .test .holdsPair (.test .active (gcomSignalChanged pp) .done) .done

/-- `GcomCompEvtFileCreate`. -/
def gcomCompEvtFileCreate : RequestFlow :=
  .test .connected
    (.test .alreadyOpen
      (.complete request .done)
      (.complete request .done))
    (.complete request .done)

/-- `GcomCompEvtFileClose`: no request is moved. -/
def gcomCompEvtFileClose : RequestFlow := .done

theorem com_evt_read_linear : (gcomComEvtRead pp request).Linear {request} :=
  evt_read_linear request ⟨complete_linear request done_linear, pend_linear request _⟩

theorem com_evt_write_linear : (gcomComEvtWrite pp request).Linear {request} :=
  evt_write_linear request ⟨check_wait_mask_linear pp, done_linear⟩

theorem comp_evt_read_linear : (gcomCompEvtRead pp request).Linear {request} :=
  evt_read_linear request (pend_linear request _)

theorem comp_evt_write_linear : (gcomCompEvtWrite pp request).Linear {request} :=
  evt_write_linear request (check_wait_mask_linear pp)

theorem com_file_create_linear : (gcomComEvtFileCreate pp request).Linear {request} := by
  have hcomplete := complete_linear request done_linear
  exact ⟨⟨hcomplete, (signal_changed_linear pp).seq hcomplete⟩, hcomplete⟩

theorem com_file_close_linear : (gcomComEvtFileClose pp).Linear 0 :=
  ⟨⟨signal_changed_linear pp, done_linear⟩, done_linear⟩

theorem comp_file_create_linear : (gcomCompEvtFileCreate request).Linear {request} := by
  have hcomplete := complete_linear request done_linear
  exact ⟨⟨hcomplete, hcomplete⟩, hcomplete⟩

/-! ## `GcomComEvtIoctl` and `GcomCompEvtIoctl` -/

/-- A code with an input structure: run `body`, then complete. -/
def setRequest (body : RequestFlow) : RequestFlow :=
  .test (.retrieveInput request)
    (body.seq (.complete request .done))
    (.complete request .done)

/-- A code with an output structure. -/
def getRequest : RequestFlow := completeEither request .retrieveOutput

/-- A code without input: announce the change, then complete. -/
def notifyRequest : RequestFlow := (gcomSignalChanged pp).seq (.complete request .done)

/-- Purge a manual queue if its handle is set, then go on. -/
def purgeQueue (queue : QueueField) (rest : RequestFlow) : RequestFlow :=
  .test (.queueHandle queue) (.purge ⟨pp, queue⟩ rest) rest

/-- `IOCTL_SERIAL_PURGE` once the flags are read. -/
def purge : RequestFlow :=
  .seq
    (.test (.purgeFlag serialPurgeTxAbort) (purgeQueue pp .comWrite .done) .done)
    (.test (.purgeFlag serialPurgeRxAbort) (purgeQueue pp .comRead .done) .done)

/-- `IOCTL_SERIAL_IMMEDIATE_CHAR` once the character is read. -/
def immediateChar : RequestFlow :=
  .test (.queueHandle .compRead) (gcomDrainRingToReads ⟨pp, .compRead⟩) .done

/-- `GcomComEvtIoctl`. -/
def gcomComEvtIoctl (ioctl : ComIoctl) : RequestFlow :=
  .test .connected
    (match ioctl with
    | .setBaudRate _ | .setLineControl _ | .setHandflow _ | .setChars _ | .setModemControl _ =>
        setRequest request (gcomSignalChanged pp)
    | .setTimeouts _ => setRequest request .done
    | .getBaudRate | .getLineControl | .getTimeouts | .getHandflow | .getChars | .getWaitMask
    | .getModemStatus | .getCommStatus | .getProperties | .getDtrRts | .getStats | .configSize
    | .getModemControl => getRequest request
    | .setDtr | .clrDtr | .setRts | .clrRts | .setBreakOff => notifyRequest pp request
    | .setBreakOn =>
        (gcomSignalChanged pp).seq ((gcomCheckWaitMask pp).seq (.complete request .done))
    | .setWaitMask _ => setRequest request (purgeQueue pp .waitMask (gcomSignalChanged pp))
    | .waitOnMask => pend request ⟨pp, .waitMask⟩
    | .purge _ => setRequest request (purge pp)
    -- `noOp` are the six codes that are accepted without effect
    | .setQueueSize | .clearStats | .noOp => .complete request .done
    | .immediateChar _ => setRequest request (immediateChar pp)
    | .unknown => .complete request .done)
    (.complete request .done)

/-- `GcomCompEvtIoctl`. -/
def gcomCompEvtIoctl (ioctl : CompIoctl) : RequestFlow :=
  .test .connected
    (match ioctl with
    | .waitSignalChange => pend request ⟨pp, .signalWait⟩
    | .getSignals => getRequest request
    | .setSignals _ _ => setRequest request (.test .linesChanged (gcomCheckWaitMask pp) .done)
    | .unknown => .complete request .done)
    (.complete request .done)

/-- A code with an input structure disposes of its request if its body disposes of nothing. -/
theorem set_request_linear {body : RequestFlow} (hbody : body.Linear 0) :
    (setRequest request body).Linear {request} := by
  have hcomplete := complete_linear request done_linear
  exact ⟨hbody.seq hcomplete, hcomplete⟩

theorem get_request_linear : (getRequest request).Linear {request} :=
  complete_either_linear request .retrieveOutput

theorem notify_request_linear : (notifyRequest pp request).Linear {request} :=
  (signal_changed_linear pp).seq (complete_linear request done_linear)

theorem purge_queue_linear (queue : QueueField) {rest : RequestFlow} (hrest : rest.Linear held) :
    (purgeQueue pp queue rest).Linear held :=
  ⟨hrest, hrest⟩

theorem purge_linear : (purge pp).Linear 0 :=
  Custody.Program.Linear.seq ⟨purge_queue_linear pp .comWrite done_linear, done_linear⟩
    ⟨purge_queue_linear pp .comRead done_linear, done_linear⟩

/-- Whatever its code is, known or unknown, an IOCTL of the COM side is disposed of. -/
theorem com_evt_ioctl_linear (ioctl : ComIoctl) :
    (gcomComEvtIoctl pp request ioctl).Linear {request} := by
  have hcomplete := complete_linear request done_linear
  refine ⟨?_, hcomplete⟩
  cases ioctl with
  | setBaudRate | setLineControl | setHandflow | setChars | setModemControl =>
      exact set_request_linear request (signal_changed_linear pp)
  | setTimeouts => exact set_request_linear request done_linear
  | getBaudRate | getLineControl | getTimeouts | getHandflow | getChars | getWaitMask
  | getModemStatus | getCommStatus | getProperties | getDtrRts | getStats | configSize
  | getModemControl => exact get_request_linear request
  | setDtr | clrDtr | setRts | clrRts | setBreakOff => exact notify_request_linear pp request
  | setBreakOn =>
      exact (signal_changed_linear pp).seq ((check_wait_mask_linear pp).seq hcomplete)
  | setWaitMask mask =>
      exact set_request_linear request (purge_queue_linear pp .waitMask (signal_changed_linear pp))
  | waitOnMask => exact pend_linear request _
  | purge flags => exact set_request_linear request (purge_linear pp)
  | setQueueSize | clearStats | noOp | unknown => exact hcomplete
  | immediateChar ch =>
      exact set_request_linear request ⟨drain_ring_linear ⟨pp, .compRead⟩, done_linear⟩

/-- Whatever its code is, known or unknown, an IOCTL of the companion side is disposed of. -/
theorem comp_evt_ioctl_linear (ioctl : CompIoctl) :
    (gcomCompEvtIoctl pp request ioctl).Linear {request} := by
  have hcomplete := complete_linear request done_linear
  refine ⟨?_, hcomplete⟩
  cases ioctl with
  | waitSignalChange => exact pend_linear request _
  | getSignals => exact get_request_linear request
  | setSignals dtrState rtsState =>
      exact set_request_linear request ⟨check_wait_mask_linear pp, done_linear⟩
  | unknown => exact hcomplete

/-! ## `control.c` -/

/-- The deletion of the device of a side, if there is one: the requests in its manual queues are
cancelled with it. -/
def deleteDevice : Side → (rest : RequestFlow) → RequestFlow
  | .com, rest =>
      .test (.device .com)
        (.purge ⟨pp, .comRead⟩ (.purge ⟨pp, .comWrite⟩ (.purge ⟨pp, .waitMask⟩ rest)))
        rest
  | .companion, rest =>
      .test (.device .companion)
        (.purge ⟨pp, .compRead⟩ (.purge ⟨pp, .compWrite⟩ (.purge ⟨pp, .signalWait⟩ rest)))
        rest

/-- `GcomPortPairCreate` of a pair at `pp`, with what its caller does next. The device of the COM
side can be opened before that of the companion side is created. -/
def gcomPortPairCreate (created failed : RequestFlow) : RequestFlow :=
  .test .slotFree
    (.test .portNumberFree
      (.test .allocated
        (.test .initialised
          (.test .comPortCreated
            (.test .companionCreated created (deleteDevice pp .com failed))
            failed)
          failed)
        failed)
      failed)
    failed

/-- `GcomPortPairDestroy`, with what its caller does next. -/
def gcomPortPairDestroy (rest : RequestFlow) : RequestFlow :=
  deleteDevice pp .com (deleteDevice pp .companion rest)

/-- `GcomHandleCreatePort`. -/
def gcomHandleCreatePort : RequestFlow :=
  .test (.retrieveInput request)
    (.test (.retrieveOutput request)
      (gcomPortPairCreate pp (.complete request .done) (.complete request .done))
      (.complete request .done))
    (.complete request .done)

/-- `GcomHandleDestroyPort`; `pp` is the pair that is found, if one is. -/
def gcomHandleDestroyPort : RequestFlow :=
  .test (.retrieveInput request)
    (.test .portPairFound
      (gcomPortPairDestroy pp (.complete request .done))
      (.complete request .done))
    (.complete request .done)

/-- `GcomHandleListPorts`. -/
def gcomHandleListPorts : RequestFlow := completeEither request .retrieveOutput

/-- `GcomHandleGetVersion`. -/
def gcomHandleGetVersion : RequestFlow := completeEither request .retrieveOutput

/-- The control codes. A pair is named by its address: that of the new pair, or of the one that is
found under the companion index. -/
inductive ControlCode where
  | createPort (pp : ℕ)
  | destroyPort (pp : ℕ)
  | listPorts
  | getVersion
  | unknown
deriving DecidableEq, Repr

/-- `GcomControlIoDeviceControl`. -/
def gcomControlIoDeviceControl (code : ControlCode) : RequestFlow :=
  .test .deviceContext
    (match code with
    | .createPort pp => gcomHandleCreatePort pp request
    | .destroyPort pp => gcomHandleDestroyPort pp request
    | .listPorts => gcomHandleListPorts request
    | .getVersion => gcomHandleGetVersion request
    | .unknown => .complete request .done)
    (.complete request .done)

theorem delete_device_linear (side : Side) {rest : RequestFlow} (hrest : rest.Linear held) :
    (deleteDevice pp side rest).Linear held := by
  cases side <;> exact ⟨hrest, hrest⟩

theorem create_linear {created failed : RequestFlow} (hcreated : created.Linear held)
    (hfailed : failed.Linear held) : (gcomPortPairCreate pp created failed).Linear held := by
  have hdeleted := delete_device_linear pp .com hfailed
  simp [gcomPortPairCreate, hcreated, hfailed, hdeleted]

theorem destroy_linear {rest : RequestFlow} (hrest : rest.Linear held) :
    (gcomPortPairDestroy pp rest).Linear held :=
  delete_device_linear pp .com (delete_device_linear pp .companion hrest)

/-- A control request is disposed of. -/
theorem control_linear (code : ControlCode) :
    (gcomControlIoDeviceControl request code).Linear {request} := by
  have hcomplete := complete_linear request done_linear
  refine ⟨?_, hcomplete⟩
  cases code with
  | createPort pp => exact ⟨⟨create_linear pp hcomplete hcomplete, hcomplete⟩, hcomplete⟩
  | destroyPort pp => exact ⟨⟨destroy_linear pp hcomplete, hcomplete⟩, hcomplete⟩
  | listPorts | getVersion => exact complete_either_linear request .retrieveOutput
  | unknown => exact hcomplete

end RequestFlow

end GhostCom
