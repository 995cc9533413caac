import GhostCom.Requests.Flows

/-!
# Every request is completed exactly once

The callbacks of the driver, each with the flow it runs. A flow is a run of WDF calls and tests;
`request_completed_once` is about all of them, and `requests_in_one_place` about any number of
callbacks that run at once, while the framework cancels requests in the queues.
-/

open Transition

namespace GhostCom

/-- Where the requests are, from the point of view of one callback. -/
abbrev RequestLedger := Custody.Ledger QueueHandle RequestId

/-- The callbacks of the driver. `pp` is the address of the pair in the context of the file object
or of the device. -/
inductive DriverCallback where
  | comFileCreate (pp : ℕ) (request : RequestId)
  | comFileClose (pp : ℕ)
  | comRead (pp : ℕ) (request : RequestId)
  | comWrite (pp : ℕ) (request : RequestId)
  | comIoctl (pp : ℕ) (request : RequestId) (ioctl : ComIoctl)
  | compFileCreate (pp : ℕ) (request : RequestId)
  | compFileClose (pp : ℕ)
  | compRead (pp : ℕ) (request : RequestId)
  | compWrite (pp : ℕ) (request : RequestId)
  | compIoctl (pp : ℕ) (request : RequestId) (ioctl : CompIoctl)
  | control (request : RequestId) (code : RequestFlow.ControlCode)

namespace DriverCallback

/-- What a callback does with requests. -/
def flow : DriverCallback → RequestFlow
  | comFileCreate pp request => .gcomComEvtFileCreate pp request
  | comFileClose pp => .gcomComEvtFileClose pp
  | comRead pp request => .gcomComEvtRead pp request
  | comWrite pp request => .gcomComEvtWrite pp request
  | comIoctl pp request ioctl => .gcomComEvtIoctl pp request ioctl
  | compFileCreate _ request => .gcomCompEvtFileCreate request
  | compFileClose _ => .gcomCompEvtFileClose
  | compRead pp request => .gcomCompEvtRead pp request
  | compWrite pp request => .gcomCompEvtWrite pp request
  | compIoctl pp request ioctl => .gcomCompEvtIoctl pp request ioctl
  | control request code => .gcomControlIoDeviceControl request code

/-- The request a callback is handed; a close is handed none. -/
def received : DriverCallback → Multiset RequestId
  | comFileClose _ | compFileClose _ => 0
  | comFileCreate _ request | comRead _ request | comWrite _ request | comIoctl _ request _
  | compFileCreate _ request | compRead _ request | compWrite _ request | compIoctl _ request _
  | control request _ => {request}

/-- Every callback disposes of the request it is handed and of those it takes from a queue. -/
theorem flow_linear (c : DriverCallback) : c.flow.Linear c.received := by
  cases c with
  | comFileCreate pp request => exact RequestFlow.com_file_create_linear pp request
  | comFileClose pp => exact RequestFlow.com_file_close_linear pp
  | comRead pp request => exact RequestFlow.com_evt_read_linear pp request
  | comWrite pp request => exact RequestFlow.com_evt_write_linear pp request
  | comIoctl pp request ioctl => exact RequestFlow.com_evt_ioctl_linear pp request ioctl
  | compFileCreate pp request => exact RequestFlow.comp_file_create_linear request
  | compFileClose pp => rfl
  | compRead pp request => exact RequestFlow.comp_evt_read_linear pp request
  | compWrite pp request => exact RequestFlow.comp_evt_write_linear pp request
  | compIoctl pp request ioctl => exact RequestFlow.comp_evt_ioctl_linear pp request ioctl
  | control request code => exact RequestFlow.control_linear request code

/-- The ledger when the callback is called: it owns the request it is handed. -/
def start (c : DriverCallback) (queued : Multiset (QueueHandle × RequestId))
    (completed : Multiset RequestId) : RequestLedger where
  owned := c.received
  queued := queued
  completed := completed
  violated := false

end DriverCallback

variable {c : DriverCallback} {queued : Multiset (QueueHandle × RequestId)}
  {completed : Multiset RequestId} {replies : List (Custody.Reply RequestId)} {flow : RequestFlow}
  {t : RequestLedger}

/-- Whatever the calls and tests of a callback answer and whatever is in the queues, the callback
completes and forwards only requests it owns at that moment; and when it returns, the request it was
handed and each request that was pended is either completed exactly once or in exactly one queue. A
request handle is in one place when the callback is called. -/
theorem request_completed_once (hdistinct : (c.start queued completed).total.Nodup)
    (hrun : run Custody.next (c.flow, c.start queued completed) replies = some (flow, t)) :
    t.violated = false ∧
      (flow = .done → t.owned = 0 ∧ t.total = (c.start queued completed).total ∧
        ∀ r ∈ c.received + queued.map Prod.snd, t.Settled r) := by
  obtain ⟨hlinear, hviolated, htotal⟩ := c.flow_linear.run (s := c.start queued completed) hrun
  refine ⟨hviolated, ?_⟩
  rintro rfl
  have howned : t.owned = 0 := hlinear
  refine ⟨howned, htotal, ?_⟩
  intro r hr
  have hplace : r ∈ t.total := by
    rw [htotal]
    exact Multiset.mem_add.mpr (.inl hr)
  exact Custody.Ledger.settled_of_nodup (htotal ▸ hdistinct) howned hplace

/-- A companion write that serves a pended read of the COM side completes both. -/
theorem comp_write_completes_both :
    let c := DriverCallback.compWrite 0 7
    let queued : Multiset (QueueHandle × RequestId) := {(⟨0, .comRead⟩, 3)}
    ∃ replies t, run Custody.next (c.flow, c.start queued 0) replies = some (.done, t) ∧
      t.Settled 3 ∧ t.Settled 7 := by
  intro c queued
  have hrun : run Custody.next (c.flow, c.start queued 0)
      [.yes, .yes, .yes, .yes, .request 3, .yes, .yes, .yes, .no, .yes, .yes, .no] =
        some (.done, ⟨0, 0, {7, 3}, false⟩) := rfl
  obtain ⟨-, -, hsettled⟩ := (request_completed_once (by decide) hrun).2 rfl
  exact ⟨_, _, hrun, hsettled 3 (by decide), hsettled 7 (by decide)⟩

/-! ## Callbacks that run at once -/

/-- What can happen while callbacks run: one more is called, one makes its next call or test, or the
framework cancels a pended request. -/
inductive DriverEvent where
  | call (c : DriverCallback)
  | work (i : ℕ) (reply : Custody.Reply RequestId)
  | cancel (queue : QueueHandle) (request : RequestId)

namespace DriverEvent

/-- The event in the system of the flows. -/
def toEvent : DriverEvent → Custody.Event FlowTest QueueHandle RequestId
  | call c => .start c.flow c.received
  | work i reply => .work i reply
  | cancel queue request => .cancel queue request

/-- The request that arrives with an event. -/
def received : DriverEvent → Multiset RequestId
  | call c => c.received
  | work _ _ | cancel _ _ => 0

/-- Only linear flows are started. -/
theorem disciplined (e : DriverEvent) : e.toEvent.Disciplined := by
  cases e with
  | call c => exact c.flow_linear
  | work | cancel => trivial

theorem to_event_received (e : DriverEvent) : e.toEvent.received = e.received := by
  cases e <;> rfl

end DriverEvent

/-- However callbacks interleave, with each other and with cancellations: no callback touches a
request it does not own, every request that arrived is completed once, in one queue once, or owned
by one callback, and a callback that has returned owns none. -/
theorem requests_in_one_place {events : List DriverEvent}
    {s : Custody.System FlowTest QueueHandle RequestId}
    (hrun : run Custody.System.next .initial (events.map DriverEvent.toEvent) = some s) :
    s.violated = false ∧ s.total.Nodup ∧ s.total = (events.map DriverEvent.received).sum ∧
      ∀ c ∈ s.running, c.1 = .done → c.2 = 0 := by
  have hevents : ∀ e ∈ events.map DriverEvent.toEvent, e.Disciplined := by
    intro e he
    obtain ⟨event, -, rfl⟩ := List.mem_map.mp he
    exact event.disciplined
  obtain ⟨hsound, htotal⟩ :=
    Custody.System.run_sound Custody.System.initial_sound hevents hrun
  refine ⟨hsound.kept, hsound.nodup, ?_, ?_⟩
  · have hreceived : Custody.Event.received ∘ DriverEvent.toEvent = DriverEvent.received :=
      funext DriverEvent.to_event_received
    rw [htotal, List.map_map, hreceived]
    exact add_zero _
  · intro c hc hdone
    have hlinear := hsound.linear c hc
    rwa [hdone] at hlinear

end GhostCom
