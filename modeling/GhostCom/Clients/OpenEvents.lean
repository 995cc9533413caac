import GhostCom.Driver.FileEvents
import GhostCom.Signals.Snapshots

/-!
# The open and close events of a `VirtualPort`

`GcomComEvtFileCreate` and `GcomComEvtFileClose` of a pair that is not destroyed, split where they
change `ComSideOpen` and at the steps of `GcomSignalChanged`, with the watcher of one `VirtualPort`
and its callback on the JS thread. The outcomes of the WDF calls of the waits are fixed for a run.

A callback announces its change after it has made it, to the waits that are pended by then, and a
snapshot that carries both bits is emitted as an open followed by a close. `open_events_iff` finds
that the events follow `ComSideOpen` exactly when it is changed only while a wait is pended and no
other change is still being announced.
-/

namespace GhostCom

open Transition (run EveryStep)

/-- The events of a `VirtualPort` that say whether the COM side is open. -/
inductive PortEvent where
  | comOpen
  | comClose
deriving DecidableEq, Repr

/-- What the callback of `onSignalChange` emits after the `signal` event. -/
def onSignalChange (state : SignalState) : List PortEvent :=
  (if state.changedMask &&& changedComOpen ≠ 0 then [.comOpen] else []) ++
    (if state.changedMask &&& changedComClose ≠ 0 then [.comClose] else [])

/-- The two callbacks that change `ComSideOpen`. -/
inductive FileCallback where
  | create
  | close
deriving DecidableEq, Repr

namespace FileCallback

/-- What the callback sets `ComSideOpen` to. -/
def comSideOpen : FileCallback → LONG
  | .create => 1
  | .close => 0

/-- The bit that it announces. -/
def changedBits : FileCallback → ULONG
  | .create => changedComOpen
  | .close => changedComClose

/-- The event that stands for it. -/
def event : FileCallback → PortEvent
  | .create => .comOpen
  | .close => .comClose

/-- The file objects that can be closed once the callback has returned. -/
def opened : FileCallback → ℕ
  | .create => 1
  | .close => 0

end FileCallback

/-- Where a callback is after it has changed `ComSideOpen`: before the first locked section of
`GcomSignalChanged`, in the loop that completes waits, or before the last locked section. -/
inductive NotifyPoint where
  | update
  | loop (snapshot : SignalState)
  | clear (snapshot : SignalState)

/-- A callback that has not returned. -/
structure FileCall where
  callback : FileCallback
  point : NotifyPoint

/-- A pair with its file objects, the callbacks that have not returned, its signal state and waits;
the snapshots the watcher has received and not handed over, and those the callback of the port has
not processed; and the events emitted, oldest first. -/
structure OpenRun where
  comSideOpen : LONG
  handles : ℕ
  calls : List FileCall
  state : SignalState
  waits : List WaitRequest
  nextRequest : RequestId
  completed : List SignalState
  queue : List SignalState
  emitted : List PortEvent

/-- The steps of the callbacks, which are named by their position, of the watcher, and of the JS
thread. -/
inductive OpenEvent where
  | fileCreate
  | fileClose
  | update (call : ℕ)
  | deliver (call : ℕ)
  | leave (call : ℕ)
  | clear (call : ℕ)
  | wait
  | handOver
  | process
deriving DecidableEq

/-- The step carries on a callback, or a snapshot on its way to the callback of the port. -/
def OpenEvent.Finishes : OpenEvent → Prop
  | .fileCreate | .fileClose | .wait => False
  | _ => True

/-- The step starts a callback. -/
def OpenEvent.Starts : OpenEvent → Prop
  | .fileCreate | .fileClose => True
  | _ => False

namespace OpenRun

/-- A pair that nobody has opened, with a watcher that has not waited yet. -/
def initial : OpenRun := ⟨0, 0, [], .initial, [], 0, [], [], []⟩

/-- One step. The loop of a call goes on while it finds a wait; the watcher waits again once it has
handed over what it got; a create of an open COM side is refused. -/
def next (wdf : Wdf) (s : OpenRun) : OpenEvent → Option OpenRun
  | .fileCreate =>
      if s.comSideOpen ≠ 0 then some s
      else some { s with comSideOpen := 1, calls := s.calls ++ [⟨.create, .update⟩] }
  | .fileClose =>
      if s.handles = 0 then none
      else some { s with
        comSideOpen := 0
        handles := s.handles - 1
        calls := s.calls ++ [⟨.close, .update⟩] }
  | .update call =>
      match s.calls[call]? with
      | some ⟨callback, .update⟩ =>
          let snapshot := signalUpdate s.state callback.changedBits
          some { s with state := snapshot, calls := s.calls.set call ⟨callback, .loop snapshot⟩ }
      | _ => none
  | .deliver call =>
      match s.calls[call]?, s.waits with
      | some ⟨_, .loop snapshot⟩, waitReq :: waits =>
          some { s with
            waits := waits
            completed := s.completed ++ SnapshotRun.receive wdf waitReq snapshot }
      | _, _ => none
  | .leave call =>
      match s.calls[call]?, s.waits with
      | some ⟨callback, .loop snapshot⟩, [] =>
          some { s with calls := s.calls.set call ⟨callback, .clear snapshot⟩ }
      | _, _ => none
  | .clear call =>
      match s.calls[call]? with
      | some ⟨callback, .clear snapshot⟩ =>
          some { s with
            state := signalClear s.state snapshot
            calls := s.calls.eraseIdx call
            handles := s.handles + callback.opened }
      | _ => none
  | .wait =>
      match s.waits, s.completed, wdf.forward s.nextRequest with
      | [], [], .ok () =>
          some { s with
            waits := [⟨s.nextRequest, sizeofSignalState⟩]
            nextRequest := s.nextRequest + 1 }
      | [], [], .error _ => some { s with nextRequest := s.nextRequest + 1 }
      | _, _, _ => none
  | .handOver =>
      match s.completed with
      | snapshot :: completed =>
          some { s with completed := completed, queue := s.queue ++ [snapshot] }
      | [] => none
  | .process =>
      match s.queue with
      | snapshot :: queue =>
          some { s with queue := queue, emitted := s.emitted ++ onSignalChange snapshot }
      | [] => none

/-- All callbacks have returned and all snapshots have been processed. -/
structure Quiet (s : OpenRun) : Prop where
  calls : s.calls = []
  completed : s.completed = []
  queue : s.queue = []

/-- When all is quiet, the last event was an open exactly if the COM side is open. -/
def Tracks (s : OpenRun) : Prop :=
  s.Quiet → (s.emitted.getLast? = some .comOpen ↔ s.comSideOpen = 1)

/-- However the callbacks that have not returned, the watcher and the JS thread go on from here, the
events follow `ComSideOpen`. -/
def Settles (wdf : Wdf) (s : OpenRun) : Prop :=
  ∀ es t, (∀ e ∈ es, ¬e.Starts) → run (next wdf) s es = some t → t.Tracks

/-- The step changes `ComSideOpen`. -/
def Changes (s : OpenRun) : OpenEvent → Prop
  | .fileCreate => s.comSideOpen = 0
  | .fileClose => True
  | _ => False

/-- If the step changes `ComSideOpen`, then every earlier change has been announced and a wait is
pended that can be completed. -/
def Met (wdf : Wdf) (s : OpenRun) (e : OpenEvent) : Prop :=
  s.Changes e → s.calls = [] ∧ ∃ waitReq ∈ s.waits, waitReq.Deliverable wdf = true

/-! ## Steps -/

/-- The steps that are enabled, by what they do. -/
inductive Step (wdf : Wdf) (s : OpenRun) : OpenEvent → OpenRun → Prop where
  | refused (hopen : s.comSideOpen ≠ 0) : Step wdf s .fileCreate s
  | fileCreate (hclosed : s.comSideOpen = 0) : Step wdf s .fileCreate
      { s with comSideOpen := 1, calls := s.calls ++ [⟨.create, .update⟩] }
  | fileClose (hhandles : s.handles ≠ 0) : Step wdf s .fileClose
      { s with
        comSideOpen := 0
        handles := s.handles - 1
        calls := s.calls ++ [⟨.close, .update⟩] }
  | update {call callback} (hcall : s.calls[call]? = some ⟨callback, .update⟩) :
      Step wdf s (.update call)
        { s with
          state := signalUpdate s.state callback.changedBits
          calls := s.calls.set call
            ⟨callback, .loop (signalUpdate s.state callback.changedBits)⟩ }
  | deliver {call callback snapshot waitReq waits}
      (hcall : s.calls[call]? = some ⟨callback, .loop snapshot⟩)
      (hwaits : s.waits = waitReq :: waits) : Step wdf s (.deliver call)
        { s with
          waits := waits
          completed := s.completed ++ SnapshotRun.receive wdf waitReq snapshot }
  | leave {call callback snapshot} (hcall : s.calls[call]? = some ⟨callback, .loop snapshot⟩)
      (hwaits : s.waits = []) : Step wdf s (.leave call)
        { s with calls := s.calls.set call ⟨callback, .clear snapshot⟩ }
  | clear {call callback snapshot} (hcall : s.calls[call]? = some ⟨callback, .clear snapshot⟩) :
      Step wdf s (.clear call)
        { s with
          state := signalClear s.state snapshot
          calls := s.calls.eraseIdx call
          handles := s.handles + callback.opened }
  | wait (hwaits : s.waits = []) (waits) (hwait : waits.length ≤ 1) : Step wdf s .wait
      { s with waits := waits, nextRequest := s.nextRequest + 1 }
  | handOver {snapshot completed} (hcompleted : s.completed = snapshot :: completed) :
      Step wdf s .handOver { s with completed := completed, queue := s.queue ++ [snapshot] }
  | process {snapshot queue} (hqueue : s.queue = snapshot :: queue) : Step wdf s .process
      { s with queue := queue, emitted := s.emitted ++ onSignalChange snapshot }

/-- Every step is one of these. -/
theorem step_of_next {wdf : Wdf} {s t : OpenRun} {e : OpenEvent} (h : next wdf s e = some t) :
    Step wdf s e t := by
  unfold next at h
  cases e with
  | fileCreate =>
      dsimp only at h
      split at h
      · next hopen =>
          cases h
          exact .refused hopen
      · next hclosed =>
          cases h
          exact .fileCreate (not_not.mp hclosed)
  | fileClose =>
      dsimp only at h
      split at h
      · cases h
      · next hhandles =>
          cases h
          exact .fileClose hhandles
  | update call =>
      dsimp only at h
      split at h
      · next callback hcall =>
          cases h
          exact .update hcall
      · cases h
  | deliver call =>
      dsimp only at h
      split at h
      · next callback snapshot waitReq waits hcall hwaits =>
          cases h
          exact .deliver hcall hwaits
      · cases h
  | leave call =>
      dsimp only at h
      split at h
      · next callback snapshot hcall hwaits =>
          cases h
          exact .leave hcall hwaits
      · cases h
  | clear call =>
      dsimp only at h
      split at h
      · next callback snapshot hcall =>
          cases h
          exact .clear hcall
      · cases h
  | wait =>
      dsimp only at h
      split at h
      · next hwaits _ _ =>
          cases h
          exact .wait hwaits _ le_rfl
      · next hwaits _ _ =>
          cases h
          exact .wait hwaits s.waits (by rw [hwaits]; exact Nat.zero_le _)
      · cases h
  | handOver =>
      dsimp only at h
      split at h
      · next snapshot completed hcompleted =>
          cases h
          exact .handOver hcompleted
      · cases h
  | process =>
      dsimp only at h
      split at h
      · next snapshot queue hqueue =>
          cases h
          exact .process hqueue
      · cases h

/-- The turns of a callback's loop complete every pended wait. -/
theorem run_deliver (wdf : Wdf) (callback : FileCallback) (snapshot : SignalState) (s : OpenRun)
    (h : s.calls = [⟨callback, .loop snapshot⟩]) :
    run (next wdf) s (List.replicate s.waits.length (.deliver 0)) =
      some { s with
        waits := []
        completed := s.completed ++ s.waits.flatMap (SnapshotRun.receive wdf · snapshot) } := by
  obtain ⟨comSideOpen, handles, calls, state, waits, nextRequest, completed, queue, emitted⟩ := s
  cases h
  induction waits generalizing completed with
  | nil => simp
  | cons waitReq waits ih =>
      rw [List.length_cons, List.replicate_succ, Transition.run_cons]
      have hturn := ih (completed ++ SnapshotRun.receive wdf waitReq snapshot)
      rw [List.append_assoc] at hturn
      exact hturn

/-- The announcement of a callback that is not interleaved with others. -/
theorem run_notify (wdf : Wdf) (callback : FileCallback) (s : OpenRun)
    (h : s.calls = [⟨callback, .update⟩]) :
    let snapshot := signalUpdate s.state callback.changedBits
    run (next wdf) s
        (.update 0 :: (List.replicate s.waits.length (.deliver 0) ++ [.leave 0, .clear 0])) =
      some { s with
        handles := s.handles + callback.opened
        calls := []
        state := signalClear snapshot snapshot
        waits := []
        completed := s.completed ++ s.waits.flatMap (SnapshotRun.receive wdf · snapshot) } := by
  intro snapshot
  obtain ⟨comSideOpen, handles, calls, state, waits, nextRequest, completed, queue, emitted⟩ := s
  cases h
  rw [Transition.run_cons]
  show (run (next wdf) ⟨comSideOpen, handles, [⟨callback, .loop snapshot⟩], snapshot, waits,
    nextRequest, completed, queue, emitted⟩ _) = _
  rw [Transition.run_append, run_deliver wdf callback snapshot _ rfl]
  rfl

/-- `GcomComEvtFileCreate` that runs alone is its steps in a row. -/
theorem file_create_sections (wdf : Wdf) (pp : PortPair) (id : RequestId) (s : OpenRun)
    (hactive : pp.active = true) (hclosed : pp.comSideOpen = 0) (hcalls : s.calls = [])
    (hpair : s.comSideOpen = pp.comSideOpen ∧ s.state = pp.signalState ∧
      s.waits = pp.signalWaitQueue) :
    let result := (gcomComEvtFileCreate wdf pp id).pp
    run (next wdf) s (.fileCreate :: .update 0 ::
        (List.replicate s.waits.length (.deliver 0) ++ [.leave 0, .clear 0])) =
      some { s with
        comSideOpen := result.comSideOpen
        handles := s.handles + 1
        state := result.signalState
        waits := result.signalWaitQueue
        completed := s.completed ++ s.waits.flatMap
          (SnapshotRun.receive wdf · (signalUpdate s.state changedComOpen)) } := by
  obtain ⟨comSideOpen, handles, calls, state, waits, nextRequest, completed, queue, emitted⟩ := s
  obtain ⟨rfl, rfl, rfl⟩ := hpair
  cases hcalls
  have hstart : next wdf ⟨pp.comSideOpen, handles, [], pp.signalState, pp.signalWaitQueue,
      nextRequest, completed, queue, emitted⟩ .fileCreate =
      some ⟨1, handles, [⟨.create, .update⟩], pp.signalState, pp.signalWaitQueue, nextRequest,
        completed, queue, emitted⟩ := by
    rw [next, if_neg (not_not.mpr hclosed)]
    rfl
  intro result
  rw [Transition.run_cons, hstart, Option.bind_some]
  refine (run_notify wdf .create _ (by rfl)).trans ?_
  have hresult : result = (gcomSignalChanged wdf
      (gcomPortPairAddRef { pp with comSideOpen := 1 }) changedComOpen).1 := by
    show (gcomComEvtFileCreate wdf pp id).pp = _
    rw [gcomComEvtFileCreate, if_neg (by simp [hactive]), if_neg (not_not.mpr hclosed)]
  rw [hresult, gcomSignalChanged, if_neg (by simp [gcomPortPairAddRef, hactive])]
  rfl

/-- `GcomComEvtFileClose` that runs alone is its steps in a row. -/
theorem file_close_sections (wdf : Wdf) (pp : PortPair) (s : OpenRun)
    (hactive : pp.active = true) (hhandles : s.handles ≠ 0) (hcalls : s.calls = [])
    (hpair : s.comSideOpen = pp.comSideOpen ∧ s.state = pp.signalState ∧
      s.waits = pp.signalWaitQueue) :
    let result := (gcomComEvtFileClose wdf pp).pp
    run (next wdf) s (.fileClose :: .update 0 ::
        (List.replicate s.waits.length (.deliver 0) ++ [.leave 0, .clear 0])) =
      some { s with
        comSideOpen := result.comSideOpen
        handles := s.handles - 1
        state := result.signalState
        waits := result.signalWaitQueue
        completed := s.completed ++ s.waits.flatMap
          (SnapshotRun.receive wdf · (signalUpdate s.state changedComClose)) } := by
  obtain ⟨comSideOpen, handles, calls, state, waits, nextRequest, completed, queue, emitted⟩ := s
  obtain ⟨rfl, rfl, rfl⟩ := hpair
  cases hcalls
  have hstart : next wdf ⟨pp.comSideOpen, handles, [], pp.signalState, pp.signalWaitQueue,
      nextRequest, completed, queue, emitted⟩ .fileClose =
      some ⟨0, handles - 1, [⟨.close, .update⟩], pp.signalState, pp.signalWaitQueue, nextRequest,
        completed, queue, emitted⟩ := by
    rw [next, if_neg hhandles]
    rfl
  intro result
  rw [Transition.run_cons, hstart, Option.bind_some]
  refine (run_notify wdf .close _ (by rfl)).trans ?_
  have hresult : result = (gcomPortPairRelease (gcomSignalChanged wdf
      { pp with comSideOpen := 0 } changedComClose).1).1 := by
    show (gcomComEvtFileClose wdf pp).pp = _
    simp only [gcomComEvtFileClose, if_pos hactive]
  rw [hresult, gcomSignalChanged, if_neg (by simp [hactive])]
  rfl

/-! ## What is emitted in the end -/

/-- The events that are emitted once every delivered snapshot has been processed. -/
def view (s : OpenRun) : List PortEvent :=
  s.emitted ++ (s.queue ++ s.completed).flatMap onSignalChange

/-- The last of these is an open exactly if the COM side is open. -/
def Agrees (s : OpenRun) : Prop := s.view.getLast? = some .comOpen ↔ s.comSideOpen = 1

theorem Quiet.view {s : OpenRun} (h : s.Quiet) : s.view = s.emitted := by
  rw [OpenRun.view, h.queue, h.completed]
  exact List.append_nil _

theorem Agrees.tracks {s : OpenRun} (h : s.Agrees) : s.Tracks := by
  intro hquiet
  rw [← hquiet.view]
  exact h

/-- A snapshot that arrives is emitted last. -/
theorem view_receive (s : OpenRun) (waits : List WaitRequest) (snapshots : List SignalState) :
    view { s with waits := waits, completed := s.completed ++ snapshots } =
      s.view ++ snapshots.flatMap onSignalChange := by
  simp [view]

theorem view_hand_over {s : OpenRun} {snapshot : SignalState} {completed : List SignalState}
    (h : s.completed = snapshot :: completed) :
    view { s with completed := completed, queue := s.queue ++ [snapshot] } = s.view := by
  simp [view, h]

theorem view_process {s : OpenRun} {snapshot : SignalState} {queue : List SignalState}
    (h : s.queue = snapshot :: queue) :
    view { s with queue := queue, emitted := s.emitted ++ onSignalChange snapshot } = s.view := by
  simp [view, h]

/-- A change that finds no other one pending is the only one in its snapshot. -/
theorem update_mask {state : SignalState} (h : state.changedMask = 0) (changedBits : ULONG) :
    (signalUpdate state changedBits).changedMask = changedBits := by
  show state.changedMask ||| changedBits = _
  rw [h]
  exact BitVec.zero_or

/-- The snapshot of a single change is emitted as its event. -/
theorem on_signal_change_single {snapshot : SignalState} {callback : FileCallback}
    (h : snapshot.changedMask = callback.changedBits) :
    onSignalChange snapshot = [callback.event] := by
  rw [onSignalChange, h]
  cases callback <;> rfl

/-- A snapshot with the close bit is emitted as a close in the end. -/
theorem on_signal_change_close {snapshot : SignalState}
    (h : snapshot.changedMask &&& changedComClose ≠ 0) :
    (onSignalChange snapshot).getLast? = some .comClose := by
  rw [onSignalChange, if_pos h]
  simp

/-- What a wait that cannot be completed receives. -/
theorem receive_of_not_deliverable {wdf : Wdf} {waitReq : WaitRequest} {snapshot : SignalState}
    (h : ¬waitReq.Deliverable wdf = true) : SnapshotRun.receive wdf waitReq snapshot = [] :=
  if_neg h

/-! ## Changes that are announced one at a time -/

/-- What holds while the change of a callback is being announced: before it has its snapshot a wait
is pended for it; then it has no bit but its own, and it has been delivered or will be. -/
def Announcing (wdf : Wdf) (s : OpenRun) (callback : FileCallback) : NotifyPoint → Prop
  | .update => s.state.changedMask = 0 ∧ ∃ waitReq ∈ s.waits, waitReq.Deliverable wdf = true
  | .loop snapshot =>
      s.state.changedMask = callback.changedBits ∧
        snapshot.changedMask = callback.changedBits ∧
          (s.Agrees ∨ ∃ waitReq ∈ s.waits, waitReq.Deliverable wdf = true)
  | .clear snapshot =>
      s.state.changedMask = callback.changedBits ∧
        snapshot.changedMask = callback.changedBits ∧ s.Agrees

/-- Nothing is being announced, and the events agree with `ComSideOpen`; or one change is, and the
callback that made it has the only file object there is. -/
def InStep (wdf : Wdf) (s : OpenRun) : Prop :=
  s.waits.length ≤ 1 ∧
    ((s.calls = [] ∧ s.state.changedMask = 0 ∧ s.Agrees ∧
        (s.comSideOpen = 0 ∧ s.handles = 0 ∨ s.comSideOpen = 1 ∧ s.handles = 1)) ∨
      ∃ callback point, s.calls = [⟨callback, point⟩] ∧ s.handles = 0 ∧
        s.comSideOpen = callback.comSideOpen ∧ s.Announcing wdf callback point)

variable {wdf : Wdf} {s t : OpenRun} {e : OpenEvent}

theorem initial_in_step (wdf : Wdf) : initial.InStep wdf :=
  ⟨Nat.zero_le _, .inl ⟨rfl, rfl, iff_of_false nofun (by decide), .inl ⟨rfl, rfl⟩⟩⟩

/-- Between changes the events follow `ComSideOpen`. -/
theorem InStep.tracks (h : s.InStep wdf) : s.Tracks := by
  rcases h.2 with ⟨_, _, hagrees, _⟩ | ⟨callback, point, hcalls, _⟩
  · exact hagrees.tracks
  · intro hquiet
    rw [hquiet.calls] at hcalls
    cases hcalls

/-- While no callback is announcing a change, the events agree with `ComSideOpen`. -/
theorem InStep.idle (h : s.InStep wdf) (hcalls : s.calls = []) :
    s.state.changedMask = 0 ∧ s.Agrees ∧
      (s.comSideOpen = 0 ∧ s.handles = 0 ∨ s.comSideOpen = 1 ∧ s.handles = 1) := by
  rcases h.2 with ⟨-, hidle⟩ | ⟨callback, point, hsome, -⟩
  · exact hidle
  · rw [hcalls] at hsome
    cases hsome

/-- A callback that has not returned is the only one, and announces its change. -/
theorem InStep.announcing (h : s.InStep wdf) {call : ℕ} {callback : FileCallback}
    {point : NotifyPoint} (hcall : s.calls[call]? = some ⟨callback, point⟩) :
    call = 0 ∧ s.calls = [⟨callback, point⟩] ∧ s.handles = 0 ∧
      s.comSideOpen = callback.comSideOpen ∧ s.Announcing wdf callback point := by
  rcases h.2 with ⟨hcalls, _⟩ | ⟨callback', point', hcalls, hrest⟩
  · rw [hcalls] at hcall
    cases hcall
  · cases call with
    | zero =>
        rw [hcalls] at hcall
        cases hcall
        exact ⟨rfl, hcalls, hrest⟩
    | succ call =>
        rw [hcalls] at hcall
        cases hcall

/-- The event of a callback comes last after its snapshot is delivered. -/
theorem agrees_receive {callback : FileCallback} {snapshot : SignalState} {waitReq : WaitRequest}
    (waits : List WaitRequest) (hopen : s.comSideOpen = callback.comSideOpen)
    (hmask : snapshot.changedMask = callback.changedBits)
    (h : s.Agrees ∨ waitReq.Deliverable wdf = true) :
    Agrees { s with
      waits := waits
      completed := s.completed ++ SnapshotRun.receive wdf waitReq snapshot } := by
  unfold Agrees
  rw [view_receive]
  by_cases hdeliver : waitReq.Deliverable wdf = true
  · rw [SnapshotRun.receive, if_pos hdeliver, List.flatMap_singleton, on_signal_change_single hmask,
      List.getLast?_concat, hopen]
    cases callback <;> decide
  · rw [receive_of_not_deliverable hdeliver, List.flatMap_nil, List.append_nil]
    exact h.resolve_right hdeliver

/-- Snapshots on their way to the callback of the port make no difference. -/
theorem InStep.moved (h : s.InStep wdf) {completed queue : List SignalState}
    {emitted : List PortEvent}
    (hview : view { s with completed := completed, queue := queue, emitted := emitted } = s.view) :
    InStep wdf { s with completed := completed, queue := queue, emitted := emitted } := by
  have hagrees (hs : s.Agrees) :
      Agrees { s with completed := completed, queue := queue, emitted := emitted } := by
    unfold Agrees
    rw [hview]
    exact hs
  refine ⟨h.1, ?_⟩
  rcases h.2 with ⟨hcalls, hmask, hs, hhandles⟩ | ⟨callback, point, hcalls, hhandles, hopen, hpoint⟩
  · exact .inl ⟨hcalls, hmask, hagrees hs, hhandles⟩
  · refine .inr ⟨callback, point, hcalls, hhandles, hopen, ?_⟩
    cases point with
    | update => exact hpoint
    | loop snapshot => exact ⟨hpoint.1, hpoint.2.1, hpoint.2.2.imp_left hagrees⟩
    | clear snapshot => exact ⟨hpoint.1, hpoint.2.1, hagrees hpoint.2.2⟩

/-- A callback that changes `ComSideOpen` with every earlier change announced and a wait pended
that can be completed. -/
theorem InStep.changed (h : s.InStep wdf) (callback : FileCallback) (hcalls : s.calls = [])
    (hwait : ∃ waitReq ∈ s.waits, waitReq.Deliverable wdf = true) :
    InStep wdf { s with
      comSideOpen := callback.comSideOpen
      handles := 0
      calls := s.calls ++ [⟨callback, .update⟩] } := by
  refine ⟨h.1, .inr ⟨callback, .update, ?_, rfl, rfl, (h.idle hcalls).1, hwait⟩⟩
  rw [hcalls]
  rfl

/-- A step that changes `ComSideOpen` only if it meets a wait keeps the events in step. -/
theorem InStep.step (h : s.InStep wdf) (ht : next wdf s e = some t) (hmet : s.Met wdf e) :
    t.InStep wdf := by
  have hs := h
  obtain ⟨hsingle, h⟩ := h
  cases step_of_next ht with
  | refused => exact hs
  | fileCreate hclosed =>
      obtain ⟨hcalls, hwait⟩ := hmet hclosed
      have hnone : s.handles = 0 := by
        rcases (hs.idle hcalls).2.2 with ⟨-, hnone⟩ | ⟨hopen, -⟩
        · exact hnone
        · rw [hopen] at hclosed
          cases hclosed
      have hchanged := hs.changed .create hcalls hwait
      rw [← hnone] at hchanged
      exact hchanged
  | fileClose hhandle =>
      obtain ⟨hcalls, hwait⟩ := hmet trivial
      have hlast : s.handles - 1 = 0 := by
        have hhandles := (hs.idle hcalls).2.2
        omega
      have hchanged := hs.changed .close hcalls hwait
      rw [← hlast] at hchanged
      exact hchanged
  | update hcall =>
      next call callback =>
      obtain ⟨rfl, hcalls, hhandles, hopen, hmask, hwait⟩ := hs.announcing hcall
      have hbits := update_mask hmask callback.changedBits
      refine ⟨hsingle, .inr ⟨callback, .loop _, ?_, hhandles, hopen, hbits, hbits, .inr hwait⟩⟩
      simp [hcalls]
  | deliver hcall hwaits =>
      next call callback snapshot waitReq waits =>
      obtain ⟨rfl, hcalls, hhandles, hopen, hmask, hbits, htold⟩ := hs.announcing hcall
      -- the wait that takes the snapshot is the only one there is
      have hrest : waits = [] := by
        rw [hwaits, List.length_cons] at hsingle
        exact List.length_eq_zero_iff.mp (by omega)
      refine ⟨hrest ▸ Nat.zero_le _, .inr ⟨callback, .loop snapshot, hcalls, hhandles, hopen,
        hmask, hbits, .inl (agrees_receive waits hopen hbits (htold.imp_right ?_))⟩⟩
      rintro ⟨w, hw, hdeliver⟩
      rw [hwaits, hrest] at hw
      rw [← List.mem_singleton.mp hw]
      exact hdeliver
  | leave hcall hwaits =>
      next call callback snapshot =>
      obtain ⟨rfl, hcalls, hhandles, hopen, hmask, hbits, htold⟩ := hs.announcing hcall
      refine ⟨hsingle, .inr ⟨callback, .clear snapshot, ?_, hhandles, hopen, hmask, hbits,
        htold.resolve_right ?_⟩⟩
      · simp [hcalls]
      · rintro ⟨w, hw, _⟩
        rw [hwaits] at hw
        cases hw
  | clear hcall =>
      next call callback snapshot =>
      obtain ⟨rfl, hcalls, hhandles, hopen, hmask, hbits, hagrees⟩ := hs.announcing hcall
      refine ⟨hsingle, .inl ⟨?_, ?_, hagrees, ?_⟩⟩
      · simp [hcalls]
      · show s.state.changedMask &&& ~~~snapshot.changedMask = 0
        rw [hmask, hbits]
        exact BitVec.and_not_self _
      · show s.comSideOpen = 0 ∧ s.handles + callback.opened = 0 ∨
          s.comSideOpen = 1 ∧ s.handles + callback.opened = 1
        rw [hopen, hhandles]
        cases callback <;> decide
  | wait hwaits waits hwait =>
      refine ⟨hwait, ?_⟩
      rcases h with h | ⟨callback, point, hcalls, hhandles, hopen, hpoint⟩
      · exact .inl h
      · refine .inr ⟨callback, point, hcalls, hhandles, hopen, ?_⟩
        -- a wait is issued only when none is pended, so what was told before stays told
        have hnone : ¬∃ waitReq ∈ s.waits, waitReq.Deliverable wdf = true := by
          rintro ⟨w, hw, _⟩
          rw [hwaits] at hw
          cases hw
        cases point with
        | update => exact absurd hpoint.2 hnone
        | loop snapshot => exact ⟨hpoint.1, hpoint.2.1, .inl (hpoint.2.2.resolve_right hnone)⟩
        | clear snapshot => exact hpoint
  | handOver hcompleted => exact hs.moved (view_hand_over hcompleted)
  | process hqueue => exact hs.moved (view_process hqueue)

/-! ## Changes that are not announced -/

/-- A callback that is in its loop has a snapshot with the close bit, and none is before it. -/
def Closing : NotifyPoint → Prop
  | .update => False
  | .loop snapshot => snapshot.changedMask &&& changedComClose ≠ 0
  | .clear _ => True

/-- The events disagree with `ComSideOpen`, and will do so unless the watcher waits again: no pended
wait can be completed, or the COM side is open and every snapshot that can still be delivered has
the close bit. -/
structure Stray (wdf : Wdf) (s : OpenRun) : Prop where
  disagrees : ¬s.Agrees
  stays : (∀ waitReq ∈ s.waits, ¬waitReq.Deliverable wdf = true) ∨
    s.comSideOpen = 1 ∧ ∀ call ∈ s.calls, Closing call.point

/-- A snapshot with the close bit that is delivered while the COM side is open. -/
theorem disagrees_receive {snapshot : SignalState} {waitReq : WaitRequest}
    (waits : List WaitRequest) (hopen : s.comSideOpen = 1)
    (hclose : snapshot.changedMask &&& changedComClose ≠ 0)
    (hdeliver : waitReq.Deliverable wdf = true) :
    ¬Agrees { s with
      waits := waits
      completed := s.completed ++ SnapshotRun.receive wdf waitReq snapshot } := by
  intro hagrees
  have hlast := hagrees.mpr hopen
  rw [view_receive, SnapshotRun.receive, if_pos hdeliver, List.flatMap_singleton,
    List.getLast?_append, on_signal_change_close hclose] at hlast
  cases hlast

/-- If nobody else waits or starts, stray events stay astray. -/
theorem Stray.step (he : e.Finishes) (h : s.Stray wdf) (ht : next wdf s e = some t) :
    t.Stray wdf := by
  obtain ⟨hdisagrees, hstays⟩ := h
  cases step_of_next ht with
  | refused | fileCreate | fileClose | wait => exact he.elim
  | update hcall =>
      refine ⟨hdisagrees, hstays.imp_right ?_⟩
      rintro ⟨_, hclosing⟩
      exact (hclosing _ (List.mem_of_getElem? hcall)).elim
  | deliver hcall hwaits =>
      next call callback snapshot waitReq waits =>
      -- a delivery puts a close last if the snapshot has the bit, and nothing if it cannot be made
      by_cases hdeliver : waitReq.Deliverable wdf = true
      · rcases hstays with hnone | ⟨hopen, hclosing⟩
        · exact absurd hdeliver (hnone waitReq (by rw [hwaits]; exact List.mem_cons_self ..))
        · have hclose := hclosing _ (List.mem_of_getElem? hcall)
          exact ⟨disagrees_receive waits hopen hclose hdeliver, .inr ⟨hopen, hclosing⟩⟩
      · refine ⟨?_, hstays.imp_left fun hnone w hw ↦ hnone w (hwaits ▸ List.mem_cons_of_mem _ hw)⟩
        unfold Agrees
        rw [view_receive, receive_of_not_deliverable hdeliver, List.flatMap_nil, List.append_nil]
        exact hdisagrees
  | leave hcall hwaits =>
      refine ⟨hdisagrees, hstays.imp_right (And.imp_right fun hclosing other hother ↦ ?_)⟩
      rcases List.mem_or_eq_of_mem_set hother with hmem | rfl
      · exact hclosing other hmem
      · trivial
  | clear hcall =>
      refine ⟨hdisagrees, hstays.imp_right (And.imp_right fun hclosing other hother ↦ ?_)⟩
      exact hclosing other (List.mem_of_mem_eraseIdx hother)
  | handOver hcompleted =>
      refine ⟨?_, hstays⟩
      unfold Agrees
      rw [view_hand_over hcompleted]
      exact hdisagrees
  | process hqueue =>
      refine ⟨?_, hstays⟩
      unfold Agrees
      rw [view_process hqueue]
      exact hdisagrees

/-- The steps a callback has left. -/
def NotifyPoint.left : NotifyPoint → ℕ
  | .update => 3
  | .loop _ => 2
  | .clear _ => 1

/-- The steps left until all is quiet, if nobody waits or starts. -/
def left (s : OpenRun) : ℕ :=
  (s.calls.map (NotifyPoint.left ·.point)).sum + 3 * s.waits.length + 2 * s.completed.length +
    s.queue.length

/-- The callbacks, the watcher and the JS thread can always finish what they have begun. -/
theorem finishes (wdf : Wdf) (s : OpenRun) :
    ∃ es t, (∀ e ∈ es, OpenEvent.Finishes e) ∧ run (next wdf) s es = some t ∧ t.Quiet := by
  refine Transition.exists_run_to_final left (fun s hbusy ↦ ?_) s
  cases hcalls : s.calls with
  | cons call calls =>
      obtain ⟨callback, point⟩ := call
      cases point with
      | update =>
          refine ⟨.update 0, _, trivial, by simp only [next, hcalls]; rfl, ?_⟩
          simp [left, hcalls, NotifyPoint.left]
      | loop snapshot =>
          cases hwaits : s.waits with
          | nil =>
              refine ⟨.leave 0, _, trivial, by simp only [next, hcalls, hwaits]; rfl, ?_⟩
              simp [left, hcalls, hwaits, NotifyPoint.left]
          | cons waitReq waits =>
              refine ⟨.deliver 0, _, trivial, by simp only [next, hcalls, hwaits]; rfl, ?_⟩
              have hone : (SnapshotRun.receive wdf waitReq snapshot).length ≤ 1 := by
                unfold SnapshotRun.receive
                split <;> simp
              simp only [left, hcalls, hwaits, List.length_cons, List.length_append]
              omega
      | clear snapshot =>
          refine ⟨.clear 0, _, trivial, by simp only [next, hcalls]; rfl, ?_⟩
          simp [left, hcalls, NotifyPoint.left]
  | nil =>
      cases hcompleted : s.completed with
      | cons snapshot completed =>
          refine ⟨.handOver, _, trivial, by simp only [next, hcompleted]; rfl, ?_⟩
          simp only [left, hcompleted, List.length_cons, List.length_append, List.length_nil]
          omega
      | nil =>
          cases hqueue : s.queue with
          | cons snapshot queue =>
              refine ⟨.process, _, trivial, by simp only [next, hqueue]; rfl, ?_⟩
              simp [left, hqueue]
          | nil => exact absurd ⟨hcalls, hcompleted, hqueue⟩ hbusy

/-- A finishing step starts no callback. -/
theorem not_starts_of_finishes (h : e.Finishes) : ¬e.Starts := by
  cases e with
  | fileCreate | fileClose => exact fun _ ↦ h
  | _ => exact id

/-- Some finishing steps lead the events astray. -/
def CanStray (wdf : Wdf) (s : OpenRun) : Prop :=
  ∃ es t, (∀ e ∈ es, OpenEvent.Finishes e) ∧ run (next wdf) s es = some t ∧ t.Stray wdf

theorem Stray.can_stray (h : s.Stray wdf) : s.CanStray wdf := ⟨[], s, nofun, rfl, h⟩

theorem CanStray.of_next (he : e.Finishes) (ht : next wdf s e = some t) (h : t.CanStray wdf) :
    s.CanStray wdf := by
  obtain ⟨es, u, hes, hu, hstray⟩ := h
  refine ⟨e :: es, u, ?_, Transition.run_cons_eq_some.mpr ⟨t, ht, hu⟩, hstray⟩
  intro f hf
  rcases List.mem_cons.mp hf with rfl | hf
  · exact he
  · exact hes f hf

/-- Events that can stray do not settle. -/
theorem CanStray.not_settles (h : s.CanStray wdf) : ¬s.Settles wdf := by
  obtain ⟨es, t, hes, ht, hstray⟩ := h
  intro hsettles
  obtain ⟨fs, u, hfs, hu, hquiet⟩ := finishes wdf t
  have hend : u.Stray wdf :=
    Transition.run_invariant_of (fun _ _ _ he hs ht ↦ hs.step he ht) hfs hstray hu
  have htracks := hsettles (es ++ fs) u ?_ ?_ hquiet
  · apply hend.disagrees
    unfold Agrees
    rw [hquiet.view]
    exact htracks
  · intro e he
    rcases List.mem_append.mp he with he | he
    · exact not_starts_of_finishes (hes e he)
    · exact not_starts_of_finishes (hfs e he)
  · rw [Transition.run_append, ht]
    exact hu

/-- A change of `ComSideOpen` turns the last event from right to wrong. -/
theorem disagrees_of_change (hs : s.InStep wdf) (hcalls : s.calls = [])
    (ht : next wdf s e = some t) (hchanges : s.Changes e) : ¬t.Agrees ∧ t.waits = s.waits := by
  obtain ⟨-, hagrees, hhandles⟩ := hs.idle hcalls
  cases step_of_next ht with
  | refused hopen => exact absurd hchanges hopen
  | fileCreate hclosed =>
      refine ⟨fun h ↦ ?_, rfl⟩
      have hbefore := hagrees.mp (h.mpr rfl)
      rw [show s.comSideOpen = 0 from hclosed] at hbefore
      cases hbefore
  | fileClose hhandle =>
      refine ⟨fun h ↦ ?_, rfl⟩
      have hopen : s.comSideOpen = 1 := (hhandles.resolve_left fun hnone ↦ hhandle hnone.2).1
      cases h.mp (hagrees.mpr hopen)
  | _ => exact hchanges.elim

/-- When all snapshots have the close bit, the events stray as soon as the last is a close: at once,
or after the wait is completed. -/
theorem can_stray_of_closing (hopen : s.comSideOpen = 1)
    (hclosing : ∀ call ∈ s.calls, Closing call.point)
    (h : ¬s.Agrees ∨ ∃ callback snapshot calls waitReq,
      s.calls = ⟨callback, .loop snapshot⟩ :: calls ∧ s.waits = [waitReq] ∧
        waitReq.Deliverable wdf = true) : s.CanStray wdf := by
  rcases h with hdisagrees | ⟨callback, snapshot, calls, waitReq, hcalls, hwaits, hdeliver⟩
  · exact Stray.can_stray ⟨hdisagrees, .inr ⟨hopen, hclosing⟩⟩
  · have hclose : snapshot.changedMask &&& changedComClose ≠ 0 :=
      hclosing ⟨callback, .loop snapshot⟩ (by rw [hcalls]; exact List.mem_cons_self ..)
    have hnext : next wdf s (.deliver 0) = some { s with
        waits := []
        completed := s.completed ++ SnapshotRun.receive wdf waitReq snapshot } := by
      simp [next, hcalls, hwaits]
    exact CanStray.of_next (e := .deliver 0) trivial hnext
      (Stray.can_stray ⟨disagrees_receive [] hopen hclose hdeliver, .inr ⟨hopen, hclosing⟩⟩)

/-- A create that takes its snapshot before a close has cleared its bit. -/
theorem can_stray_of_overtaken (point : NotifyPoint) (hopen : s.comSideOpen = 1)
    (hcalls : s.calls = [⟨.close, point⟩, ⟨.create, .update⟩]) (hclosing : Closing point)
    (hmask : s.state.changedMask = changedComClose)
    (h : ¬s.Agrees ∨ ∃ snapshot waitReq, point = .loop snapshot ∧ s.waits = [waitReq] ∧
      waitReq.Deliverable wdf = true) : s.CanStray wdf := by
  have hnext : next wdf s (.update 1) = some { s with
      state := signalUpdate s.state changedComOpen
      calls := [⟨.close, point⟩,
        ⟨.create, .loop (signalUpdate s.state changedComOpen)⟩] } := by
    simp [next, hcalls, FileCallback.changedBits]
  refine CanStray.of_next (e := .update 1) trivial hnext (can_stray_of_closing hopen ?_ ?_)
  · intro call hcall
    rcases List.mem_cons.mp hcall with rfl | hcall
    · exact hclosing
    · rw [List.mem_singleton.mp hcall]
      show (s.state.changedMask ||| changedComOpen) &&& changedComClose ≠ 0
      rw [hmask]
      decide
  · refine h.imp_right ?_
    rintro ⟨snapshot, waitReq, rfl, hwaits, hdeliver⟩
    exact ⟨.close, snapshot, _, waitReq, rfl, hwaits, hdeliver⟩

/-- A create that overtakes a close can be announced with it, so that the close is what is emitted
last. -/
theorem can_stray_of_pending (hs : s.InStep wdf) (hcalls : s.calls ≠ [])
    (ht : next wdf s e = some t) (hchanges : s.Changes e) : t.CanStray wdf := by
  obtain ⟨hsingle, ⟨hnone, -⟩ | ⟨callback, point, hcalls, hhandles, hopen, hpoint⟩⟩ := hs
  · exact absurd hnone hcalls
  · cases step_of_next ht with
    | refused hclosed => exact absurd hchanges hclosed
    | fileClose hhandle => exact absurd hhandles hhandle
    | fileCreate hclosed =>
        obtain rfl : callback = .close := by
          cases callback with
          | create =>
              rw [hopen] at hclosed
              cases hclosed
          | close => rfl
        have hlast (hagrees : s.Agrees) : ¬s.view.getLast? = some .comOpen := by
          intro hlast
          rw [hagrees.mp hlast] at hclosed
          cases hclosed
        have hone (h : ∃ waitReq ∈ s.waits, waitReq.Deliverable wdf = true) :
            ∃ waitReq, s.waits = [waitReq] ∧ waitReq.Deliverable wdf = true := by
          obtain ⟨waitReq, hmem, hdeliver⟩ := h
          exact ⟨waitReq, waits_singleton hsingle hmem, hdeliver⟩
        cases point with
        | update =>
            -- the close takes its snapshot first, and then the create does
            obtain ⟨hmask, hwait⟩ := hpoint
            obtain ⟨waitReq, hwaits, hdeliver⟩ := hone hwait
            have hbits := update_mask hmask changedComClose
            refine CanStray.of_next (e := .update 0) trivial ?_ (can_stray_of_overtaken _
              (s := { s with
                comSideOpen := 1
                state := signalUpdate s.state changedComClose
                calls := [⟨.close, .loop (signalUpdate s.state changedComClose)⟩,
                  ⟨.create, .update⟩] }) rfl rfl ?_ hbits
              (.inr ⟨_, waitReq, rfl, hwaits, hdeliver⟩))
            · simp [next, hcalls, FileCallback.changedBits]
            · show (signalUpdate s.state changedComClose).changedMask &&& changedComClose ≠ 0
              rw [hbits]
              decide
        | loop snapshot =>
            obtain ⟨hmask, hbits, htold⟩ := hpoint
            refine can_stray_of_overtaken (.loop snapshot) rfl (by simp [hcalls]) ?_ hmask ?_
            · show snapshot.changedMask &&& changedComClose ≠ 0
              rw [hbits]
              decide
            · refine htold.imp (fun hagrees h ↦ hlast hagrees (h.mpr rfl)) fun hwait ↦ ?_
              obtain ⟨waitReq, hwaits, hdeliver⟩ := hone hwait
              exact ⟨snapshot, waitReq, rfl, hwaits, hdeliver⟩
        | clear snapshot =>
            obtain ⟨hmask, hbits, hagrees⟩ := hpoint
            exact can_stray_of_overtaken (.clear snapshot) rfl (by simp [hcalls]) trivial
              hmask (.inl fun h ↦ hlast hagrees (h.mpr rfl))
    | _ => exact hchanges.elim

/-- From a state in which the events are in step, they settle after a step exactly when the step
changes `ComSideOpen` only if it meets a wait. -/
theorem InStep.settles_iff (hs : s.InStep wdf) (ht : next wdf s e = some t) :
    t.Settles wdf ↔ s.Met wdf e := by
  constructor
  · intro hsettles hchanges
    by_cases hcalls : s.calls = []
    · refine ⟨hcalls, ?_⟩
      by_contra hnone
      obtain ⟨hdisagrees, hwaits⟩ := disagrees_of_change hs hcalls ht hchanges
      refine (Stray.can_stray ⟨hdisagrees, .inl ?_⟩).not_settles hsettles
      intro waitReq hmem hdeliver
      exact hnone ⟨waitReq, hwaits ▸ hmem, hdeliver⟩
    · exact absurd hsettles (can_stray_of_pending hs hcalls ht hchanges).not_settles
  · intro hmet es u hes hu
    refine (Transition.run_invariant_of (I := InStep wdf) ?_ hes (hs.step ht hmet) hu).tracks
    intro s e t he hs ht
    refine hs.step ht fun hchanges ↦ ?_
    cases e with
    | fileCreate | fileClose => exact absurd trivial he
    | _ => exact hchanges.elim

end OpenRun

/-- In a run of the COM side's file callbacks, of the watcher and of the JS thread, the open and
close events follow `ComSideOpen`, however what has begun goes on, exactly when `ComSideOpen` is
changed only while every earlier change has been announced and a wait is pended that can be
completed. -/
theorem open_events_iff (wdf : Wdf) (events : List OpenEvent) :
    EveryStep (OpenRun.next wdf) (fun _ _ t ↦ t.Settles wdf) .initial events ↔
      EveryStep (OpenRun.next wdf) (fun s e _ ↦ s.Met wdf e) .initial events := by
  refine Transition.everyStep_iff (I := OpenRun.InStep wdf) ?_ ?_ (OpenRun.initial_in_step wdf)
  · intro s e t hs ht hsettles
    exact hs.step ht ((hs.settles_iff ht).mp hsettles)
  · intro s e t hs ht
    exact hs.settles_iff ht

/-- The COM port is opened while the watcher waits, and closed before it waits again. -/
def closedBetweenWaits : List OpenEvent :=
  [.wait, .fileCreate, .update 0, .deliver 0, .leave 0, .clear 0, .fileClose, .update 0, .leave 0,
    .clear 0, .handOver, .process]

/-- The port is closed, and the last event says that it is open. -/
theorem close_not_emitted :
    ¬∀ (wdf : Wdf) (events : List OpenEvent) (t : OpenRun),
      run (OpenRun.next wdf) .initial events = some t → t.Tracks := by
  intro h
  have htracks := h .ok closedBetweenWaits _ rfl ⟨rfl, rfl, rfl⟩
  exact absurd (htracks.mp rfl) (by decide)

end GhostCom
