import GhostCom.Driver.PortPair

/-!
# Signal changes and comm events

`GcomSignalChanged` and `GcomCheckWaitMask` of `portpair.c`. Both take their snapshot under the
signal lock and complete pended waits after releasing it; here a call runs as a whole. The two
locked sections of `GcomSignalChanged` are functions of their own, shared with the model that
interleaves concurrent calls.
-/

namespace GhostCom

/-- First locked section of `GcomSignalChanged`: the new signal state, which is also the
snapshot. -/
def signalUpdate (state : SignalState) (changedBits : ULONG) : SignalState :=
  { state with
    sequenceNumber := state.sequenceNumber + 1
    changedMask := state.changedMask ||| changedBits }

/-- Last locked section of `GcomSignalChanged`: clear the bits of the snapshot. -/
def signalClear (state snapshot : SignalState) : SignalState :=
  { state with changedMask := state.changedMask &&& ~~~snapshot.changedMask }

/-- One turn of the loop of `GcomSignalChanged`: complete a wait with the snapshot. -/
def completeSignalWait (wdf : Wdf) (snapshot : SignalState) (waitReq : WaitRequest) : Effect :=
  match retrieveBuffer wdf waitReq.id sizeofSignalState waitReq.outputLength with
  | .ok () => .completed waitReq.id .success sizeofSignalState (.snapshot snapshot)
  | .error st => .completed waitReq.id st 0 .none

/-- `GcomSignalChanged`. -/
def gcomSignalChanged (wdf : Wdf) (pp : PortPair) (changedBits : ULONG) :
    PortPair × List Effect :=
  if !pp.active then (pp, [])
  else
    let snapshot := signalUpdate pp.signalState changedBits
    ({ pp with
        signalState := signalClear snapshot snapshot
        signalWaitQueue := [] },
      .signalChanged changedBits :: pp.signalWaitQueue.map (completeSignalWait wdf snapshot))

/-- One turn of the loop of `GcomCheckWaitMask`: complete a `WAIT_ON_MASK` with the events. -/
def completeMaskWait (wdf : Wdf) (events : ULONG) (waitReq : WaitRequest) : Effect :=
  match retrieveBuffer wdf waitReq.id 4 waitReq.outputLength with
  | .ok () => .completed waitReq.id .success 4 (.ulong events)
  | .error st => .completed waitReq.id st 0 .none

/-- `GcomCheckWaitMask`. -/
def gcomCheckWaitMask (wdf : Wdf) (pp : PortPair) (events : ULONG) : PortPair × List Effect :=
  if !pp.active then (pp, [])
  else
    let matchedEvents := events &&& pp.signalState.waitMask
    if matchedEvents = 0 then (pp, [])
    else
      ({ pp with waitMaskQueue := [] },
        pp.waitMaskQueue.map (completeMaskWait wdf matchedEvents))

variable (wdf : Wdf) (pp : PortPair)

/-- A signal change leaves both data directions alone. -/
@[simp] theorem signal_changed_lane (changedBits : ULONG) (d : Direction) :
    (gcomSignalChanged wdf pp changedBits).1.lane d = pp.lane d := by
  unfold gcomSignalChanged
  split <;> cases d <;> rfl

/-- Comm events change nothing of the pair but the waits for them. -/
theorem check_wait_mask_pair (events : ULONG) :
    ∃ waits, (gcomCheckWaitMask wdf pp events).1 = { pp with waitMaskQueue := waits } := by
  unfold gcomCheckWaitMask
  split
  · exact ⟨pp.waitMaskQueue, rfl⟩
  · dsimp only
    split
    · exact ⟨pp.waitMaskQueue, rfl⟩
    · exact ⟨[], rfl⟩

/-- Comm events leave both data directions alone. -/
@[simp] theorem check_wait_mask_lane (events : ULONG) (d : Direction) :
    (gcomCheckWaitMask wdf pp events).1.lane d = pp.lane d := by
  obtain ⟨waits, h⟩ := check_wait_mask_pair wdf pp events
  rw [h]
  cases d <;> rfl

/-- Comm events keep the pair active. -/
@[simp] theorem check_wait_mask_active (events : ULONG) :
    (gcomCheckWaitMask wdf pp events).1.active = pp.active := by
  obtain ⟨waits, h⟩ := check_wait_mask_pair wdf pp events
  rw [h]

end GhostCom
