import GhostCom.Driver.CompIoctl
import GhostCom.Driver.FileEvents

/-!
# What callbacks do to the waits for signal changes

`SignalView` is what `GcomSignalChanged` reads and writes of a pair. For every COM-side callback
`changedBits` names, from its inputs alone, the bits it announces, and one lemma a callback says
that it changes the view by exactly that announcement, or not at all.
-/

namespace GhostCom

/-- The accumulated mask, the sequence number and the pended waits of a pair. -/
structure SignalView where
  changedMask : ULONG
  sequenceNumber : ULONG
  waits : List WaitRequest

/-- An announcement of changed bits, or a snapshot delivered to a wait. -/
inductive SignalEntry where
  | called (changedBits : ULONG)
  | delivered (changedMask : ULONG)
deriving DecidableEq, Repr

/-- The signal view of a pair. -/
def PortPair.signalView (pp : PortPair) : SignalView :=
  ⟨pp.signalState.changedMask, pp.signalState.sequenceNumber, pp.signalWaitQueue⟩

/-- The part of an effect that concerns signal changes. -/
def Effect.signalEntry : Effect → Option SignalEntry
  | .signalChanged changedBits => some (.called changedBits)
  | .completed _ .success _ (.snapshot state) => some (.delivered state.changedMask)
  | _ => none

/-- The announcements and deliveries of a trace, oldest first. -/
def signalEntries (trace : List Effect) : List SignalEntry := trace.filterMap Effect.signalEntry

@[simp] theorem signal_entries_append (trace out : List Effect) :
    signalEntries (trace ++ out) = signalEntries trace ++ signalEntries out :=
  List.filterMap_append

/-- A wait whose output buffer can be mapped. -/
def WaitRequest.Deliverable (wdf : Wdf) (waitReq : WaitRequest) : Bool :=
  match retrieveBuffer wdf waitReq.id sizeofSignalState waitReq.outputLength with
  | .ok () => true
  | .error _ => false

/-- A wait found where there is at most one wait is the only one there. -/
theorem waits_singleton {waits : List WaitRequest} {waitReq : WaitRequest}
    (hsingle : waits.length ≤ 1) (hmem : waitReq ∈ waits) : waits = [waitReq] := by
  rcases waits with _ | ⟨other, _ | ⟨_, _⟩⟩
  · cases hmem
  · rw [List.mem_singleton.mp hmem]
  · simp at hsingle

namespace SignalView

/-- The mask a snapshot carries after bits are announced. -/
def snapshotMask (view : SignalView) (changedBits : ULONG) : ULONG :=
  view.changedMask ||| changedBits

/-- The view after bits are announced, or after nothing is. -/
def change (view : SignalView) : Option ULONG → SignalView
  | none => view
  | some changedBits =>
      ⟨view.snapshotMask changedBits &&& ~~~view.snapshotMask changedBits,
        view.sequenceNumber + 1, []⟩

/-- What the waits see when bits are announced. -/
def entries (wdf : Wdf) (view : SignalView) : Option ULONG → List SignalEntry
  | none => []
  | some changedBits =>
      .called changedBits :: (view.waits.filter (·.Deliverable wdf)).map fun _ ↦
        .delivered (view.snapshotMask changedBits)

end SignalView

/-- A callback changes the signal view by announcing `changedBits`, or not at all. -/
structure Announces (wdf : Wdf) (pp : PortPair) (changedBits : Option ULONG)
    (result : PortPair × List Effect) : Prop where
  view : result.1.signalView = pp.signalView.change changedBits
  entries : signalEntries result.2 = pp.signalView.entries wdf changedBits
  active : result.1.active = pp.active

namespace Announces

variable {wdf : Wdf} {pp : PortPair} {changedBits : Option ULONG}
  {result : PortPair × List Effect}

/-- Effects that do not concern signal changes may follow. -/
theorem append (h : Announces wdf pp changedBits result) {out : List Effect}
    (hout : signalEntries out = []) :
    Announces wdf pp changedBits (result.1, result.2 ++ out) :=
  ⟨h.view, by rw [signal_entries_append, hout, List.append_nil, h.entries], h.active⟩

/-- Effects that do not concern signal changes may come first. -/
theorem prepend (h : Announces wdf pp changedBits result) {out : List Effect}
    (hout : signalEntries out = []) :
    Announces wdf pp changedBits (result.1, out ++ result.2) :=
  ⟨h.view, by rw [signal_entries_append, hout, List.nil_append, h.entries], h.active⟩

/-- Only the signal view of the pair matters, and that it is active. -/
theorem of_view {pp' : PortPair} (h : Announces wdf pp' changedBits result)
    (hview : pp'.signalView = pp.signalView) (hactive : pp'.active = pp.active) :
    Announces wdf pp changedBits result :=
  ⟨hview ▸ h.view, hview ▸ h.entries, h.active.trans hactive⟩

/-- A callback that is not seen may follow. -/
theorem then_quiet (h : Announces wdf pp changedBits result) {later : PortPair × List Effect}
    (hlater : Announces wdf result.1 none later) :
    Announces wdf pp changedBits (later.1, result.2 ++ later.2) :=
  ⟨hlater.view.trans h.view,
    by rw [signal_entries_append, hlater.entries, h.entries]; exact List.append_nil _,
    hlater.active.trans h.active⟩

/-- A change of the pair outside the view, without effects on it. -/
theorem quiet {pp' : PortPair} {out : List Effect} (hview : pp'.signalView = pp.signalView)
    (hactive : pp'.active = pp.active) (hout : signalEntries out = []) :
    Announces wdf pp none (pp', out) :=
  ⟨hview, hout, hactive⟩

end Announces

/-- A completion with an error delivers nothing. -/
theorem signal_entry_failed (id : RequestId) (st : ErrorStatus) (information : ℕ)
    (output : Output) : (Effect.completed id st information output).signalEntry = none := by
  obtain ⟨st, hst⟩ := st
  cases st with
  | success => exact absurd rfl hst
  | _ => rfl

/-- A loop turn of `GcomSignalChanged` delivers the snapshot when the buffer can be mapped. -/
theorem signal_entry_wait (wdf : Wdf) (snapshot : SignalState) (waitReq : WaitRequest) :
    (completeSignalWait wdf snapshot waitReq).signalEntry =
      if waitReq.Deliverable wdf then some (.delivered snapshot.changedMask) else none := by
  unfold completeSignalWait WaitRequest.Deliverable
  cases retrieveBuffer wdf waitReq.id sizeofSignalState waitReq.outputLength with
  | ok => rfl
  | error st => exact signal_entry_failed _ st _ _

/-- The loop of `GcomSignalChanged` delivers the snapshot to every wait that can take it. -/
theorem signal_entries_waits (wdf : Wdf) (snapshot : SignalState) (waits : List WaitRequest) :
    signalEntries (waits.map (completeSignalWait wdf snapshot)) =
      (waits.filter (·.Deliverable wdf)).map fun _ ↦ .delivered snapshot.changedMask := by
  induction waits with
  | nil => rfl
  | cons waitReq waits ih =>
      unfold signalEntries at ih ⊢
      rw [List.map_cons, List.filterMap_cons, signal_entry_wait, List.filter_cons]
      split
      · next hentry =>
          rw [ih, if_neg fun hwait ↦ ?_]
          rw [if_pos hwait] at hentry
          cases hentry
      · next entry hentry =>
          split at hentry
          · next hwait =>
              cases hentry
              rw [if_pos hwait, List.map_cons, ih]
          · cases hentry

/-- `GcomSignalChanged` announces its bits. -/
theorem signal_changed_announces (wdf : Wdf) (pp : PortPair) (changedBits : ULONG)
    (h : pp.active = true) :
    Announces wdf pp (some changedBits) (gcomSignalChanged wdf pp changedBits) := by
  unfold gcomSignalChanged
  rw [if_neg (by simp [h])]
  refine ⟨rfl, ?_, rfl⟩
  have hwaits := signal_entries_waits wdf (signalUpdate pp.signalState changedBits)
    pp.signalWaitQueue
  exact congrArg (SignalEntry.called changedBits :: ·) hwaits

/-- `GcomCheckWaitMask` is not seen by the waits for signal changes. -/
theorem check_wait_mask_announces (wdf : Wdf) (pp : PortPair) (events : ULONG) :
    Announces wdf pp none (gcomCheckWaitMask wdf pp events) := by
  unfold gcomCheckWaitMask
  split
  · exact .quiet rfl rfl rfl
  · dsimp only
    split
    · exact .quiet rfl rfl rfl
    · refine .quiet rfl rfl ?_
      simp only [signalEntries, List.filterMap_eq_nil_iff, List.mem_map]
      rintro e ⟨waitReq, _, rfl⟩
      unfold completeMaskWait
      split
      · rfl
      · exact signal_entry_failed _ _ _ _

/-! ## IOCTLs of the COM side -/

/-- The bits announced by a code whose input structure has `size` bytes. -/
def readable (wdf : Wdf) (req : IoctlRequest) (size : ℕ) (changedBits : ULONG) : Option ULONG :=
  if (retrieveBuffer wdf req.id size req.inputLength).isOk then some changedBits else none

/-- The bits that a COM-side IOCTL announces. -/
def ComIoctl.changedBits (wdf : Wdf) (req : IoctlRequest) : ComIoctl → Option ULONG
  | .setBaudRate _ => readable wdf req 4 changedBaud
  | .setLineControl _ => readable wdf req 3 changedLineCtrl
  | .setDtr | .clrDtr => some changedDtr
  | .setRts | .clrRts => some changedRts
  | .setBreakOn | .setBreakOff => some changedBreak
  | .setHandflow _ => readable wdf req 16 changedHandflow
  | .setChars _ => readable wdf req 6 changedChars
  | .setWaitMask _ => readable wdf req 4 changedWaitMask
  | .setModemControl _ => readable wdf req 4 (changedDtr ||| changedRts)
  | _ => none

section Ioctl

variable {wdf : Wdf} {pp : PortPair} {req : IoctlRequest}

@[simp] theorem signal_entries_complete (req : IoctlRequest) (st : NTSTATUS) :
    signalEntries [complete req st] = [] := by
  cases st <;> rfl

/-- Storing a signal state with the old mask and number and announcing it. -/
theorem notify_announces {state : SignalState} {changedBits : ULONG} (h : pp.active = true)
    (hmask : state.changedMask = pp.signalState.changedMask)
    (hnumber : state.sequenceNumber = pp.signalState.sequenceNumber) :
    Announces wdf pp (some changedBits) (notify wdf pp state changedBits) := by
  have hview : ({ pp with signalState := state } : PortPair).signalView = pp.signalView := by
    simp [PortPair.signalView, hmask, hnumber]
  exact (signal_changed_announces wdf { pp with signalState := state } changedBits h).of_view
    hview rfl

/-- A code without input announces its bits. -/
theorem notify_request_announces {state : SignalState} {changedBits : ULONG}
    (h : pp.active = true) (hmask : state.changedMask = pp.signalState.changedMask)
    (hnumber : state.sequenceNumber = pp.signalState.sequenceNumber) :
    Announces wdf pp (some changedBits) (notifyRequest wdf pp req state changedBits) :=
  (notify_announces h hmask hnumber).append (signal_entries_complete _ _)

/-- A code with an input structure announces what its body does, if the input can be read. -/
theorem set_request_announces {size : ℕ} {changedBits : ULONG} {body : PortPair × List Effect}
    (h : Announces wdf pp (some changedBits) body) :
    Announces wdf pp (readable wdf req size changedBits) (setRequest wdf pp req size body) := by
  unfold setRequest readable
  cases retrieveBuffer wdf req.id size req.inputLength with
  | ok => exact h.append (signal_entries_complete _ _)
  | error st => exact .quiet rfl rfl (signal_entries_complete _ _)

/-- A code with an input structure and a quiet body announces nothing. -/
theorem set_request_quiet {size : ℕ} {body : PortPair × List Effect}
    (h : Announces wdf pp none body) :
    Announces wdf pp none (setRequest wdf pp req size body) := by
  unfold setRequest
  split
  · exact h.append (signal_entries_complete _ _)
  · exact .quiet rfl rfl (signal_entries_complete _ _)

/-- A query announces nothing. -/
theorem get_request_quiet {size : ℕ} {output : Output} (h : ∀ state, output ≠ .snapshot state) :
    Announces wdf pp none (getRequest wdf pp req size output) := by
  unfold getRequest
  split
  · refine .quiet rfl rfl ?_
    cases output with
    | snapshot state => exact absurd rfl (h state)
    | _ => rfl
  · exact .quiet rfl rfl (signal_entries_complete _ _)

/-- What happens on a lane is not seen by the waits for signal changes. -/
@[simp] theorem signal_entries_lane_effects (d : Direction) (out : List LaneEffect) :
    signalEntries (laneEffects d out) = [] := by
  simp [signalEntries, laneEffects, Effect.signalEntry]

@[simp] theorem withLane_signalView (pp : PortPair) (d : Direction) (lane : Lane) :
    (pp.withLane d lane).signalView = pp.signalView := by
  cases d <;> rfl

/-- `SET_BREAK_ON` announces the break, then raises the comm event. -/
theorem set_break_on_announces (h : pp.active = true) :
    Announces wdf pp (some changedBreak) (setBreakOn wdf pp req) := by
  have hnotify : Announces wdf pp (some changedBreak)
      (notify wdf pp { pp.signalState with breakState := 1 } changedBreak) :=
    notify_announces h rfl rfl
  exact (hnotify.then_quiet (check_wait_mask_announces _ _ _)).append
    (signal_entries_complete _ _)

/-- `SET_WAIT_MASK` announces the new mask after the waits under the old one are cancelled. -/
theorem set_wait_mask_announces (mask : ULONG) (h : pp.active = true) :
    Announces wdf pp (some changedWaitMask) (setWaitMask wdf pp mask) := by
  have hnotify : Announces wdf { pp with waitMaskQueue := [] } (some changedWaitMask)
      (notify wdf { pp with waitMaskQueue := [] } { pp.signalState with waitMask := mask }
        changedWaitMask) :=
    notify_announces h rfl rfl
  have hcancelled : signalEntries (pp.waitMaskQueue.map fun req ↦
      Effect.completed req.id .cancelled 0 .none) = [] := by
    simp [signalEntries, Effect.signalEntry]
  exact (hnotify.prepend hcancelled).of_view rfl rfl

/-- `WAIT_ON_MASK` is not seen by the waits for signal changes. -/
theorem wait_on_mask_quiet : Announces wdf pp none (waitOnMask wdf pp req) := by
  unfold waitOnMask
  split
  · exact .quiet rfl rfl rfl
  · exact .quiet rfl rfl (signal_entries_complete _ _)

theorem purge_queue_quiet (d : Direction) : Announces wdf pp none (purgeQueue pp d) := by
  cases d <;> exact .quiet (by simp) (by simp) (by simp)

theorem flush_rings_view (pp : PortPair) (tx rx : Bool) :
    (flushRings pp tx rx).signalView = pp.signalView ∧
      (flushRings pp tx rx).active = pp.active := by
  cases tx <;> cases rx <;> exact ⟨rfl, rfl⟩

/-- `PURGE` is not seen by the waits for signal changes. -/
theorem purge_quiet (flags : ULONG) : Announces wdf pp none (purge pp flags) := by
  have habort (pp : PortPair) (d : Direction) (flag : Bool) :
      Announces wdf pp none (if flag then purgeQueue pp d else (pp, [])) := by
    cases flag with
    | false => exact .quiet rfl rfl rfl
    | true => exact purge_queue_quiet d
  have haborts := (habort pp .comToCompanion (isTrue (flags &&& serialPurgeTxAbort))).then_quiet
    (habort _ .companionToCom (isTrue (flags &&& serialPurgeRxAbort)))
  obtain ⟨hview, hactive⟩ := flush_rings_view _ (isTrue (flags &&& serialPurgeTxClear))
    (isTrue (flags &&& serialPurgeRxClear))
  exact ⟨hview.trans haborts.view, haborts.entries, hactive.trans haborts.active⟩

/-- `IMMEDIATE_CHAR` is not seen by the waits for signal changes. -/
theorem immediate_char_quiet (ch : UCHAR) :
    Announces wdf pp none (immediateChar wdf pp req ch) :=
  .quiet rfl rfl (signal_entries_lane_effects _ _)

/-- Every COM-side IOCTL announces its bits and nothing else. -/
theorem com_ioctl_announces (ioctl : ComIoctl) (h : pp.active = true) :
    Announces wdf pp (ioctl.changedBits wdf req) (gcomComEvtIoctl wdf pp req ioctl) := by
  unfold gcomComEvtIoctl
  rw [if_neg (by simp [h])]
  cases ioctl with
  | setBaudRate | setLineControl | setHandflow | setChars | setModemControl =>
      exact set_request_announces (notify_announces h rfl rfl)
  | setDtr | clrDtr | setRts | clrRts | setBreakOff =>
      exact notify_request_announces h rfl rfl
  | getBaudRate | getLineControl | getTimeouts | getHandflow | getChars | getWaitMask
  | getModemStatus | getCommStatus | getProperties | getDtrRts | getStats | configSize
  | getModemControl => exact get_request_quiet nofun
  | setQueueSize | noOp | unknown | clearStats =>
      exact .quiet rfl rfl (signal_entries_complete _ _)
  | setTimeouts => exact set_request_quiet (.quiet rfl rfl rfl)
  | setBreakOn => exact set_break_on_announces h
  | setWaitMask mask => exact set_request_announces (set_wait_mask_announces mask h)
  | waitOnMask => exact wait_on_mask_quiet
  | purge flags => exact set_request_quiet (purge_quiet flags)
  | immediateChar ch => exact set_request_quiet (immediate_char_quiet ch)

end Ioctl

/-! ## Opening and closing the COM side -/

/-- The bits that a COM-side file create announces. -/
def PortPair.openBits (pp : PortPair) : Option ULONG :=
  if pp.comSideOpen ≠ 0 then none else some changedComOpen

/-- An accepted open announces `GCOM_CHANGED_COM_OPEN`, a rejected one nothing. -/
theorem com_file_create_announces (wdf : Wdf) (pp : PortPair) (id : RequestId)
    (h : pp.active = true) :
    Announces wdf pp pp.openBits
      ((gcomComEvtFileCreate wdf pp id).pp, (gcomComEvtFileCreate wdf pp id).effects) := by
  have hactive : (!pp.active) = false := by rw [h]; rfl
  unfold gcomComEvtFileCreate PortPair.openBits
  rw [hactive, if_neg Bool.false_ne_true]
  split
  · exact .quiet (by rfl) (by rfl) (by rfl)
  · have hchanged := signal_changed_announces wdf
      (gcomPortPairAddRef { pp with comSideOpen := 1 }) changedComOpen h
    exact (hchanged.append (by rfl)).of_view (by rfl) (by rfl)

/-- A close announces `GCOM_CHANGED_COM_CLOSE`. -/
theorem com_file_close_announces (wdf : Wdf) (pp : PortPair) (h : pp.active = true) :
    Announces wdf pp (some changedComClose)
      ((gcomComEvtFileClose wdf pp).pp, (gcomComEvtFileClose wdf pp).effects) := by
  have hchanged : Announces wdf pp (some changedComClose)
      (gcomSignalChanged wdf { pp with comSideOpen := 0 } changedComClose) :=
    (signal_changed_announces wdf { pp with comSideOpen := 0 } changedComClose h).of_view rfl rfl
  unfold gcomComEvtFileClose
  dsimp only
  rw [if_pos h]
  exact ⟨hchanged.view, hchanged.entries, hchanged.active⟩

end GhostCom
