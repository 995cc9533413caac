import GhostCom.DataPath.CommEvents
import GhostCom.Library.Transition

/-!
# WaitCommEvent

What happens to the comm events that an application has enabled with `IOCTL_SERIAL_SET_WAIT_MASK`.
`GcomCheckWaitMask` hands an event to the waits that are pended at that moment; the driver has no
memory of events, so one that occurs between two waits is lost. `no_event_lost_iff` gives the exact
condition: a wait is pended whenever an enabled event occurs. A run is any sequence of callbacks of
a pair, with a record of the enabled events that occurred since the mask was set while no wait was
pended.
-/

namespace GhostCom

open Transition (EveryStep)

namespace PairEvent

/-- The comm events of a change of the companion's lines. -/
def lineEvents (pp : PortPair) (dtrState rtsState : ULONG) : ULONG :=
  flagBits
    [(isTrue rtsState != pp.compRts, serialEvCts),
      (isTrue dtrState != pp.compDtr, serialEvDsr ||| serialEvRlsd)]

/-- The comm events that occur in a callback of an active pair. -/
def raised (id : RequestId) (pp : PortPair) : PairEvent → ULONG
  | .data (.comWrite bytes fits wdf) =>
      let (lane, bytesWritten, _) := (pp.lane .comToCompanion).evtWrite wdf ⟨id, bytes, fits⟩
      if bytesWritten > 0 && lane.ring.isEmpty then serialEvTxEmpty else 0
  | .data (.compWrite bytes fits wdf) =>
      if ((pp.lane .companionToCom).evtWrite wdf ⟨id, bytes, fits⟩).2.1 > 0 then serialEvRxChar
      else 0
  | .comIoctl _ _ .setBreakOn _ => serialEvBreak
  | .compIoctl inputLength _ (.setSignals dtrState rtsState) wdf =>
      match retrieveBuffer wdf id 8 inputLength with
      | .ok () => lineEvents pp dtrState rtsState
      | .error _ => 0
  | _ => 0

/-- The enabled events that occur in a callback. -/
def occurring (id : RequestId) (pp : PortPair) (e : PairEvent) : ULONG :=
  if pp.active then e.raised id pp &&& pp.signalState.waitMask else 0

/-- The outcomes of the WDF calls of an event. -/
def wdf : PairEvent → Wdf
  | .data e => e.wdf
  | .comIoctl _ _ _ wdf | .compIoctl _ _ _ wdf | .comOpen wdf | .comClose wdf => wdf
  | _ => .ok

/-- The callback sets the mask, or issues a wait: what was missed so far is settled. -/
def settlesMissed (id : RequestId) : PairEvent → Bool
  | .comIoctl inputLength _ (.setWaitMask _) wdf => (retrieveBuffer wdf id 4 inputLength).isOk
  | .comIoctl _ _ .waitOnMask _ => true
  | _ => false

end PairEvent

/-- A pair with the enabled events that have occurred since the mask was set while no wait was
pended, and that no wait has been issued for. -/
structure MaskRun where
  path : DataPath
  missed : ULONG

namespace MaskRun

/-- A new pair. -/
def start (portNumber : ULONG) : MaskRun := ⟨.initial portNumber, 0⟩

/-- The enabled events that occur in a callback. -/
def occurring (s : MaskRun) (e : PairEvent) : ULONG := e.occurring s.path.nextRequest s.path.pair

/-- One callback. -/
def next (s : MaskRun) (e : PairEvent) : Option MaskRun :=
  some {
    path := s.path.pairStep e
    missed :=
      if e.settlesMissed s.path.nextRequest then 0
      else if s.path.pair.waitMaskQueue = [] then s.missed ||| s.occurring e
      else s.missed }

/-- A wait issued now is completed at once and reports what has been missed, if anything has. -/
def Ready (s : MaskRun) : Prop :=
  s.path.pair.active = true → s.missed ≠ 0 → ∀ outputLength wdf,
    retrieveBuffer wdf s.path.nextRequest 4 outputLength = .ok () →
      ∃ events, s.missed &&& events = s.missed ∧
        .completed s.path.nextRequest .success 4 (.ulong events) ∈
          (PairEvent.call s.path.nextRequest s.path.pair
            (.comIoctl 0 outputLength .waitOnMask wdf)).2

/-- The enabled events that occur in a step are reported by the waits pended for them, and those
that occur while none is pended will be reported by the next one. -/
structure NoneLost (s : MaskRun) (e : PairEvent) (t : MaskRun) : Prop where
  pended : s.occurring e ≠ 0 → ∀ w ∈ s.path.pair.waitMaskQueue,
    completeMaskWait e.wdf (s.occurring e) w ∈ (e.call s.path.nextRequest s.path.pair).2
  ready : t.Ready

/-- A wait is pended if an enabled event occurs. -/
def Attended (s : MaskRun) (e : PairEvent) : Prop :=
  s.occurring e ≠ 0 → s.path.pair.waitMaskQueue ≠ []

end MaskRun

/-! ## Events and the callbacks -/

section Callbacks

variable {pp : PortPair} {id : RequestId} {e : PairEvent}

/-- Callbacks do not activate a pair. -/
theorem call_inactive (h : pp.active = false) : (e.call id pp).1.active = false := by
  obtain ⟨portNumber, companionIndex, active⟩ := pp
  cases show active = false from h
  cases e with
  | data e => cases e <;> rfl
  | _ => rfl

/-- An enabled event occurs only in the callback of an active pair, and is one that is raised
there. -/
theorem PairEvent.active_of_occurring (h : e.occurring id pp ≠ 0) :
    pp.active = true ∧ e.occurring id pp = e.raised id pp &&& pp.signalState.waitMask := by
  unfold occurring at h ⊢
  by_cases hactive : pp.active = true
  · exact ⟨hactive, if_pos hactive⟩
  · rw [if_neg hactive] at h
    exact absurd rfl h

/-- A signal change leaves the waits on the mask and the mask of the stored state alone. -/
theorem notify_waits (wdf : Wdf) (pp : PortPair) (state : SignalState) (changedBits : ULONG) :
    (notify wdf pp state changedBits).1.active = pp.active ∧
      (notify wdf pp state changedBits).1.waitMaskQueue = pp.waitMaskQueue ∧
        (notify wdf pp state changedBits).1.signalState.waitMask = state.waitMask := by
  unfold notify gcomSignalChanged
  split <;> exact ⟨rfl, rfl, rfl⟩

theorem comp_write_active (wdf : Wdf) (pp : PortPair) (req : WriteRequest) :
    (gcomCompEvtWrite wdf pp req).1.active = pp.active := by
  unfold gcomCompEvtWrite
  split
  · rfl
  · dsimp only
    split <;> simp

/-- A COM write that leaves the ring empty reports `EV_TXEMPTY` to everyone who waits for it. -/
theorem PairEvent.com_write_reports {bytes : List UCHAR} {fits : bytes.length < 2 ^ 32} {wdf : Wdf}
    (hactive : pp.active = true)
    (h : raised id pp (.data (.comWrite bytes fits wdf)) &&& pp.signalState.waitMask ≠ 0)
    {w : WaitRequest} (hw : w ∈ pp.waitMaskQueue) :
    completeMaskWait wdf
      (raised id pp (.data (.comWrite bytes fits wdf)) &&& pp.signalState.waitMask) w ∈
        (gcomComEvtWrite wdf pp ⟨id, bytes, fits⟩).2 := by
  unfold gcomComEvtWrite
  rw [if_neg (by simp [hactive])]
  simp only [raised] at h ⊢
  split at h
  · next hraised =>
      rw [if_pos hraised, if_pos hraised]
      refine List.mem_append_right _ (check_wait_mask_completes wdf ?_ ?_ ?_ h hw)
      · exact hactive
      · rfl
      · rfl
  · exact absurd BitVec.zero_and h

/-- A companion write that puts bytes into the ring reports `EV_RXCHAR` to everyone who waits for
it. -/
theorem PairEvent.comp_write_reports {bytes : List UCHAR} {fits : bytes.length < 2 ^ 32} {wdf : Wdf}
    (hactive : pp.active = true)
    (h : raised id pp (.data (.compWrite bytes fits wdf)) &&& pp.signalState.waitMask ≠ 0)
    {w : WaitRequest} (hw : w ∈ pp.waitMaskQueue) :
    completeMaskWait wdf
      (raised id pp (.data (.compWrite bytes fits wdf)) &&& pp.signalState.waitMask) w ∈
        (gcomCompEvtWrite wdf pp ⟨id, bytes, fits⟩).2 := by
  unfold gcomCompEvtWrite
  rw [if_neg (by simp [hactive])]
  simp only [raised] at h ⊢
  split at h
  · next hraised =>
      rw [if_pos hraised, if_pos hraised]
      refine List.mem_append_right _ (check_wait_mask_completes wdf ?_ ?_ ?_ h hw)
      · exact hactive
      · rfl
      · rfl
  · exact absurd BitVec.zero_and h

/-- `SET_BREAK_ON` reports `EV_BREAK` to everyone who waits for it. -/
theorem PairEvent.set_break_on_reports {inputLength outputLength : ℕ} {wdf : Wdf}
    (hactive : pp.active = true) (h : serialEvBreak &&& pp.signalState.waitMask ≠ 0) :
    let result := gcomComEvtIoctl wdf pp ⟨id, inputLength, outputLength⟩ .setBreakOn
    result.1.active = true ∧ ∀ w ∈ pp.waitMaskQueue,
      completeMaskWait wdf (serialEvBreak &&& pp.signalState.waitMask) w ∈ result.2 := by
  -- the signal change that comes first touches neither the mask nor the waits on it
  obtain ⟨hkept, hqueue, hmask⟩ :=
    notify_waits wdf pp { pp.signalState with breakState := 1 } changedBreak
  have hcall : gcomComEvtIoctl wdf pp ⟨id, inputLength, outputLength⟩ .setBreakOn =
      setBreakOn wdf pp ⟨id, inputLength, outputLength⟩ := by
    unfold gcomComEvtIoctl
    rw [if_neg (by simp [hactive])]
  rw [hcall]
  constructor
  · exact (check_wait_mask_active ..).trans (hkept.trans hactive)
  · intro w hw
    refine List.mem_append_left _ (List.mem_append_right _ ?_)
    exact check_wait_mask_completes wdf (hkept.trans hactive) hqueue hmask h hw

/-- `SET_SIGNALS` reports the lines that it changes to everyone who waits for them. -/
theorem PairEvent.set_signals_reports {inputLength outputLength : ℕ} {dtrState rtsState : ULONG}
    {wdf : Wdf} (hactive : pp.active = true) (hbuf : retrieveBuffer wdf id 8 inputLength = .ok ())
    (h : lineEvents pp dtrState rtsState &&& pp.signalState.waitMask ≠ 0) :
    let result := gcomCompEvtIoctl wdf pp ⟨id, inputLength, outputLength⟩
      (.setSignals dtrState rtsState)
    result.1.active = true ∧ ∀ w ∈ pp.waitMaskQueue,
      completeMaskWait wdf (lineEvents pp dtrState rtsState &&& pp.signalState.waitMask) w ∈
        result.2 := by
  have hlines : lineEvents pp dtrState rtsState ≠ 0 := by
    intro hnone
    rw [hnone] at h
    exact h BitVec.zero_and
  have hcall : gcomCompEvtIoctl wdf pp ⟨id, inputLength, outputLength⟩
      (.setSignals dtrState rtsState) =
        setRequest wdf pp ⟨id, inputLength, outputLength⟩ 8
          (gcomCheckWaitMask wdf
            { pp with compDtr := isTrue dtrState, compRts := isTrue rtsState }
            (lineEvents pp dtrState rtsState)) := by
    unfold gcomCompEvtIoctl
    rw [if_neg (by simp [hactive])]
    exact congrArg (setRequest wdf pp ⟨id, inputLength, outputLength⟩ 8) (if_pos hlines)
  rw [hcall, setRequest, hbuf]
  constructor
  · exact (check_wait_mask_active ..).trans hactive
  · intro w hw
    refine List.mem_append_left _ (check_wait_mask_completes wdf ?_ ?_ ?_ h hw)
    · exact hactive
    · rfl
    · rfl

/-- What a callback in which an enabled event occurs does with it: everyone who waits is told, and
the pair stays active. -/
theorem PairEvent.occurring_reported (h : e.occurring id pp ≠ 0) :
    (e.call id pp).1.active = true ∧ e.settlesMissed id = false ∧ ∀ w ∈ pp.waitMaskQueue,
      completeMaskWait e.wdf (e.occurring id pp) w ∈ (e.call id pp).2 := by
  obtain ⟨hactive, heq⟩ := active_of_occurring h
  rw [heq] at h ⊢
  -- all callbacks but these four raise nothing, and no mask enables that
  have hzero : ¬(0 &&& pp.signalState.waitMask ≠ 0) := fun hne ↦ hne BitVec.zero_and
  cases e with
  | data e =>
      cases e with
      | comWrite bytes fits wdf =>
          refine ⟨(com_write_active ..).trans hactive, rfl, fun w hw ↦ ?_⟩
          exact com_write_reports hactive h hw
      | compWrite bytes fits wdf =>
          refine ⟨(comp_write_active ..).trans hactive, rfl, fun w hw ↦ ?_⟩
          exact comp_write_reports hactive h hw
      | _ => exact absurd h hzero
  | comIoctl inputLength outputLength ioctl wdf =>
      cases ioctl with
      | setBreakOn =>
          obtain ⟨hkept, hreports⟩ := set_break_on_reports hactive h
          exact ⟨hkept, rfl, hreports⟩
      | _ => exact absurd h hzero
  | compIoctl inputLength outputLength ioctl wdf =>
      cases ioctl with
      | setSignals dtrState rtsState =>
          simp only [raised] at h ⊢
          split at h
          · next hbuf =>
              obtain ⟨hkept, hreports⟩ := set_signals_reports hactive hbuf h
              exact ⟨hkept, rfl, hreports⟩
          · exact absurd h hzero
      | _ => exact absurd h hzero
  | _ => exact absurd h hzero

end Callbacks

/-! ## Runs -/

namespace MaskRun

/-- A wait that WDF takes is pended, whatever has been missed. -/
theorem ready_iff {s : MaskRun} : s.Ready ↔ (s.path.pair.active = true → s.missed = 0) := by
  constructor
  · intro h hactive
    by_contra hmissed
    obtain ⟨events, -, hmem⟩ := h hactive hmissed 4 .ok rfl
    have hpended : (PairEvent.call s.path.nextRequest s.path.pair
        (.comIoctl 0 4 .waitOnMask .ok)).2 = [] := by
      show (gcomComEvtIoctl .ok s.path.pair ⟨s.path.nextRequest, 0, 4⟩ .waitOnMask).2 = []
      unfold gcomComEvtIoctl
      rw [if_neg (by simp [hactive])]
      rfl
    rw [hpended] at hmem
    exact List.not_mem_nil hmem
  · intro h hactive hmissed
    exact absurd (h hactive) hmissed

/-- A step in which no enabled event occurs loses none. -/
theorem next_missed_zero {s t : MaskRun} {e : PairEvent} (ht : next s e = some t)
    (hmissed : s.missed = 0) (h : s.Attended e) : t.missed = 0 := by
  cases ht
  show (if _ then _ else if _ then _ else _) = (0 : ULONG)
  split
  · rfl
  · split
    · next hqueue =>
        have hnone : s.occurring e = 0 := by
          by_contra hne
          exact h hne hqueue
        rw [hmissed, hnone]
        rfl
    · exact hmissed

/-- Where nothing has been missed so far, a step loses no event exactly when a wait is pended for
the enabled events that occur in it. -/
theorem none_lost_iff {s t : MaskRun} {e : PairEvent}
    (hs : s.path.pair.active = true → s.missed = 0) (ht : next s e = some t) :
    NoneLost s e t ↔ s.Attended e := by
  constructor
  · intro h hoccurs hqueue
    obtain ⟨hactive, hsettles, -⟩ := PairEvent.occurring_reported hoccurs
    cases ht
    have hmissed := ready_iff.mp h.ready hactive
    simp only [hsettles, hqueue, if_true, Bool.false_eq_true, if_false] at hmissed
    rw [hs (PairEvent.active_of_occurring hoccurs).1] at hmissed
    exact hoccurs ((BitVec.zero_or ..).symm.trans hmissed)
  · intro h
    have htold : s.occurring e ≠ 0 → ∀ w ∈ s.path.pair.waitMaskQueue,
        completeMaskWait e.wdf (s.occurring e) w ∈ (e.call s.path.nextRequest s.path.pair).2 :=
      fun hoccurs ↦ (PairEvent.occurring_reported hoccurs).2.2
    refine ⟨htold, ready_iff.mpr fun hactive ↦ ?_⟩
    by_cases hbefore : s.path.pair.active = true
    · exact next_missed_zero ht (hs hbefore) h
    · cases ht
      have hafter : (e.call s.path.nextRequest s.path.pair).1.active = false :=
        call_inactive (Bool.eq_false_iff.mpr hbefore)
      exact absurd hactive (Bool.eq_false_iff.mp hafter)

/-- In a run of the callbacks of a pair no comm event is lost, neither by the waits that are pended
for it nor between two waits, exactly when a wait is pended whenever an enabled event occurs. -/
theorem no_event_lost_iff (portNumber : ULONG) (events : List PairEvent) :
    EveryStep next NoneLost (start portNumber) events ↔
      EveryStep next (fun s e _ ↦ s.Attended e) (start portNumber) events := by
  refine Transition.everyStep_iff (I := fun s ↦ s.path.pair.active = true → s.missed = 0)
    ?_ ?_ ?_
  · intro s e t _ _ h
    exact ready_iff.mp h.ready
  · intro s e t hs ht
    exact none_lost_iff hs ht
  · intro _
    rfl

/-- A byte arrives at the COM side, under a mask for it, and then the wait for it is issued. -/
def waitTooLate : List PairEvent :=
  [.comIoctl 4 0 (.setWaitMask serialEvRxChar) .ok, .data (.compWrite [7] seven_fits .ok),
    .comIoctl 0 4 .waitOnMask .ok]

/-- The wait stays pended. -/
theorem wait_misses_byte :
    ¬∀ (portNumber : ULONG) (events : List PairEvent),
      EveryStep next NoneLost (start portNumber) events := by
  intro h
  obtain ⟨-, hrest⟩ := h 10 waitTooLate _ rfl
  obtain ⟨hlost, -⟩ := hrest _ rfl
  refine (none_lost_iff (fun _ ↦ rfl) rfl).mp hlost ?_ rfl
  have hempty : (Lane.mk .initial [] []).ring.contents.length < Ring.initial.capacity := by decide
  have hbyte : ((Lane.mk .initial [] []).evtWrite .ok ⟨1, [7], by decide⟩).2.1 > 0 := by
    have hwritten : (Ring.initial.write ⟨1, [7], by decide⟩).2 > 0 :=
      (Ring.initial.write_pos_iff (by decide)).mpr hempty
    simp only [Lane.evtWrite, retrieve_ok (show 1 ≤ [(7 : UCHAR)].length by decide),
      if_pos hwritten]
    exact hwritten
  show (if ((Lane.mk .initial [] []).evtWrite .ok ⟨1, [7], by decide⟩).2.1 > 0 then serialEvRxChar
    else 0) &&& serialEvRxChar ≠ 0
  rw [if_pos hbyte]
  decide

end MaskRun

end GhostCom
