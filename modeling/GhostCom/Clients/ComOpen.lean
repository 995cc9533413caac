import GhostCom.Clients.PortSignals
import GhostCom.Driver.Control

/-!
# Is the COM side open?

`isComOpen` of a `VirtualPort` is the DTR line of the state it has received last: the companion's
own line after the constructor, and the COM side's line after a notification. `com_open_shown_iff`
is the exact condition under which that line is asserted when the COM side is open, and only then.
-/

namespace GhostCom

open Transition (EveryStep)

/-! ## The line that snapshots carry -/

/-- The DTR line in the snapshots of an IOCTL. -/
def ComIoctl.dtrState (state : SignalState) : ComIoctl → ULONG
  | .setDtr => 1
  | .clrDtr => 0
  | .setModemControl mcr => boolean (isTrue (mcr &&& serialMcrDtr))
  | _ => state.dtrState

namespace SignalEvent

/-- The DTR line in the snapshots of an event. -/
def dtrState (s : SignalRun) : SignalEvent → ULONG
  | .comIoctl _ _ ioctl _ => ioctl.dtrState s.pair.signalState
  | _ => s.pair.signalState.dtrState

/-- `ComSideOpen` after an event. -/
def comSideOpen (s : SignalRun) : SignalEvent → LONG
  | .comOpen _ => if s.pair.comSideOpen ≠ 0 then s.pair.comSideOpen else 1
  | .comClose _ => 0
  | _ => s.pair.comSideOpen

/-- The event announces a change, and a wait is pended that can be completed with it. -/
def Informs (s : SignalRun) (e : SignalEvent) : Prop :=
  e.changedBits s ≠ none ∧ ∃ waitReq ∈ s.pair.signalWaitQueue, waitReq.Deliverable e.wdf = true

end SignalEvent

@[simp] theorem snapshots_append (out out' : List Effect) :
    snapshots (out ++ out') = snapshots out ++ snapshots out' :=
  List.filterMap_append

/-- A snapshot is what makes a delivery. -/
theorem signal_entry_delivered (effect : Effect) (mask : ULONG) :
    effect.signalEntry = some (.delivered mask) ↔
      ∃ state, effect.snapshot = some state ∧ state.changedMask = mask := by
  cases effect with
  | completed id st information output =>
      cases st <;> cases output <;> simp [Effect.signalEntry, Effect.snapshot]
  | _ => simp [Effect.signalEntry, Effect.snapshot]

/-- Snapshots are handed over exactly when there are deliveries. -/
theorem snapshots_eq_nil_iff (out : List Effect) :
    snapshots out = [] ↔ ∀ mask, .delivered mask ∉ signalEntries out := by
  simp only [snapshots, signalEntries, List.filterMap_eq_nil_iff, List.mem_filterMap,
    signal_entry_delivered]
  constructor
  · rintro h mask ⟨effect, hmem, state, hstate, -⟩
    rw [h effect hmem] at hstate
    cases hstate
  · intro h effect hmem
    refine Option.eq_none_iff_forall_ne_some.mpr fun state hstate ↦ ?_
    exact h state.changedMask ⟨effect, hmem, state, hstate, rfl⟩

/-- All snapshots carry the line. -/
def Carries (line : ULONG) (out : List Effect) : Prop :=
  ∀ snapshot ∈ snapshots out, snapshot.dtrState = line

section Carries

variable {wdf : Wdf} {pp : PortPair} {req : IoctlRequest} {line : ULONG}

/-- Without a delivery there is no snapshot. -/
theorem carries_of_quiet {out : List Effect} (h : signalEntries out = []) : Carries line out := by
  intro snapshot hmem
  rw [(snapshots_eq_nil_iff out).mpr (by rw [h]; exact fun _ ↦ List.not_mem_nil)] at hmem
  cases hmem

/-- Effects one after the other. -/
theorem Carries.append {out out' : List Effect} (h : Carries line out) (h' : Carries line out') :
    Carries line (out ++ out') := by
  intro snapshot hmem
  rw [snapshots_append] at hmem
  exact (List.mem_append.mp hmem).elim (h snapshot) (h' snapshot)

/-- A completion may follow. -/
theorem Carries.complete {out : List Effect} (h : Carries line out) (req : IoctlRequest)
    (st : NTSTATUS) : Carries line (out ++ [complete req st]) :=
  h.append (carries_of_quiet (signal_entries_complete req st))

/-- `GcomSignalChanged` hands over the snapshot of its first locked section. -/
theorem signal_changed_carries (wdf : Wdf) (pp : PortPair) (changedBits : ULONG) :
    Carries pp.signalState.dtrState (gcomSignalChanged wdf pp changedBits).2 := by
  unfold gcomSignalChanged
  split
  · exact carries_of_quiet rfl
  intro snapshot h
  obtain ⟨effect, hmem, hsnapshot⟩ := List.mem_filterMap.mp h
  rcases List.mem_cons.mp hmem with rfl | hmem
  · cases hsnapshot
  · obtain ⟨waitReq, -, rfl⟩ := List.mem_map.mp hmem
    unfold completeSignalWait at hsnapshot
    split at hsnapshot
    · cases hsnapshot
      rfl
    · next st _ =>
        obtain ⟨st, hst⟩ := st
        cases st <;> cases hsnapshot

/-- A change is handed over with the line that is stored. -/
theorem notify_carries (state : SignalState) (changedBits : ULONG) :
    Carries state.dtrState (notify wdf pp state changedBits).2 :=
  signal_changed_carries wdf { pp with signalState := state } changedBits

/-- A code with an input structure hands over what its body does. -/
theorem set_request_carries {size : ℕ} {body : PortPair × List Effect} (h : Carries line body.2) :
    Carries line (setRequest wdf pp req size body).2 := by
  unfold setRequest
  split
  · exact h.complete _ _
  · exact carries_of_quiet (signal_entries_complete _ _)

/-- The line in the snapshots of a COM-side IOCTL. -/
theorem com_ioctl_carries (ioctl : ComIoctl) (hactive : pp.active = true) :
    Carries (ioctl.dtrState pp.signalState) (gcomComEvtIoctl wdf pp req ioctl).2 := by
  have hannounces : Announces wdf pp (ioctl.changedBits wdf req)
      (gcomComEvtIoctl wdf pp req ioctl) := com_ioctl_announces ioctl hactive
  by_cases hbits : ioctl.changedBits wdf req = none
  · rw [hbits] at hannounces
    exact carries_of_quiet hannounces.entries
  unfold gcomComEvtIoctl
  rw [if_neg (by simp [hactive])]
  cases ioctl with
  | setBaudRate | setLineControl | setHandflow | setChars | setModemControl =>
      exact set_request_carries (notify_carries _ _)
  | setDtr | clrDtr | setRts | clrRts | setBreakOff => exact (notify_carries _ _).complete _ _
  | setBreakOn =>
      have hevents (pp : PortPair) :
          signalEntries (gcomCheckWaitMask wdf pp serialEvBreak).2 = [] :=
        (check_wait_mask_announces wdf pp serialEvBreak).entries
      exact ((notify_carries _ _).append (carries_of_quiet (hevents _))).complete _ _
  | setWaitMask mask =>
      have hcancelled : signalEntries (pp.waitMaskQueue.map fun req ↦
          Effect.completed req.id .cancelled 0 .none) = [] := by
        simp [signalEntries, Effect.signalEntry]
      exact set_request_carries ((carries_of_quiet hcancelled).append (notify_carries _ _))
  | _ => exact absurd rfl hbits

end Carries

namespace SignalEvent

variable {s : SignalRun} {e : SignalEvent}

/-- The line in the snapshots of an event. -/
theorem call_carries (e : SignalEvent) (hactive : s.pair.active = true) :
    Carries (e.dtrState s) (e.call s).2 := by
  cases e with
  | comIoctl inputLength outputLength ioctl wdf => exact com_ioctl_carries ioctl hactive
  | wait wdf => exact carries_of_quiet (SignalRun.wait_call s wdf hactive).1
  | comClose wdf =>
      show Carries _ (gcomComEvtFileClose wdf s.pair).effects
      unfold gcomComEvtFileClose
      dsimp only
      rw [if_pos hactive]
      exact signal_changed_carries wdf { s.pair with comSideOpen := 0 } changedComClose
  | comOpen wdf =>
      show Carries _ (gcomComEvtFileCreate wdf s.pair s.nextRequest).effects
      unfold gcomComEvtFileCreate
      rw [if_neg (by simp [hactive])]
      split
      · exact carries_of_quiet rfl
      · exact (signal_changed_carries wdf (gcomPortPairAddRef { s.pair with comSideOpen := 1 })
          changedComOpen).append (carries_of_quiet rfl)

/-- `ComSideOpen` after an event. -/
theorem call_com_side_open (e : SignalEvent) (hactive : s.pair.active = true) :
    (e.call s).1.comSideOpen = e.comSideOpen s := by
  cases e with
  | comIoctl inputLength outputLength ioctl wdf =>
      exact congrArg PairControl.comSideOpen (com_evt_ioctl_control ..)
  | comClose wdf => exact congrArg PairControl.comSideOpen (com_file_close_control wdf s.pair).1
  | wait wdf =>
      show (gcomCompEvtIoctl wdf s.pair _ .waitSignalChange).1.comSideOpen = _
      unfold gcomCompEvtIoctl waitSignalChange
      split
      · rfl
      · dsimp only
        split <;> rfl
  | comOpen wdf =>
      show (gcomComEvtFileCreate wdf s.pair s.nextRequest).pp.comSideOpen = _
      rcases com_file_create_cases wdf s.pair s.nextRequest with
        ⟨effects, hrefused, hcreate⟩ | ⟨pp, effects, -, hclosed, hcontrol, hcreate⟩
      · have hopen : s.pair.comSideOpen ≠ 0 := hrefused.resolve_left (by simp [hactive])
        rw [hcreate, comSideOpen, if_pos hopen]
      · rw [hcreate, comSideOpen, if_neg (not_not.mpr hclosed)]
        exact congrArg PairControl.comSideOpen hcontrol

/-- An event leaves the pair active. -/
theorem call_active (e : SignalEvent) (hactive : s.pair.active = true) :
    (e.call s).1.active = s.pair.active := by
  cases e with
  | wait wdf => exact (SignalRun.wait_call s wdf hactive).2.1.trans hactive.symm
  | _ => exact (SignalRun.event_announces s _ hactive (by simp)).active

/-- An event hands over snapshots exactly when it informs. -/
theorem snapshots_ne_nil_iff (e : SignalEvent) (hactive : s.pair.active = true) :
    snapshots (e.call s).2 ≠ [] ↔ e.Informs s := by
  rw [ne_eq, snapshots_eq_nil_iff]
  by_cases hwait : ∃ wdf, e = .wait wdf
  · obtain ⟨wdf, rfl⟩ := hwait
    rw [(SignalRun.wait_call s wdf hactive).1]
    exact iff_of_false (not_not.mpr fun _ ↦ List.not_mem_nil) fun h ↦ h.1 rfl
  · have hannounces := SignalRun.event_announces s e hactive fun wdf h ↦ hwait ⟨wdf, h⟩
    rw [hannounces.entries]
    unfold Informs
    cases e.changedBits s with
    | none => exact iff_of_false (not_not.mpr fun _ ↦ List.not_mem_nil) fun h ↦ h.1 rfl
    | some changedBits => simp [SignalView.entries, PortPair.signalView]

end SignalEvent

/-! ## The port -/

/-- The step carries a snapshot on its way to `#signalState`. -/
def PortSignalsEvent.Delivers : PortSignalsEvent → Prop
  | .handOver | .process _ => True
  | _ => False

namespace PortSignals

/-- The notifications that are outstanding, oldest first. -/
def outstanding (s : PortSignals) : List SignalState := s.queue ++ s.completed

/-- When no notification is outstanding, `isComOpen` says whether the COM side is open. -/
def Truthful (s : PortSignals) : Prop :=
  s.phase = .ready → s.outstanding = [] → (s.isComOpen = true ↔ s.pair.comSideOpen = 1)

/-- Whichever of the outstanding notifications are processed from here, `isComOpen` is truthful. -/
def Settles (s : PortSignals) : Prop :=
  ∀ es t, (∀ e ∈ es, e.Delivers) → Transition.run next s es = some t → t.Truthful

/-- The constructor finds the COM side open exactly if the line it ends up with is asserted: that of
the last outstanding notification, or else the companion's own line if it can be loaded. A later
callback that informs the watcher leaves the COM side's line asserted exactly if it leaves the COM
side open, and one that does not inform it neither opens nor closes the COM side. -/
def InStep (s : PortSignals) : PortSignalsEvent → Prop
  | .getSignals _ wdf =>
      match s.outstanding.getLast? with
      | some snapshot => isTrue snapshot.dtrState = true ↔ s.pair.comSideOpen = 1
      | none => s.Loads wdf ∧ s.pair.compDtr = true ↔ s.pair.comSideOpen = 1
  | .driver e => s.phase = .ready →
      (e.Informs s.driver →
        (isTrue (e.dtrState s.driver) = true ↔ e.comSideOpen s.driver = 1)) ∧
      (¬e.Informs s.driver → (e.comSideOpen s.driver = 1 ↔ s.pair.comSideOpen = 1))
  | _ => True

/-- The line that `isComOpen` goes by once all notifications have been processed. -/
def shownDtr (s : PortSignals) : Bool :=
  match s.outstanding.getLast? with
  | some snapshot => isTrue snapshot.dtrState
  | none => s.cachedDtr

/-- What a run that stays in step keeps. -/
structure Agrees (s : PortSignals) : Prop where
  active : s.pair.active = true
  unloaded : s.phase = .opened ∨ s.phase = .watching → s.signalState = none
  shown : s.phase = .ready → (s.shownDtr = true ↔ s.pair.comSideOpen = 1)

theorem initial_agrees (portNumber : ULONG) : (initial portNumber).Agrees :=
  ⟨rfl, fun _ ↦ rfl, nofun⟩

/-- The watcher is started once. -/
theorem watch_step {s t : PortSignals} (ht : s.next .onSignalChange = some t) :
    s.phase = .opened ∧ t = { s with phase := .watching } := by
  simp only [next] at ht
  split at ht
  next hopened =>
    cases ht
    exact ⟨hopened, rfl⟩
  next => cases ht

/-- The watcher hands over the oldest snapshot it has. -/
theorem hand_over_step {s t : PortSignals} (ht : s.next .handOver = some t) :
    ∃ snapshot completed, s.completed = snapshot :: completed ∧
      t = { s with completed := completed, queue := s.queue ++ [snapshot] } := by
  simp only [next] at ht
  split at ht
  next snapshot completed hcompleted =>
    cases ht
    exact ⟨snapshot, completed, hcompleted, rfl⟩
  next => cases ht

/-- `destroy` changes nothing that is shown. -/
theorem destroy_step {s t : PortSignals} (ht : s.next .destroy = some t) :
    t = { s with phase := .destroyed } := by
  simp only [next] at ht
  split at ht
  · exact (Option.some.inj ht).symm
  · exact (Option.some.inj ht).symm
  · cases ht

/-- The JS thread processes a notification after the constructor has returned. -/
theorem process_step {s t : PortSignals} {pad : SignalStatePadding}
    (ht : s.next (.process pad) = some t) :
    (s.phase = .ready ∨ s.phase = .destroyed) ∧ ∃ snapshot queue, s.queue = snapshot :: queue ∧
      t = { s with
        queue := queue
        signalState := some (receiveSignalState (snapshot.bytes pad)) } := by
  simp only [next] at ht
  split at ht
  next snapshot queue hready hqueue =>
    cases ht
    exact ⟨.inl hready, snapshot, queue, hqueue, rfl⟩
  next snapshot queue hdestroyed hqueue =>
    cases ht
    exact ⟨.inr hdestroyed, snapshot, queue, hqueue, rfl⟩
  next => cases ht

/-- A delivery changes neither the driver nor the line that is shown in the end. -/
theorem deliver_step {s t : PortSignals} {e : PortSignalsEvent} (he : e.Delivers)
    (ht : s.next e = some t) :
    t.driver = s.driver ∧ t.phase = s.phase ∧ t.shownDtr = s.shownDtr := by
  cases e with
  | handOver =>
      obtain ⟨snapshot, completed, hcompleted, rfl⟩ := hand_over_step ht
      refine ⟨rfl, rfl, ?_⟩
      unfold shownDtr outstanding cachedDtr
      simp only [hcompleted, List.append_assoc, List.singleton_append]
  | process pad =>
      obtain ⟨-, snapshot, queue, hqueue, rfl⟩ := process_step ht
      refine ⟨rfl, rfl, ?_⟩
      unfold shownDtr outstanding
      simp only [hqueue, List.cons_append, List.getLast?_cons]
      cases (queue ++ s.completed).getLast? with
      | some last => rfl
      | none => exact (receive_shows snapshot pad).dtr.trans (bne_zero_eq_isTrue _)
  | _ => exact he.elim

/-- Neither do the deliveries of a run. -/
theorem deliver_run {s t : PortSignals} {es : List PortSignalsEvent} (hes : ∀ e ∈ es, e.Delivers)
    (ht : Transition.run next s es = some t) :
    t.driver = s.driver ∧ t.phase = s.phase ∧ t.shownDtr = s.shownDtr := by
  refine Transition.run_invariant_of (I := fun t ↦ t.driver = s.driver ∧ t.phase = s.phase ∧
    t.shownDtr = s.shownDtr) ?_ hes ⟨rfl, rfl, rfl⟩ ht
  rintro u e v he ⟨hdriver, hphase, hshown⟩ hv
  obtain ⟨hdriver', hphase', hshown'⟩ := deliver_step he hv
  exact ⟨hdriver'.trans hdriver, hphase'.trans hphase, hshown'.trans hshown⟩

/-- The JS thread of a port that is ready can process all notifications. -/
theorem exists_delivered (s : PortSignals) :
    ∃ es t, (∀ e ∈ es, PortSignalsEvent.Delivers e) ∧ Transition.run next s es = some t ∧
      (t.phase = .ready → t.outstanding = []) := by
  refine Transition.exists_run_to_final
    (fun t ↦ 2 * t.completed.length + t.queue.length) (fun u hbusy ↦ ?_) s
  obtain ⟨hready, hne⟩ := Classical.not_imp.mp hbusy
  cases hqueue : u.queue with
  | cons snapshot queue =>
      refine ⟨.process ⟨0, 0⟩, _, trivial, by simp only [next, hready, hqueue]; rfl, ?_⟩
      simp
  | nil =>
      cases hcompleted : u.completed with
      | cons snapshot completed =>
          refine ⟨.handOver, _, trivial, by simp only [next, hcompleted]; rfl, ?_⟩
          simp only [hqueue, List.length_cons, List.length_append, List.length_nil]
          omega
      | nil => exact absurd (by rw [outstanding, hqueue, hcompleted]; rfl) hne

/-- A port that is ready settles exactly if the line that it shows in the end is right. -/
theorem settles_iff (s : PortSignals) :
    s.Settles ↔ (s.phase = .ready → (s.shownDtr = true ↔ s.pair.comSideOpen = 1)) := by
  constructor
  · intro hsettles hready
    obtain ⟨es, t, hes, ht, hdone⟩ := exists_delivered s
    obtain ⟨hdriver, hphase, hshown⟩ := deliver_run hes ht
    have hnone := hdone (hphase.trans hready)
    have htruthful := hsettles es t hes ht (hphase.trans hready) hnone
    rw [is_com_open_eq, pair, hdriver] at htruthful
    rw [← hshown, shownDtr, hnone]
    exact htruthful
  · intro hright es t hes ht hready hnone
    obtain ⟨hdriver, hphase, hshown⟩ := deliver_run hes ht
    have hagrees := hright (hphase.symm.trans hready)
    rw [← hshown, shownDtr, hnone] at hagrees
    rw [is_com_open_eq, pair, hdriver]
    exact hagrees

/-- A callback of the driver hands its snapshots to the watcher. -/
theorem driver_step {s t : PortSignals} {e : SignalEvent} (hactive : s.pair.active = true)
    (ht : s.next (.driver e) = some t) :
    t = { s with
      driver := s.driver.step e
      completed := s.completed ++ snapshots (e.call s.driver).2 } := by
  have hdriver {d : SignalRun} (hd : s.driver.next e = some d) : d = s.driver.step e := by
    unfold SignalRun.next at hd
    split at hd
    · exact (Option.some.inj hd).symm
    · cases hd
  by_cases hwait : ∃ wdf, e = .wait wdf
  · obtain ⟨wdf, rfl⟩ := hwait
    have hnone : snapshots ((SignalEvent.wait wdf).call s.driver).2 = [] := by
      by_contra hne
      exact (((SignalEvent.wait wdf).snapshots_ne_nil_iff hactive).mp hne).1 rfl
    simp only [next] at ht
    split at ht
    · obtain ⟨d, hd, rfl⟩ := Option.map_eq_some_iff.mp ht
      rw [hdriver hd, hnone, List.append_nil]
    · cases ht
  · have hnext : s.next (.driver e) = (s.driver.next e).map fun driver ↦ { s with
        driver := driver
        completed := s.completed ++ snapshots (e.call s.driver).2 } := by
      cases e with
      | wait wdf => exact absurd ⟨wdf, rfl⟩ hwait
      | _ => rfl
    rw [hnext] at ht
    obtain ⟨d, hd, rfl⟩ := Option.map_eq_some_iff.mp ht
    rw [hdriver hd]

/-- After a callback the line that is shown in the end is the callback's if it informs, and the one
before otherwise. -/
theorem driver_shown {s t : PortSignals} {e : SignalEvent} (hactive : s.pair.active = true)
    (ht : s.next (.driver e) = some t) :
    (e.Informs s.driver → t.shownDtr = isTrue (e.dtrState s.driver)) ∧
      (¬e.Informs s.driver → t.shownDtr = s.shownDtr) := by
  have hout : t.outstanding = s.outstanding ++ snapshots (e.call s.driver).2 := by
    rw [driver_step hactive ht]
    exact (List.append_assoc ..).symm
  have hcached : t.cachedDtr = s.cachedDtr := by rw [driver_step hactive ht]; rfl
  unfold shownDtr
  rw [hout, hcached]
  constructor
  · intro hinforms
    obtain ⟨last, hlast⟩ := Option.ne_none_iff_exists'.mp
      (mt List.getLast?_eq_none_iff.mp ((e.snapshots_ne_nil_iff hactive).mpr hinforms))
    rw [List.getLast?_append, hlast]
    exact congrArg isTrue (e.call_carries hactive last (List.mem_of_getLast? hlast))
  · intro hquiet
    rw [not_not.mp (mt (e.snapshots_ne_nil_iff hactive).mp hquiet), List.append_nil]

/-- A `SET_SIGNALS` leaves the control fields alone. -/
theorem ioctl_set_signals_control (s : PortSignals) (dtrState rtsState : ULONG) (wdf : Wdf) :
    (s.ioctl 8 0 (.setSignals dtrState rtsState) wdf).1.control = s.pair.control := by
  have hbody : (GhostCom.setSignals wdf s.pair dtrState rtsState).1.control = s.pair.control := by
    unfold GhostCom.setSignals
    dsimp only
    split
    · exact check_wait_mask_control ..
    · rfl
  unfold ioctl gcomCompEvtIoctl
  split
  · rfl
  · exact set_request_control wdf s.pair hbody

/-- `setSignals` is a call of a port that is ready or destroyed; it changes neither who has the COM
side open nor the line that is shown. -/
theorem set_signals_step {s t : PortSignals} {signals : CompanionSignals} {wdf : Wdf}
    (ht : s.next (.setSignals signals wdf) = some t) :
    (s.phase = .ready ∨ s.phase = .destroyed) ∧
      ∃ driver : SignalRun, t = { s with driver := driver } ∧
        driver.pair.control = s.pair.control := by
  simp only [next] at ht
  split at ht
  next hready =>
    cases ht
    exact ⟨.inl hready, _, rfl, ioctl_set_signals_control ..⟩
  next hdestroyed =>
    cases ht
    exact ⟨.inr hdestroyed, s.driver, rfl, rfl⟩
  next => cases ht

/-- The pair stays active, and nothing is cached before the constructor loads the state. -/
theorem Agrees.kept {s t : PortSignals} {e : PortSignalsEvent} (h : s.Agrees)
    (ht : s.next e = some t) :
    t.pair.active = true ∧ (t.phase = .opened ∨ t.phase = .watching → t.signalState = none) := by
  cases e with
  | driver e =>
      rw [driver_step h.active ht]
      exact ⟨(e.call_active h.active).trans h.active, h.unloaded⟩
  | onSignalChange =>
      obtain ⟨hopened, rfl⟩ := watch_step ht
      exact ⟨h.active, fun _ ↦ h.unloaded (.inl hopened)⟩
  | getSignals pad wdf =>
      obtain ⟨-, ⟨state, rfl⟩, -⟩ := get_signals_cases ht
      exact ⟨h.active, by simp⟩
  | handOver =>
      obtain ⟨snapshot, completed, -, rfl⟩ := hand_over_step ht
      exact ⟨h.active, h.unloaded⟩
  | process pad =>
      obtain ⟨hphase, snapshot, queue, -, rfl⟩ := process_step ht
      refine ⟨h.active, fun hearly ↦ ?_⟩
      rcases hphase with hphase | hphase <;> simp [hphase] at hearly
  | setSignals signals wdf =>
      obtain ⟨hphase, driver, rfl, hcontrol⟩ := set_signals_step ht
      refine ⟨(congrArg PairControl.active hcontrol).trans h.active, h.unloaded⟩
  | destroy =>
      rw [destroy_step ht]
      exact ⟨h.active, by simp⟩

/-- A step of a port that agrees leads to one that settles exactly if it is in step. -/
theorem Agrees.settles_iff {s t : PortSignals} {e : PortSignalsEvent} (h : s.Agrees)
    (ht : s.next e = some t) : t.Settles ↔ s.InStep e := by
  rw [PortSignals.settles_iff]
  cases e with
  | driver e =>
      have hopen : t.pair.comSideOpen = e.comSideOpen s.driver := by
        rw [driver_step h.active ht]
        exact e.call_com_side_open h.active
      have hphase : t.phase = s.phase := by rw [driver_step h.active ht]
      obtain ⟨hinformed, hquiet⟩ := driver_shown h.active ht
      rw [hopen, hphase]
      refine forall_congr' fun hready ↦ ?_
      by_cases hinforms : e.Informs s.driver
      · rw [hinformed hinforms]
        exact ⟨fun hline ↦ ⟨fun _ ↦ hline, fun hnot ↦ absurd hinforms hnot⟩,
          fun hstep ↦ hstep.1 hinforms⟩
      · rw [hquiet hinforms, h.shown hready]
        exact ⟨fun hline ↦ ⟨fun hin ↦ absurd hin hinforms, fun _ ↦ hline.symm⟩,
          fun hstep ↦ (hstep.2 hinforms).symm⟩
  | onSignalChange =>
      obtain ⟨-, rfl⟩ := watch_step ht
      exact iff_of_true (by simp) trivial
  | getSignals pad wdf =>
      obtain ⟨hwatching, ⟨state, heq⟩, hcached⟩ := get_signals_cases ht
      have hphase : t.phase = .ready := by rw [heq]
      have hout : t.outstanding = s.outstanding := by rw [heq]; rfl
      have hopen : t.pair.comSideOpen = s.pair.comSideOpen := by rw [heq]; rfl
      rw [forall_prop_of_true hphase, hopen]
      unfold shownDtr InStep
      rw [hout]
      cases s.outstanding.getLast? with
      | some snapshot => exact Iff.rfl
      | none =>
          refine iff_congr ?_ Iff.rfl
          obtain ⟨hloads, hdtr, -⟩ | ⟨hfails, hstate⟩ := hcached
          · rw [hdtr]
            exact (and_iff_right hloads).symm
          · have hnone : t.cachedDtr = false := by
              rw [cachedDtr, hstate, h.unloaded (.inr hwatching)]
              rfl
            rw [hnone]
            exact iff_of_false Bool.false_ne_true fun hloads ↦ hfails hloads.1
  | handOver | process =>
      obtain ⟨hdriver, hphase, hshown⟩ := deliver_step (by trivial) ht
      rw [pair, hdriver, hphase, hshown]
      exact iff_of_true h.shown trivial
  | setSignals signals wdf =>
      obtain ⟨-, driver, rfl, hcontrol⟩ := set_signals_step ht
      have hopen : driver.pair.comSideOpen = s.pair.comSideOpen :=
        congrArg PairControl.comSideOpen hcontrol
      refine iff_of_true (fun hready ↦ (h.shown hready).trans ?_) trivial
      show _ ↔ driver.pair.comSideOpen = 1
      rw [hopen]
  | destroy =>
      rw [destroy_step ht]
      exact iff_of_true (by simp) trivial

end PortSignals

/-- In a run of a port, `isComOpen` is truthful whenever no notification is outstanding, whichever
are still to be processed, exactly when the constructor and the callbacks of the driver are in
step. -/
theorem com_open_shown_iff (portNumber : ULONG) (events : List PortSignalsEvent) :
    EveryStep PortSignals.next (fun _ _ t ↦ t.Settles) (.initial portNumber) events ↔
      EveryStep PortSignals.next (fun s e _ ↦ s.InStep e) (.initial portNumber) events := by
  refine Transition.everyStep_iff (I := PortSignals.Agrees) ?_ ?_
    (PortSignals.initial_agrees portNumber)
  · intro s e t hs ht hsettles
    obtain ⟨hactive, hunloaded⟩ := hs.kept ht
    exact ⟨hactive, hunloaded, t.settles_iff.mp hsettles⟩
  · intro s e t hs ht
    exact hs.settles_iff ht

/-- On a new port nobody has opened the COM side, and `isComOpen` is true: the state that the
constructor loads has the companion's own DTR, which is asserted by default. -/
theorem closed_port_shown_open :
    ¬∀ portNumber events t,
      Transition.run PortSignals.next (.initial portNumber) events = some t → t.Truthful := by
  intro h
  have htruthful := h 10 [.onSignalChange, .getSignals ⟨0, 0⟩ .ok] _ rfl rfl rfl
  exact absurd (htruthful.mp rfl) (by decide)

end GhostCom
