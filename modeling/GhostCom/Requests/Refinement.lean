import GhostCom.DataPath.Callbacks
import GhostCom.Requests.PairRuns

/-!
# The callbacks run their flows

What every callback of a pair does to the queues of the pair and what it completes is a run of its
flow, for every state and every outcome of its WDF calls. So what is proved of the runs of the flows
holds of the callbacks: `call_conserves` says that a callback completes or leaves pended exactly the
requests there were.
-/

namespace GhostCom

open Custody (Runs)

variable {H : Multiset RequestId} (wdf : Wdf) (address : ℕ) (d : Direction) {pp : PortPair}
  {flow after : RequestFlow}

/-! ## Reads and writes -/

/-- A run on one direction of a pair is a run on the pair. -/
theorem lane_performs {lane : Lane} {out : List LaneEffect} {H' : Multiset RequestId}
    (hruns : ∀ Q C, Runs flow ⟨H, (pp.lane d).pended address d + Q, C, false⟩ .done
      ⟨H', lane.pended address d + Q, laneCompletions out + C, false⟩) :
    Performs address flow H H' pp (pp.withLane d lane, laneEffects d out) := by
  intro Q C _
  have hrun := hruns (pp.pendedBeside address d + Q) C
  rwa [← add_assoc, ← add_assoc, ← pended_lane, ← pended_with_lane,
    ← completions_lane_effects d] at hrun

/-- `GcomComEvtRead` runs its flow. -/
theorem com_evt_read_performs (req : ReadRequest) :
    Performs address (RequestFlow.gcomComEvtRead address req.id) {req.id} 0 pp
      (gcomComEvtRead wdf pp req) := by
  unfold gcomComEvtRead
  split
  · exact .test_no (.complete rfl rfl)
  · refine .of_pended (lane_performs address .companionToCom fun Q C ↦
      evt_read_runs wdf address .companionToCom _ pp.timeouts.nonBlocking req ?_) rfl rfl rfl
    intro s t hrun
    cases hnonBlocking : pp.timeouts.nonBlocking with
    | true =>
        rw [hnonBlocking] at hrun
        exact .test_yes hrun
    | false =>
        rw [hnonBlocking] at hrun
        exact .test_no hrun

/-- `GcomCompEvtRead` runs its flow. -/
theorem comp_evt_read_performs (req : ReadRequest) :
    Performs address (RequestFlow.gcomCompEvtRead address req.id) {req.id} 0 pp
      (gcomCompEvtRead wdf pp req) := by
  unfold gcomCompEvtRead
  split
  · exact .test_no (.complete rfl rfl)
  · exact lane_performs address .comToCompanion fun Q C ↦
      evt_read_runs wdf address .comToCompanion _ false req fun s t hrun ↦ hrun

/-- The body of the write callbacks, with what they do after the completion. -/
theorem evt_write_performs (req : WriteRequest) {R : PortPair × List Effect}
    (hafter : ((pp.lane d).evtWrite wdf req).2.1 > 0 → Performs address after 0 0
      (pp.withLane d ((pp.lane d).evtWrite wdf req).1) R)
    (hnothing : ¬ ((pp.lane d).evtWrite wdf req).2.1 > 0 →
      R = (pp.withLane d ((pp.lane d).evtWrite wdf req).1, [])) :
    Performs address
      (RequestFlow.evtWrite req.id ⟨address, d.writeQueue⟩ ⟨address, d.readQueue⟩ after)
      {req.id} 0 pp
      (R.1, laneEffects d ((pp.lane d).evtWrite wdf req).2.2 ++ R.2) := by
  intro Q C hQ
  have hplaces := pended_with_lane address d pp ((pp.lane d).evtWrite wdf req).1
  rw [pended_lane address d pp, add_assoc]
  refine evt_write_runs wdf address d (pp.lane d) req ?_ ?_
  · intro hwritten
    have hrun := hafter hwritten Q (laneCompletions ((pp.lane d).evtWrite wdf req).2.2 + C) hQ
    rw [hplaces, add_assoc, add_left_comm (completions _)] at hrun
    rwa [completions_append, completions_lane_effects, add_assoc]
  · intro hzero
    obtain rfl := hnothing hzero
    rw [hplaces, add_assoc, completions_append, completions_lane_effects]
    simp

/-- `GcomComEvtWrite` runs its flow. -/
theorem com_evt_write_performs (req : WriteRequest) :
    Performs address (RequestFlow.gcomComEvtWrite address req.id) {req.id} 0 pp
      (gcomComEvtWrite wdf pp req) := by
  unfold gcomComEvtWrite
  split
  · exact .test_no (.complete rfl rfl)
  · dsimp only
    split
    next hboth =>
      -- written, and the ring is empty again
      have hwritten : ((pp.lane .comToCompanion).evtWrite wdf req).2.1 > 0 := by
        simpa using (Bool.and_eq_true_iff.mp hboth).1
      generalize hchecked : gcomCheckWaitMask wdf _ serialEvTxEmpty = checked
      have hcheck : Performs address (RequestFlow.gcomCheckWaitMask address) 0 0 _ checked :=
        hchecked ▸ check_wait_mask_performs wdf address serialEvTxEmpty
      exact evt_write_performs wdf address .comToCompanion req
        (fun _ ↦ .test_yes (hcheck.of_pended rfl rfl rfl)) (fun hzero ↦ absurd hwritten hzero)
    next =>
      let write := (pp.lane .comToCompanion).evtWrite wdf req
      have hperforms : Performs address (RequestFlow.gcomComEvtWrite address req.id) {req.id} 0 pp
          (pp.withLane .comToCompanion write.1, laneEffects .comToCompanion write.2.2 ++ []) :=
        evt_write_performs (R := (_, [])) wdf address .comToCompanion req
          (fun _ ↦ .test_no (.finish rfl rfl)) (fun _ ↦ rfl)
      rw [List.append_nil] at hperforms
      exact hperforms.of_pended rfl rfl rfl

/-- `GcomCompEvtWrite` runs its flow. -/
theorem comp_evt_write_performs (req : WriteRequest) :
    Performs address (RequestFlow.gcomCompEvtWrite address req.id) {req.id} 0 pp
      (gcomCompEvtWrite wdf pp req) := by
  unfold gcomCompEvtWrite
  split
  · exact .test_no (.complete rfl rfl)
  · dsimp only
    split
    next hwritten =>
      generalize hchecked : gcomCheckWaitMask wdf _ serialEvRxChar = checked
      have hcheck : Performs address (RequestFlow.gcomCheckWaitMask address) 0 0 _ checked :=
        hchecked ▸ check_wait_mask_performs wdf address serialEvRxChar
      exact evt_write_performs wdf address .companionToCom req (fun _ ↦ hcheck)
        (fun hzero ↦ absurd hwritten hzero)
    next hzero =>
      rw [← List.append_nil (laneEffects _ _)]
      exact evt_write_performs (R := (_, [])) wdf address .companionToCom req
        (fun hwritten ↦ absurd hwritten hzero) (fun _ ↦ rfl)

/-! ## IOCTLs -/

variable (req : IoctlRequest)

/-- A code with an input structure. -/
theorem set_request_performs {body : RequestFlow} {size : ℕ} {result : PortPair × List Effect}
    (hbody : Performs address body {req.id} {req.id} pp result) :
    Performs address (RequestFlow.setRequest req.id body) {req.id} 0 pp
      (setRequest wdf pp req size result) := by
  unfold setRequest
  split
  · exact .test_yes (hbody.seq (R := (result.1, [complete req .success])) (.complete rfl rfl))
  · exact .test_no (.complete rfl rfl)

/-- A code with an output structure. -/
theorem get_request_performs {size : ℕ} {output : Output} :
    Performs address (RequestFlow.getRequest req.id) {req.id} 0 pp
      (getRequest wdf pp req size output) := by
  unfold getRequest
  split
  · exact .test_yes (.complete rfl rfl)
  · exact .test_no (.complete rfl rfl)

/-- A new signal state is announced. -/
theorem notify_performs (state : SignalState) (changedBits : ULONG) :
    Performs address (RequestFlow.gcomSignalChanged address) H H pp
      (notify wdf pp state changedBits) := by
  have hchanged : Performs address (RequestFlow.gcomSignalChanged address) H H
      { pp with signalState := state } (notify wdf pp state changedBits) :=
    signal_changed_performs wdf address changedBits
  exact hchanged.of_pended rfl rfl rfl

/-- A code without input. -/
theorem notify_request_performs (state : SignalState) (changedBits : ULONG) :
    Performs address (RequestFlow.notifyRequest address req.id) {req.id} 0 pp
      (notifyRequest wdf pp req state changedBits) := by
  exact (notify_performs wdf address state changedBits).seq (R := (_, [complete req .success]))
    (.complete rfl rfl)

/-- A purge of a queue of the pair, then what follows it. -/
theorem emptied_performs (q : QueueField) {out : List Effect} {rest : RequestFlow}
    {H' : Multiset RequestId} {result : PortPair × List Effect}
    (hout : completions out = pp.requestsIn q)
    (hrest : Performs address rest H H' (pp.emptied q) result) :
    Performs address (Custody.Program.purge ⟨address, q⟩ rest) H H' pp
      (result.1, out ++ result.2) := by
  intro Q C hQ
  have hothers : ∀ x ∈ (pp.emptied q).pended address + Q, x.1 ≠ ⟨address, q⟩ := by
    intro x hx
    cases Multiset.mem_add.mp hx with
    | inl hpended =>
        intro heq
        have hmem := ((mem_pended address _ x).mp hpended).2
        rw [heq] at hmem
        cases q <;> cases hmem
    | inr hother =>
        intro heq
        exact hQ x hother (by rw [heq])
  have hrun := hrest Q (pp.requestsIn q + C) hQ
  rw [pended_queue address pp q, add_assoc, completions_append, hout]
  refine Runs.purge hothers ?_
  rwa [add_left_comm, ← add_assoc] at hrun

/-- `IOCTL_SERIAL_SET_BREAK_ON`. -/
theorem set_break_on_performs :
    Performs address ((RequestFlow.gcomSignalChanged address).seq
        ((RequestFlow.gcomCheckWaitMask address).seq (.complete req.id .done)))
      {req.id} 0 pp (setBreakOn wdf pp req) := by
  unfold setBreakOn
  dsimp only
  rw [List.append_assoc]
  refine (notify_performs wdf address _ changedBreak).seq
    (R := (_, _ ++ [complete req .success])) ?_
  exact (check_wait_mask_performs wdf address serialEvBreak).seq
    (R := (_, [complete req .success])) (.complete rfl rfl)

/-- `IOCTL_SERIAL_SET_WAIT_MASK` once the mask is read. -/
theorem set_wait_mask_performs (mask : ULONG) :
    Performs address
      (RequestFlow.purgeQueue address .waitMask (RequestFlow.gcomSignalChanged address)) H H pp
      (setWaitMask wdf pp mask) := by
  have hout : completions (pp.waitMaskQueue.map fun req ↦ .completed req.id .cancelled 0 .none) =
      pp.requestsIn .waitMask := completions_waits (fun _ ↦ rfl) pp.waitMaskQueue
  exact .test_yes
    (emptied_performs address .waitMask hout (notify_performs wdf address _ changedWaitMask))

/-- A code that pends its request: it is forwarded, or completed with the error. -/
theorem pend_performs (q : QueueField) {pp' : PortPair}
    (hpended : pp'.pended address = (⟨address, q⟩, req.id) ::ₘ pp.pended address) :
    Performs address (RequestFlow.pend req.id ⟨address, q⟩) {req.id} 0 pp
      (match wdf.forward req.id with
      | .ok () => (pp', [])
      | .error st => (pp, [complete req st])) := by
  intro Q C _
  split
  · refine Runs.forward_accepted ?_
    rw [hpended, Multiset.cons_add, completions_nil, zero_add]
    exact Runs.refl
  · exact Runs.forward_refused (.complete .refl)

/-- `IOCTL_SERIAL_WAIT_ON_MASK`. -/
theorem wait_on_mask_performs :
    Performs address (RequestFlow.pend req.id ⟨address, .waitMask⟩) {req.id} 0 pp
      (waitOnMask wdf pp req) :=
  pend_performs wdf address req .waitMask (by simp [PortPair.pended, PortPair.lane])

/-- `IOCTL_GCOM_WAIT_SIGNAL_CHANGE`. -/
theorem wait_signal_change_performs :
    Performs address (RequestFlow.pend req.id ⟨address, .signalWait⟩) {req.id} 0 pp
      (waitSignalChange wdf pp req) :=
  pend_performs wdf address req .signalWait (by simp [PortPair.pended, PortPair.lane])

/-- The queue that `IOCTL_SERIAL_PURGE` aborts for a direction. -/
def Direction.abortQueue : Direction → QueueField
  | .comToCompanion => .comWrite
  | .companionToCom => .comRead

/-- One of the two abort sections of `IOCTL_SERIAL_PURGE`. -/
theorem abort_performs (pp : PortPair) (x : FlowTest) (flag : Bool) :
    Performs address (.test x (RequestFlow.purgeQueue address d.abortQueue .done) .done) H H pp
      (if flag then purgeQueue pp d else (pp, [])) := by
  cases flag with
  | false => exact .test_no (.finish rfl rfl)
  | true =>
      have hout : completions (purgeQueue pp d).2 = pp.requestsIn d.abortQueue := by
        cases d with
        | comToCompanion =>
            exact (completions_lane_effects ..).trans
              (lane_completions_map (fun _ ↦ rfl) pp.comWriteQueue)
        | companionToCom =>
            exact (completions_lane_effects ..).trans
              (lane_completions_map (fun _ ↦ rfl) pp.comReadQueue)
      have hpurge := emptied_performs (H := H) address d.abortQueue hout
        (.finish (r := (pp.emptied d.abortQueue, [])) rfl rfl)
      refine .test_yes (.test_yes (hpurge.of_pended rfl ?_ ?_))
      · cases d <;> rfl
      · simp

/-- `IOCTL_SERIAL_PURGE` once the flags are read. -/
theorem purge_performs (flags : ULONG) :
    Performs address (RequestFlow.purge address) H H pp (purge pp flags) := by
  have hflush (pp : PortPair) (tx rx : Bool) :
      (flushRings pp tx rx).pended address = pp.pended address := by
    cases tx <;> cases rx <;> rfl
  have hfirst := abort_performs (H := H) address .comToCompanion pp
    (.purgeFlag serialPurgeTxAbort) (isTrue (flags &&& serialPurgeTxAbort))
  have hboth := hfirst.seq (abort_performs address .companionToCom _
    (.purgeFlag serialPurgeRxAbort) (isTrue (flags &&& serialPurgeRxAbort)))
  exact hboth.of_pended rfl (hflush ..) rfl

/-- `IOCTL_SERIAL_IMMEDIATE_CHAR` once the character is read. -/
theorem immediate_char_performs (ch : UCHAR) :
    Performs address (RequestFlow.immediateChar address) H H pp
      (immediateChar wdf pp req ch) := by
  refine lane_performs address .comToCompanion fun Q C ↦ Runs.test_yes ?_
  have hdrain := drain_ring_runs wdf (H := H) (C := C)
    (Q := inQueue ⟨address, .comWrite⟩ ((pp.lane .comToCompanion).writeQueue.map (·.id)) + Q)
    ((pp.lane .comToCompanion).ring.write ⟨req.id, [ch], by simp⟩).1
    (pp.lane .comToCompanion).readQueue ⟨address, .compRead⟩
  rw [add_left_comm, ← add_assoc, add_left_comm _ (inQueue ⟨address, .comWrite⟩ _),
    ← add_assoc] at hdrain
  exact hdrain

/-- `GcomComEvtIoctl` runs its flow. -/
theorem com_evt_ioctl_performs (ioctl : ComIoctl) :
    Performs address (RequestFlow.gcomComEvtIoctl address req.id ioctl) {req.id} 0 pp
      (gcomComEvtIoctl wdf pp req ioctl) := by
  unfold gcomComEvtIoctl
  split
  · exact .test_no (.complete rfl rfl)
  · refine .test_yes ?_
    cases ioctl with
    | setBaudRate | setLineControl | setHandflow | setChars | setModemControl =>
        exact set_request_performs wdf address req (notify_performs wdf address _ _)
    | setTimeouts timeouts => exact set_request_performs wdf address req (.finish rfl rfl)
    | getBaudRate | getLineControl | getTimeouts | getHandflow | getChars | getWaitMask
    | getModemStatus | getCommStatus | getProperties | getDtrRts | getStats | configSize
    | getModemControl => exact get_request_performs wdf address req
    | setDtr | clrDtr | setRts | clrRts | setBreakOff =>
        exact notify_request_performs wdf address req _ _
    | setBreakOn => exact set_break_on_performs wdf address req
    | setWaitMask mask =>
        exact set_request_performs wdf address req (set_wait_mask_performs wdf address mask)
    | waitOnMask => exact wait_on_mask_performs wdf address req
    | purge flags => exact set_request_performs wdf address req (purge_performs address flags)
    | setQueueSize | clearStats | noOp | unknown => exact .complete rfl rfl
    | immediateChar ch =>
        exact set_request_performs wdf address req (immediate_char_performs wdf address req ch)

/-- `GcomCompEvtIoctl` runs its flow. -/
theorem comp_evt_ioctl_performs (ioctl : CompIoctl) :
    Performs address (RequestFlow.gcomCompEvtIoctl address req.id ioctl) {req.id} 0 pp
      (gcomCompEvtIoctl wdf pp req ioctl) := by
  unfold gcomCompEvtIoctl
  split
  · exact .test_no (.complete rfl rfl)
  · refine .test_yes ?_
    cases ioctl with
    | waitSignalChange => exact wait_signal_change_performs wdf address req
    | getSignals => exact get_request_performs wdf address req
    | setSignals dtrState rtsState =>
        refine set_request_performs wdf address req ?_
        unfold setSignals
        dsimp only
        split
        · generalize hchecked : gcomCheckWaitMask wdf _ _ = checked
          have hcheck : Performs address (RequestFlow.gcomCheckWaitMask address) {req.id} {req.id} _
              checked := hchecked ▸ check_wait_mask_performs wdf address _
          exact .test_yes (hcheck.of_pended rfl rfl rfl)
        · exact .test_no (.finish rfl rfl)
    | unknown => exact .complete rfl rfl

/-! ## Opens, closes and the teardown -/

variable (id : RequestId)

/-- `GcomComEvtFileCreate` runs its flow. -/
theorem com_file_create_performs :
    Performs address (RequestFlow.gcomComEvtFileCreate address id) {id} 0 pp
      ((gcomComEvtFileCreate wdf pp id).pp, (gcomComEvtFileCreate wdf pp id).effects) := by
  unfold gcomComEvtFileCreate
  split
  · exact .test_no (.complete rfl rfl)
  · split
    · exact .test_yes (.test_yes (.complete rfl rfl))
    · have hchanged : Performs address (RequestFlow.gcomSignalChanged address) {id} {id}
          (gcomPortPairAddRef { pp with comSideOpen := 1 }) _ :=
        signal_changed_performs wdf address changedComOpen
      refine .test_yes (.test_no (.of_pended (hchanged.seq
        (R := (_, [.completed id .success 0 .none])) (.complete rfl rfl)) rfl rfl rfl))

/-- `GcomComEvtFileClose` runs its flow. -/
theorem com_file_close_performs :
    Performs address (RequestFlow.gcomComEvtFileClose address) 0 0 pp
      ((gcomComEvtFileClose wdf pp).pp, (gcomComEvtFileClose wdf pp).effects) := by
  unfold gcomComEvtFileClose
  dsimp only
  split
  · have hchanged : Performs address (RequestFlow.gcomSignalChanged address) 0 0
        { pp with comSideOpen := 0 } _ := signal_changed_performs wdf address changedComClose
    exact .test_yes (.test_yes (hchanged.of_pended rfl rfl rfl))
  · exact .test_yes (.test_no (.finish rfl rfl))

/-- `GcomCompEvtFileCreate` runs its flow. -/
theorem comp_file_create_performs :
    Performs address (RequestFlow.gcomCompEvtFileCreate id) {id} 0 pp
      ((gcomCompEvtFileCreate pp id).pp, (gcomCompEvtFileCreate pp id).effects) := by
  unfold gcomCompEvtFileCreate
  split
  · exact .test_no (.complete rfl rfl)
  · split
    · exact .test_yes (.test_yes (.complete rfl rfl))
    · exact .test_yes (.test_no (.complete rfl rfl))

/-- `GcomCompEvtFileClose` runs its flow. -/
theorem comp_file_close_performs :
    Performs address RequestFlow.gcomCompEvtFileClose 0 0 pp
      ((gcomCompEvtFileClose pp).pp, (gcomCompEvtFileClose pp).effects) := by
  unfold gcomCompEvtFileClose
  dsimp only
  split <;> exact .finish rfl rfl

/-- The cancellation of the requests in a queue. -/
def cancelledIn (pp : PortPair) (q : QueueField) : List Effect :=
  (pp.requestsIn q).map fun id ↦ .completed id .cancelled 0 .none

theorem completions_cancelled_in (q : QueueField) :
    completions (cancelledIn pp q) = pp.requestsIn q := by
  rw [completions, cancelledIn, filterMap_completes (fun id ↦ by exact rfl), List.map_id']

/-- What the teardown completes is what was pended. -/
theorem completions_teardown (pp : PortPair) :
    completions pp.teardown.2 =
      completions (cancelledIn pp .comRead ++ (cancelledIn pp .comWrite ++
        (cancelledIn pp .waitMask ++ (cancelledIn pp .compRead ++ (cancelledIn pp .compWrite ++
          (cancelledIn pp .signalWait ++ [])))))) := by
  have hlanes (d : Direction) :
      laneCompletions ((pp.lane d).purgeReads.2 ++ (pp.lane d).purgeWrites.2) =
        (pp.requestsIn d.readQueue : Multiset RequestId) + pp.requestsIn d.writeQueue := by
    rw [lane_completions_append, Lane.purgeReads, Lane.purgeWrites,
      lane_completions_map (fun _ ↦ rfl), lane_completions_map (fun _ ↦ rfl)]
    cases d <;> rfl
  have hwaits (waits : List WaitRequest) :
      completions (waits.map cancelledWait) = (waits.map (·.id) : List RequestId) :=
    completions_waits (fun _ ↦ rfl) waits
  simp only [PortPair.teardown, completions_append, completions_lane_effects, hlanes, hwaits,
    List.map_append, completions_cancelled_in]
  simp only [PortPair.requestsIn, Direction.readQueue, Direction.writeQueue,
    completions_nil, add_zero]
  ac_rfl

/-- The deletion of the devices by `GcomPortPairDestroy` cancels what is pended in the pair. -/
theorem destroy_performs :
    Performs address (RequestFlow.gcomPortPairDestroy address .done) H H pp pp.teardown := by
  have hcancelled (pp : PortPair) (q : QueueField) :
      completions (cancelledIn pp q) = pp.requestsIn q := completions_cancelled_in q
  have hcompanion : Performs address (RequestFlow.deleteDevice address .companion .done) H H
      (((pp.emptied .comRead).emptied .comWrite).emptied .waitMask) _ :=
    .test_yes (emptied_performs address .compRead (hcancelled _ _)
      (emptied_performs address .compWrite (hcancelled _ _)
        (emptied_performs address .signalWait (hcancelled _ _) (.finish (r := (_, [])) rfl rfl))))
  have hcom := emptied_performs address .comRead (hcancelled pp _)
    (emptied_performs address .comWrite (hcancelled _ _)
      (emptied_performs address .waitMask (hcancelled _ _) hcompanion))
  exact .test_yes (hcom.of_pended rfl rfl (completions_teardown pp))

/-! ## All callbacks -/

/-- The callback an event calls, with the request `id`; cancellations and the teardown are not
callbacks of their own. -/
def PairEvent.callback : PairEvent → Option DriverCallback
  | .data (.comRead _ _) => some (.comRead address id)
  | .data (.comWrite _ _ _) => some (.comWrite address id)
  | .data (.compRead _ _) => some (.compRead address id)
  | .data (.compWrite _ _ _) => some (.compWrite address id)
  | .data (.setTimeouts _ timeouts _) => some (.comIoctl address id (.setTimeouts timeouts))
  | .comIoctl _ _ ioctl _ => some (.comIoctl address id ioctl)
  | .compIoctl _ _ ioctl _ => some (.compIoctl address id ioctl)
  | .comOpen _ => some (.comFileCreate address id)
  | .comClose _ => some (.comFileClose address)
  | .compOpen => some (.compFileCreate address id)
  | .compClose => some (.compFileClose address)
  | .data (.cancel _) | .cancelWait _ | .teardown => none

/-- Every callback of a pair runs its flow. -/
theorem call_performs (e : PairEvent) {c : DriverCallback}
    (hc : e.callback address id = some c) :
    Performs address c.flow c.received 0 pp (e.call id pp) := by
  cases e with
  | data e =>
      cases e with
      | comRead length wdf =>
          cases hc
          exact com_evt_read_performs wdf address ⟨id, length⟩
      | comWrite data fits wdf =>
          cases hc
          exact com_evt_write_performs wdf address ⟨id, data, fits⟩
      | compRead length wdf =>
          cases hc
          exact comp_evt_read_performs wdf address ⟨id, length⟩
      | compWrite data fits wdf =>
          cases hc
          exact comp_evt_write_performs wdf address ⟨id, data, fits⟩
      | setTimeouts inputLength timeouts wdf =>
          cases hc
          exact com_evt_ioctl_performs wdf address ⟨id, inputLength, 0⟩ (.setTimeouts timeouts)
      | cancel request => cases hc
  | comIoctl inputLength outputLength ioctl wdf =>
      cases hc
      exact com_evt_ioctl_performs wdf address ⟨id, inputLength, outputLength⟩ ioctl
  | compIoctl inputLength outputLength ioctl wdf =>
      cases hc
      exact comp_evt_ioctl_performs wdf address ⟨id, inputLength, outputLength⟩ ioctl
  | comOpen wdf =>
      cases hc
      exact com_file_create_performs wdf address id
  | comClose wdf =>
      cases hc
      exact com_file_close_performs wdf address
  | compOpen =>
      cases hc
      exact comp_file_create_performs address id
  | compClose =>
      cases hc
      exact comp_file_close_performs address
  | cancelWait request | teardown => cases hc

/-- A callback of a pair completes, or leaves pended, exactly the request it was handed and those
that were pended. -/
theorem call_conserves (e : PairEvent) {c : DriverCallback}
    (hc : e.callback address id = some c) :
    ((e.call id pp).1.pended address).map Prod.snd + completions (e.call id pp).2 =
      c.received + (pp.pended address).map Prod.snd := by
  obtain ⟨replies, hrun⟩ := call_performs address id e hc 0 0 (by simp)
  have htotal := (c.flow_linear.run hrun).2.2
  simpa [Custody.Ledger.total, Custody.Ledger.pended] using htotal

end GhostCom
