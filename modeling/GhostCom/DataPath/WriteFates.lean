import GhostCom.DataPath.Callbacks

/-!
# What becomes of a companion write

Every write request of the companion is pended or has been handled: its buffer's front entered the
ring and it was completed with that count, or it was completed with an error and nothing entered.
`WritesHandled` states this for one callback, over the writes pended before it and the one that
arrives with it, and `PairEvent.writes_handled` proves it for every callback.
-/

namespace GhostCom

open Direction (companionToCom)

/-- What became of a write: its first `count` bytes entered the ring, or it failed. -/
inductive WriteFate where
  | accepted (count : ℕ)
  | failed (status : ErrorStatus)

namespace WriteFate

/-- The bytes that entered the ring. -/
def entry (req : WriteRequest) : WriteFate → Option (ℕ × List UCHAR)
  | .accepted count => some (req.id, req.data.take count)
  | .failed _ => none

/-- The status and the information count a write is completed with. -/
def completion : WriteFate → NTSTATUS × ℕ
  | .accepted count => (.success, count)
  | .failed status => (status, 0)

/-- A write never succeeds without progress, nor with more than its buffer. -/
def Possible (req : WriteRequest) : WriteFate → Prop
  | .accepted count => 0 < count ∧ count ≤ req.data.length
  | .failed _ => True

end WriteFate

/-- The completion of a write, with its handle. -/
def LaneEffect.writeCompletion : LaneEffect → Option (ℕ × NTSTATUS × ℕ)
  | .writeDone req status information => some (req.id, status, information)
  | _ => none

/-- The completions of writes in a trace, oldest first. -/
def writeCompletions (trace : List LaneEffect) : List (ℕ × NTSTATUS × ℕ) :=
  trace.filterMap LaneEffect.writeCompletion

@[simp] theorem write_completions_append (trace out : List LaneEffect) :
    writeCompletions (trace ++ out) = writeCompletions trace ++ writeCompletions out :=
  List.filterMap_append

/-- Completed reads say nothing about writes. -/
theorem reads_done_silent (reads : List ReadRequest) (status : NTSTATUS) :
    acceptedEntries (reads.map (.readDone · status 0)) = [] ∧
      writeCompletions (reads.map (.readDone · status 0)) = [] := by
  induction reads with
  | nil => exact ⟨rfl, rfl⟩
  | cons req reads ih => exact ih

/-- A write with its fate. -/
abbrev HandledWrite := WriteRequest × WriteFate

/-- What a handled write put into the ring. -/
def HandledWrite.entry (w : HandledWrite) : Option (ℕ × List UCHAR) := w.2.entry w.1

/-- How a handled write was completed. -/
def HandledWrite.completion (w : HandledWrite) : ℕ × NTSTATUS × ℕ := (w.1.id, w.2.completion)

/-- Of the writes in `before`, those in `handled` were completed with their fates, in this order,
and those in `after` are pended; `out` records nothing else about writes. -/
structure WritesHandled (before : List WriteRequest) (handled : List HandledWrite)
    (after : List WriteRequest) (out : List LaneEffect) : Prop where
  split : before.Perm (handled.map Prod.fst ++ after)
  entries : acceptedEntries out = handled.filterMap HandledWrite.entry
  completions : writeCompletions out = handled.map HandledWrite.completion
  possible : ∀ w ∈ handled, w.2.Possible w.1

namespace WritesHandled

variable {before after : List WriteRequest} {handled : List HandledWrite} {out : List LaneEffect}

/-- Effects that say nothing about writes handle none. -/
theorem none {before : List WriteRequest} (hentries : acceptedEntries out = [])
    (hcompletions : writeCompletions out = []) : WritesHandled before [] before out :=
  ⟨.refl _, hentries, hcompletions, by simp⟩

/-- The first write fails before the others are handled. -/
theorem cons_failed (req : WriteRequest) (status : ErrorStatus)
    (h : WritesHandled before handled after out) :
    WritesHandled (req :: before) ((req, .failed status) :: handled) after
      (.writeDone req status 0 :: out) where
  split := h.split.cons req
  entries := h.entries
  completions := congrArg ((req.id, status.1, 0) :: ·) h.completions
  possible := by
    intro w hw
    cases List.mem_cons.mp hw with
    | inl heq =>
        rw [heq]
        trivial
    | inr hmem => exact h.possible w hmem

/-- The first write enters the ring before the others are handled. -/
theorem cons_accepted (req : WriteRequest) {count : ℕ}
    (hpossible : (WriteFate.accepted count).Possible req)
    (h : WritesHandled before handled after out) :
    WritesHandled (req :: before) ((req, .accepted count) :: handled) after
      (.accepted req count :: .writeDone req .success count :: out) where
  split := h.split.cons req
  entries := congrArg ((req.id, req.data.take count) :: ·) h.entries
  completions := congrArg ((req.id, NTSTATUS.success, count) :: ·) h.completions
  possible := by
    intro w hw
    cases List.mem_cons.mp hw with
    | inl heq =>
        rw [heq]
        exact hpossible
    | inr hmem => exact h.possible w hmem

/-- Effects that say nothing about writes may come first. -/
theorem skip {first : List LaneEffect} (hentries : acceptedEntries first = [])
    (hcompletions : writeCompletions first = []) (h : WritesHandled before handled after out) :
    WritesHandled before handled after (first ++ out) where
  split := h.split
  entries := by rw [accepted_entries_append, hentries, h.entries, List.nil_append]
  completions := by rw [write_completions_append, hcompletions, h.completions, List.nil_append]
  possible := h.possible

/-- An effect that says nothing about writes may come first. -/
theorem cons_skip {e : LaneEffect} (h : WritesHandled before handled after out)
    (hentry : e.acceptedEntry = Option.none) (hcompletion : e.writeCompletion = Option.none) :
    WritesHandled before handled after (e :: out) where
  split := h.split
  entries := by
    rw [acceptedEntries, List.filterMap_cons_none hentry]
    exact h.entries
  completions := by
    rw [writeCompletions, List.filterMap_cons_none hcompletion]
    exact h.completions
  possible := h.possible

/-- Effects that say nothing about writes may follow. -/
theorem skip_after {last : List LaneEffect} (h : WritesHandled before handled after out)
    (hentries : acceptedEntries last = []) (hcompletions : writeCompletions last = []) :
    WritesHandled before handled after (out ++ last) where
  split := h.split
  entries := by rw [accepted_entries_append, hentries, h.entries, List.append_nil]
  completions := by rw [write_completions_append, hcompletions, h.completions, List.append_nil]
  possible := h.possible

/-- Writes that fail all at once. -/
theorem all_failed (failed after : List WriteRequest) (status : ErrorStatus)
    (hsplit : before.Perm (failed ++ after)) :
    WritesHandled before (failed.map fun req ↦ (req, .failed status)) after
      (failed.map (.writeDone · status 0)) where
  split := by
    rw [List.map_map]
    show before.Perm (failed.map id ++ after)
    rwa [List.map_id]
  entries := by
    rw [List.filterMap_map]
    show List.filterMap LaneEffect.acceptedEntry _ = _
    rw [List.filterMap_map]
    rfl
  completions := by
    show List.filterMap LaneEffect.writeCompletion _ = _
    rw [List.filterMap_map, List.map_map]
    show failed.filterMap (fun req ↦ some (req.id, status.1, 0)) =
      failed.map fun req ↦ (req.id, status.1, 0)
    exact congrFun List.filterMap_eq_map failed
  possible := by
    intro w hw
    obtain ⟨req, -, rfl⟩ := List.mem_map.mp hw
    trivial

/-- A newly arrived write fails at once. -/
theorem failed (before : List WriteRequest) (req : WriteRequest) (status : ErrorStatus) :
    WritesHandled (before ++ [req]) [(req, .failed status)] before
      [.writeDone req status 0] where
  split := List.perm_append_singleton req before
  entries := rfl
  completions := rfl
  possible := by
    intro w hw
    rw [List.mem_singleton.mp hw]
    trivial

end WritesHandled

/-- The loop over the pended reads says nothing about writes. -/
theorem drain_reads_write_completions (wdf : Wdf) (reads : List ReadRequest) (ring : Ring) :
    writeCompletions (gcomDrainRingToReads wdf ring reads).2.2 = [] := by
  have h := reads_drained wdf ring reads
  generalize gcomDrainRingToReads wdf ring reads = after at h ⊢
  induction h with
  | stop => rfl
  | dropped _ _ _ ih | served _ _ _ ih => exact ih

/-- The count a write reports is positive and at most the length of the buffer. -/
theorem Ring.write_possible (ring : Ring) (req : WriteRequest) (h : (ring.write req).2 > 0) :
    (WriteFate.accepted (ring.write req).2.toNat).Possible req := by
  refine ⟨ulong_pos_iff.mp h, ?_⟩
  rw [Ring.write_count]
  exact Nat.min_le_left _ _

/-- The loop over the pended writes handles them from the front. -/
theorem drain_writes_handled (wdf : Wdf) (writes : List WriteRequest) (reads : List ReadRequest)
    (ring : Ring) :
    ∃ handled, WritesHandled writes handled
      (gcomDrainWritesToRing wdf ring reads writes).1.writeQueue
      (gcomDrainWritesToRing wdf ring reads writes).2 := by
  have h := writes_drained wdf ring reads writes
  generalize gcomDrainWritesToRing wdf ring reads writes = after at h ⊢
  induction h with
  | stop => exact ⟨[], .none rfl rfl⟩
  | @dropped _ _ req _ st _ _ _ _ ih =>
      obtain ⟨handled, h⟩ := ih
      exact ⟨_, h.cons_failed req st⟩
  | @admitted ring reads req _ _ hroom hbuf _ ih =>
      obtain ⟨handled, h⟩ := ih
      have hwritten := (ring.write_pos_iff (le_of_retrieve hbuf)).mpr hroom
      have hserved := h.skip (drain_reads_no_accept wdf reads (ring.write req).1)
        (drain_reads_write_completions wdf reads (ring.write req).1)
      exact ⟨_, hserved.cons_accepted req (ring.write_possible req hwritten)⟩

namespace Lane

/-- A read handles the writes that were pended. -/
theorem evt_read_writes (wdf : Wdf) (nonBlocking : Bool) (lane : Lane) (req : ReadRequest) :
    ∃ handled, WritesHandled lane.writeQueue handled
      (lane.evtRead wdf nonBlocking req).1.writeQueue (lane.evtRead wdf nonBlocking req).2.2 := by
  unfold evtRead
  cases hbuf : retrieveBuffer wdf req.id 1 req.length.toNat with
  | error st => exact ⟨[], .none rfl rfl⟩
  | ok =>
      dsimp only
      split
      · obtain ⟨handled, h⟩ := drain_writes_handled wdf lane.writeQueue lane.readQueue
          (lane.ring.read (ulongMin req.length req.length)).1
        exact ⟨handled, (h.cons_skip rfl rfl).skip_after rfl rfl⟩
      · split
        · exact ⟨[], .none rfl rfl⟩
        · split <;> exact ⟨[], .none rfl rfl⟩

/-- A write is handled or joins the pended ones. -/
theorem evt_write_writes (wdf : Wdf) (lane : Lane) (req : WriteRequest) :
    ∃ handled, WritesHandled (lane.writeQueue ++ [req]) handled
      (lane.evtWrite wdf req).1.writeQueue (lane.evtWrite wdf req).2.2 := by
  unfold evtWrite
  cases hbuf : retrieveBuffer wdf req.id 1 req.data.length with
  | error st => exact ⟨_, .failed _ req st⟩
  | ok =>
      dsimp only
      split
      · next hwritten =>
          refine ⟨[(req, .accepted (lane.ring.write req).2.toNat)],
            List.perm_append_singleton req lane.writeQueue, ?_, ?_, ?_⟩
          · show acceptedEntries (.accepted req _ :: (_ ++ _)) = _
            rw [acceptedEntries, List.filterMap_cons, ← acceptedEntries, accepted_entries_append,
              drain_reads_no_accept]
            rfl
          · show writeCompletions (.accepted req _ :: (_ ++ _)) = _
            rw [writeCompletions, List.filterMap_cons, ← writeCompletions, write_completions_append,
              drain_reads_write_completions]
            rfl
          · intro w hw
            rw [List.mem_singleton.mp hw]
            exact lane.ring.write_possible req hwritten
      · cases wdf.forward req.id with
        | ok => exact ⟨[], .none rfl rfl⟩
        | error st => exact ⟨_, .failed _ req st⟩

/-- A cancellation fails the write it hits. -/
theorem cancel_writes (lane : Lane) (id : RequestId) :
    ∃ handled, WritesHandled lane.writeQueue handled (lane.cancel id).1.writeQueue
      (lane.cancel id).2 := by
  have hsplit : lane.writeQueue.Perm
      (lane.writeQueue.filter (·.id = id) ++ lane.writeQueue.filter (·.id ≠ id)) := by
    have h := List.filter_append_perm (fun req : WriteRequest ↦ decide (req.id = id))
      lane.writeQueue
    simpa using h.symm
  obtain ⟨hentries, hcompletions⟩ :=
    reads_done_silent (lane.readQueue.filter (·.id = id)) .cancelled
  exact ⟨_, (WritesHandled.all_failed _ _ ⟨.cancelled, nofun⟩ hsplit).skip hentries hcompletions⟩

end Lane

/-- A callback that neither handles nor pends a companion write. -/
structure WritesUntouched (pp : PortPair) (result : PortPair × List Effect) : Prop where
  queue : result.1.compWriteQueue = pp.compWriteQueue
  entries : acceptedEntries (laneTrace companionToCom result.2) = []
  completions : writeCompletions (laneTrace companionToCom result.2) = []

namespace WritesUntouched

variable {pp : PortPair} {result : PortPair × List Effect}

/-- A callback that is not seen on the lane, and does not change its pended writes. -/
theorem of_lane_trace (hqueue : result.1.compWriteQueue = pp.compWriteQueue)
    (htrace : laneTrace companionToCom result.2 = []) : WritesUntouched pp result :=
  ⟨hqueue, by rw [htrace]; rfl, by rw [htrace]; rfl⟩

/-- Effects that are not seen on the lane may follow. -/
theorem append (h : WritesUntouched pp result) {out : List Effect}
    (hout : laneTrace companionToCom out = []) :
    WritesUntouched pp (result.1, result.2 ++ out) where
  queue := h.queue
  entries := by rw [lane_trace_append, hout, List.append_nil, h.entries]
  completions := by rw [lane_trace_append, hout, List.append_nil, h.completions]

/-- Effects that are not seen on the lane may come first. -/
theorem prepend (h : WritesUntouched pp result) {out : List Effect}
    (hout : laneTrace companionToCom out = []) :
    WritesUntouched pp (result.1, out ++ result.2) where
  queue := h.queue
  entries := by rw [lane_trace_append, hout, List.nil_append, h.entries]
  completions := by rw [lane_trace_append, hout, List.nil_append, h.completions]

/-- One such callback after the other. -/
theorem then_untouched (h : WritesUntouched pp result) {later : PortPair × List Effect}
    (hlater : WritesUntouched result.1 later) :
    WritesUntouched pp (later.1, result.2 ++ later.2) where
  queue := hlater.queue.trans h.queue
  entries := by
    rw [lane_trace_append, accepted_entries_append, h.entries, hlater.entries, List.append_nil]
  completions := by
    rw [lane_trace_append, write_completions_append, h.completions, hlater.completions,
      List.append_nil]

/-- Such a callback handles none of the pended writes. -/
theorem handled (h : WritesUntouched pp result) :
    ∃ handled, WritesHandled pp.compWriteQueue handled result.1.compWriteQueue
      (laneTrace companionToCom result.2) := by
  rw [h.queue]
  exact ⟨[], .none h.entries h.completions⟩

end WritesUntouched

/-- A signal change is not seen on a lane. -/
@[simp] theorem lane_trace_signal_changed (d : Direction) (wdf : Wdf) (pp : PortPair)
    (changedBits : ULONG) : laneTrace d (gcomSignalChanged wdf pp changedBits).2 = [] := by
  unfold gcomSignalChanged
  split
  · rfl
  · refine lane_trace_waits d (fun waitReq ↦ ?_) pp.signalWaitQueue
    unfold completeSignalWait
    split <;> rfl

section Ioctls

variable (wdf : Wdf) (pp : PortPair) (req : IoctlRequest)

theorem complete_untouched {pp' : PortPair} (h : pp'.compWriteQueue = pp.compWriteQueue)
    (st : NTSTATUS) : WritesUntouched pp (pp', [complete req st]) :=
  .of_lane_trace h rfl

theorem get_request_untouched (size : ℕ) (output : Output) :
    WritesUntouched pp (getRequest wdf pp req size output) := by
  unfold getRequest
  split
  · exact .of_lane_trace rfl rfl
  · exact complete_untouched pp req rfl _

theorem set_request_untouched (size : ℕ) {body : PortPair × List Effect}
    (h : WritesUntouched pp body) : WritesUntouched pp (setRequest wdf pp req size body) := by
  unfold setRequest
  split
  · exact h.append rfl
  · exact complete_untouched pp req rfl _

theorem notify_untouched (state : SignalState) (changedBits : ULONG) :
    WritesUntouched pp (notify wdf pp state changedBits) := by
  apply WritesUntouched.of_lane_trace
  · exact congrArg Lane.writeQueue (signal_changed_lane wdf { pp with signalState := state }
      changedBits companionToCom)
  · exact lane_trace_signal_changed _ _ _ _

theorem notify_request_untouched (state : SignalState) (changedBits : ULONG) :
    WritesUntouched pp (notifyRequest wdf pp req state changedBits) :=
  (notify_untouched wdf pp state changedBits).append rfl

theorem check_wait_mask_untouched (events : ULONG) :
    WritesUntouched pp (gcomCheckWaitMask wdf pp events) := by
  apply WritesUntouched.of_lane_trace
  · exact congrArg Lane.writeQueue (check_wait_mask_lane wdf pp events companionToCom)
  · exact lane_trace_check_wait_mask _ _ _ _

/-- Purging one of the COM queues leaves the companion's writes alone. -/
theorem purge_queue_untouched (d : Direction) : WritesUntouched pp (purgeQueue pp d) := by
  cases d with
  | comToCompanion =>
      apply WritesUntouched.of_lane_trace
      · rfl
      · exact lane_trace_lane_effects companionToCom .comToCompanion _
  | companionToCom =>
      have htrace : laneTrace companionToCom (purgeQueue pp companionToCom).2 =
          pp.comReadQueue.map (.readDone · .cancelled 0) :=
        lane_trace_lane_effects companionToCom companionToCom _
      obtain ⟨hentries, hcompletions⟩ := reads_done_silent pp.comReadQueue .cancelled
      exact ⟨rfl, htrace ▸ hentries, htrace ▸ hcompletions⟩

/-- Purging a queue under a flag leaves the companion's writes alone. -/
theorem purge_flag_untouched (flag : Bool) (d : Direction) :
    WritesUntouched pp (if flag then purgeQueue pp d else (pp, [])) := by
  cases flag with
  | true => exact purge_queue_untouched pp d
  | false => exact .of_lane_trace rfl rfl

theorem purge_untouched (flags : ULONG) : WritesUntouched pp (purge pp flags) := by
  have habort := (purge_flag_untouched pp (isTrue (flags &&& serialPurgeTxAbort))
    .comToCompanion).then_untouched
      (purge_flag_untouched _ (isTrue (flags &&& serialPurgeRxAbort)) companionToCom)
  refine ⟨?_, habort.entries, habort.completions⟩
  rw [← habort.queue]
  unfold purge flushRings
  dsimp only
  cases isTrue (flags &&& serialPurgeTxClear) <;> cases isTrue (flags &&& serialPurgeRxClear) <;>
    rfl

theorem set_break_on_untouched : WritesUntouched pp (setBreakOn wdf pp req) :=
  ((notify_untouched wdf pp _ _).then_untouched
    (check_wait_mask_untouched wdf _ serialEvBreak)).append rfl

theorem set_wait_mask_untouched (mask : ULONG) : WritesUntouched pp (setWaitMask wdf pp mask) := by
  have hcancelled : laneTrace companionToCom
      (pp.waitMaskQueue.map fun req ↦ Effect.completed req.id .cancelled 0 .none) = [] :=
    lane_trace_waits companionToCom (fun _ ↦ rfl) pp.waitMaskQueue
  have hnotify := notify_untouched wdf { pp with waitMaskQueue := [] }
    { pp.signalState with waitMask := mask } changedWaitMask
  have hall := hnotify.prepend hcancelled
  exact ⟨hall.queue, hall.entries, hall.completions⟩

theorem wait_on_mask_untouched : WritesUntouched pp (waitOnMask wdf pp req) := by
  unfold waitOnMask
  split
  · exact .of_lane_trace rfl rfl
  · exact complete_untouched pp req rfl _

theorem immediate_char_untouched (ch : UCHAR) :
    WritesUntouched pp (immediateChar wdf pp req ch) := by
  apply WritesUntouched.of_lane_trace
  · rfl
  · exact lane_trace_lane_effects companionToCom .comToCompanion _

/-- A COM-side IOCTL leaves the companion's writes alone. -/
theorem com_ioctl_untouched (ioctl : ComIoctl) :
    WritesUntouched pp (gcomComEvtIoctl wdf pp req ioctl) := by
  unfold gcomComEvtIoctl
  split
  · exact complete_untouched pp req rfl _
  · cases ioctl with
    | getBaudRate | getLineControl | getTimeouts | getHandflow | getChars | getWaitMask
    | getModemStatus | getCommStatus | getProperties | getDtrRts | getStats | configSize
    | getModemControl => exact get_request_untouched wdf pp req _ _
    | setBaudRate | setLineControl | setHandflow | setChars | setModemControl =>
        exact set_request_untouched wdf pp req _ (notify_untouched wdf pp _ _)
    | setDtr | clrDtr | setRts | clrRts | setBreakOff =>
        exact notify_request_untouched wdf pp req _ _
    | setQueueSize | noOp | unknown => exact complete_untouched pp req rfl _
    | clearStats => exact .of_lane_trace rfl rfl
    | setTimeouts timeouts => exact set_request_untouched wdf pp req _ (.of_lane_trace rfl rfl)
    | setBreakOn => exact set_break_on_untouched wdf pp req
    | setWaitMask mask =>
        exact set_request_untouched wdf pp req _ (set_wait_mask_untouched wdf pp mask)
    | waitOnMask => exact wait_on_mask_untouched wdf pp req
    | purge flags => exact set_request_untouched wdf pp req _ (purge_untouched pp flags)
    | immediateChar ch =>
        exact set_request_untouched wdf pp req _ (immediate_char_untouched wdf pp req ch)

/-- A companion-side IOCTL leaves the companion's writes alone. -/
theorem comp_ioctl_untouched (ioctl : CompIoctl) :
    WritesUntouched pp (gcomCompEvtIoctl wdf pp req ioctl) := by
  unfold gcomCompEvtIoctl
  split
  · exact complete_untouched pp req rfl _
  · cases ioctl with
    | waitSignalChange =>
        show WritesUntouched pp (waitSignalChange wdf pp req)
        unfold waitSignalChange
        split
        · exact .of_lane_trace rfl rfl
        · exact complete_untouched pp req rfl _
    | getSignals => exact get_request_untouched wdf pp req _ _
    | setSignals dtrState rtsState =>
        apply set_request_untouched
        show WritesUntouched pp (setSignals wdf pp dtrState rtsState)
        unfold setSignals
        dsimp only
        split
        · have hraise := check_wait_mask_untouched wdf
            { pp with compDtr := isTrue dtrState, compRts := isTrue rtsState } (flagBits
              [(isTrue rtsState != pp.compRts, serialEvCts),
                (isTrue dtrState != pp.compDtr, serialEvDsr ||| serialEvRlsd)])
          exact ⟨hraise.queue, hraise.entries, hraise.completions⟩
        · exact .of_lane_trace rfl rfl
    | unknown => exact complete_untouched pp req rfl _

end Ioctls

section Files

variable (wdf : Wdf) (pp : PortPair) (id : RequestId)

theorem com_open_untouched :
    WritesUntouched pp ((gcomComEvtFileCreate wdf pp id).pp,
      (gcomComEvtFileCreate wdf pp id).effects) := by
  unfold gcomComEvtFileCreate
  split
  · exact .of_lane_trace rfl rfl
  · split
    · exact .of_lane_trace rfl rfl
    · have hqueue := congrArg Lane.writeQueue (signal_changed_lane wdf
        (gcomPortPairAddRef { pp with comSideOpen := 1 }) changedComOpen companionToCom)
      apply WritesUntouched.of_lane_trace
      · exact hqueue
      · dsimp only
        rw [lane_trace_append, lane_trace_signal_changed]
        rfl

theorem com_close_untouched :
    WritesUntouched pp ((gcomComEvtFileClose wdf pp).pp, (gcomComEvtFileClose wdf pp).effects) := by
  unfold gcomComEvtFileClose
  by_cases hactive : pp.active = true
  · simp only [if_pos hactive]
    have hqueue := congrArg Lane.writeQueue (signal_changed_lane wdf
      { pp with comSideOpen := 0 } changedComClose companionToCom)
    exact .of_lane_trace hqueue (lane_trace_signal_changed _ _ _ _)
  · simp only [if_neg hactive]
    exact .of_lane_trace rfl rfl

theorem comp_open_untouched :
    WritesUntouched pp ((gcomCompEvtFileCreate pp id).pp,
      (gcomCompEvtFileCreate pp id).effects) := by
  unfold gcomCompEvtFileCreate
  split
  · exact .of_lane_trace rfl rfl
  · split
    · exact .of_lane_trace rfl rfl
    · exact .of_lane_trace rfl rfl

theorem comp_close_untouched :
    WritesUntouched pp ((gcomCompEvtFileClose pp).pp, (gcomCompEvtFileClose pp).effects) := by
  unfold gcomCompEvtFileClose
  cases pp.active <;> exact .of_lane_trace rfl rfl

end Files

/-- The write request that arrives with an event. -/
def PairEvent.arrival (id : RequestId) : PairEvent → List WriteRequest
  | .data (.compWrite bytes fits _) => [⟨id, bytes, fits⟩]
  | _ => []

/-- An event without a new write. -/
theorem handled_without_arrival {queue after : List WriteRequest} {out : List LaneEffect}
    (h : ∃ handled, WritesHandled queue handled after out) :
    ∃ handled, WritesHandled (queue ++ []) handled after out := by
  rwa [List.append_nil]

/-- The teardown fails every pended write. -/
theorem teardown_writes (pp : PortPair) :
    ∃ handled, WritesHandled pp.compWriteQueue handled pp.teardown.1.compWriteQueue
      (laneTrace companionToCom pp.teardown.2) := by
  have htrace : laneTrace companionToCom pp.teardown.2 =
      (pp.comReadQueue.map (.readDone · .cancelled 0)) ++
        pp.compWriteQueue.map (.writeDone · .cancelled 0) := by
    have hwaits : laneTrace companionToCom
        ((pp.signalWaitQueue ++ pp.waitMaskQueue).map cancelledWait) = [] :=
      lane_trace_waits companionToCom (fun _ ↦ rfl) _
    unfold PortPair.teardown
    rw [lane_trace_append, lane_trace_append, hwaits, lane_trace_lane_effects,
      lane_trace_lane_effects, List.append_nil]
    exact List.append_nil _
  rw [htrace]
  have hfailed := WritesHandled.all_failed pp.compWriteQueue [] ⟨.cancelled, nofun⟩
    (by rw [List.append_nil])
  obtain ⟨hentries, hcompletions⟩ := reads_done_silent pp.comReadQueue .cancelled
  exact ⟨_, hfailed.skip hentries hcompletions⟩

theorem cancel_wait_untouched (pp : PortPair) (id : RequestId) :
    WritesUntouched pp (pp.cancelWait id) := by
  apply WritesUntouched.of_lane_trace
  · rfl
  · have hwaits (waits : List WaitRequest) :
        laneTrace companionToCom (waits.map cancelledWait) = [] :=
      lane_trace_waits companionToCom (fun _ ↦ rfl) waits
    unfold PortPair.cancelWait
    rw [lane_trace_append, hwaits, hwaits, List.append_nil]

theorem com_read_writes (wdf : Wdf) (pp : PortPair) (req : ReadRequest) :
    ∃ handled, WritesHandled pp.compWriteQueue handled (gcomComEvtRead wdf pp req).1.compWriteQueue
      (laneTrace companionToCom (gcomComEvtRead wdf pp req).2) := by
  unfold gcomComEvtRead
  split
  · exact ⟨[], .none rfl rfl⟩
  · rw [lane_trace_lane_effects, if_pos rfl]
    exact Lane.evt_read_writes wdf pp.timeouts.nonBlocking (pp.lane companionToCom) req

theorem comp_write_writes (wdf : Wdf) (pp : PortPair) (req : WriteRequest) :
    ∃ handled, WritesHandled (pp.compWriteQueue ++ [req]) handled
      (gcomCompEvtWrite wdf pp req).1.compWriteQueue
      (laneTrace companionToCom (gcomCompEvtWrite wdf pp req).2) := by
  have hwrite := Lane.evt_write_writes wdf (pp.lane companionToCom) req
  unfold gcomCompEvtWrite
  split
  · exact ⟨_, .failed _ req ⟨.deviceNotConnected, nofun⟩⟩
  · dsimp only
    split
    · rw [lane_trace_append, lane_trace_check_wait_mask, List.append_nil,
        lane_trace_lane_effects, if_pos rfl]
      have hqueue := congrArg Lane.writeQueue (check_wait_mask_lane wdf
        (pp.withLane companionToCom ((pp.lane companionToCom).evtWrite wdf req).1)
        serialEvRxChar companionToCom)
      rw [show (gcomCheckWaitMask wdf _ serialEvRxChar).1.compWriteQueue = _ from hqueue]
      exact hwrite
    · rw [lane_trace_lane_effects, if_pos rfl]
      exact hwrite

theorem com_write_untouched (wdf : Wdf) (pp : PortPair) (req : WriteRequest) :
    WritesUntouched pp (gcomComEvtWrite wdf pp req) := by
  unfold gcomComEvtWrite
  split
  · exact .of_lane_trace rfl rfl
  · dsimp only
    have hlane := lane_trace_lane_effects companionToCom .comToCompanion
      ((pp.lane .comToCompanion).evtWrite wdf req).2.2
    split
    · have hraise := (check_wait_mask_untouched wdf
        { pp.withLane .comToCompanion ((pp.lane .comToCompanion).evtWrite wdf req).1 with
          perfStats.transmittedCount := pp.perfStats.transmittedCount +
            ((pp.lane .comToCompanion).evtWrite wdf req).2.1 } serialEvTxEmpty).prepend hlane
      exact ⟨hraise.queue, hraise.entries, hraise.completions⟩
    · exact .of_lane_trace rfl hlane

theorem comp_read_untouched (wdf : Wdf) (pp : PortPair) (req : ReadRequest) :
    WritesUntouched pp (gcomCompEvtRead wdf pp req) := by
  unfold gcomCompEvtRead
  split
  · exact .of_lane_trace rfl rfl
  · exact .of_lane_trace rfl (lane_trace_lane_effects companionToCom .comToCompanion _)

/-- Every callback of the data path handles companion writes, or leaves them pended. -/
theorem DataEvent.writes_handled (id : RequestId) (pp : PortPair) (e : DataEvent) :
    ∃ handled, WritesHandled (pp.compWriteQueue ++ (PairEvent.data e).arrival id) handled
      (e.call id pp).1.compWriteQueue (laneTrace companionToCom (e.call id pp).2) := by
  cases e with
  | comRead length wdf =>
      exact handled_without_arrival (com_read_writes wdf pp ⟨id, length⟩)
  | comWrite bytes fits wdf =>
      exact handled_without_arrival (com_write_untouched wdf pp ⟨id, bytes, fits⟩).handled
  | compRead length wdf =>
      exact handled_without_arrival (comp_read_untouched wdf pp ⟨id, length⟩).handled
  | compWrite bytes fits wdf => exact comp_write_writes wdf pp ⟨id, bytes, fits⟩
  | setTimeouts inputLength timeouts wdf =>
      exact handled_without_arrival
        (com_ioctl_untouched wdf pp ⟨id, inputLength, 0⟩ (.setTimeouts timeouts)).handled
  | cancel request =>
      have htrace : laneTrace companionToCom (pp.cancel request).2 =
          ((pp.lane companionToCom).cancel request).2 := by
        unfold PortPair.cancel
        dsimp only
        rw [lane_trace_append, lane_trace_lane_effects, lane_trace_lane_effects]
        rfl
      show ∃ handled, WritesHandled (pp.compWriteQueue ++ []) handled
        (pp.cancel request).1.compWriteQueue (laneTrace companionToCom (pp.cancel request).2)
      rw [List.append_nil, htrace]
      exact Lane.cancel_writes (pp.lane companionToCom) request

/-- Every callback handles companion writes, or leaves them pended. -/
theorem PairEvent.writes_handled (id : RequestId) (pp : PortPair) (e : PairEvent) :
    ∃ handled, WritesHandled (pp.compWriteQueue ++ e.arrival id) handled
      (e.call id pp).1.compWriteQueue (laneTrace companionToCom (e.call id pp).2) := by
  cases e with
  | data e => exact e.writes_handled id pp
  | comIoctl inputLength outputLength ioctl wdf =>
      exact handled_without_arrival
        (com_ioctl_untouched wdf pp ⟨id, inputLength, outputLength⟩ ioctl).handled
  | compIoctl inputLength outputLength ioctl wdf =>
      exact handled_without_arrival
        (comp_ioctl_untouched wdf pp ⟨id, inputLength, outputLength⟩ ioctl).handled
  | comOpen wdf => exact handled_without_arrival (com_open_untouched wdf pp id).handled
  | comClose wdf => exact handled_without_arrival (com_close_untouched wdf pp).handled
  | compOpen => exact handled_without_arrival (comp_open_untouched pp id).handled
  | compClose => exact handled_without_arrival (comp_close_untouched pp).handled
  | cancelWait request => exact handled_without_arrival (cancel_wait_untouched pp request).handled
  | teardown => exact handled_without_arrival (teardown_writes pp)

end GhostCom
