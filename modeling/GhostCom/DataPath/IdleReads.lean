import GhostCom.DataPath.Callbacks

/-!
# Reads are pended at empty rings

The half of the invariant of the data path that purges keep as well: in every state that the
callbacks of a pair reach, in any order and with any outcome of the WDF calls, a ring that holds
bytes has no read pended for it.
-/

namespace GhostCom

/-- In both directions reads are pended only while the ring is empty. -/
def PortPair.ReadsAtEmpty (pp : PortPair) : Prop :=
  ∀ d, (pp.lane d).readQueue ≠ [] → (pp.lane d).ring.contents = []

namespace PortPair.ReadsAtEmpty

variable {pp pp' : PortPair}

/-- A callback that leaves the lanes alone. -/
theorem of_lane (h : pp.ReadsAtEmpty) (hlane : ∀ d, pp'.lane d = pp.lane d) : pp'.ReadsAtEmpty := by
  intro d
  rw [hlane d]
  exact h d

/-- A callback that changes one lane. -/
theorem withLane (h : pp.ReadsAtEmpty) (d : Direction) {lane : Lane}
    (hlane : lane.readQueue ≠ [] → lane.ring.contents = []) :
    (pp.withLane d lane).ReadsAtEmpty := by
  intro other
  rw [PortPair.lane_withLane]
  split
  · exact hlane
  · exact h other

/-- The body of a read handler. -/
theorem evt_read (wdf : Wdf) (nonBlocking : Bool) {lane : Lane} (req : ReadRequest)
    (h : lane.readQueue ≠ [] → lane.ring.contents = []) :
    (lane.evtRead wdf nonBlocking req).1.readQueue ≠ [] →
      (lane.evtRead wdf nonBlocking req).1.ring.contents = [] := by
  obtain ⟨ring, reads, writes⟩ := lane
  unfold Lane.evtRead
  cases hbuf : retrieveBuffer wdf req.id 1 req.length.toNat with
  | error st => exact h
  | ok =>
      simp only [ulong_min_self]
      by_cases hread : (ring.read req.length).2.1 > 0
      · rw [if_pos hread]
        have hcontents := (ring.read_pos_iff (le_of_retrieve hbuf)).mp hread
        have hreads : reads = [] := of_not_not fun hne ↦ hcontents (h hne)
        subst hreads
        exact fun hne ↦ absurd (drain_writes_no_reads wdf writes (ring.read req.length).1).1 hne
      · rw [if_neg hread]
        have hempty : ring.contents = [] :=
          of_not_not (mt (ring.read_pos_iff (le_of_retrieve hbuf)).mpr hread)
        cases nonBlocking with
        | true => exact h
        | false =>
            cases wdf.forward req.id with
            | error st => exact h
            | ok => exact fun _ ↦ hempty

/-- The body of a write handler. -/
theorem evt_write (wdf : Wdf) {lane : Lane} (req : WriteRequest)
    (h : lane.readQueue ≠ [] → lane.ring.contents = []) :
    (lane.evtWrite wdf req).1.readQueue ≠ [] → (lane.evtWrite wdf req).1.ring.contents = [] := by
  unfold Lane.evtWrite
  cases retrieveBuffer wdf req.id 1 req.data.length with
  | error st => exact h
  | ok =>
      dsimp only
      split
      · exact drain_reads_settled wdf _ _
      · cases wdf.forward req.id with
        | error st => exact h
        | ok => exact h

variable (h : pp.ReadsAtEmpty) (wdf : Wdf)
include h

/-- Comm events. -/
theorem check_wait_mask (events : ULONG) : (gcomCheckWaitMask wdf pp events).1.ReadsAtEmpty :=
  h.of_lane fun d ↦ check_wait_mask_lane wdf pp events d

theorem com_read (req : ReadRequest) : (gcomComEvtRead wdf pp req).1.ReadsAtEmpty := by
  unfold gcomComEvtRead
  split
  · exact h
  · exact (h.withLane .companionToCom (evt_read wdf pp.timeouts.nonBlocking req
      (h .companionToCom))).of_lane fun d ↦ by cases d <;> rfl

theorem comp_read (req : ReadRequest) : (gcomCompEvtRead wdf pp req).1.ReadsAtEmpty := by
  unfold gcomCompEvtRead
  split
  · exact h
  · exact h.withLane .comToCompanion (evt_read wdf false req (h .comToCompanion))

theorem com_write (req : WriteRequest) : (gcomComEvtWrite wdf pp req).1.ReadsAtEmpty := by
  unfold gcomComEvtWrite
  split
  · exact h
  · have hstored := h.withLane .comToCompanion (evt_write wdf req (h .comToCompanion))
    dsimp only
    split
    · exact (hstored.of_lane fun d ↦ by cases d <;> rfl).check_wait_mask wdf serialEvTxEmpty
    · exact hstored.of_lane fun d ↦ by cases d <;> rfl

theorem comp_write (req : WriteRequest) : (gcomCompEvtWrite wdf pp req).1.ReadsAtEmpty := by
  unfold gcomCompEvtWrite
  split
  · exact h
  · have hstored := h.withLane .companionToCom (evt_write wdf req (h .companionToCom))
    dsimp only
    split
    · exact hstored.check_wait_mask wdf serialEvRxChar
    · exact hstored

/-- The framework cancels a pended request of the data path. -/
theorem cancel (id : RequestId) : (pp.cancel id).1.ReadsAtEmpty := by
  have hfilter (d : Direction) : ((pp.lane d).cancel id).1.readQueue ≠ [] →
      ((pp.lane d).cancel id).1.ring.contents = [] := by
    intro hne
    refine h d fun hnone ↦ hne ?_
    show (pp.lane d).readQueue.filter _ = []
    rw [hnone]
    rfl
  unfold PortPair.cancel
  refine (h.withLane .comToCompanion (hfilter .comToCompanion)).withLane .companionToCom ?_
  rw [PortPair.lane_withLane, if_neg nofun]
  exact hfilter .companionToCom

/-- A signal change, with the state that is stored before it. -/
theorem notify (state : SignalState) (changedBits : ULONG) :
    (notify wdf pp state changedBits).1.ReadsAtEmpty :=
  h.of_lane fun d ↦ (signal_changed_lane wdf { pp with signalState := state } changedBits d).trans
    (by cases d <;> rfl)

theorem purge_queue (d : Direction) : (purgeQueue pp d).1.ReadsAtEmpty := by
  cases d with
  | comToCompanion => exact h.withLane .comToCompanion (h .comToCompanion)
  | companionToCom => exact h.withLane .companionToCom fun hne ↦ absurd rfl hne

theorem flush_ring (d : Direction) : (flushRing pp d).ReadsAtEmpty :=
  h.withLane d fun _ ↦ Ring.flush_contents _

/-- A section of `IOCTL_SERIAL_PURGE` whose flag may be unset. -/
theorem purge_flag (flag : Bool) (d : Direction) :
    (if flag then purgeQueue pp d else (pp, [])).1.ReadsAtEmpty := by
  cases flag with
  | true => exact h.purge_queue d
  | false => exact h

theorem purge (flags : ULONG) : (purge pp flags).1.ReadsAtEmpty := by
  have haborted := (h.purge_flag (isTrue (flags &&& serialPurgeTxAbort)) .comToCompanion).purge_flag
    (isTrue (flags &&& serialPurgeRxAbort)) .companionToCom
  show (flushRings _ _ _).ReadsAtEmpty
  unfold flushRings
  cases isTrue (flags &&& serialPurgeTxClear) with
  | true =>
      cases isTrue (flags &&& serialPurgeRxClear) with
      | true => exact (haborted.flush_ring .comToCompanion).flush_ring .companionToCom
      | false => exact haborted.flush_ring .comToCompanion
  | false =>
      cases isTrue (flags &&& serialPurgeRxClear) with
      | true => exact haborted.flush_ring .companionToCom
      | false => exact haborted

theorem immediate_char (req : IoctlRequest) (ch : UCHAR) :
    (immediateChar wdf pp req ch).1.ReadsAtEmpty :=
  h.withLane .comToCompanion (drain_reads_settled wdf _ _)

/-- A code with an input structure whose body keeps it. -/
theorem set_request (req : IoctlRequest) (size : ℕ) {body : PortPair × List Effect}
    (hbody : body.1.ReadsAtEmpty) : (setRequest wdf pp req size body).1.ReadsAtEmpty := by
  unfold setRequest
  split
  · exact hbody
  · exact h

theorem get_request (req : IoctlRequest) (size : ℕ) (output : Output) :
    (getRequest wdf pp req size output).1.ReadsAtEmpty := by
  unfold getRequest
  split <;> exact h

theorem set_wait_mask (mask : ULONG) : (setWaitMask wdf pp mask).1.ReadsAtEmpty := by
  have hpurged : { pp with waitMaskQueue := [] : PortPair }.ReadsAtEmpty :=
    h.of_lane fun d ↦ by cases d <;> rfl
  exact hpurged.notify wdf _ _

theorem wait_on_mask (req : IoctlRequest) : (waitOnMask wdf pp req).1.ReadsAtEmpty := by
  unfold waitOnMask
  split
  · exact h.of_lane fun d ↦ by cases d <;> rfl
  · exact h

/-- A COM-side IOCTL. -/
theorem com_ioctl (req : IoctlRequest) (ioctl : ComIoctl) :
    (gcomComEvtIoctl wdf pp req ioctl).1.ReadsAtEmpty := by
  unfold gcomComEvtIoctl
  split
  · exact h
  · cases ioctl with
    | getBaudRate | getLineControl | getTimeouts | getHandflow | getChars | getWaitMask
    | getModemStatus | getCommStatus | getProperties | getDtrRts | getStats | configSize
    | getModemControl => exact h.get_request wdf req _ _
    | setBaudRate | setLineControl | setHandflow | setChars | setModemControl =>
        exact h.set_request wdf req _ (h.notify wdf _ _)
    | setDtr | clrDtr | setRts | clrRts | setBreakOff => exact h.notify wdf _ _
    | setQueueSize | noOp | unknown => exact h
    | clearStats => exact h.of_lane fun d ↦ by cases d <;> rfl
    | setTimeouts timeouts =>
        exact h.set_request wdf req _ (h.of_lane fun d ↦ by cases d <;> rfl)
    | setBreakOn => exact (h.notify wdf _ _).check_wait_mask wdf serialEvBreak
    | setWaitMask mask => exact h.set_request wdf req _ (h.set_wait_mask wdf mask)
    | waitOnMask => exact h.wait_on_mask wdf req
    | purge flags => exact h.set_request wdf req _ (h.purge flags)
    | immediateChar ch => exact h.set_request wdf req _ (h.immediate_char wdf req ch)

/-- A companion-side IOCTL. -/
theorem comp_ioctl (req : IoctlRequest) (ioctl : CompIoctl) :
    (gcomCompEvtIoctl wdf pp req ioctl).1.ReadsAtEmpty := by
  unfold gcomCompEvtIoctl
  split
  · exact h
  · cases ioctl with
    | waitSignalChange =>
        show (waitSignalChange wdf pp req).1.ReadsAtEmpty
        unfold waitSignalChange
        split
        · exact h.of_lane fun d ↦ by cases d <;> rfl
        · exact h
    | getSignals => exact h.get_request wdf req _ _
    | setSignals dtrState rtsState =>
        have hlines : { pp with
            compDtr := isTrue dtrState
            compRts := isTrue rtsState : PortPair }.ReadsAtEmpty :=
          h.of_lane fun d ↦ by cases d <;> rfl
        refine h.set_request wdf req _ ?_
        unfold setSignals
        dsimp only
        split
        · exact hlines.check_wait_mask wdf _
        · exact hlines
    | unknown => exact h

/-- An open or a close of the COM side. -/
theorem com_open (id : RequestId) : (gcomComEvtFileCreate wdf pp id).pp.ReadsAtEmpty := by
  unfold gcomComEvtFileCreate
  split
  · exact h
  · split
    · exact h
    · have hopened : (gcomPortPairAddRef { pp with comSideOpen := 1 }).ReadsAtEmpty :=
        h.of_lane fun d ↦ by cases d <;> rfl
      exact hopened.of_lane fun d ↦ signal_changed_lane ..

theorem com_close : (gcomComEvtFileClose wdf pp).pp.ReadsAtEmpty := by
  have hclosed : { pp with comSideOpen := 0 : PortPair }.ReadsAtEmpty :=
    h.of_lane fun d ↦ by cases d <;> rfl
  unfold gcomComEvtFileClose
  by_cases hactive : pp.active = true
  · simp only [if_pos hactive]
    have hnotified := hclosed.of_lane fun d ↦
      signal_changed_lane wdf { pp with comSideOpen := 0 } changedComClose d
    exact hnotified.of_lane fun d ↦ by cases d <;> rfl
  · simp only [if_neg hactive]
    exact hclosed.of_lane fun d ↦ by cases d <;> rfl

/-- An open or a close of the companion side. -/
theorem comp_open (id : RequestId) : (gcomCompEvtFileCreate pp id).pp.ReadsAtEmpty := by
  unfold gcomCompEvtFileCreate
  split
  · exact h
  · split
    · exact h
    · exact h.of_lane fun d ↦ by cases d <;> rfl

theorem comp_close : (gcomCompEvtFileClose pp).pp.ReadsAtEmpty := by
  unfold gcomCompEvtFileClose
  cases pp.active <;> exact h.of_lane fun d ↦ by cases d <;> rfl

/-- Every callback. -/
theorem call (id : RequestId) (e : PairEvent) : (e.call id pp).1.ReadsAtEmpty := by
  cases e with
  | data e =>
      cases e with
      | comRead length wdf => exact h.com_read wdf _
      | comWrite data fits wdf => exact h.com_write wdf _
      | compRead length wdf => exact h.comp_read wdf _
      | compWrite data fits wdf => exact h.comp_write wdf _
      | setTimeouts inputLength timeouts wdf => exact h.com_ioctl wdf _ _
      | cancel request => exact h.cancel request
  | comIoctl inputLength outputLength ioctl wdf => exact h.com_ioctl wdf _ ioctl
  | compIoctl inputLength outputLength ioctl wdf => exact h.comp_ioctl wdf _ ioctl
  | comOpen wdf => exact h.com_open wdf id
  | comClose wdf => exact h.com_close wdf
  | compOpen => exact h.comp_open id
  | compClose => exact h.comp_close
  | cancelWait request => exact h.of_lane fun d ↦ by cases d <;> rfl
  | teardown =>
      intro d hne
      cases d <;> exact absurd rfl hne

end PortPair.ReadsAtEmpty

/-- In every state that the callbacks reach, reads are pended only at empty rings. -/
theorem DataPath.pair_run_reads (portNumber : ULONG) (events : List PairEvent) :
    ((initial portNumber).pairRun events).pair.ReadsAtEmpty := by
  have hinitial : (initial portNumber).pair.ReadsAtEmpty := fun d hne ↦ by
    rw [show (initial portNumber).pair = .initial portNumber from rfl,
      PortPair.initial_lane] at hne
    exact absurd rfl hne
  have hrun (s : DataPath) (h : s.pair.ReadsAtEmpty) : (s.pairRun events).pair.ReadsAtEmpty := by
    induction events generalizing s with
    | nil => exact h
    | cons e events ih => exact ih _ (h.call s.nextRequest e)
  exact hrun _ hinitial

end GhostCom
