import GhostCom.DataPath.CommEvents
import GhostCom.DataPath.WriteFates
import GhostCom.Library.Transition

/-!
# Statistics

`PerfStats` counts the bytes that the COM side sends and receives, and a successful completion says
how many bytes a request has sent. The handlers of COM reads and writes keep both promises for the
bytes they move themselves. `statistics_exact_iff` says when a run of the callbacks keeps them: no
request of the COM side is served by a callback of the companion side, and no character is sent by
`IOCTL_SERIAL_IMMEDIATE_CHAR`.
-/

namespace GhostCom

open Transition (EveryStep)

/-- The number of bytes in the entries of a history. -/
def entryBytes (history : List (ℕ × List UCHAR)) : ℕ := (history.flatMap Prod.snd).length

/-- The bytes that a callback puts into the ring to the companion. -/
def sentBytes (out : List Effect) : ℕ :=
  entryBytes (acceptedEntries (laneTrace .comToCompanion out))

/-- The bytes that a callback delivers to reads of the COM side. -/
def receivedBytes (out : List Effect) : ℕ :=
  entryBytes (removedEntries (laneTrace .companionToCom out))

namespace PairEvent

/-- What an `IMMEDIATE_CHAR` that succeeds reports as sent: its character. -/
def charReports (id : RequestId) (pp : PortPair) : PairEvent → List (ℕ × ℕ)
  | .comIoctl inputLength outputLength (.immediateChar ch) wdf =>
      if .completed id .success 0 .none ∈
          (call id pp (.comIoctl inputLength outputLength (.immediateChar ch) wdf)).2 then [(id, 1)]
      else []
  | _ => []

/-- `IOCTL_SERIAL_CLEAR_STATS` on an active pair. -/
def clearsStats (pp : PortPair) : PairEvent → Bool
  | .comIoctl _ _ .clearStats _ => pp.active
  | _ => false

/-- The callback sends no immediate character, and as a callback of the companion it serves no
pended request of the COM side. -/
def Counted (id : RequestId) (pp : PortPair) : PairEvent → Prop
  | .comIoctl inputLength _ (.immediateChar _) wdf =>
      ¬(pp.active = true ∧ retrieveBuffer wdf id 1 inputLength = .ok ())
  | .data (.compRead length wdf) =>
      ¬(pp.active = true ∧ retrieveBuffer wdf id 1 length.toNat = .ok () ∧
        pp.comToCompanion.contents ≠ [] ∧
          ∃ w ∈ pp.comWriteQueue, retrieveBuffer wdf w.id 1 w.data.length = .ok ())
  | .data (.compWrite bytes _ wdf) =>
      ¬(pp.active = true ∧ retrieveBuffer wdf id 1 bytes.length = .ok () ∧
        pp.companionToCom.contents.length < pp.companionToCom.capacity ∧
          ∃ r ∈ pp.comReadQueue, retrieveBuffer wdf r.id 1 r.length.toNat = .ok ())
  | _ => True

end PairEvent

/-- A pair with the bytes that the COM side has sent and received since the statistics were
cleared. -/
structure AccountRun where
  path : DataPath
  sent : ℕ
  received : ℕ

namespace AccountRun

/-- A new pair. -/
def start (portNumber : ULONG) : AccountRun := ⟨.initial portNumber, 0, 0⟩

/-- What a callback does. -/
def effects (s : AccountRun) (e : PairEvent) : List Effect :=
  (e.call s.path.nextRequest s.path.pair).2

/-- One callback. -/
def next (s : AccountRun) (e : PairEvent) : Option AccountRun :=
  some {
    path := s.path.pairStep e
    sent := if e.clearsStats s.path.pair then 0 else s.sent + sentBytes (s.effects e)
    received := if e.clearsStats s.path.pair then 0 else s.received + receivedBytes (s.effects e) }

/-- The statistics count what has been sent and received, modulo `2 ^ 32`. -/
def Accounted (s : AccountRun) : Prop :=
  s.path.pair.perfStats = ⟨BitVec.ofNat 32 s.received, BitVec.ofNat 32 s.sent⟩

/-- The successful completions of a callback report, in order, the bytes it has put into the ring
to the companion for each request of the COM side. -/
def Reported (s : AccountRun) (e : PairEvent) : Prop :=
  writeReports (laneTrace .comToCompanion (s.effects e)) ++
      e.charReports s.path.nextRequest s.path.pair =
    sizes (acceptedEntries (laneTrace .comToCompanion (s.effects e)))

end AccountRun

/-! ## What moves on a lane -/

@[simp] theorem entry_bytes_cons (entry : ℕ × List UCHAR) (history : List (ℕ × List UCHAR)) :
    entryBytes (entry :: history) = entry.2.length + entryBytes history := by
  simp [entryBytes]

@[simp] theorem entry_bytes_nil : entryBytes [] = 0 := rfl

/-- No bytes are moved exactly when no entry has any. -/
theorem entry_bytes_eq_zero_iff (history : List (ℕ × List UCHAR)) :
    entryBytes history = 0 ↔ ¬∃ entry ∈ history, entry.2 ≠ [] := by
  rw [entryBytes, List.length_eq_zero_iff, List.flatMap_eq_nil_iff]
  push Not
  rfl

/-- A ring holds less than `2 ^ 32` bytes. -/
theorem Ring.contents_lt (ring : Ring) : ring.contents.length < 2 ^ 32 := by
  rw [← Ring.readAvailable_toNat]
  exact BitVec.isLt _

/-- The loop over the pended reads takes what it delivers from the front of the ring. -/
theorem drain_reads_contents (wdf : Wdf) (reads : List ReadRequest) (ring : Ring) :
    (removedEntries (gcomDrainRingToReads wdf ring reads).2.2).flatMap Prod.snd ++
      (gcomDrainRingToReads wdf ring reads).1.contents = ring.contents := by
  have h := reads_drained wdf ring reads
  generalize gcomDrainRingToReads wdf ring reads = after at h ⊢
  induction h with
  | stop => rfl
  | dropped _ _ _ ih => exact ih
  | @served ring req rest after _ _ _ ih =>
      show ((ring.read req.length).2.2 ++ (removedEntries after.2.2).flatMap Prod.snd) ++ _ = _
      rw [List.append_assoc, ih, Ring.read_data, Ring.read_contents, List.take_append_drop]

/-- From a ring that holds something the loop delivers bytes exactly when one of the pended reads
has a buffer that can be mapped. -/
theorem drain_reads_remove_iff (wdf : Wdf) (reads : List ReadRequest) (ring : Ring)
    (hcontents : ring.contents ≠ []) :
    (∃ entry ∈ removedEntries (gcomDrainRingToReads wdf ring reads).2.2, entry.2 ≠ []) ↔
      ∃ req ∈ reads, retrieveBuffer wdf req.id 1 req.length.toNat = .ok () := by
  have h := reads_drained wdf ring reads
  generalize gcomDrainRingToReads wdf ring reads = after at h ⊢
  induction h with
  | @stop ring reads hstop =>
      have hreads : reads = [] := of_not_not fun hne ↦ hcontents (hstop hne)
      rw [hreads]
      simp [removedEntries]
  | @dropped _ req rest st _ _ hbuf _ ih =>
      refine (ih hcontents).trans ?_
      rw [List.exists_mem_cons_iff]
      exact (or_iff_right (by simp [hbuf])).symm
  | @served ring req rest _ _ hbuf _ _ =>
      -- a read that is mapped gets at least one byte
      have hlength := le_of_retrieve hbuf
      refine iff_of_true ?_ ⟨req, List.mem_cons_self .., hbuf⟩
      refine ⟨(req.id, (ring.read req.length).2.2), List.mem_cons_self .., ?_⟩
      show (ring.read req.length).2.2 ≠ []
      rw [Ring.read_data, Ne, List.take_eq_nil_iff]
      rintro (hzero | hnone)
      · omega
      · exact hcontents hnone

section Handlers

variable (wdf : Wdf) {lane : Lane}

/-- The count of a read handler is the number of bytes it delivers. -/
theorem evt_read_count (nonBlocking : Bool) (req : ReadRequest)
    (h : lane.readQueue ≠ [] → lane.ring.contents = []) :
    BitVec.ofNat 32 (entryBytes (removedEntries (lane.evtRead wdf nonBlocking req).2.2)) =
      (lane.evtRead wdf nonBlocking req).2.1 := by
  obtain ⟨ring, reads, writes⟩ := lane
  unfold Lane.evtRead
  cases hbuf : retrieveBuffer wdf req.id 1 req.length.toNat with
  | error st => rfl
  | ok =>
      simp only [ulong_min_self]
      by_cases hread : (ring.read req.length).2.1 > 0
      · have hcontents := (ring.read_pos_iff (le_of_retrieve hbuf)).mp hread
        have hreads : reads = [] := of_not_not fun hne ↦ hcontents (h hne)
        subst hreads
        rw [if_pos hread]
        -- no read is pended that the writes let in here could be delivered to
        have hremoved : removedEntries (.removed req (ring.read req.length).2.2 ::
            (gcomDrainWritesToRing wdf (ring.read req.length).1 [] writes).2 ++
              [.readDone req .success (ring.read req.length).2.1.toNat]) =
            [(req.id, (ring.read req.length).2.2)] := by
          rw [removed_entries_append, removedEntries, List.filterMap_cons, ← removedEntries,
            (drain_writes_no_reads wdf writes _).2]
          rfl
        dsimp only
        rw [hremoved, entry_bytes_cons, entry_bytes_nil, Nat.add_zero, Ring.read_data,
          List.length_take, ← Ring.read_count, BitVec.ofNat_toNat, BitVec.setWidth_eq]
      · rw [if_neg hread]
        split
        · rfl
        · split <;> rfl

/-- The completions of a read handler agree with the bytes it moves. -/
theorem evt_read_balanced (nonBlocking : Bool) (req : ReadRequest)
    (h : lane.readQueue ≠ [] → lane.ring.contents = []) :
    Balanced (lane.evtRead wdf nonBlocking req).2.2 := by
  obtain ⟨ring, reads, writes⟩ := lane
  unfold Lane.evtRead
  cases hbuf : retrieveBuffer wdf req.id 1 req.length.toNat with
  | error st => exact .read_empty req st
  | ok =>
      simp only [ulong_min_self]
      by_cases hread : (ring.read req.length).2.1 > 0
      · have hcontents := (ring.read_pos_iff (le_of_retrieve hbuf)).mp hread
        have hreads : reads = [] := of_not_not fun hne ↦ hcontents (h hne)
        subst hreads
        rw [if_pos hread]
        exact (Balanced.of_read ring req (le_of_retrieve hbuf) hcontents).read_around
          (drain_writes_balanced ..) (drain_writes_no_reads ..).2
      · rw [if_neg hread]
        split
        · exact .read_empty req .success
        · split
          · exact .nil
          · exact .read_empty req _

/-- The bytes that a read handler lets in are in the ring afterwards. -/
theorem evt_read_accepted_lt (nonBlocking : Bool) (req : ReadRequest)
    (h : lane.readQueue ≠ [] → lane.ring.contents = []) :
    entryBytes (acceptedEntries (lane.evtRead wdf nonBlocking req).2.2) < 2 ^ 32 := by
  by_cases hready : retrieveBuffer wdf req.id 1 req.length.toNat = .ok () ∧ lane.ring.contents ≠ []
  · have hcontents := congrArg List.length
      (evt_read_contents wdf nonBlocking req h hready.1 hready.2)
    rw [List.length_append, ← entryBytes] at hcontents
    have hlt := (lane.evtRead wdf nonBlocking req).1.ring.contents_lt
    omega
  · have hzero : entryBytes (acceptedEntries (lane.evtRead wdf nonBlocking req).2.2) = 0 := by
      rw [entry_bytes_eq_zero_iff, evt_read_accepts_iff]
      exact fun hall ↦ hready ⟨hall.1, hall.2.1⟩
    omega

/-- The count of a write handler is the number of bytes it puts into the ring. -/
theorem evt_write_count (req : WriteRequest) :
    BitVec.ofNat 32 (entryBytes (acceptedEntries (lane.evtWrite wdf req).2.2)) =
      (lane.evtWrite wdf req).2.1 := by
  obtain ⟨ring, reads, writes⟩ := lane
  unfold Lane.evtWrite
  cases hbuf : retrieveBuffer wdf req.id 1 req.data.length with
  | error st => rfl
  | ok =>
      dsimp only
      split
      · have haccepted : acceptedEntries (.accepted req (ring.write req).2.toNat ::
            (gcomDrainRingToReads wdf (ring.write req).1 reads).2.2 ++
              [.writeDone req .success (ring.write req).2.toNat]) =
            [(req.id, req.data.take (ring.write req).2.toNat)] := by
          rw [accepted_entries_append, acceptedEntries, List.filterMap_cons, ← acceptedEntries,
            drain_reads_no_accept]
          rfl
        have hcount : (ring.write req).2.toNat ≤ req.data.length := by
          rw [Ring.write_count]
          exact Nat.min_le_left _ _
        rw [haccepted, entry_bytes_cons, entry_bytes_nil, Nat.add_zero, List.length_take,
          Nat.min_eq_left hcount, BitVec.ofNat_toNat, BitVec.setWidth_eq]
      · split <;> rfl

/-- The completions of a write handler agree with the bytes it moves. -/
theorem evt_write_balanced (req : WriteRequest) : Balanced (lane.evtWrite wdf req).2.2 := by
  unfold Lane.evtWrite
  cases hbuf : retrieveBuffer wdf req.id 1 req.data.length with
  | error st => exact .write_failed req st
  | ok =>
      dsimp only
      split
      · exact (Balanced.of_write lane.ring req).write_around (drain_reads_balanced ..)
          (drain_reads_no_accept ..)
      · split
        · exact .nil
        · exact .write_failed req _

/-- What a write handler delivers to pended reads. -/
theorem evt_write_removed (req : WriteRequest) :
    removedEntries (lane.evtWrite wdf req).2.2 =
      if retrieveBuffer wdf req.id 1 req.data.length = .ok () ∧
          lane.ring.contents.length < lane.ring.capacity then
        removedEntries (gcomDrainRingToReads wdf (lane.ring.write req).1 lane.readQueue).2.2
      else [] := by
  unfold Lane.evtWrite
  cases hbuf : retrieveBuffer wdf req.id 1 req.data.length with
  | error st => rfl
  | ok =>
      simp only [lane.ring.write_pos_iff (le_of_retrieve hbuf), true_and]
      split
      · show removedEntries (_ ++ [LaneEffect.writeDone req .success _]) = _
        rw [removed_entries_append]
        exact List.append_nil _
      · split <;> rfl

/-- The bytes that a write handler delivers to pended reads were in the ring. -/
theorem evt_write_removed_lt (req : WriteRequest) :
    entryBytes (removedEntries (lane.evtWrite wdf req).2.2) < 2 ^ 32 := by
  rw [evt_write_removed]
  split
  · have hcontents := congrArg List.length
      (drain_reads_contents wdf lane.readQueue (lane.ring.write req).1)
    rw [List.length_append, ← entryBytes] at hcontents
    have hlt := (lane.ring.write req).1.contents_lt
    omega
  · decide

/-- A write handler delivers bytes exactly when its buffer can be mapped, there is room in the ring,
and one of the pended reads has a buffer that can be mapped. -/
theorem evt_write_removes_iff (req : WriteRequest) :
    (∃ entry ∈ removedEntries (lane.evtWrite wdf req).2.2, entry.2 ≠ []) ↔
      retrieveBuffer wdf req.id 1 req.data.length = .ok () ∧
        lane.ring.contents.length < lane.ring.capacity ∧
          ∃ r ∈ lane.readQueue, retrieveBuffer wdf r.id 1 r.length.toNat = .ok () := by
  rw [evt_write_removed]
  by_cases hready : retrieveBuffer wdf req.id 1 req.data.length = .ok () ∧
      lane.ring.contents.length < lane.ring.capacity
  · obtain ⟨hbuf, hroom⟩ := hready
    have hlength := le_of_retrieve hbuf
    have hwritten := ulong_pos_iff.mp ((lane.ring.write_pos_iff hlength).mpr hroom)
    have hcontents : (lane.ring.write req).1.contents ≠ [] := by
      rw [Ring.write_contents, Ne, List.append_eq_nil_iff, List.take_eq_nil_iff]
      rintro ⟨-, hzero | hnone⟩
      · omega
      · exact absurd (List.length_eq_zero_iff.mpr hnone) (by omega)
    rw [if_pos ⟨hbuf, hroom⟩, and_iff_right hbuf, and_iff_right hroom]
    exact drain_reads_remove_iff wdf lane.readQueue _ hcontents
  · rw [if_neg hready]
    exact iff_of_false nofun fun hall ↦ hready ⟨hall.1, hall.2.1⟩

end Handlers

/-! ## Callbacks that move nothing -/

/-- A request that the framework cancels. -/
def LaneEffect.Cancels (effect : LaneEffect) : Prop :=
  (∃ req, effect = .readDone req .cancelled 0) ∨ ∃ req, effect = .writeDone req .cancelled 0

/-- A callback that leaves the statistics alone, and does nothing on a lane but cancel requests. -/
structure Unmoved (pp : PortPair) (result : PortPair × List Effect) : Prop where
  stats : result.1.perfStats = pp.perfStats
  cancels : ∀ d, ∀ effect ∈ laneTrace d result.2, effect.Cancels

namespace Unmoved

variable {pp : PortPair} {result : PortPair × List Effect}

/-- A callback that is not seen on the lanes. -/
theorem of_lane_trace (hstats : result.1.perfStats = pp.perfStats)
    (htrace : ∀ d, laneTrace d result.2 = []) : Unmoved pp result where
  stats := hstats
  cancels d effect heffect := by
    rw [htrace d] at heffect
    cases heffect

/-- Effects that are not seen on the lanes may follow. -/
theorem append (h : Unmoved pp result) {out : List Effect} (hout : ∀ d, laneTrace d out = []) :
    Unmoved pp (result.1, result.2 ++ out) where
  stats := h.stats
  cancels d := by
    rw [lane_trace_append, hout d, List.append_nil]
    exact h.cancels d

/-- Another such callback may follow. -/
theorem then_unmoved (h : Unmoved pp result) {later : PortPair × List Effect}
    (hlater : Unmoved result.1 later) : Unmoved pp (later.1, result.2 ++ later.2) where
  stats := hlater.stats.trans h.stats
  cancels d effect heffect := by
    rw [lane_trace_append] at heffect
    rcases List.mem_append.mp heffect with hfirst | hsecond
    · exact h.cancels d effect hfirst
    · exact hlater.cancels d effect hsecond

/-- Cancellations move no bytes and report none. -/
theorem silent (h : Unmoved pp result) (d : Direction) :
    acceptedEntries (laneTrace d result.2) = [] ∧ removedEntries (laneTrace d result.2) = [] ∧
      writeReports (laneTrace d result.2) = [] := by
  refine ⟨?_, ?_, ?_⟩
  all_goals
    refine List.filterMap_eq_nil_iff.mpr fun effect heffect ↦ ?_
    rcases h.cancels d effect heffect with ⟨req, rfl⟩ | ⟨req, rfl⟩ <;> rfl

end Unmoved

/-- The framework cancels reads and writes of a direction. -/
theorem unmoved_of_cancelled {pp : PortPair} {result : PortPair × List Effect}
    (hstats : result.1.perfStats = pp.perfStats) (d : Direction) (reads : List ReadRequest)
    (writes : List WriteRequest)
    (hout : result.2 = laneEffects d
      (reads.map (.readDone · .cancelled 0) ++ writes.map (.writeDone · .cancelled 0))) :
    Unmoved pp result where
  stats := hstats
  cancels other effect heffect := by
    rw [hout, lane_trace_lane_effects] at heffect
    split at heffect
    · rcases List.mem_append.mp heffect with hread | hwrite
      · obtain ⟨req, -, rfl⟩ := List.mem_map.mp hread
        exact .inl ⟨req, rfl⟩
      · obtain ⟨req, -, rfl⟩ := List.mem_map.mp hwrite
        exact .inr ⟨req, rfl⟩
    · cases heffect

section Ioctls

variable (wdf : Wdf) (pp : PortPair) (req : IoctlRequest)

theorem check_wait_mask_unmoved (events : ULONG) :
    Unmoved pp (gcomCheckWaitMask wdf pp events) := by
  refine .of_lane_trace ?_ fun d ↦ lane_trace_check_wait_mask d wdf pp events
  obtain ⟨waits, h⟩ := check_wait_mask_pair wdf pp events
  rw [h]

theorem signal_changed_unmoved (changedBits : ULONG) :
    Unmoved pp (gcomSignalChanged wdf pp changedBits) := by
  refine .of_lane_trace ?_ fun d ↦ lane_trace_signal_changed d wdf pp changedBits
  unfold gcomSignalChanged
  split <;> rfl

theorem notify_unmoved (state : SignalState) (changedBits : ULONG) :
    Unmoved pp (notify wdf pp state changedBits) := by
  have h := signal_changed_unmoved wdf { pp with signalState := state } changedBits
  exact ⟨h.stats, h.cancels⟩

theorem complete_unmoved (st : NTSTATUS) : Unmoved pp (pp, [complete req st]) :=
  .of_lane_trace rfl fun _ ↦ rfl

theorem get_request_unmoved (size : ℕ) (output : Output) :
    Unmoved pp (getRequest wdf pp req size output) := by
  unfold getRequest
  split <;> exact .of_lane_trace rfl fun _ ↦ rfl

theorem set_request_unmoved (size : ℕ) {body : PortPair × List Effect} (h : Unmoved pp body) :
    Unmoved pp (setRequest wdf pp req size body) := by
  unfold setRequest
  split
  · exact h.append fun _ ↦ rfl
  · exact complete_unmoved pp req _

theorem purge_queue_unmoved (d : Direction) : Unmoved pp (purgeQueue pp d) := by
  cases d with
  | comToCompanion => exact unmoved_of_cancelled rfl .comToCompanion [] pp.comWriteQueue rfl
  | companionToCom =>
      refine unmoved_of_cancelled rfl .companionToCom pp.comReadQueue [] ?_
      rw [List.map_nil, List.append_nil]
      rfl

/-- A section of `IOCTL_SERIAL_PURGE` whose flag may be unset. -/
theorem purge_flag_unmoved (flag : Bool) (d : Direction) :
    Unmoved pp (if flag then purgeQueue pp d else (pp, [])) := by
  cases flag with
  | true => exact purge_queue_unmoved pp d
  | false => exact .of_lane_trace rfl fun _ ↦ rfl

theorem purge_unmoved (flags : ULONG) : Unmoved pp (purge pp flags) := by
  have haborted := (purge_flag_unmoved pp (isTrue (flags &&& serialPurgeTxAbort))
    .comToCompanion).then_unmoved
      (purge_flag_unmoved _ (isTrue (flags &&& serialPurgeRxAbort)) .companionToCom)
  refine ⟨?_, haborted.cancels⟩
  rw [← haborted.stats]
  unfold purge flushRings
  dsimp only
  cases isTrue (flags &&& serialPurgeTxClear) <;> cases isTrue (flags &&& serialPurgeRxClear) <;>
    rfl

theorem set_wait_mask_unmoved (mask : ULONG) : Unmoved pp (setWaitMask wdf pp mask) := by
  have hcancelled (d : Direction) : laneTrace d
      (pp.waitMaskQueue.map fun req ↦ Effect.completed req.id .cancelled 0 .none) = [] :=
    lane_trace_waits d (fun _ ↦ rfl) pp.waitMaskQueue
  have hpurged : Unmoved pp ({ pp with waitMaskQueue := [] },
      pp.waitMaskQueue.map fun req ↦ Effect.completed req.id .cancelled 0 .none) :=
    .of_lane_trace rfl hcancelled
  exact hpurged.then_unmoved (notify_unmoved wdf _ _ _)

theorem wait_on_mask_unmoved : Unmoved pp (waitOnMask wdf pp req) := by
  unfold waitOnMask
  split <;> exact .of_lane_trace rfl fun _ ↦ rfl

/-- The IOCTLs of the COM side leave the statistics and the data alone, but for two of them. -/
theorem com_ioctl_unmoved (ioctl : ComIoctl) (hchar : ∀ ch, ioctl ≠ .immediateChar ch)
    (hclear : ioctl ≠ .clearStats) : Unmoved pp (gcomComEvtIoctl wdf pp req ioctl) := by
  unfold gcomComEvtIoctl
  split
  · exact complete_unmoved pp req _
  cases ioctl with
  | getBaudRate | getLineControl | getTimeouts | getHandflow | getChars | getWaitMask
  | getModemStatus | getCommStatus | getProperties | getDtrRts | getStats | configSize
  | getModemControl => exact get_request_unmoved wdf pp req _ _
  | setBaudRate | setLineControl | setHandflow | setChars | setModemControl =>
      exact set_request_unmoved wdf pp req _ (notify_unmoved wdf pp _ _)
  | setDtr | clrDtr | setRts | clrRts | setBreakOff =>
      exact (notify_unmoved wdf pp _ _).append fun _ ↦ rfl
  | setQueueSize | noOp | unknown => exact complete_unmoved pp req _
  | clearStats => exact absurd rfl hclear
  | setTimeouts timeouts =>
      exact set_request_unmoved wdf pp req _ (.of_lane_trace rfl fun _ ↦ rfl)
  | setBreakOn =>
      exact ((notify_unmoved wdf pp _ _).then_unmoved
        (check_wait_mask_unmoved wdf _ serialEvBreak)).append fun _ ↦ rfl
  | setWaitMask mask => exact set_request_unmoved wdf pp req _ (set_wait_mask_unmoved wdf pp mask)
  | waitOnMask => exact wait_on_mask_unmoved wdf pp req
  | purge flags => exact set_request_unmoved wdf pp req _ (purge_unmoved pp flags)
  | immediateChar ch => exact absurd rfl (hchar ch)

theorem set_signals_unmoved (dtrState rtsState : ULONG) :
    Unmoved pp (setSignals wdf pp dtrState rtsState) := by
  unfold setSignals
  dsimp only
  split
  · have h (events : ULONG) := check_wait_mask_unmoved wdf
      { pp with compDtr := isTrue dtrState, compRts := isTrue rtsState } events
    exact ⟨(h _).stats, (h _).cancels⟩
  · exact .of_lane_trace rfl fun _ ↦ rfl

/-- The IOCTLs of the companion side leave the statistics and the data alone. -/
theorem comp_ioctl_unmoved (ioctl : CompIoctl) :
    Unmoved pp (gcomCompEvtIoctl wdf pp req ioctl) := by
  unfold gcomCompEvtIoctl
  split
  · exact complete_unmoved pp req _
  cases ioctl with
  | waitSignalChange =>
      show Unmoved pp (waitSignalChange wdf pp req)
      unfold waitSignalChange
      split <;> exact .of_lane_trace rfl fun _ ↦ rfl
  | getSignals => exact get_request_unmoved wdf pp req _ _
  | setSignals dtrState rtsState =>
      exact set_request_unmoved wdf pp req _ (set_signals_unmoved wdf pp dtrState rtsState)
  | unknown => exact complete_unmoved pp req _

end Ioctls

section Files

variable (wdf : Wdf) (pp : PortPair) (id : RequestId)

theorem com_open_unmoved :
    Unmoved pp ((gcomComEvtFileCreate wdf pp id).pp, (gcomComEvtFileCreate wdf pp id).effects) := by
  unfold gcomComEvtFileCreate
  split
  · exact .of_lane_trace rfl fun _ ↦ rfl
  · split
    · exact .of_lane_trace rfl fun _ ↦ rfl
    · have h := signal_changed_unmoved wdf
        (gcomPortPairAddRef { pp with comSideOpen := 1 }) changedComOpen
      have hopened : Unmoved pp (gcomSignalChanged wdf
          (gcomPortPairAddRef { pp with comSideOpen := 1 }) changedComOpen) := ⟨h.stats, h.cancels⟩
      have hdone (d : Direction) : laneTrace d [Effect.completed id .success 0 .none] = [] := rfl
      exact hopened.append hdone

theorem com_close_unmoved :
    Unmoved pp ((gcomComEvtFileClose wdf pp).pp, (gcomComEvtFileClose wdf pp).effects) := by
  unfold gcomComEvtFileClose
  by_cases hactive : pp.active = true
  · simp only [if_pos hactive]
    have h := signal_changed_unmoved wdf { pp with comSideOpen := 0 } changedComClose
    exact ⟨h.stats, h.cancels⟩
  · simp only [if_neg hactive]
    exact .of_lane_trace rfl fun _ ↦ rfl

theorem comp_open_unmoved :
    Unmoved pp ((gcomCompEvtFileCreate pp id).pp, (gcomCompEvtFileCreate pp id).effects) := by
  unfold gcomCompEvtFileCreate
  split
  · exact .of_lane_trace rfl fun _ ↦ rfl
  · split <;> exact .of_lane_trace rfl fun _ ↦ rfl

theorem comp_close_unmoved :
    Unmoved pp ((gcomCompEvtFileClose pp).pp, (gcomCompEvtFileClose pp).effects) := by
  unfold gcomCompEvtFileClose
  cases pp.active <;> exact .of_lane_trace rfl fun _ ↦ rfl

theorem cancel_unmoved : Unmoved pp (pp.cancel id) := by
  have htx : Unmoved pp (pp.withLane .comToCompanion ((pp.lane .comToCompanion).cancel id).1,
      laneEffects .comToCompanion ((pp.lane .comToCompanion).cancel id).2) :=
    unmoved_of_cancelled rfl .comToCompanion _ _ rfl
  have hrx (pp : PortPair) : Unmoved pp
      (pp.withLane .companionToCom ((pp.lane .companionToCom).cancel id).1,
        laneEffects .companionToCom ((pp.lane .companionToCom).cancel id).2) :=
    unmoved_of_cancelled rfl .companionToCom _ _ rfl
  exact htx.then_unmoved (hrx _)

theorem cancel_wait_unmoved : Unmoved pp (pp.cancelWait id) := by
  refine .of_lane_trace rfl fun d ↦ ?_
  have hwaits (waits : List WaitRequest) : laneTrace d (waits.map cancelledWait) = [] :=
    lane_trace_waits d (fun _ ↦ rfl) waits
  unfold PortPair.cancelWait
  rw [lane_trace_append, hwaits, hwaits, List.append_nil]

theorem teardown_unmoved : Unmoved pp pp.teardown := by
  have hwaits (d : Direction) : laneTrace d
      ((pp.signalWaitQueue ++ pp.waitMaskQueue).map cancelledWait) = [] :=
    lane_trace_waits d (fun _ ↦ rfl) _
  have hrx : Unmoved pp (pp, laneEffects .companionToCom
      ((pp.lane .companionToCom).purgeReads.2 ++ (pp.lane .companionToCom).purgeWrites.2)) :=
    unmoved_of_cancelled rfl .companionToCom pp.comReadQueue pp.compWriteQueue rfl
  have htx : Unmoved pp (pp.teardown.1, laneEffects .comToCompanion
      ((pp.lane .comToCompanion).purgeReads.2 ++ (pp.lane .comToCompanion).purgeWrites.2)) :=
    unmoved_of_cancelled rfl .comToCompanion pp.compReadQueue pp.comWriteQueue rfl
  exact (hrx.then_unmoved htx).append hwaits

end Files

/-! ## Which callbacks are counted -/

/-- A callback counts the bytes it moves and reports those it sends, where `chars` is what it
reports of immediate characters. -/
structure Tallies (pp : PortPair) (result : PortPair × List Effect) (chars : List (ℕ × ℕ)) :
    Prop where
  transmitted : result.1.perfStats.transmittedCount =
    pp.perfStats.transmittedCount + BitVec.ofNat 32 (sentBytes result.2)
  received : result.1.perfStats.receivedCount =
    pp.perfStats.receivedCount + BitVec.ofNat 32 (receivedBytes result.2)
  reported : writeReports (laneTrace .comToCompanion result.2) ++ chars =
    sizes (acceptedEntries (laneTrace .comToCompanion result.2))

/-- A counter that is left alone is right exactly when nothing was there to count. -/
theorem unchanged_count_iff {a : ULONG} {n : ℕ} (hn : n < 2 ^ 32) :
    a = a + BitVec.ofNat 32 n ↔ n = 0 := by
  constructor
  · intro h
    have hzero : BitVec.ofNat 32 n = 0 :=
      (BitVec.add_right_inj a).mp (h.symm.trans (BitVec.add_zero a).symm)
    have htoNat := congrArg BitVec.toNat hzero
    rwa [BitVec.toNat_ofNat, Nat.mod_eq_of_lt hn] at htoNat
  · rintro rfl
    exact (BitVec.add_zero a).symm

/-- A callback that works on the lane to the companion counts right if it counts what enters. -/
theorem tallies_sending_iff {pp pp' : PortPair} {out : List LaneEffect}
    (hreceived : pp'.perfStats.receivedCount = pp.perfStats.receivedCount) (h : Balanced out) :
    Tallies pp (pp', laneEffects .comToCompanion out) [] ↔
      pp'.perfStats.transmittedCount = pp.perfStats.transmittedCount +
        BitVec.ofNat 32 (entryBytes (acceptedEntries out)) := by
  have hsent : sentBytes (laneEffects .comToCompanion out) = entryBytes (acceptedEntries out) := by
    rw [sentBytes, lane_trace_lane_effects]
    rfl
  constructor
  · intro htallies
    have htransmitted := htallies.transmitted
    rwa [hsent] at htransmitted
  · intro hcount
    refine ⟨hsent ▸ hcount, ?_, ?_⟩
    · rw [hreceived, receivedBytes, lane_trace_lane_effects]
      exact (BitVec.add_zero _).symm
    · rw [lane_trace_lane_effects, if_pos rfl, List.append_nil]
      exact h.writes

/-- A callback that works on the lane to the COM side counts right if it counts what leaves. -/
theorem tallies_receiving_iff {pp pp' : PortPair} {out : List LaneEffect}
    (htransmitted : pp'.perfStats.transmittedCount = pp.perfStats.transmittedCount) :
    Tallies pp (pp', laneEffects .companionToCom out) [] ↔
      pp'.perfStats.receivedCount = pp.perfStats.receivedCount +
        BitVec.ofNat 32 (entryBytes (removedEntries out)) := by
  have hreceived : receivedBytes (laneEffects .companionToCom out) =
      entryBytes (removedEntries out) := by
    rw [receivedBytes, lane_trace_lane_effects]
    rfl
  constructor
  · intro htallies
    have hcount := htallies.received
    rwa [hreceived] at hcount
  · intro hcount
    refine ⟨?_, hreceived ▸ hcount, ?_⟩
    · rw [htransmitted, sentBytes, lane_trace_lane_effects]
      exact (BitVec.add_zero _).symm
    · rw [lane_trace_lane_effects]
      rfl

/-- A comm event that follows neither moves nor counts. -/
theorem Tallies.raise_iff {pp pp' : PortPair} {out : List Effect} {chars : List (ℕ × ℕ)}
    (wdf : Wdf) (events : ULONG) :
    Tallies pp ((gcomCheckWaitMask wdf pp' events).1,
      out ++ (gcomCheckWaitMask wdf pp' events).2) chars ↔ Tallies pp (pp', out) chars := by
  have hstats := (check_wait_mask_unmoved wdf pp' events).stats
  have htrace (d : Direction) : laneTrace d (out ++ (gcomCheckWaitMask wdf pp' events).2) =
      laneTrace d out := by
    rw [lane_trace_append, lane_trace_check_wait_mask, List.append_nil]
  have hsent : sentBytes (out ++ (gcomCheckWaitMask wdf pp' events).2) = sentBytes out := by
    rw [sentBytes, htrace, sentBytes]
  have hreceived : receivedBytes (out ++ (gcomCheckWaitMask wdf pp' events).2) =
      receivedBytes out := by
    rw [receivedBytes, htrace, receivedBytes]
  constructor
  · rintro ⟨htransmitted, hcount, hreported⟩
    rw [hstats, hsent] at htransmitted
    rw [hstats, hreceived] at hcount
    rw [htrace] at hreported
    exact ⟨htransmitted, hcount, hreported⟩
  · rintro ⟨htransmitted, hcount, hreported⟩
    refine ⟨?_, ?_, ?_⟩
    · rw [hstats, hsent]
      exact htransmitted
    · rw [hstats, hreceived]
      exact hcount
    · rw [htrace]
      exact hreported

section Tallies

variable {pp : PortPair} {id : RequestId}

/-- A callback that moves nothing. -/
theorem Unmoved.tallies {result : PortPair × List Effect} (h : Unmoved pp result) :
    Tallies pp result [] := by
  have htx := h.silent .comToCompanion
  have hrx := h.silent .companionToCom
  refine ⟨?_, ?_, ?_⟩
  · rw [h.stats, sentBytes, htx.1]
    exact (BitVec.add_zero _).symm
  · rw [h.stats, receivedBytes, hrx.2.1]
    exact (BitVec.add_zero _).symm
  · rw [htx.1, htx.2.2]
    rfl

/-- A COM read delivers to itself alone, and counts what it gets. -/
theorem com_read_tallies (wdf : Wdf) (req : ReadRequest) (h : pp.ReadsAtEmpty) :
    Tallies pp (gcomComEvtRead wdf pp req) [] := by
  unfold gcomComEvtRead
  split
  · exact ⟨(BitVec.add_zero _).symm, (BitVec.add_zero _).symm, rfl⟩
  · dsimp only
    set result := (pp.lane .companionToCom).evtRead wdf pp.timeouts.nonBlocking req
    have hcount : BitVec.ofNat 32 (entryBytes (removedEntries result.2.2)) = result.2.1 :=
      evt_read_count wdf pp.timeouts.nonBlocking req (h .companionToCom)
    refine (tallies_receiving_iff ?_).mpr ?_
    · rfl
    · rw [hcount]
      rfl

/-- A COM write counts what it puts into the ring. -/
theorem com_write_tallies (wdf : Wdf) (req : WriteRequest) :
    Tallies pp (gcomComEvtWrite wdf pp req) [] := by
  unfold gcomComEvtWrite
  split
  · exact ⟨(BitVec.add_zero _).symm, (BitVec.add_zero _).symm, rfl⟩
  · dsimp only
    set result := (pp.lane .comToCompanion).evtWrite wdf req
    have hcount : BitVec.ofNat 32 (entryBytes (acceptedEntries result.2.2)) = result.2.1 :=
      evt_write_count wdf req
    have hbalanced : Balanced result.2.2 := evt_write_balanced wdf req
    have htallies : Tallies pp ({ pp.withLane .comToCompanion result.1 with
        perfStats.transmittedCount := pp.perfStats.transmittedCount + result.2.1 },
        laneEffects .comToCompanion result.2.2) [] := by
      refine (tallies_sending_iff ?_ hbalanced).mpr ?_
      · rfl
      · rw [hcount]
    split
    · exact (Tallies.raise_iff wdf serialEvTxEmpty).mpr htallies
    · exact htallies

/-- A callback of the companion that sends bytes of pended COM writes counts none of them. -/
theorem comp_read_tallies_iff (wdf : Wdf) (req : ReadRequest) (h : pp.ReadsAtEmpty) :
    Tallies pp (gcomCompEvtRead wdf pp req) [] ↔
      ¬(pp.active = true ∧ retrieveBuffer wdf req.id 1 req.length.toNat = .ok () ∧
        pp.comToCompanion.contents ≠ [] ∧
          ∃ w ∈ pp.comWriteQueue, retrieveBuffer wdf w.id 1 w.data.length = .ok ()) := by
  unfold gcomCompEvtRead
  by_cases hactive : pp.active = true
  · rw [if_neg (by simp [hactive]), and_iff_right hactive]
    dsimp only
    set result := (pp.lane .comToCompanion).evtRead wdf false req
    have hlt : entryBytes (acceptedEntries result.2.2) < 2 ^ 32 :=
      evt_read_accepted_lt wdf false req (h .comToCompanion)
    have hbalanced : Balanced result.2.2 := evt_read_balanced wdf false req (h .comToCompanion)
    have hsends := (entry_bytes_eq_zero_iff (acceptedEntries result.2.2)).trans
      (not_congr (evt_read_accepts_iff wdf false req))
    -- the count stays, so it is right only if nothing enters
    refine (tallies_sending_iff ?_ hbalanced).trans ?_
    · rfl
    · exact (unchanged_count_iff hlt).trans hsends
  · rw [if_pos (by simpa using hactive)]
    refine iff_of_true ?_ fun hall ↦ hactive hall.1
    exact ⟨(BitVec.add_zero _).symm, (BitVec.add_zero _).symm, rfl⟩

/-- A callback of the companion that delivers to pended COM reads counts nothing. -/
theorem comp_write_tallies_iff (wdf : Wdf) (req : WriteRequest) :
    Tallies pp (gcomCompEvtWrite wdf pp req) [] ↔
      ¬(pp.active = true ∧ retrieveBuffer wdf req.id 1 req.data.length = .ok () ∧
        pp.companionToCom.contents.length < pp.companionToCom.capacity ∧
          ∃ r ∈ pp.comReadQueue, retrieveBuffer wdf r.id 1 r.length.toNat = .ok ()) := by
  unfold gcomCompEvtWrite
  by_cases hactive : pp.active = true
  · rw [if_neg (by simp [hactive]), and_iff_right hactive]
    dsimp only
    set result := (pp.lane .companionToCom).evtWrite wdf req
    have hlt : entryBytes (removedEntries result.2.2) < 2 ^ 32 := evt_write_removed_lt wdf req
    have hdelivers := (entry_bytes_eq_zero_iff (removedEntries result.2.2)).trans
      (not_congr (evt_write_removes_iff wdf req))
    have hright := (unchanged_count_iff (a := pp.perfStats.receivedCount) hlt).trans hdelivers
    refine Iff.trans ?_ hright
    have hstored : Tallies pp (pp.withLane .companionToCom result.1,
        laneEffects .companionToCom result.2.2) [] ↔
        pp.perfStats.receivedCount = pp.perfStats.receivedCount +
          BitVec.ofNat 32 (entryBytes (removedEntries result.2.2)) :=
      tallies_receiving_iff (by rfl)
    split
    · exact (Tallies.raise_iff wdf serialEvRxChar).trans hstored
    · exact hstored
  · rw [if_pos (by simpa using hactive)]
    refine iff_of_true ?_ fun hall ↦ hactive hall.1
    exact ⟨(BitVec.add_zero _).symm, (BitVec.add_zero _).symm, rfl⟩

/-- What `immediateChar` does to the lane: the character enters if there is room, and neither a
write is reported nor a byte counted. -/
theorem immediate_char_moves (wdf : Wdf) (pp : PortPair) (req : IoctlRequest) (ch : UCHAR) :
    ∃ entry : List UCHAR, entry.length ≤ 1 ∧
      (immediateChar wdf pp req ch).1.perfStats = pp.perfStats ∧
      acceptedEntries (laneTrace .comToCompanion (immediateChar wdf pp req ch).2) =
        [(req.id, entry)] ∧
      writeReports (laneTrace .comToCompanion (immediateChar wdf pp req ch).2) = [] := by
  set written := (pp.lane .comToCompanion).ring.write ⟨req.id, [ch], by simp⟩ with hwritten
  have htrace : laneTrace .comToCompanion (immediateChar wdf pp req ch).2 =
      .accepted ⟨req.id, [ch], by simp⟩ written.2.toNat ::
        (gcomDrainRingToReads wdf written.1 (pp.lane .comToCompanion).readQueue).2.2 :=
    lane_trace_lane_effects .comToCompanion .comToCompanion _
  have hnone := drain_reads_no_accept wdf (pp.lane .comToCompanion).readQueue written.1
  have hreports := (drain_reads_balanced wdf (pp.lane .comToCompanion).readQueue written.1).writes
  rw [hnone] at hreports
  rw [htrace]
  refine ⟨[ch].take written.2.toNat, List.length_take_le' _ _, rfl, ?_, hreports⟩
  rw [acceptedEntries, List.filterMap_cons, ← acceptedEntries, hnone]
  rfl

/-- A character that enters the ring is not counted, and one that finds the ring full is reported
all the same. -/
theorem immediate_char_tallies_iff (wdf : Wdf) (req : IoctlRequest) (ch : UCHAR) :
    Tallies pp (gcomComEvtIoctl wdf pp req (.immediateChar ch))
        (if .completed req.id .success 0 .none ∈
          (gcomComEvtIoctl wdf pp req (.immediateChar ch)).2 then [(req.id, 1)] else []) ↔
      ¬(pp.active = true ∧ retrieveBuffer wdf req.id 1 req.inputLength = .ok ()) := by
  have hrefused (st : NTSTATUS) (hst : st ≠ .success)
      (hresult : gcomComEvtIoctl wdf pp req (.immediateChar ch) = (pp, [complete req st])) :
      Tallies pp (gcomComEvtIoctl wdf pp req (.immediateChar ch))
        (if .completed req.id .success 0 .none ∈
          (gcomComEvtIoctl wdf pp req (.immediateChar ch)).2 then [(req.id, 1)] else []) := by
    rw [hresult, if_neg (by simpa [complete] using hst.symm)]
    exact (complete_unmoved pp req st).tallies
  by_cases hactive : pp.active = true
  · have hrequest : gcomComEvtIoctl wdf pp req (.immediateChar ch) =
        setRequest wdf pp req 1 (immediateChar wdf pp req ch) := by
      unfold gcomComEvtIoctl
      rw [if_neg (by simp [hactive])]
    rw [and_iff_right hactive]
    cases hbuf : retrieveBuffer wdf req.id 1 req.inputLength with
    | error st =>
        refine iff_of_true (hrefused st st.2 ?_) nofun
        rw [hrequest, setRequest, hbuf]
    | ok =>
        refine iff_of_false ?_ (not_not_intro rfl)
        have hserved : gcomComEvtIoctl wdf pp req (.immediateChar ch) =
            ((immediateChar wdf pp req ch).1,
              (immediateChar wdf pp req ch).2 ++ [complete req .success]) := by
          rw [hrequest, setRequest, hbuf]
        obtain ⟨entry, hlength, hstats, haccepted, hreports⟩ :=
          immediate_char_moves wdf pp req ch
        have hdone : Effect.completed req.id .success 0 .none ∈
            (immediateChar wdf pp req ch).2 ++ [complete req .success] :=
          List.mem_append_right _ (List.mem_singleton_self _)
        have htrace : laneTrace .comToCompanion
            ((immediateChar wdf pp req ch).2 ++ [complete req .success]) =
            laneTrace .comToCompanion (immediateChar wdf pp req ch).2 := by
          rw [lane_trace_append]
          exact List.append_nil _
        rw [hserved, if_pos hdone]
        intro htallies
        -- the count says that nothing was sent, the completion that the character was
        have htransmitted := htallies.transmitted
        rw [hstats, sentBytes, htrace, haccepted, entry_bytes_cons, entry_bytes_nil,
          Nat.add_zero] at htransmitted
        have hzero : entry.length = 0 :=
          (unchanged_count_iff (show entry.length < 2 ^ 32 by omega)).mp htransmitted
        have hreported := htallies.reported
        rw [htrace, hreports, haccepted] at hreported
        have hone : 1 = entry.length := congrArg Prod.snd (List.head_eq_of_cons_eq hreported)
        omega
  · refine iff_of_true (hrefused .deviceNotConnected nofun ?_) fun hall ↦ hactive hall.1
    unfold gcomComEvtIoctl
    rw [if_pos (by simpa using hactive)]

/-- A callback that does not clear the statistics counts what it moves, and reports what it sends,
exactly when it is `Counted`. -/
theorem call_tallies_iff (e : PairEvent) (h : pp.ReadsAtEmpty) (hclear : e.clearsStats pp = false) :
    Tallies pp (e.call id pp) (e.charReports id pp) ↔ e.Counted id pp := by
  cases e with
  | data e =>
      cases e with
      | comRead length wdf => exact iff_of_true (com_read_tallies wdf ⟨id, length⟩ h) trivial
      | comWrite bytes fits wdf =>
          exact iff_of_true (com_write_tallies wdf ⟨id, bytes, fits⟩) trivial
      | compRead length wdf => exact comp_read_tallies_iff wdf ⟨id, length⟩ h
      | compWrite bytes fits wdf => exact comp_write_tallies_iff wdf ⟨id, bytes, fits⟩
      | setTimeouts inputLength timeouts wdf =>
          refine iff_of_true (Unmoved.tallies ?_) trivial
          exact com_ioctl_unmoved wdf pp ⟨id, inputLength, 0⟩ (.setTimeouts timeouts)
            (fun _ ↦ nofun) nofun
      | cancel request => exact iff_of_true (cancel_unmoved pp request).tallies trivial
  | comIoctl inputLength outputLength ioctl wdf =>
      have hother := com_ioctl_unmoved wdf pp ⟨id, inputLength, outputLength⟩ ioctl
      cases ioctl with
      | immediateChar ch =>
          exact immediate_char_tallies_iff wdf ⟨id, inputLength, outputLength⟩ ch
      | clearStats =>
          have hresult : gcomComEvtIoctl wdf pp ⟨id, inputLength, outputLength⟩ .clearStats =
              (pp, [complete ⟨id, inputLength, outputLength⟩ .deviceNotConnected]) := by
            have hinactive : pp.active = false := hclear
            unfold gcomComEvtIoctl
            rw [if_pos (by simp [hinactive])]
          have htallies := (complete_unmoved pp ⟨id, inputLength, outputLength⟩
            .deviceNotConnected).tallies
          rw [← hresult] at htallies
          exact iff_of_true htallies trivial
      | _ =>
          have hunmoved := hother (fun _ ↦ nofun) nofun
          exact iff_of_true hunmoved.tallies trivial
  | compIoctl inputLength outputLength ioctl wdf =>
      exact iff_of_true (comp_ioctl_unmoved wdf pp _ ioctl).tallies trivial
  | comOpen wdf => exact iff_of_true (com_open_unmoved wdf pp id).tallies trivial
  | comClose wdf => exact iff_of_true (com_close_unmoved wdf pp).tallies trivial
  | compOpen => exact iff_of_true (comp_open_unmoved pp id).tallies trivial
  | compClose => exact iff_of_true (comp_close_unmoved pp).tallies trivial
  | cancelWait request => exact iff_of_true (cancel_wait_unmoved pp request).tallies trivial
  | teardown => exact iff_of_true (teardown_unmoved pp).tallies trivial

/-- `CLEAR_STATS` on an active pair zeroes the statistics and moves nothing. -/
theorem clears_stats_call (id : RequestId) {e : PairEvent} (hclear : e.clearsStats pp = true) :
    (e.call id pp).1.perfStats = ⟨0, 0⟩ ∧ (∀ d, laneTrace d (e.call id pp).2 = []) ∧
      e.charReports id pp = [] ∧ e.Counted id pp := by
  cases e with
  | comIoctl inputLength outputLength ioctl wdf =>
      cases ioctl with
      | clearStats =>
          have hactive : pp.active = true := hclear
          have hresult : PairEvent.call id pp (.comIoctl inputLength outputLength .clearStats wdf) =
              ({ pp with perfStats := ⟨0, 0⟩ },
                [complete ⟨id, inputLength, outputLength⟩ .success]) := by
            show gcomComEvtIoctl wdf pp ⟨id, inputLength, outputLength⟩ .clearStats = _
            unfold gcomComEvtIoctl
            rw [if_neg (by simp [hactive])]
          rw [hresult]
          exact ⟨rfl, fun _ ↦ rfl, rfl, trivial⟩
      | _ => cases hclear
  | _ => cases hclear

end Tallies

/-! ## Runs -/

namespace AccountRun

/-- From a pair whose statistics are right, a step keeps them right and reports what it sends
exactly when it is counted. -/
theorem exact_iff {s t : AccountRun} {e : PairEvent} (hreads : s.path.pair.ReadsAtEmpty)
    (haccounted : s.Accounted) (ht : next s e = some t) :
    (t.Accounted ∧ s.Reported e) ↔ e.Counted s.path.nextRequest s.path.pair := by
  cases ht
  cases hclear : e.clearsStats s.path.pair with
  | true =>
      obtain ⟨hstats, htrace, hchars, hcounted⟩ := clears_stats_call s.path.nextRequest hclear
      refine iff_of_true ⟨?_, ?_⟩ hcounted
      · simp only [Accounted, if_true]
        exact hstats
      · rw [Reported, effects, htrace, hchars]
        rfl
  | false =>
      rw [← call_tallies_iff e hreads hclear]
      have hsent : s.path.pair.perfStats.transmittedCount = BitVec.ofNat 32 s.sent :=
        congrArg PerfStats.transmittedCount haccounted
      have hreceived : s.path.pair.perfStats.receivedCount = BitVec.ofNat 32 s.received :=
        congrArg PerfStats.receivedCount haccounted
      simp only [Accounted, Bool.false_eq_true, if_false, BitVec.ofNat_add, ← hsent, ← hreceived]
      constructor
      · rintro ⟨hstats, hreported⟩
        exact ⟨congrArg PerfStats.transmittedCount hstats, congrArg PerfStats.receivedCount hstats,
          hreported⟩
      · rintro ⟨htransmitted, hcount, hreported⟩
        refine ⟨?_, hreported⟩
        show PerfStats.mk _ _ = _
        exact congrArg₂ PerfStats.mk hcount htransmitted

/-- In a run of the callbacks of a pair the statistics count the bytes that the COM side sends and
receives, and its requests report what they send, exactly when no immediate character is sent and no
request of the COM side is served by a callback of the companion side. -/
theorem statistics_exact_iff (portNumber : ULONG) (events : List PairEvent) :
    EveryStep next (fun s e t ↦ t.Accounted ∧ s.Reported e) (start portNumber) events ↔
      EveryStep next (fun s e _ ↦ e.Counted s.path.nextRequest s.path.pair) (start portNumber)
        events := by
  refine Transition.everyStep_iff (I := fun s ↦ s.path.pair.ReadsAtEmpty ∧ s.Accounted) ?_ ?_ ?_
  · rintro s e t ⟨hreads, -⟩ ht ⟨haccounted, -⟩
    cases ht
    exact ⟨hreads.call _ e, haccounted⟩
  · rintro s e t ⟨hreads, haccounted⟩ ht
    exact exact_iff hreads haccounted ht
  · exact ⟨DataPath.pair_run_reads portNumber [], rfl⟩

/-- An immediate character on a new pair is sent and not counted. -/
theorem immediate_char_uncounted :
    ¬∀ (portNumber : ULONG) (events : List PairEvent),
      EveryStep next (fun s e t ↦ t.Accounted ∧ s.Reported e) (start portNumber) events := by
  intro h
  obtain ⟨hexact, -⟩ := h 10 [.comIoctl 1 0 (.immediateChar 7) .ok] _ rfl
  refine (exact_iff ?_ ?_ rfl).mp hexact ⟨rfl, rfl⟩
  · exact DataPath.pair_run_reads 10 []
  · rfl

end AccountRun

end GhostCom
