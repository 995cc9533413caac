import GhostCom.DataPath.Simulation

/-!
# One handler call on a lane

Each handler body of `Driver.Lane`, run on a settled lane, is a sequence of channel moves that
handles the new request and leaves the lane settled. The completions it reports agree with the
bytes it moved: `Balanced` says that the successful completions, read in order, carry exactly the
sizes of the prefixes accepted and of the byte runs removed.
-/

namespace GhostCom

open Channel (Move Moves)
open Relation

/-- A successful write completion, with the length it reports. -/
def LaneEffect.writeReport : LaneEffect → Option (ℕ × ℕ)
  | .writeDone req .success information => some (req.id, information)
  | _ => none

/-- A successful read completion with data, with the length it reports. -/
def LaneEffect.readReport : LaneEffect → Option (ℕ × ℕ)
  | .readDone req .success information =>
      if information = 0 then none else some (req.id, information)
  | _ => none

/-- The lengths that the successful write completions of a trace report, oldest first. -/
def writeReports (trace : List LaneEffect) : List (ℕ × ℕ) :=
  trace.filterMap LaneEffect.writeReport

/-- The lengths that the successful read completions of a trace report, oldest first; a read
completed without data reports nothing. -/
def readReports (trace : List LaneEffect) : List (ℕ × ℕ) :=
  trace.filterMap LaneEffect.readReport

/-- The sizes of the entries of a history. -/
def sizes (history : List (ℕ × List UCHAR)) : List (ℕ × ℕ) :=
  history.map fun entry ↦ (entry.1, entry.2.length)

/-- Completions report, in order, exactly what was accepted and removed. -/
structure Balanced (trace : List LaneEffect) : Prop where
  writes : writeReports trace = sizes (acceptedEntries trace)
  reads : readReports trace = sizes (removedEntries trace)

namespace Balanced

@[simp] theorem nil : Balanced [] := ⟨rfl, rfl⟩

/-- Balanced traces can be put one after the other. -/
theorem append {trace out : List LaneEffect} (htrace : Balanced trace) (hout : Balanced out) :
    Balanced (trace ++ out) := by
  constructor
  · rw [accepted_entries_append, sizes, List.map_append, ← sizes, ← sizes, ← htrace.writes,
      ← hout.writes]
    exact List.filterMap_append
  · rw [removed_entries_append, sizes, List.map_append, ← sizes, ← sizes, ← htrace.reads,
      ← hout.reads]
    exact List.filterMap_append

/-- A write accepted and completed with its count. -/
theorem accepted (req : WriteRequest) {count : ℕ} (h : count ≤ req.data.length) :
    Balanced [.accepted req count, .writeDone req .success count] := by
  refine ⟨?_, rfl⟩
  change [(req.id, count)] = [(req.id, (req.data.take count).length)]
  rw [List.length_take, Nat.min_eq_left h]

/-- A read served and completed with its count. -/
theorem removed (req : ReadRequest) {bytes : List UCHAR} (h : bytes ≠ []) :
    Balanced [.removed req bytes, .readDone req .success bytes.length] := by
  refine ⟨rfl, ?_⟩
  have hlength : bytes.length ≠ 0 := mt List.length_eq_zero_iff.mp h
  simp [readReports, List.filterMap_cons, LaneEffect.readReport, removedEntries,
    LaneEffect.removedEntry, sizes, hlength]

/-- A read of a non-empty ring. -/
theorem of_read (ring : Ring) (req : ReadRequest) (hlength : 0 < req.length.toNat)
    (hcontents : ring.contents ≠ []) :
    Balanced [.removed req (ring.read req.length).2.2,
      .readDone req .success (ring.read req.length).2.1.toNat] := by
  have hcount : (ring.read req.length).2.1.toNat = (ring.read req.length).2.2.length := by
    rw [Ring.read_count, Ring.read_data, List.length_take]
  rw [hcount]
  refine removed req ?_
  rw [Ring.read_data, Ne, List.take_eq_nil_iff]
  rintro (h | h)
  · omega
  · exact hcontents h

/-- A write into the ring. -/
theorem of_write (ring : Ring) (req : WriteRequest) :
    Balanced [.accepted req (ring.write req).2.toNat,
      .writeDone req .success (ring.write req).2.toNat] :=
  accepted req (by rw [Ring.write_count]; exact Nat.min_le_left _ _)

/-- A write completed with an error. -/
theorem write_failed (req : WriteRequest) (st : ErrorStatus) :
    Balanced [.writeDone req st 0] := by
  refine ⟨?_, rfl⟩
  obtain ⟨st, hst⟩ := st
  cases st with
  | success => exact absurd rfl hst
  | _ => rfl

/-- A read completed with an error, or without data. -/
theorem read_empty (req : ReadRequest) (st : NTSTATUS) : Balanced [.readDone req st 0] :=
  ⟨rfl, by cases st <;> rfl⟩

/-- The completion of a direct read may come after the effects of the writes it unblocked, as long
as these serve no read. -/
theorem read_around {req : ReadRequest} {bytes : List UCHAR} {count : ℕ} {mid : List LaneEffect}
    (hread : Balanced [.removed req bytes, .readDone req .success count]) (hmid : Balanced mid)
    (hnone : removedEntries mid = []) :
    Balanced (.removed req bytes :: mid ++ [.readDone req .success count]) := by
  have hreports : readReports mid = [] := by rw [hmid.reads, hnone]; rfl
  constructor
  · have hwrites := hmid.writes
    simpa [writeReports, acceptedEntries, List.filterMap_cons, LaneEffect.writeReport,
      LaneEffect.acceptedEntry] using hwrites
  · have hreads := hread.reads
    simp only [readReports, removedEntries, List.cons_append, List.filterMap_append,
      List.filterMap_cons, List.filterMap_nil, LaneEffect.readReport, LaneEffect.removedEntry]
      at hreads hreports hnone ⊢
    rw [hreports, hnone]
    exact hreads

/-- The completion of a direct write may come after the effects of the reads it unblocked. -/
theorem write_around {req : WriteRequest} {count n : ℕ} {mid : List LaneEffect}
    (hwrite : Balanced [.accepted req count, .writeDone req .success n]) (hmid : Balanced mid)
    (hnone : acceptedEntries mid = []) :
    Balanced (.accepted req count :: mid ++ [.writeDone req .success n]) := by
  have hreports : writeReports mid = [] := by rw [hmid.writes, hnone]; rfl
  constructor
  · have hwrites := hwrite.writes
    simp only [writeReports, acceptedEntries, List.cons_append, List.filterMap_append,
      List.filterMap_cons, List.filterMap_nil, LaneEffect.writeReport, LaneEffect.acceptedEntry]
      at hwrites hreports hnone ⊢
    rw [hreports, hnone]
    exact hwrites
  · have hreads := hmid.reads
    simpa [readReports, removedEntries, List.filterMap_cons, LaneEffect.readReport,
      LaneEffect.removedEntry] using hreads

end Balanced

/-- The completions of the loop over the pended reads agree with the bytes it removed. -/
theorem drain_reads_balanced (wdf : Wdf) (reads : List ReadRequest) (ring : Ring) :
    Balanced (gcomDrainRingToReads wdf ring reads).2.2 := by
  have h := reads_drained wdf ring reads
  generalize gcomDrainRingToReads wdf ring reads = after at h ⊢
  induction h with
  | stop => exact .nil
  | @dropped _ req _ st _ _ _ _ ih => exact (Balanced.read_empty req st).append ih
  | @served ring req _ _ hcontents hbuf _ ih =>
      exact (Balanced.of_read ring req (le_of_retrieve hbuf) hcontents).append ih

/-- The completions of the loop over the pended writes agree with the bytes it moved. -/
theorem drain_writes_balanced (wdf : Wdf) (writes : List WriteRequest) (reads : List ReadRequest)
    (ring : Ring) : Balanced (gcomDrainWritesToRing wdf ring reads writes).2 := by
  have h := writes_drained wdf ring reads writes
  generalize gcomDrainWritesToRing wdf ring reads writes = after at h ⊢
  induction h with
  | stop => exact .nil
  | @dropped _ _ req _ st _ _ _ _ ih => exact (Balanced.write_failed req st).append ih
  | @admitted ring reads req _ _ _ _ _ ih =>
      have hserved := drain_reads_balanced wdf reads (ring.write req).1
      exact ((Balanced.of_write ring req).append hserved).append ih

/-- With no read pended, the loop over the pended writes removes nothing and leaves no read
pended. -/
theorem drain_writes_no_reads (wdf : Wdf) (writes : List WriteRequest) (ring : Ring) :
    (gcomDrainWritesToRing wdf ring [] writes).1.readQueue = [] ∧
      removedEntries (gcomDrainWritesToRing wdf ring [] writes).2 = [] := by
  have h := writes_drained wdf ring [] writes
  generalize gcomDrainWritesToRing wdf ring [] writes = after at h ⊢
  generalize hreads : ([] : List ReadRequest) = reads at h ⊢
  induction h with
  | stop => exact ⟨rfl, rfl⟩
  | dropped _ _ _ ih => exact ih hreads
  | admitted _ _ _ ih =>
      subst hreads
      exact ih rfl

/-- The loop over the pended reads accepts nothing. -/
theorem drain_reads_no_accept (wdf : Wdf) (reads : List ReadRequest) (ring : Ring) :
    acceptedEntries (gcomDrainRingToReads wdf ring reads).2.2 = [] := by
  have h := reads_drained wdf ring reads
  generalize gcomDrainRingToReads wdf ring reads = after at h ⊢
  induction h with
  | stop => rfl
  | dropped _ _ _ ih | served _ _ _ ih => exact ih

/-- A step of a lane: channel moves that take the clock from `clock` to `clock'`, after which the
lane is settled, with completions that agree with the bytes moved. -/
structure Lane.Step (clock clock' : ℕ) (lane lane' : Lane) (out : List LaneEffect) : Prop where
  moves : ∀ trace, Moves (lane.channel clock trace) (lane'.channel clock' (trace ++ out))
  settled : lane'.Settled
  balanced : Balanced out

namespace Lane

variable {clock : ℕ} {lane : Lane}

/-- A request of the other direction, or one that is turned away, only advances the clock. -/
theorem Step.turn_away (h : lane.Settled) {out : List LaneEffect} (hout : Balanced out)
    (hnone : ∀ e ∈ out, e.acceptedEntry = none ∧ e.removedEntry = none) :
    Step clock (clock + 1) lane lane out where
  moves trace := by
    rw [channel_append_done hnone]
    exact .single (.turnAway _)
  settled := h
  balanced := hout

/-- A read that is turned away. -/
theorem Step.read_away (h : lane.Settled) (req : ReadRequest) (st : NTSTATUS) :
    Step clock (clock + 1) lane lane [.readDone req st 0] :=
  .turn_away h (.read_empty req st) (by simp [LaneEffect.acceptedEntry, LaneEffect.removedEntry])

/-- A write that is turned away. -/
theorem Step.write_away (h : lane.Settled) (req : WriteRequest) (st : ErrorStatus) :
    Step clock (clock + 1) lane lane [.writeDone req st 0] :=
  .turn_away h (.write_failed req st)
    (by simp [LaneEffect.acceptedEntry, LaneEffect.removedEntry])

/-- A read handler call is a step of a settled lane. -/
theorem evt_read_step (wdf : Wdf) (nonBlocking : Bool) (req : ReadRequest) (h : lane.Settled) :
    Step req.id (req.id + 1) lane (lane.evtRead wdf nonBlocking req).1
      (lane.evtRead wdf nonBlocking req).2.2 := by
  obtain ⟨ring, reads, writes⟩ := lane
  unfold evtRead
  cases hbuf : retrieveBuffer wdf req.id 1 req.length.toNat with
  | error st => exact .read_away h req st
  | ok =>
      have hlength := le_of_retrieve hbuf
      simp only [ulong_min_self]
      by_cases hread : (ring.read req.length).2.1 > 0
      · have hcontents := (ring.read_pos_iff hlength).mp hread
        have hreads : reads = [] := of_not_not fun hne ↦ hcontents (h.reads hne)
        subst hreads
        rw [if_pos hread]
        obtain ⟨hnoReads, hnoRemoved⟩ := drain_writes_no_reads wdf writes (ring.read req.length).1
        refine ⟨fun trace ↦ ?_, ⟨fun hne ↦ absurd hnoReads hne, drain_writes_settled _ _ _ _⟩,
          (Balanced.of_read ring req hlength hcontents).read_around
            (drain_writes_balanced _ _ _ _) hnoRemoved⟩
        -- the new read joins an empty line and is served at once; then the writes are admitted
        have hask : Move (channel req.id ⟨ring, [], writes⟩ trace)
            (channel (req.id + 1) ⟨ring, [req], writes⟩ trace) := .ask _ _
        have hserve := serve_move (req.id + 1) ring req [] writes trace hlength hcontents
        have hdrain := drain_writes_moves wdf (req.id + 1) writes [] (ring.read req.length).1
          (trace ++ [.removed req (ring.read req.length).2.2])
        dsimp only
        rw [← List.append_assoc, channel_read_done, List.append_cons]
        exact ReflTransGen.head hask (ReflTransGen.head hserve hdrain)
      · have hempty : ring.contents = [] := of_not_not (mt (ring.read_pos_iff hlength).mpr hread)
        rw [if_neg hread]
        cases nonBlocking with
        | true => exact .read_away h req .success
        | false =>
            cases hforward : wdf.forward req.id with
            | error st => exact .read_away h req st
            | ok =>
                refine ⟨fun trace ↦ ?_, ⟨fun _ ↦ hempty, h.writes⟩, .nil⟩
                have hask := Move.ask (channel req.id ⟨ring, reads, writes⟩ trace) req.length.toNat
                simpa [channel, hforward] using ReflTransGen.single hask

/-- A write handler call is a step of a settled lane. -/
theorem evt_write_step (wdf : Wdf) (req : WriteRequest) (h : lane.Settled) :
    Step req.id (req.id + 1) lane (lane.evtWrite wdf req).1 (lane.evtWrite wdf req).2.2 := by
  obtain ⟨ring, reads, writes⟩ := lane
  unfold evtWrite
  cases hbuf : retrieveBuffer wdf req.id 1 req.data.length with
  | error st => exact .write_away h req st
  | ok =>
      have hlength := le_of_retrieve hbuf
      by_cases hwritten : (ring.write req).2 > 0
      · have hroom := (ring.write_pos_iff hlength).mp hwritten
        have hwrites : writes = [] := of_not_not fun hne ↦ hroom.ne (h.writes hne)
        subst hwrites
        simp only [if_pos hwritten]
        refine ⟨fun trace ↦ ?_, ⟨drain_reads_settled _ _ _, fun hne ↦ absurd rfl hne⟩,
          (Balanced.of_write ring req).write_around (drain_reads_balanced _ _ _)
            (drain_reads_no_accept _ _ _)⟩
        -- the new write joins an empty line and is admitted at once; then the reads are served
        have hpost : Move (channel req.id ⟨ring, reads, []⟩ trace)
            (channel (req.id + 1) ⟨ring, reads, [req]⟩ trace) := .post _ _
        have hadmit := admit_move (req.id + 1) ring req reads [] trace hlength hroom
        have hdrain := drain_reads_moves wdf (req.id + 1) [] reads (ring.write req).1
          (trace ++ [.accepted req (ring.write req).2.toNat])
        rw [← List.append_assoc, channel_write_done, List.append_cons]
        exact ReflTransGen.head hpost (ReflTransGen.head hadmit hdrain)
      · have hfull : ring.contents.length = ring.capacity :=
          le_antisymm ring.contents_length_le
            (not_lt.mp (mt (ring.write_pos_iff hlength).mpr hwritten))
        simp only [if_neg hwritten]
        cases hforward : wdf.forward req.id with
        | error st => exact .write_away h req st
        | ok =>
            refine ⟨fun trace ↦ ?_, ⟨h.reads, fun _ ↦ hfull⟩, .nil⟩
            have hpost := Move.post (channel req.id ⟨ring, reads, writes⟩ trace) req.data
            simpa [channel] using ReflTransGen.single hpost

/-- Completing pended requests with an error reports nothing. -/
theorem balanced_cancelled (reads : List ReadRequest) (writes : List WriteRequest)
    (st : ErrorStatus) :
    Balanced (reads.map (.readDone · st 0) ++ writes.map (.writeDone · st 0)) := by
  induction reads with
  | nil =>
      induction writes with
      | nil => exact .nil
      | cons req rest ih => exact (Balanced.write_failed req st).append ih
  | cons req rest ih => exact (Balanced.read_empty req st).append ih

/-- Requests that leave their lines, completed with an error, are a step of a settled lane. -/
theorem leave_step {reads : List ReadRequest} {writes : List WriteRequest}
    {out : List LaneEffect} (h : lane.Settled) (hreads : reads.Sublist lane.readQueue)
    (hwrites : writes.Sublist lane.writeQueue) (hout : Balanced out)
    (hnone : ∀ e ∈ out, e.acceptedEntry = none ∧ e.removedEntry = none) :
    Step clock clock lane { lane with readQueue := reads, writeQueue := writes } out where
  moves trace := by
    rw [channel_append_done hnone]
    exact .head (.readersLeave _ _ (hreads.map _)) (.single (.writersLeave _ _ (hwrites.map _)))
  settled := ⟨fun hne ↦ h.reads fun hnil ↦ hne (List.sublist_nil.mp (hnil ▸ hreads)),
    fun hne ↦ h.writes fun hnil ↦ hne (List.sublist_nil.mp (hnil ▸ hwrites))⟩
  balanced := hout

/-- Nothing happens to a lane. -/
theorem Step.refl (h : lane.Settled) : Step clock clock lane lane [] :=
  leave_step h (.refl _) (.refl _) .nil (by simp)

/-- Purging the write queue is a step of a settled lane. -/
theorem purge_writes_step (h : lane.Settled) :
    Step clock clock lane lane.purgeWrites.1 lane.purgeWrites.2 :=
  leave_step h (.refl _) (List.nil_sublist _)
    (by simpa [purgeWrites] using balanced_cancelled [] lane.writeQueue ⟨.cancelled, nofun⟩)
    (by simp [purgeWrites, LaneEffect.acceptedEntry, LaneEffect.removedEntry])

/-- Purging the read queue is a step of a settled lane. -/
theorem purge_reads_step (h : lane.Settled) :
    Step clock clock lane lane.purgeReads.1 lane.purgeReads.2 :=
  leave_step h (List.nil_sublist _) (.refl _)
    (by simpa [purgeReads] using balanced_cancelled lane.readQueue [] ⟨.cancelled, nofun⟩)
    (by simp [purgeReads, LaneEffect.acceptedEntry, LaneEffect.removedEntry])

/-- Cancelling a pended request is a step of a settled lane. -/
theorem cancel_step (id : RequestId) (h : lane.Settled) :
    Step clock clock lane (lane.cancel id).1 (lane.cancel id).2 := by
  refine leave_step h List.filter_sublist List.filter_sublist
    (balanced_cancelled _ _ ⟨.cancelled, nofun⟩) fun e he ↦ ?_
  simp only [cancel, List.mem_append, List.mem_map] at he
  rcases he with ⟨req, _, rfl⟩ | ⟨req, _, rfl⟩ <;> exact ⟨rfl, rfl⟩

end Lane

end GhostCom
