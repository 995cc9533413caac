import GhostCom.Driver.Ring

/-!
# One direction of a port pair

A `Lane` is one ring buffer with its two manual queues: the reads pended by the consumer and the
writes pended by the producer. This file embeds the drain loops of `portpair.c` and the part of the
read and write handlers that runs under the data lock, which the COM side and the companion side
share. Every function returns the lane after the call and what it did, in program order.
-/

namespace GhostCom

/-- What a handler does to a lane: bytes of a write enter the ring, bytes leave the ring for a read,
a request is completed with a status and an information count. -/
inductive LaneEffect where
  | accepted (req : WriteRequest) (count : ℕ)
  | removed (req : ReadRequest) (bytes : List UCHAR)
  | writeDone (req : WriteRequest) (status : NTSTATUS) (information : ℕ)
  | readDone (req : ReadRequest) (status : NTSTATUS) (information : ℕ)
deriving DecidableEq, Repr

/-- A ring, the pended reads of its consumer and the pended writes of its producer, each queue in
the order in which WDF hands its requests out. -/
structure Lane where
  ring : Ring
  readQueue : List ReadRequest
  writeQueue : List WriteRequest

/-- `GcomDrainRingToReads`: the ring and the read queue after the loop. -/
def gcomDrainRingToReads (wdf : Wdf) (ring : Ring) :
    List ReadRequest → Ring × List ReadRequest × List LaneEffect
  | [] => (ring, [], [])
  | req :: rest =>
      if ring.isEmpty then (ring, req :: rest, [])
      else
        match retrieveBuffer wdf req.id 1 req.length.toNat with
        | .error st =>
            let after := gcomDrainRingToReads wdf ring rest
            (after.1, after.2.1, .readDone req st 0 :: after.2.2)
        | .ok () =>
            let read := ring.read req.length
            if read.2.1 > 0 then
              let after := gcomDrainRingToReads wdf read.1 rest
              (after.1, after.2.1, .removed req read.2.2 ::
                .readDone req .success read.2.1.toNat :: after.2.2)
            else
              -- no data after all: back to the tail of the queue
              match wdf.forward req.id with
              | .ok () => (read.1, rest ++ [req], [])
              | .error st => (read.1, rest, [.readDone req st 0])

/-- `GcomDrainWritesToRing`, with `reads` the peer's read queue: the lane after the loop. -/
def gcomDrainWritesToRing (wdf : Wdf) (ring : Ring) (reads : List ReadRequest) :
    List WriteRequest → Lane × List LaneEffect
  | [] => (⟨ring, reads, []⟩, [])
  | req :: rest =>
      if ring.writeAvailable > 0 then
        match retrieveBuffer wdf req.id 1 req.data.length with
        | .error st =>
            let after := gcomDrainWritesToRing wdf ring reads rest
            (after.1, .writeDone req st 0 :: after.2)
        | .ok () =>
            let written := ring.write req
            if written.2 > 0 then
              let drained := gcomDrainRingToReads wdf written.1 reads
              let after := gcomDrainWritesToRing wdf drained.1 drained.2.1 rest
              (after.1, .accepted req written.2.toNat ::
                .writeDone req .success written.2.toNat :: drained.2.2 ++ after.2)
            else
              match wdf.forward req.id with
              | .ok () => (⟨written.1, reads, rest ++ [req]⟩, [])
              | .error st => (⟨written.1, reads, rest⟩, [.writeDone req st 0])
      else (⟨ring, reads, req :: rest⟩, [])

namespace Lane

/-- The body shared by `GcomComEvtRead` and `GcomCompEvtRead`: the lane, the count read directly
from the ring, and the effects. The output length and the `Length` argument of the callback are both
the length of the request. -/
def evtRead (wdf : Wdf) (nonBlocking : Bool) (lane : Lane) (req : ReadRequest) :
    Lane × ULONG × List LaneEffect :=
  match retrieveBuffer wdf req.id 1 req.length.toNat with
  | .error st => (lane, 0, [.readDone req st 0])
  | .ok () =>
      let read := lane.ring.read (ulongMin req.length req.length)
      if read.2.1 > 0 then
        let after := gcomDrainWritesToRing wdf read.1 lane.readQueue lane.writeQueue
        (after.1, read.2.1,
          .removed req read.2.2 :: after.2 ++ [.readDone req .success read.2.1.toNat])
      else if nonBlocking then (lane, 0, [.readDone req .success 0])
      else
        match wdf.forward req.id with
        | .ok () => ({ lane with readQueue := lane.readQueue ++ [req] }, 0, [])
        | .error st => (lane, 0, [.readDone req st 0])

/-- The body shared by `GcomComEvtWrite` and `GcomCompEvtWrite`: the lane, the count written
directly to the ring, and the effects. -/
def evtWrite (wdf : Wdf) (lane : Lane) (req : WriteRequest) : Lane × ULONG × List LaneEffect :=
  match retrieveBuffer wdf req.id 1 req.data.length with
  | .error st => (lane, 0, [.writeDone req st 0])
  | .ok () =>
      let written := lane.ring.write req
      if written.2 > 0 then
        let drained := gcomDrainRingToReads wdf written.1 lane.readQueue
        (⟨drained.1, drained.2.1, lane.writeQueue⟩, written.2,
          .accepted req written.2.toNat ::
            drained.2.2 ++ [.writeDone req .success written.2.toNat])
      else
        match wdf.forward req.id with
        | .ok () => ({ lane with writeQueue := lane.writeQueue ++ [req] }, 0, [])
        | .error st => (lane, 0, [.writeDone req st 0])

/-- The framework cancels a pended request: it leaves its queue and is completed. -/
def cancel (lane : Lane) (id : RequestId) : Lane × List LaneEffect :=
  ({ lane with
      readQueue := lane.readQueue.filter (·.id ≠ id)
      writeQueue := lane.writeQueue.filter (·.id ≠ id) },
    (lane.readQueue.filter (·.id = id)).map (.readDone · .cancelled 0) ++
      (lane.writeQueue.filter (·.id = id)).map (.writeDone · .cancelled 0))

/-- `WdfIoQueuePurge` of the read queue: every pended read is cancelled. -/
def purgeReads (lane : Lane) : Lane × List LaneEffect :=
  ({ lane with readQueue := [] }, lane.readQueue.map (.readDone · .cancelled 0))

/-- `WdfIoQueuePurge` of the write queue: every pended write is cancelled. -/
def purgeWrites (lane : Lane) : Lane × List LaneEffect :=
  ({ lane with writeQueue := [] }, lane.writeQueue.map (.writeDone · .cancelled 0))

/-- `GcomRingFlush` of the ring. -/
def flush (lane : Lane) : Lane := { lane with ring := lane.ring.flush }

end Lane

/-! ## Small facts the proofs about lanes use -/

@[simp] theorem ulong_min_self (a : ULONG) : ulongMin a a = a := by
  simp [ulongMin]

theorem ulong_pos_iff {a : ULONG} : a > 0 ↔ 0 < a.toNat := by
  rw [gt_iff_lt, BitVec.lt_def]
  rfl

/-- A buffer that was mapped is long enough. -/
theorem le_of_retrieve {wdf : Wdf} {id : RequestId} {minimum length : ℕ}
    (h : retrieveBuffer wdf id minimum length = .ok ()) : minimum ≤ length := by
  unfold retrieveBuffer at h
  split at h
  · cases h
  · omega

/-- When every WDF call succeeds, a buffer that is long enough is mapped. -/
theorem retrieve_ok {id : RequestId} {minimum length : ℕ} (h : minimum ≤ length) :
    retrieveBuffer .ok id minimum length = .ok () := by
  rw [retrieveBuffer, if_neg (not_lt.mpr h)]
  rfl

/-- Reading a non-empty ring into a mapped buffer reads something. -/
theorem Ring.read_pos_iff (ring : Ring) {length : ULONG} (hlength : 0 < length.toNat) :
    (ring.read length).2.1 > 0 ↔ ring.contents ≠ [] := by
  rw [ulong_pos_iff, Ring.read_count, ← List.length_pos_iff]
  omega

/-- Writing a mapped buffer into a ring with room writes something. -/
theorem Ring.write_pos_iff (ring : Ring) {req : WriteRequest} (hlength : 0 < req.data.length) :
    (ring.write req).2 > 0 ↔ ring.contents.length < ring.capacity := by
  rw [ulong_pos_iff, Ring.write_count]
  omega

theorem Ring.writeAvailable_pos_iff {ring : Ring} :
    ring.writeAvailable > 0 ↔ ring.contents.length < ring.capacity := by
  rw [ulong_pos_iff, Ring.writeAvailable_toNat]
  omega

/-! ## How the loops go -/

/-- The loop over the pended reads stops when none is left or the ring is empty. It drops a read
whose buffer cannot be mapped, and serves any other. -/
inductive ReadsDrained (wdf : Wdf) :
    Ring → List ReadRequest → Ring × List ReadRequest × List LaneEffect → Prop where
  | stop {ring : Ring} {reads : List ReadRequest} (hstop : reads ≠ [] → ring.contents = []) :
      ReadsDrained wdf ring reads (ring, reads, [])
  | dropped {ring : Ring} {req : ReadRequest} {rest : List ReadRequest} {st : ErrorStatus}
      {after : Ring × List ReadRequest × List LaneEffect} (hcontents : ring.contents ≠ [])
      (hbuf : retrieveBuffer wdf req.id 1 req.length.toNat = .error st)
      (hrest : ReadsDrained wdf ring rest after) :
      ReadsDrained wdf ring (req :: rest) (after.1, after.2.1, .readDone req st 0 :: after.2.2)
  | served {ring : Ring} {req : ReadRequest} {rest : List ReadRequest}
      {after : Ring × List ReadRequest × List LaneEffect} (hcontents : ring.contents ≠ [])
      (hbuf : retrieveBuffer wdf req.id 1 req.length.toNat = .ok ())
      (hrest : ReadsDrained wdf (ring.read req.length).1 rest after) :
      ReadsDrained wdf ring (req :: rest) (after.1, after.2.1,
        .removed req (ring.read req.length).2.2 ::
          .readDone req .success (ring.read req.length).2.1.toNat :: after.2.2)

/-- A read that was mapped gets data, so none goes back to the queue. -/
theorem reads_drained (wdf : Wdf) (ring : Ring) (reads : List ReadRequest) :
    ReadsDrained wdf ring reads (gcomDrainRingToReads wdf ring reads) := by
  induction reads generalizing ring with
  | nil => exact .stop fun hne ↦ absurd rfl hne
  | cons req rest ih =>
      unfold gcomDrainRingToReads
      by_cases hempty : ring.isEmpty = true
      · rw [if_pos hempty]
        exact .stop fun _ ↦ ring.isEmpty_iff.mp hempty
      · rw [if_neg hempty]
        have hcontents : ring.contents ≠ [] := mt ring.isEmpty_iff.mpr hempty
        cases hbuf : retrieveBuffer wdf req.id 1 req.length.toNat with
        | error st => exact .dropped hcontents hbuf (ih ring)
        | ok =>
            have hread := (ring.read_pos_iff (le_of_retrieve hbuf)).mpr hcontents
            simp only [if_pos hread]
            exact .served hcontents hbuf (ih _)

/-- The loop over the pended writes stops when none is left or the ring is full. It drops a write
whose buffer cannot be mapped, and admits any other and then serves the pended reads. -/
inductive WritesDrained (wdf : Wdf) :
    Ring → List ReadRequest → List WriteRequest → Lane × List LaneEffect → Prop where
  | stop {ring : Ring} {reads : List ReadRequest} {writes : List WriteRequest}
      (hstop : writes ≠ [] → ring.contents.length = ring.capacity) :
      WritesDrained wdf ring reads writes (⟨ring, reads, writes⟩, [])
  | dropped {ring : Ring} {reads : List ReadRequest} {req : WriteRequest}
      {rest : List WriteRequest} {st : ErrorStatus} {after : Lane × List LaneEffect}
      (hroom : ring.contents.length < ring.capacity)
      (hbuf : retrieveBuffer wdf req.id 1 req.data.length = .error st)
      (hrest : WritesDrained wdf ring reads rest after) :
      WritesDrained wdf ring reads (req :: rest) (after.1, .writeDone req st 0 :: after.2)
  | admitted {ring : Ring} {reads : List ReadRequest} {req : WriteRequest}
      {rest : List WriteRequest} {after : Lane × List LaneEffect}
      (hroom : ring.contents.length < ring.capacity)
      (hbuf : retrieveBuffer wdf req.id 1 req.data.length = .ok ())
      (hrest : WritesDrained wdf (gcomDrainRingToReads wdf (ring.write req).1 reads).1
        (gcomDrainRingToReads wdf (ring.write req).1 reads).2.1 rest after) :
      WritesDrained wdf ring reads (req :: rest) (after.1,
        .accepted req (ring.write req).2.toNat ::
          .writeDone req .success (ring.write req).2.toNat ::
            (gcomDrainRingToReads wdf (ring.write req).1 reads).2.2 ++ after.2)

/-- A write that was mapped finds room for a byte, so none goes back to the queue. -/
theorem writes_drained (wdf : Wdf) (ring : Ring) (reads : List ReadRequest)
    (writes : List WriteRequest) :
    WritesDrained wdf ring reads writes (gcomDrainWritesToRing wdf ring reads writes) := by
  induction writes generalizing ring reads with
  | nil => exact .stop fun hne ↦ absurd rfl hne
  | cons req rest ih =>
      unfold gcomDrainWritesToRing
      by_cases havailable : ring.writeAvailable > 0
      · rw [if_pos havailable]
        have hroom := Ring.writeAvailable_pos_iff.mp havailable
        cases hbuf : retrieveBuffer wdf req.id 1 req.data.length with
        | error st => exact .dropped hroom hbuf (ih ring reads)
        | ok =>
            have hwritten := (ring.write_pos_iff (le_of_retrieve hbuf)).mpr hroom
            simp only [if_pos hwritten]
            exact .admitted hroom hbuf (ih _ _)
      · rw [if_neg havailable]
        have hfull := not_lt.mp (mt Ring.writeAvailable_pos_iff.mpr havailable)
        exact .stop fun _ ↦ le_antisymm ring.contents_length_le hfull

namespace Lane

/-- A write that finds room and no pended read goes into the ring. -/
theorem evt_write_direct {ring : Ring} {writes : List WriteRequest} {req : WriteRequest}
    (hlength : 0 < req.data.length) (hroom : ring.contents.length < ring.capacity) :
    ((mk ring [] writes).evtWrite .ok req).1 = ⟨(ring.write req).1, [], writes⟩ := by
  simp only [evtWrite, retrieve_ok hlength, if_pos ((ring.write_pos_iff hlength).mpr hroom),
    gcomDrainRingToReads]

/-- A write that finds the ring full is pended. -/
theorem evt_write_pended {lane : Lane} {req : WriteRequest} (hlength : 0 < req.data.length)
    (hfull : lane.ring.contents.length = lane.ring.capacity) :
    (lane.evtWrite .ok req).1 = { lane with writeQueue := lane.writeQueue ++ [req] } := by
  have hzero : ¬ (lane.ring.write req).2 > 0 := mt (lane.ring.write_pos_iff hlength).mp (by omega)
  simp only [evtWrite, retrieve_ok hlength, if_neg hzero]
  rfl

end Lane

end GhostCom
