import GhostCom.Driver.Ring
import GhostCom.Library.BoundedQueue

/-!
# The ring buffer refines a bounded queue

Every sequence of `GcomRingWrite`, `GcomRingRead` and `GcomRingFlush` calls on a ring that
`GcomRingInit` accepted is answered as a queue of at most `Size - 1` bytes answers it, and every
`RtlCopyMemory` between the ring and a caller's buffer stays inside the ring's storage.

`ringCopies` lists the copies of one transfer. `gcom_ring_write_copies` and
`gcom_ring_read_copies` say that they are the ones the two operations make.
-/

namespace GhostCom

open BoundedQueue (Queue Call Answer answers final answers_eq_of_simulation)

/-- One `RtlCopyMemory` between `Buffer + offset` and `Data + done`, of `count` bytes. -/
structure RingCopy where
  offset : ULONG
  done : ULONG
  count : ULONG

/-- The index range of a copy lies inside a storage of `size` bytes. -/
def RingCopy.InRange (size : ULONG) (copy : RingCopy) : Prop :=
  copy.offset.toNat + copy.count.toNat ≤ size.toNat

/-- The copies by which `n` bytes are moved from or to position `pos`: up to the end of the
storage, and the rest from its start. -/
def ringCopies (ring : RingBuffer) (pos n : ULONG) : List RingCopy :=
  let start := pos &&& ring.mask
  if n = 0 then []
  else
    let firstChunk := ulongMin n (ring.size - start)
    if n > firstChunk then [⟨start, 0, firstChunk⟩, ⟨0, firstChunk, n - firstChunk⟩]
    else [⟨start, 0, firstChunk⟩]

/-- The storage after copying the listed parts of `data` into it. -/
def RingBuffer.copyIn (ring : RingBuffer) (data : List UCHAR) (copies : List RingCopy) :
    List UCHAR :=
  copies.foldl
    (fun buffer copy ↦
      rtlCopyMemory buffer copy.offset (data.drop copy.done.toNat) copy.count)
    ring.buffer

/-- The bytes copied out of the storage. -/
def RingBuffer.copyOut (ring : RingBuffer) (copies : List RingCopy) : List UCHAR :=
  copies.flatMap fun copy ↦ (ring.buffer.drop copy.offset.toNat).take copy.count.toNat

/-- A call of one of the three operations. The caller's buffer has the `length` bytes that
`_In_reads_bytes_(Length)` asks for. -/
inductive RingCall where
  | write (data : List UCHAR) (length : ULONG) (hdata : length.toNat ≤ data.length)
  | read (length : ULONG)
  | flush

namespace RingCall

/-- The ring after a call, and what the call returns. -/
def next (ring : RingBuffer) : RingCall → RingBuffer × Answer UCHAR
  | .write data length _ =>
      ((gcomRingWrite ring data length).1, .pushed (gcomRingWrite ring data length).2.toNat)
  | .read length =>
      ((gcomRingRead ring length).1,
        .popped (gcomRingRead ring length).2.1.toNat (gcomRingRead ring length).2.2)
  | .flush => (gcomRingFlush ring, .cleared)

/-- The copies a call makes. -/
def copies (ring : RingBuffer) : RingCall → List RingCopy
  | .write _ length _ =>
      ringCopies ring ring.writePos (ulongMin length (gcomRingWriteAvailable ring))
  | .read length =>
      ringCopies ring ring.readPos (ulongMin length (gcomRingReadAvailable ring))
  | .flush => []

/-- What a call asks of a queue: only the first `length` bytes of a buffer count. -/
def toQueue : RingCall → Call UCHAR
  | .write data length _ => .push (data.take length.toNat)
  | .read length => .pop length.toNat
  | .flush => .clear

end RingCall

/-- A ring of the given size holds exactly the bytes of a queue. -/
structure RingBuffer.Represents (ring : RingBuffer) (size : ULONG) (queue : Queue UCHAR) :
    Prop where
  writePos_lt : ring.writePos.toNat < size.toNat
  readPos_lt : ring.readPos.toNat < size.toNat
  readAvailable : (gcomRingReadAvailable ring).toNat = queue.items.length
  writeAvailable : (gcomRingWriteAvailable ring).toNat = size.toNat - 1 - queue.items.length
  contents : ring.contents = queue.items

/-- `gcomRingWrite` changes the storage by its copies and nothing else. -/
theorem gcom_ring_write_copies (ring : RingBuffer) (data : List UCHAR) (length : ULONG)
    (hdata : length.toNat ≤ data.length) :
    (gcomRingWrite ring data length).1.buffer =
      ring.copyIn data (RingCall.copies ring (.write data length hdata)) := by
  unfold gcomRingWrite RingCall.copies ringCopies RingBuffer.copyIn
  dsimp only
  split
  · rfl
  · split <;> simp

/-- `gcomRingRead` returns the bytes of its copies, one after the other. -/
theorem gcom_ring_read_copies (ring : RingBuffer) (length : ULONG) :
    (gcomRingRead ring length).2.2 = ring.copyOut (RingCall.copies ring (.read length)) := by
  unfold gcomRingRead RingCall.copies ringCopies RingBuffer.copyOut
  dsimp only
  split
  · rfl
  · split <;> simp

/-- The words `GcomRingInit` accepts as a size are the powers of two. -/
theorem gcom_ring_init_accepts (size : ULONG) :
    (∃ ring, gcomRingInit size true = .ok ring) ↔ ∃ k ≤ 31, size.toNat = 2 ^ k := by
  constructor
  · intro ⟨ring, hinit⟩
    have hwf := gcom_ring_init_wf hinit
    have hsize : ring.size = size := by
      unfold gcomRingInit at hinit
      split at hinit
      · cases hinit
      · cases hinit
        rfl
    rw [← hsize]
    exact hwf.size_pow
  · intro ⟨k, hk, hpow⟩
    have hpos : 0 < 2 ^ k := Nat.two_pow_pos k
    have hne : size ≠ 0 := by
      intro hzero
      rw [hzero] at hpow
      exact absurd hpow (Nat.ne_of_lt hpos)
    have hpred : (size - 1).toNat = 2 ^ k - 1 := by
      have hlt := size.isLt
      rw [BitVec.toNat_sub, show (1 : ULONG).toNat = 1 from rfl]
      omega
    -- a power of two shares no bit with its predecessor
    have hand : size &&& (size - 1) = 0 := by
      apply BitVec.eq_of_toNat_eq
      rw [BitVec.toNat_and, hpred, hpow, Nat.and_two_pow_sub_one_eq_mod, Nat.mod_self]
      rfl
    have haccept : ¬(size = 0 ∨ size &&& (size - 1) ≠ 0) := by
      intro hreject
      cases hreject with
      | inl hzero => exact hne hzero
      | inr hbits => exact hbits hand
    exact ⟨_, (if_neg haccept).trans (if_pos rfl)⟩

namespace RingBuffer.WellFormed

variable {ring : RingBuffer}

/-- The copies of a transfer no longer than the ring stay inside its storage. -/
theorem ringCopies_inRange (h : ring.WellFormed) {pos n : ULONG}
    (hpos : pos.toNat < ring.size.toNat) (hn : n.toNat ≤ ring.size.toNat) :
    ∀ copy ∈ ringCopies ring pos n, copy.InRange ring.size := by
  obtain ⟨hfirst, hrest⟩ := h.chunk_toNat hpos n
  have hstart := h.and_mask_of_lt hpos
  intro copy hcopy
  unfold ringCopies at hcopy
  dsimp only at hcopy
  unfold RingCopy.InRange
  split at hcopy
  · cases hcopy
  · split at hcopy
    · rw [List.mem_cons, List.mem_singleton] at hcopy
      cases hcopy with
      | inl heq =>
          rw [heq]
          show (pos &&& ring.mask).toNat + _ ≤ _
          rw [hstart, hfirst]
          omega
      | inr heq =>
          rw [heq]
          show (0 : ULONG).toNat + _ ≤ _
          rw [hrest, show (0 : ULONG).toNat = 0 from rfl]
          omega
    · rw [List.mem_singleton.mp hcopy]
      show (pos &&& ring.mask).toNat + _ ≤ _
      rw [hstart, hfirst]
      omega

/-- Every copy of a call stays inside the storage. -/
theorem copies_inRange (h : ring.WellFormed) (call : RingCall) :
    ∀ copy ∈ call.copies ring, copy.InRange ring.size := by
  have hread := h.readAvailable_lt
  have hwrite := h.writeAvailable_toNat
  cases call with
  | write data length hdata =>
      apply h.ringCopies_inRange h.writePos_lt
      rw [ulong_min_toNat]
      omega
  | read length =>
      apply h.ringCopies_inRange h.readPos_lt
      rw [ulong_min_toNat]
      omega
  | flush =>
      intro copy hcopy
      cases hcopy

/-- A well-formed ring represents a queue of its capacity once their contents agree. -/
theorem represents (h : ring.WellFormed) {size : ULONG} {queue : Queue UCHAR}
    (hsize : ring.size = size) (hcontents : ring.contents = queue.items) :
    ring.Represents size queue := by
  have hlength : (gcomRingReadAvailable ring).toNat = queue.items.length := by
    rw [← hcontents]
    simp [RingBuffer.contents]
  refine ⟨hsize ▸ h.writePos_lt, hsize ▸ h.readPos_lt, hlength, ?_, hcontents⟩
  rw [h.writeAvailable_toNat, hlength, hsize]

end RingBuffer.WellFormed

/-- The coupling every call keeps: a well-formed ring of the given size, and a queue of its
capacity with its contents. -/
structure RingBuffer.Refines (size : ULONG) (ring : RingBuffer) (queue : Queue UCHAR) : Prop where
  wf : ring.WellFormed
  size_eq : ring.size = size
  capacity_eq : queue.capacity = size.toNat - 1
  contents_eq : ring.contents = queue.items

/-- The room a ring reports is the room in its queue. -/
theorem RingBuffer.Refines.free_eq {size : ULONG} {ring : RingBuffer} {queue : Queue UCHAR}
    (h : ring.Refines size queue) :
    queue.free = ring.size.toNat - 1 - (gcomRingReadAvailable ring).toNat := by
  rw [(h.wf.represents rfl h.contents_eq).readAvailable, h.size_eq]
  show queue.capacity - _ = _
  rw [h.capacity_eq]

/-- A call on the ring is answered as the queue answers it, and keeps the coupling. -/
theorem RingBuffer.Refines.next {size : ULONG} {ring : RingBuffer} {queue : Queue UCHAR}
    (h : ring.Refines size queue) (call : RingCall) :
    (call.next ring).2 = (queue.next call.toQueue).2 ∧
      (call.next ring).1.Refines size (queue.next call.toQueue).1 := by
  cases call with
  | write data length hdata =>
      -- the ring writes as much as the queue has room for
      have hcount := h.wf.write_count data length
      have htake : (data.take length.toNat).length = length.toNat := by
        simp only [List.length_take]
        omega
      rw [← h.free_eq] at hcount
      constructor
      · show Answer.pushed _ = Answer.pushed _
        rw [hcount, htake]
      · refine ⟨h.wf.write_wf hdata, ?_, h.capacity_eq, ?_⟩
        · exact (WellFormed.write_frame ring data length).1.trans h.size_eq
        · show (gcomRingWrite ring data length).1.contents =
            queue.items ++ (data.take length.toNat).take queue.free
          rw [h.wf.write_contents hdata, hcount, h.contents_eq, List.take_take, Nat.min_comm]
  | read length =>
      have hcount := WellFormed.read_count ring length
      rw [(h.wf.represents rfl h.contents_eq).readAvailable] at hcount
      constructor
      · show Answer.popped _ _ = Answer.popped _ _
        rw [hcount, h.wf.read_data, h.contents_eq]
      · refine ⟨h.wf.read_wf length, ?_, h.capacity_eq, ?_⟩
        · exact (WellFormed.read_frame ring length).1.trans h.size_eq
        · show (gcomRingRead ring length).1.contents = queue.items.drop length.toNat
          rw [h.wf.read_contents, h.contents_eq]
  | flush =>
      refine ⟨rfl, ?_, h.size_eq, h.capacity_eq, ?_⟩
      · exact ⟨h.wf.size_pow, h.wf.mask_eq, h.wf.writePos_lt, h.wf.writePos_lt,
          h.wf.buffer_length⟩
      · exact (⟨ring, h.wf⟩ : Ring).flush_contents

/-- A new ring is coupled to the empty queue. -/
theorem RingBuffer.Refines.init {size : ULONG} {allocate : Bool} {ring : RingBuffer}
    (hinit : gcomRingInit size allocate = .ok ring) :
    ring.Refines size (Queue.empty (size.toNat - 1)) := by
  have hwf := gcom_ring_init_wf hinit
  unfold gcomRingInit at hinit
  split at hinit
  · cases hinit
  · split at hinit
    · cases hinit
      refine ⟨hwf, rfl, rfl, ?_⟩
      apply List.eq_nil_of_length_eq_zero
      simp [RingBuffer.contents, gcomRingReadAvailable]
    · cases hinit

/-- `GcomRingInit` accepts exactly the powers of two. From then on every sequence of calls is
answered as a queue of `Size - 1` bytes answers it; after it both positions lie below `Size`, the
readable and the writable count are the length of the queue and the room in it, the ring holds the
queue's bytes, and whichever call comes next copies only inside the storage. -/
theorem ring_refines_bounded_queue (size : ULONG) :
    ((∃ ring, gcomRingInit size true = .ok ring) ↔ ∃ k ≤ 31, size.toNat = 2 ^ k) ∧
      ∀ allocate ring, gcomRingInit size allocate = .ok ring → ∀ calls : List RingCall,
        answers RingCall.next ring calls =
            answers Queue.next (Queue.empty (size.toNat - 1)) (calls.map RingCall.toQueue) ∧
          (final RingCall.next ring calls).Represents size
            (final Queue.next (Queue.empty (size.toNat - 1)) (calls.map RingCall.toQueue)) ∧
          ∀ call : RingCall, ∀ copy ∈ call.copies (final RingCall.next ring calls),
            copy.InRange size := by
  refine ⟨gcom_ring_init_accepts size, ?_⟩
  intro allocate ring hinit calls
  have hstep : ∀ ring queue call, ring.Refines size queue →
      (RingCall.next ring call).2 = (queue.next call.toQueue).2 ∧
        (RingCall.next ring call).1.Refines size (queue.next call.toQueue).1 :=
    fun ring queue call h ↦ h.next call
  obtain ⟨hanswers, hfinal⟩ :=
    answers_eq_of_simulation hstep calls (RingBuffer.Refines.init hinit)
  refine ⟨hanswers, hfinal.wf.represents hfinal.size_eq hfinal.contents_eq, ?_⟩
  intro call copy hcopy
  have hrange := hfinal.wf.copies_inRange call copy hcopy
  rwa [hfinal.size_eq] at hrange

/-- The ring `GcomRingInit` sets up for four bytes. -/
def fourByteRing : RingBuffer where
  buffer := [0, 0, 0, 0]
  size := 4
  mask := 3
  writePos := 0
  readPos := 0

/-- A ring of four bytes takes three of the five bytes written to it; the next write wraps. -/
theorem four_byte_ring_answers :
    answers RingCall.next fourByteRing
        [.write [1, 2, 3, 4, 5] 5 (by decide), .read 2, .write [6, 7] 2 (by decide), .read 9,
          .flush] =
      [.pushed 3, .popped 2 [1, 2], .pushed 2, .popped 3 [3, 6, 7], .cleared] := by
  rw [((ring_refines_bounded_queue 4).2 true fourByteRing rfl _).1]
  rfl

end GhostCom
