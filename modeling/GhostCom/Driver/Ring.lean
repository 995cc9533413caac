import GhostCom.Driver.RingBuffer

/-!
# Rings as bounded queues

`Ring` is a `RingBuffer` together with its well-formedness, so the operations of `ringbuf.h` act on
it without side conditions. `Ring.contents` is the queue a ring holds and `Ring.capacity` the
`Size - 1` bytes it can hold. The lemmas `write_contents`, `read_contents` and `flush_contents`
describe the operations on the contents; later modules use these and never unfold a ring.
-/

namespace GhostCom

open CircularBuffer (window store fetch position)

/-- The bytes a ring holds, oldest first. -/
def RingBuffer.contents (ring : RingBuffer) : List UCHAR :=
  window ring.buffer ring.readPos.toNat (gcomRingReadAvailable ring).toNat

namespace RingBuffer.WellFormed

variable {ring : RingBuffer}

/-- `gcomRingWrite` reports the count it computed first. -/
theorem write_count_eq (data : List UCHAR) (length : ULONG) :
    (gcomRingWrite ring data length).2 = ulongMin length (gcomRingWriteAvailable ring) := by
  unfold gcomRingWrite
  dsimp only
  split
  · next hzero => exact hzero.symm
  · rfl

/-- A write that accepts nothing leaves the ring alone. -/
theorem write_of_count_zero {data : List UCHAR} {length : ULONG}
    (hzero : (gcomRingWrite ring data length).2.toNat = 0) :
    (gcomRingWrite ring data length).1 = ring := by
  have hcount : ulongMin length (gcomRingWriteAvailable ring) = 0 := by
    rw [← write_count_eq data length]
    exact BitVec.eq_of_toNat_eq hzero
  unfold gcomRingWrite
  dsimp only
  rw [if_pos hcount]

/-- The number of bytes `gcomRingWrite` accepts. -/
theorem write_count (h : ring.WellFormed) (data : List UCHAR) (length : ULONG) :
    (gcomRingWrite ring data length).2.toNat =
      min length.toNat (ring.size.toNat - 1 - (gcomRingReadAvailable ring).toNat) := by
  rw [write_count_eq, ulong_min_toNat, h.writeAvailable_toNat]

/-- `gcomRingWrite` changes only the buffer and the write position. -/
theorem write_frame (ring : RingBuffer) (data : List UCHAR) (length : ULONG) :
    (gcomRingWrite ring data length).1.size = ring.size ∧
      (gcomRingWrite ring data length).1.mask = ring.mask ∧
      (gcomRingWrite ring data length).1.readPos = ring.readPos := by
  unfold gcomRingWrite
  dsimp only
  split <;> exact ⟨rfl, rfl, rfl⟩

/-- `gcomRingWrite` moves the write position by the bytes it accepts. -/
theorem write_writePos (h : ring.WellFormed) (data : List UCHAR) (length : ULONG) :
    (gcomRingWrite ring data length).1.writePos.toNat =
      position ring.size.toNat ring.writePos.toNat (gcomRingWrite ring data length).2.toNat := by
  have hcount := h.write_count data length
  have hread := h.readAvailable_lt
  have hw := h.writePos_lt
  rw [write_count_eq] at hcount ⊢
  unfold gcomRingWrite
  dsimp only
  split
  · next hzero => simp [hzero, position, hw]
  · exact h.advance_toNat hw (by omega)

/-- The first chunk of an `n`-byte transfer at a position runs up to the end of the buffer, and the
second holds the rest. -/
theorem chunk_toNat (h : ring.WellFormed) {pos : ULONG} (hpos : pos.toNat < ring.size.toNat)
    (n : ULONG) :
    (ulongMin n (ring.size - (pos &&& ring.mask))).toNat =
        min n.toNat (ring.size.toNat - pos.toNat) ∧
      (n - ulongMin n (ring.size - (pos &&& ring.mask))).toNat =
        n.toNat - min n.toNat (ring.size.toNat - pos.toNat) := by
  have hmask := h.and_mask_of_lt hpos
  have hroom : pos &&& ring.mask ≤ ring.size := by
    rw [BitVec.le_def, hmask]
    omega
  have hfirst : (ulongMin n (ring.size - (pos &&& ring.mask))).toNat =
      min n.toNat (ring.size.toNat - pos.toNat) := by
    rw [ulong_min_toNat, BitVec.toNat_sub_of_le hroom, hmask]
  refine ⟨hfirst, ?_⟩
  have hle : ulongMin n (ring.size - (pos &&& ring.mask)) ≤ n := by
    rw [BitVec.le_def, hfirst]
    omega
  rw [BitVec.toNat_sub_of_le hle, hfirst]

/-- `gcomRingWrite` stores the bytes it accepts at the write position. -/
theorem write_buffer (h : ring.WellFormed) {data : List UCHAR} {length : ULONG}
    (hdata : length.toNat ≤ data.length) (hpos : 0 < (gcomRingWrite ring data length).2.toNat) :
    (gcomRingWrite ring data length).1.buffer =
      store ring.buffer ring.writePos.toNat
        (data.take (gcomRingWrite ring data length).2.toNat) := by
  have hcount := h.write_count data length
  have hw := h.writePos_lt
  have hwp := h.and_mask_of_lt hw
  have hbuf := h.buffer_length
  rw [write_count_eq] at hcount hpos ⊢
  have hne : ulongMin length (gcomRingWriteAvailable ring) ≠ 0 := by
    intro hzero
    rw [hzero] at hpos
    exact Nat.lt_irrefl 0 hpos
  unfold gcomRingWrite
  dsimp only
  rw [if_neg hne]
  generalize ulongMin length (gcomRingWriteAvailable ring) = n at hcount hpos ⊢
  obtain ⟨hfirst, hrest⟩ := h.chunk_toNat hw n
  have hitems : (data.take n.toNat).length = n.toNat := by
    simp only [List.length_take]
    omega
  unfold store rtlCopyMemory
  dsimp only
  simp only [hitems, hbuf, hwp, gt_iff_lt, BitVec.lt_def, hfirst, hrest, List.take_take,
    List.drop_take]
  rw [Nat.min_eq_left (Nat.min_le_left _ _)]
  rfl

theorem write_wf (h : ring.WellFormed) {data : List UCHAR} {length : ULONG}
    (hdata : length.toNat ≤ data.length) : (gcomRingWrite ring data length).1.WellFormed := by
  obtain ⟨hs, hm, hr⟩ := write_frame ring data length
  have hcount := h.write_count data length
  have hsize := h.size_pos
  refine ⟨hs ▸ h.size_pow, by rw [hs, hm, h.mask_eq], ?_, by rw [hs, hr]; exact h.readPos_lt, ?_⟩
  · rw [hs, h.write_writePos]
    exact CircularBuffer.position_lt h.writePos_lt (by omega)
  · rw [hs]
    by_cases hpos : 0 < (gcomRingWrite ring data length).2.toNat
    · rw [h.write_buffer hdata hpos, CircularBuffer.store_length]
      · exact h.buffer_length
      · rw [h.buffer_length]
        exact h.writePos_lt
      · rw [h.buffer_length, List.length_take]
        omega
    · rw [write_of_count_zero (Nat.eq_zero_of_not_pos hpos)]
      exact h.buffer_length

/-- Writing lengthens the readable distance by the bytes accepted. -/
theorem write_readAvailable (h : ring.WellFormed) {data : List UCHAR} {length : ULONG}
    (hdata : length.toNat ≤ data.length) :
    (gcomRingReadAvailable (gcomRingWrite ring data length).1).toNat =
      (gcomRingReadAvailable ring).toNat + (gcomRingWrite ring data length).2.toNat := by
  obtain ⟨hs, -, hr⟩ := write_frame ring data length
  have hcount := h.write_count data length
  have hlt := h.readAvailable_lt
  have hread := h.readPos_lt
  rw [(h.write_wf hdata).readAvailable_toNat, h.write_writePos, h.writePos_eq, hs, hr,
    CircularBuffer.position_position hread (by omega)]
  unfold position
  split <;> split <;> omega

/-- `gcomRingWrite` appends the front of the data that fits. -/
theorem write_contents (h : ring.WellFormed) {data : List UCHAR} {length : ULONG}
    (hdata : length.toNat ≤ data.length) :
    (gcomRingWrite ring data length).1.contents =
      ring.contents ++ data.take (gcomRingWrite ring data length).2.toNat := by
  obtain ⟨hs, -, hr⟩ := write_frame ring data length
  have hcount := h.write_count data length
  have hlt := h.readAvailable_lt
  have hread := h.readPos_lt
  have hbuf := h.buffer_length
  unfold RingBuffer.contents
  rw [h.write_readAvailable hdata, hr]
  by_cases hpos : 0 < (gcomRingWrite ring data length).2.toNat
  · have htake : (data.take (gcomRingWrite ring data length).2.toNat).length =
        (gcomRingWrite ring data length).2.toNat := by
      simp only [List.length_take]
      omega
    rw [h.write_buffer hdata hpos, h.writePos_eq, ← hbuf, ← CircularBuffer.window_store, htake]
    · rwa [hbuf]
    · rw [htake, hbuf]
      omega
    · rwa [hbuf]
  · have hzero := Nat.eq_zero_of_not_pos hpos
    rw [write_of_count_zero hzero, hzero]
    simp

/-- `gcomRingRead` changes only the read position. -/
theorem read_frame (ring : RingBuffer) (length : ULONG) :
    (gcomRingRead ring length).1.size = ring.size ∧
      (gcomRingRead ring length).1.mask = ring.mask ∧
      (gcomRingRead ring length).1.writePos = ring.writePos ∧
      (gcomRingRead ring length).1.buffer = ring.buffer := by
  unfold gcomRingRead
  dsimp only
  split <;> exact ⟨rfl, rfl, rfl, rfl⟩

/-- `gcomRingRead` reports the count it computed first. -/
theorem read_count_eq (length : ULONG) :
    (gcomRingRead ring length).2.1 = ulongMin length (gcomRingReadAvailable ring) := by
  unfold gcomRingRead
  dsimp only
  split
  · next hzero => exact hzero.symm
  · rfl

/-- The number of bytes `gcomRingRead` returns. -/
theorem read_count (ring : RingBuffer) (length : ULONG) :
    (gcomRingRead ring length).2.1.toNat =
      min length.toNat (gcomRingReadAvailable ring).toNat := by
  rw [read_count_eq, ulong_min_toNat]

/-- `gcomRingRead` moves the read position by the bytes it returns. -/
theorem read_readPos (h : ring.WellFormed) (length : ULONG) :
    (gcomRingRead ring length).1.readPos.toNat =
      position ring.size.toNat ring.readPos.toNat (gcomRingRead ring length).2.1.toNat := by
  have hcount := read_count ring length
  have hlt := h.readAvailable_lt
  have hr := h.readPos_lt
  rw [read_count_eq] at hcount ⊢
  unfold gcomRingRead
  dsimp only
  split
  · next hzero => simp [hzero, position, hr]
  · exact h.advance_toNat hr (by omega)

theorem read_wf (h : ring.WellFormed) (length : ULONG) :
    (gcomRingRead ring length).1.WellFormed := by
  obtain ⟨hs, hm, hw, hb⟩ := read_frame ring length
  have hcount := read_count ring length
  have hlt := h.readAvailable_lt
  refine ⟨hs ▸ h.size_pow, by rw [hs, hm, h.mask_eq], by rw [hs, hw]; exact h.writePos_lt, ?_,
    by rw [hs, hb]; exact h.buffer_length⟩
  rw [hs, h.read_readPos]
  exact CircularBuffer.position_lt h.readPos_lt (by omega)

/-- `gcomRingRead` returns the oldest bytes. -/
theorem read_data (h : ring.WellFormed) (length : ULONG) :
    (gcomRingRead ring length).2.2 = ring.contents.take length.toNat := by
  have hcount := ulong_min_toNat length (gcomRingReadAvailable ring)
  have hlt := h.readAvailable_lt
  have hr := h.readPos_lt
  have hrp := h.and_mask_of_lt hr
  have hbuf := h.buffer_length
  have htake : ring.contents.take length.toNat =
      window ring.buffer ring.readPos.toNat
        (ulongMin length (gcomRingReadAvailable ring)).toNat := by
    unfold RingBuffer.contents
    rw [hcount, ← CircularBuffer.window_take (Nat.min_le_right _ _), List.take_eq_take_min,
      CircularBuffer.window_length]
  rw [htake]
  unfold gcomRingRead
  dsimp only
  split
  · next hzero => simp [hzero]
  · generalize ulongMin length (gcomRingReadAvailable ring) = n at hcount ⊢
    obtain ⟨hfirst, hrest⟩ := h.chunk_toNat hr n
    rw [← CircularBuffer.fetch_eq_window (by rwa [hbuf]) (by omega)]
    unfold fetch
    dsimp only
    simp only [hbuf, hrp, gt_iff_lt, BitVec.lt_def, hfirst, hrest]

/-- `gcomRingRead` removes the bytes it returns. -/
theorem read_contents (h : ring.WellFormed) (length : ULONG) :
    (gcomRingRead ring length).1.contents = ring.contents.drop length.toNat := by
  obtain ⟨hs, -, hw, hb⟩ := read_frame ring length
  have hcount := read_count ring length
  have hlt := h.readAvailable_lt
  have hr := h.readPos_lt
  have hbuf := h.buffer_length
  have havail : (gcomRingReadAvailable (gcomRingRead ring length).1).toNat =
      (gcomRingReadAvailable ring).toNat - (gcomRingRead ring length).2.1.toNat := by
    rw [(h.read_wf length).readAvailable_toNat, h.read_readPos, hs, hw, h.writePos_eq]
    unfold position
    split <;> split <;> split <;> omega
  have hdrop : ring.contents.drop length.toNat =
      ring.contents.drop (gcomRingRead ring length).2.1.toNat := by
    unfold RingBuffer.contents
    rw [hcount]
    by_cases hle : length.toNat ≤ (gcomRingReadAvailable ring).toNat
    · rw [Nat.min_eq_left hle]
    · rw [List.drop_eq_nil_of_le (by simp; omega), List.drop_eq_nil_of_le (by simp; omega)]
  rw [hdrop]
  unfold RingBuffer.contents
  rw [havail, h.read_readPos, hb, ← hbuf, CircularBuffer.window_drop (by rwa [hbuf]) (by omega)
    (by omega)]

end RingBuffer.WellFormed

/-- A ring that `gcomRingInit` or an operation of `ringbuf.h` can have produced. -/
structure Ring extends RingBuffer where
  wf : toRingBuffer.WellFormed

namespace Ring

/-- The number of bytes a ring can hold. -/
def capacity (ring : Ring) : ℕ := ring.size.toNat - 1

/-- The bytes a ring holds, oldest first. -/
def contents (ring : Ring) : List UCHAR := ring.toRingBuffer.contents

/-- `gcomRingWrite` of a whole buffer. -/
def write (ring : Ring) (req : WriteRequest) : Ring × ULONG :=
  ⟨⟨(gcomRingWrite ring.toRingBuffer req.data req.length).1,
    ring.wf.write_wf (by simp)⟩, (gcomRingWrite ring.toRingBuffer req.data req.length).2⟩

/-- `gcomRingRead` into a buffer of the given length. -/
def read (ring : Ring) (length : ULONG) : Ring × ULONG × List UCHAR :=
  ⟨⟨(gcomRingRead ring.toRingBuffer length).1, ring.wf.read_wf length⟩,
    (gcomRingRead ring.toRingBuffer length).2⟩

/-- `gcomRingFlush`. -/
def flush (ring : Ring) : Ring :=
  ⟨gcomRingFlush ring.toRingBuffer,
    ⟨ring.wf.size_pow, ring.wf.mask_eq, ring.wf.writePos_lt, ring.wf.writePos_lt,
      ring.wf.buffer_length⟩⟩

/-- `gcomRingIsEmpty`. -/
def isEmpty (ring : Ring) : Bool := gcomRingIsEmpty ring.toRingBuffer

/-- `gcomRingWriteAvailable`. -/
def writeAvailable (ring : Ring) : ULONG := gcomRingWriteAvailable ring.toRingBuffer

/-- `gcomRingReadAvailable`. -/
def readAvailable (ring : Ring) : ULONG := gcomRingReadAvailable ring.toRingBuffer

variable (ring : Ring)

@[simp] theorem readAvailable_toNat : ring.readAvailable.toNat = ring.contents.length := by
  simp [readAvailable, contents, RingBuffer.contents]

theorem contents_length_le : ring.contents.length ≤ ring.capacity := by
  have := ring.wf.readAvailable_lt
  rw [← readAvailable_toNat, readAvailable, capacity]
  omega

@[simp] theorem writeAvailable_toNat :
    ring.writeAvailable.toNat = ring.capacity - ring.contents.length := by
  rw [← readAvailable_toNat]
  exact ring.wf.writeAvailable_toNat

@[simp] theorem isEmpty_iff : ring.isEmpty = true ↔ ring.contents = [] := by
  rw [← List.length_eq_zero_iff, ← readAvailable_toNat]
  simp [isEmpty, gcomRingIsEmpty, readAvailable, BitVec.toNat_eq]

@[simp] theorem write_capacity (req : WriteRequest) :
    (ring.write req).1.capacity = ring.capacity := by
  simp only [write, capacity]
  rw [(RingBuffer.WellFormed.write_frame _ _ _).1]

@[simp] theorem write_count (req : WriteRequest) :
    (ring.write req).2.toNat = min req.data.length (ring.capacity - ring.contents.length) := by
  rw [← readAvailable_toNat, ← req.length_toNat]
  exact ring.wf.write_count _ _

/-- Writing appends the front of the data that fits. -/
@[simp] theorem write_contents (req : WriteRequest) :
    (ring.write req).1.contents = ring.contents ++ req.data.take (ring.write req).2.toNat :=
  ring.wf.write_contents (by simp)

@[simp] theorem read_capacity (length : ULONG) :
    (ring.read length).1.capacity = ring.capacity := by
  simp only [read, capacity]
  rw [(RingBuffer.WellFormed.read_frame _ _).1]

@[simp] theorem read_count (length : ULONG) :
    (ring.read length).2.1.toNat = min length.toNat ring.contents.length := by
  rw [← readAvailable_toNat]
  exact RingBuffer.WellFormed.read_count _ _

/-- Reading returns the oldest bytes. -/
@[simp] theorem read_data (length : ULONG) :
    (ring.read length).2.2 = ring.contents.take length.toNat :=
  ring.wf.read_data length

/-- Reading removes the bytes it returns. -/
@[simp] theorem read_contents (length : ULONG) :
    (ring.read length).1.contents = ring.contents.drop length.toNat :=
  ring.wf.read_contents length

@[simp] theorem flush_capacity : ring.flush.capacity = ring.capacity := rfl

@[simp] theorem flush_contents : ring.flush.contents = [] := by
  simp [flush, contents, RingBuffer.contents, gcomRingFlush, gcomRingReadAvailable]

end Ring

/-- `gcomRingInit` accepts the size of the driver's rings. -/
theorem gcom_ring_init_ok : gcomRingInit gcomRingBufferSize true = .ok {
    buffer := List.replicate gcomRingBufferSize.toNat 0
    size := gcomRingBufferSize
    mask := gcomRingBufferSize - 1
    writePos := 0
    readPos := 0 } := by
  rw [gcomRingInit, if_neg (by decide), if_pos rfl]

/-- A successful `gcomRingInit` yields a well-formed ring. -/
theorem gcom_ring_init_wf {size : ULONG} {allocate : Bool} {ring : RingBuffer}
    (h : gcomRingInit size allocate = .ok ring) : ring.WellFormed := by
  unfold gcomRingInit at h
  split at h
  · cases h
  · next hsize =>
      push Not at hsize
      split at h
      · cases h
        have hne : size.toNat ≠ 0 := fun hzero ↦ hsize.1 (BitVec.eq_of_toNat_eq (by simpa))
        have hand : size.toNat &&& (size.toNat - 1) = 0 := by
          have hpred : (size - 1).toNat = size.toNat - 1 := by
            rw [BitVec.toNat_sub, show (1 : ULONG).toNat = 1 from rfl]
            have := size.isLt
            omega
          rw [← hpred, ← BitVec.toNat_and, hsize.2]
          rfl
        obtain ⟨k, hk⟩ := and_pred_eq_zero hne hand
        have hexp : k ≤ 31 := by
          by_contra hlt
          have hle : (2 : ℕ) ^ 32 ≤ 2 ^ k := Nat.pow_le_pow_right Nat.two_pos (by omega)
          have := size.isLt
          omega
        exact ⟨⟨k, hexp, hk⟩, rfl, Nat.pos_of_ne_zero hne, Nat.pos_of_ne_zero hne, by simp⟩
      · cases h

/-- The ring of a new port pair. -/
def Ring.initial : Ring := ⟨_, gcom_ring_init_wf gcom_ring_init_ok⟩

/-- A new ring holds one byte less than its buffer. -/
@[simp] theorem Ring.initial_capacity : Ring.initial.capacity = 65535 := rfl

@[simp] theorem Ring.initial_contents : Ring.initial.contents = [] := by
  rw [← List.length_eq_zero_iff, ← Ring.readAvailable_toNat]
  rfl

end GhostCom
