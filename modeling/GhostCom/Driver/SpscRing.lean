import Mathlib.Data.List.Forall2
import GhostCom.Driver.Ring
import GhostCom.Library.Spsc
import GhostCom.Library.Transition

/-!
# The ring buffer without a lock

The thread safety model of `ringbuf.h`: one producer runs `GcomRingWrite` calls while one consumer
runs `GcomRingRead` and `GcomRingFlush` calls. A call is split where the other party can see it or
be seen by it: it reads the peer's position, copies bytes one at a time, and publishes its own
position. What a call works out from its own position is local to it, since nobody else writes that.

`SharedRing.StandsFor` relates a shared ring to an `Spsc.State` with unbounded counters, and
`step_moves` shows that every step is a move there or none. `ring_lock_free` follows.
-/

namespace GhostCom

open Transition (EveryStep)

/-- The cell of byte `i` of a transfer: the first chunk runs from a position on, the second one from
the first cell on. -/
def transferCell (pos firstChunk : ULONG) (i : ℕ) : ℕ :=
  if i < firstChunk.toNat then pos.toNat + i else i - firstChunk.toNat

/-- A `GcomRingWrite` call that has read the consumer's position, and the bytes it has copied. -/
structure RingWriteCall where
  data : List UCHAR
  toWrite : ULONG
  wp : ULONG
  firstChunk : ULONG
  copied : ℕ

/-- A `GcomRingRead` call that has read the producer's position, and the bytes it has copied. -/
structure RingReadCall where
  toRead : ULONG
  rp : ULONG
  firstChunk : ULONG
  data : List UCHAR

/-- A call of the consumer in progress; a flush holds the position it has read. -/
inductive ConsumerCall where
  | read (call : RingReadCall)
  | flush (wp : ULONG)

/-- What a call of the consumer has taken: the bytes of a read, or the number of bytes that a flush
has discarded. -/
inductive Consumed where
  | read (bytes : List UCHAR)
  | flush (count : ℕ)

/-- A ring with the calls in progress, the bytes that finished writes have put in, and what finished
calls of the consumer have taken. -/
structure SharedRing where
  ring : RingBuffer
  producer : Option RingWriteCall
  consumer : Option ConsumerCall
  written : List UCHAR
  consumed : List Consumed

/-- The steps of the two parties. A write is given at least as many bytes as its length says. -/
inductive RingStep where
  | write (data : List UCHAR) (length : ULONG) (fits : length.toNat ≤ data.length)
  | storeByte
  | publishWrite
  | read (length : ULONG)
  | loadByte
  | publishRead
  | flush
  | publishFlush

namespace SharedRing

/-- A ring that nobody has used. -/
def start (ring : RingBuffer) : SharedRing := ⟨ring, none, none, [], []⟩

/-- One step; a call that finds nothing to transfer returns at once. -/
def next (s : SharedRing) : RingStep → Option SharedRing
  | .write data length _ =>
      match s.producer with
      | some _ => none
      | none =>
          let toWrite := ulongMin length (gcomRingWriteAvailable s.ring)
          let wp := s.ring.writePos &&& s.ring.mask
          if toWrite = 0 then some s
          else
            let firstChunk := ulongMin toWrite (s.ring.size - wp)
            some { s with producer := some ⟨data, toWrite, wp, firstChunk, 0⟩ }
  | .storeByte =>
      match s.producer with
      | none => none
      | some call =>
          if call.copied < call.toWrite.toNat then
            some { s with
              ring.buffer := s.ring.buffer.set
                (transferCell call.wp call.firstChunk call.copied) (call.data.getD call.copied 0)
              producer := some { call with copied := call.copied + 1 } }
          else none
  | .publishWrite =>
      match s.producer with
      | none => none
      | some call =>
          if call.copied = call.toWrite.toNat then
            some { s with
              ring.writePos := (s.ring.writePos + call.toWrite) &&& s.ring.mask
              producer := none
              written := s.written ++ call.data.take call.copied }
          else none
  | .read length =>
      match s.consumer with
      | some _ => none
      | none =>
          let toRead := ulongMin length (gcomRingReadAvailable s.ring)
          let rp := s.ring.readPos &&& s.ring.mask
          if toRead = 0 then some s
          else
            let firstChunk := ulongMin toRead (s.ring.size - rp)
            some { s with consumer := some (.read ⟨toRead, rp, firstChunk, []⟩) }
  | .loadByte =>
      match s.consumer with
      | some (.read call) =>
          if call.data.length < call.toRead.toNat then
            let byte := s.ring.buffer.getD (transferCell call.rp call.firstChunk call.data.length) 0
            some { s with consumer := some (.read { call with data := call.data ++ [byte] }) }
          else none
      | _ => none
  | .publishRead =>
      match s.consumer with
      | some (.read call) =>
          if call.data.length = call.toRead.toNat then
            some { s with
              ring.readPos := (s.ring.readPos + call.toRead) &&& s.ring.mask
              consumer := none
              consumed := s.consumed ++ [.read call.data] }
          else none
      | _ => none
  | .flush =>
      match s.consumer with
      | some _ => none
      | none => some { s with consumer := some (.flush s.ring.writePos) }
  | .publishFlush =>
      match s.consumer with
      | some (.flush wp) =>
          -- the bytes discarded lie between the old position and the new one
          let count := (gcomRingReadAvailable { s.ring with writePos := wp }).toNat
          some { s with
            ring.readPos := wp
            consumer := none
            consumed := s.consumed ++ [.flush count] }
      | _ => none

/-- The bytes that the producer has copied and not published. -/
def ahead (s : SharedRing) : ℕ := (s.producer.map (·.copied)).getD 0

end SharedRing

/-- A stretch of the written bytes is what a call of the consumer has taken. -/
def Consumed.Takes : Consumed → List UCHAR → Prop
  | .read data, bytes => data = bytes
  | .flush count, bytes => bytes.length = count

/-- The cell holds a byte that has been published and neither read nor discarded. -/
def RingBuffer.Occupied (ring : RingBuffer) (cell : ℕ) : Prop :=
  ∃ i < (gcomRingReadAvailable ring).toNat, cell = (ring.readPos.toNat + i) % ring.size.toNat

/-- The written bytes are those taken, in order, and then those in the ring; a read in progress has
got the first of these; with the bytes copied ahead they leave one cell unused. -/
structure SharedRing.InOrder (s : SharedRing) : Prop where
  stream : ∃ taken, List.Forall₂ Consumed.Takes s.consumed taken ∧
    s.written = taken.flatten ++ s.ring.contents
  reading : ∀ call, s.consumer = some (.read call) → call.data <+: s.ring.contents
  occupancy : s.ring.contents.length + s.ahead ≤ s.ring.size.toNat - 1

/-- A step leaves the bytes in order, stores only to a cell of the buffer that is not occupied, and
loads only from an occupied one. -/
structure SharedRing.SafeStep (s : SharedRing) (e : RingStep) (t : SharedRing) : Prop where
  inOrder : t.InOrder
  stored : e = .storeByte → ∀ call, s.producer = some call →
    transferCell call.wp call.firstChunk call.copied < s.ring.buffer.length ∧
      ¬s.ring.Occupied (transferCell call.wp call.firstChunk call.copied)
  loaded : e = .loadByte → ∀ call, s.consumer = some (.read call) →
    s.ring.Occupied (transferCell call.rp call.firstChunk call.data.length)

/-! ## Positions and counters -/

namespace RingBuffer.WellFormed

variable {ring : RingBuffer} (h : ring.WellFormed)
include h

/-- The readable distance of two positions is the distance of the counters they stand for. -/
theorem readAvailable_of_counters {w r : ℕ} (hw : ring.writePos.toNat = w % ring.size.toNat)
    (hr : ring.readPos.toNat = r % ring.size.toNat) (hle : r ≤ w)
    (hlt : w < r + ring.size.toNat) : (gcomRingReadAvailable ring).toNat = w - r := by
  have hread := h.readPos_lt
  have hcircle : w % ring.size.toNat =
      CircularBuffer.position ring.size.toNat (r % ring.size.toNat) (w - r) := by
    rw [CircularBuffer.position_eq_mod (hr ▸ hread) (by omega), Nat.mod_add_mod]
    congr 1
    omega
  rw [h.readAvailable_toNat, hw, hcircle, hr]
  rw [hr] at hread
  unfold CircularBuffer.position
  split <;> split <;> omega

/-- Advancing a position is adding to the counter it stands for. -/
theorem advance_counter {x n : ULONG} {c : ℕ} (hx : x.toNat = c % ring.size.toNat)
    (hn : n.toNat ≤ ring.size.toNat) :
    ((x + n) &&& ring.mask).toNat = (c + n.toNat) % ring.size.toNat := by
  have hlt : x.toNat < ring.size.toNat := hx ▸ Nat.mod_lt c h.size_pos
  rw [h.advance_toNat hlt hn, CircularBuffer.position_eq_mod hlt hn, hx, Nat.mod_add_mod]

/-- The cells of a transfer follow the counter it starts at. -/
theorem transfer_cell_eq {pos n : ULONG} {c i : ℕ} (hpos : pos.toNat = c % ring.size.toNat)
    (hi : i < n.toNat) (hn : n.toNat ≤ ring.size.toNat) :
    transferCell (pos &&& ring.mask) (ulongMin n (ring.size - (pos &&& ring.mask))) i =
      (c + i) % ring.size.toNat := by
  have hlt : pos.toNat < ring.size.toNat := hpos ▸ Nat.mod_lt c h.size_pos
  obtain ⟨hfirst, -⟩ := h.chunk_toNat hlt n
  have hcircle : (c + i) % ring.size.toNat =
      CircularBuffer.position ring.size.toNat pos.toNat i := by
    rw [CircularBuffer.position_eq_mod hlt (by omega), hpos, Nat.mod_add_mod]
  rw [hcircle, transferCell, hfirst, h.and_mask_of_lt hlt]
  unfold CircularBuffer.position
  split <;> split <;> omega

end RingBuffer.WellFormed

/-! ## Calls without interference -/

section Alone

/-- The cells of a transfer are those after its position. -/
theorem RingBuffer.WellFormed.transfer_cell_position {ring : RingBuffer} (h : ring.WellFormed)
    {pos n : ULONG} {i : ℕ} (hpos : pos.toNat < ring.size.toNat) (hi : i < n.toNat)
    (hn : n.toNat ≤ ring.size.toNat) :
    transferCell (pos &&& ring.mask) (ulongMin n (ring.size - (pos &&& ring.mask))) i =
      CircularBuffer.position ring.size.toNat pos.toNat i := by
  have hcell := h.transfer_cell_eq (Nat.mod_eq_of_lt hpos).symm hi hn
  rw [hcell, CircularBuffer.position_eq_mod hpos (by omega)]

variable {s : SharedRing} (hwf : s.ring.WellFormed)
include hwf

/-- A write that stores `n` bytes one after the other stores them as `RtlCopyMemory` does. -/
theorem store_bytes_alone {call : RingWriteCall} (hcall : s.producer = some call)
    (hstart : call.copied = 0) (hwp : call.wp = s.ring.writePos &&& s.ring.mask)
    (hfirst : call.firstChunk = ulongMin call.toWrite (s.ring.size - call.wp))
    (hfits : call.toWrite.toNat ≤ call.data.length)
    (hsize : call.toWrite.toNat ≤ s.ring.size.toNat) {n : ℕ} (hn : n ≤ call.toWrite.toNat) :
    Transition.run SharedRing.next s (List.replicate n .storeByte) = some { s with
      ring.buffer := CircularBuffer.store s.ring.buffer s.ring.writePos.toNat (call.data.take n)
      producer := some { call with copied := n } } := by
  induction n with
  | zero =>
      have hnone : { call with copied := 0 } = call := by
        rw [← hstart]
      rw [List.take_zero, CircularBuffer.store_nil, hnone, ← hcall]
      rfl
  | succ n ih =>
      have hget : call.data[n]? = some (call.data.getD n 0) := by
        rw [List.getD_eq_getElem?_getD, List.getElem?_eq_getElem (by omega), Option.getD_some]
      have hlength : (call.data.take n).length = n := by
        rw [List.length_take]
        omega
      have hcell : transferCell call.wp call.firstChunk n =
          CircularBuffer.position s.ring.buffer.length s.ring.writePos.toNat
            (call.data.take n).length := by
        rw [hfirst, hwp, hwf.transfer_cell_position hwf.writePos_lt hn hsize, hwf.buffer_length,
          hlength]
      have hstore := CircularBuffer.store_concat (hwf.buffer_length.symm ▸ hwf.writePos_lt)
        (show (call.data.take n).length < s.ring.buffer.length by
          rw [hlength, hwf.buffer_length]
          omega) (call.data.getD n 0)
      rw [List.replicate_succ', Transition.run_append, ih (by omega), Option.bind_some,
        Transition.run_cons, SharedRing.next]
      dsimp only
      rw [if_pos (by omega), Option.bind_some, List.take_add_one, hget, hcell]
      simp only [Option.toList_some, hstore]
      rfl

/-- A write that is not interrupted is `gcomRingWrite`. -/
theorem write_alone (hproducer : s.producer = none) (data : List UCHAR) (length : ULONG)
    (fits : length.toNat ≤ data.length) :
    ∃ steps, Transition.run SharedRing.next s (.write data length fits :: steps) = some { s with
      ring := (gcomRingWrite s.ring data length).1
      written := s.written ++ data.take (gcomRingWrite s.ring data length).2.toNat } := by
  have hcount := hwf.write_count data length
  have hle := hwf.readAvailable_lt
  rw [RingBuffer.WellFormed.write_count_eq] at hcount ⊢
  by_cases hzero : ulongMin length (gcomRingWriteAvailable s.ring) = 0
  · have hsame : (gcomRingWrite s.ring data length).1 = s.ring := by
      apply RingBuffer.WellFormed.write_of_count_zero
      rw [RingBuffer.WellFormed.write_count_eq, hzero]
      rfl
    refine ⟨[], ?_⟩
    rw [Transition.run_cons, SharedRing.next, hproducer, hsame]
    simp [hzero, ← hproducer]
  · set n := ulongMin length (gcomRingWriteAvailable s.ring) with hn
    have hring : (gcomRingWrite s.ring data length).1 = { s.ring with
        buffer := CircularBuffer.store s.ring.buffer s.ring.writePos.toNat (data.take n.toNat)
        writePos := (s.ring.writePos + n) &&& s.ring.mask } := by
      have hpos : 0 < (gcomRingWrite s.ring data length).2.toNat := by
        rw [RingBuffer.WellFormed.write_count_eq, ← hn]
        exact Nat.pos_of_ne_zero fun h ↦ hzero (BitVec.eq_of_toNat_eq h)
      have hbuffer := hwf.write_buffer fits hpos
      rw [RingBuffer.WellFormed.write_count_eq, ← hn] at hbuffer
      rw [← hbuffer]
      unfold gcomRingWrite
      dsimp only
      rw [if_neg hzero]
    set call : RingWriteCall := ⟨data, n, s.ring.writePos &&& s.ring.mask,
      ulongMin n (s.ring.size - (s.ring.writePos &&& s.ring.mask)), 0⟩ with hcall
    have hbegin : s.next (.write data length fits) = some { s with producer := some call } := by
      simp only [SharedRing.next, hproducer]
      rw [if_neg hzero]
    have hstored := store_bytes_alone (s := { s with producer := some call }) hwf rfl rfl rfl rfl
      (show n.toNat ≤ data.length by omega) (show n.toNat ≤ s.ring.size.toNat by omega)
      (le_refl n.toNat)
    refine ⟨List.replicate n.toNat .storeByte ++ [.publishWrite], ?_⟩
    rw [Transition.run_cons, hbegin, Option.bind_some, Transition.run_append, hstored,
      Option.bind_some, Transition.run_cons, SharedRing.next]
    dsimp only
    rw [if_pos rfl, Option.bind_some, Transition.run_nil, hring, hproducer]

/-- A read that loads `n` bytes one after the other loads the front of the ring. -/
theorem load_bytes_alone {call : RingReadCall} (hcall : s.consumer = some (.read call))
    (hstart : call.data = []) (hrp : call.rp = s.ring.readPos &&& s.ring.mask)
    (hfirst : call.firstChunk = ulongMin call.toRead (s.ring.size - call.rp))
    (hsize : call.toRead.toNat ≤ s.ring.size.toNat) {n : ℕ} (hn : n ≤ call.toRead.toNat) :
    Transition.run SharedRing.next s (List.replicate n .loadByte) = some { s with
      consumer := some (.read { call with
        data := CircularBuffer.window s.ring.buffer s.ring.readPos.toNat n }) } := by
  induction n with
  | zero =>
      have hnone : { call with data := [] } = call := by
        rw [← hstart]
      rw [CircularBuffer.window_zero, hnone, ← hcall]
      rfl
  | succ n ih =>
      have hcell := hwf.transfer_cell_position hwf.readPos_lt hn hsize
      rw [← hrp, ← hfirst, ← hwf.buffer_length] at hcell
      rw [List.replicate_succ', Transition.run_append, ih (by omega), Option.bind_some,
        Transition.run_cons, SharedRing.next]
      dsimp only
      rw [CircularBuffer.window_length, if_pos (by omega), Option.bind_some, hcell,
        CircularBuffer.window_succ]
      rfl

/-- A read that is not interrupted is `gcomRingRead`; one that finds nothing takes nothing. -/
theorem read_alone (hconsumer : s.consumer = none) (length : ULONG) :
    ∃ steps, Transition.run SharedRing.next s (.read length :: steps) = some { s with
      ring := (gcomRingRead s.ring length).1
      consumed := if (gcomRingRead s.ring length).2.1 = 0 then s.consumed
        else s.consumed ++ [.read (gcomRingRead s.ring length).2.2] } := by
  have hcount := RingBuffer.WellFormed.read_count s.ring length
  have hlt := hwf.readAvailable_lt
  rw [RingBuffer.WellFormed.read_count_eq] at hcount ⊢
  by_cases hzero : ulongMin length (gcomRingReadAvailable s.ring) = 0
  · have hsame : (gcomRingRead s.ring length).1 = s.ring := by
      unfold gcomRingRead
      dsimp only
      rw [if_pos hzero]
    refine ⟨[], ?_⟩
    rw [Transition.run_cons, SharedRing.next, hconsumer, hsame]
    simp [hzero, ← hconsumer]
  · set n := ulongMin length (gcomRingReadAvailable s.ring) with hn
    have hring : (gcomRingRead s.ring length).1 =
        { s.ring with readPos := (s.ring.readPos + n) &&& s.ring.mask } := by
      unfold gcomRingRead
      dsimp only
      rw [if_neg hzero]
    have hdata : (gcomRingRead s.ring length).2.2 =
        CircularBuffer.window s.ring.buffer s.ring.readPos.toNat n.toNat := by
      rw [hwf.read_data, RingBuffer.contents, hcount,
        ← CircularBuffer.window_take (Nat.min_le_right ..), List.take_eq_take_min,
        CircularBuffer.window_length]
    set call : RingReadCall := ⟨n, s.ring.readPos &&& s.ring.mask,
      ulongMin n (s.ring.size - (s.ring.readPos &&& s.ring.mask)), []⟩ with hcall
    have hbegin : s.next (.read length) = some { s with consumer := some (.read call) } := by
      simp only [SharedRing.next, hconsumer]
      rw [if_neg hzero]
    have hloaded := load_bytes_alone (s := { s with consumer := some (.read call) }) hwf rfl rfl
      rfl rfl (show n.toNat ≤ s.ring.size.toNat by omega) (le_refl n.toNat)
    refine ⟨List.replicate n.toNat .loadByte ++ [.publishRead], ?_⟩
    rw [Transition.run_cons, hbegin, Option.bind_some, Transition.run_append, hloaded,
      Option.bind_some, Transition.run_cons, SharedRing.next]
    dsimp only
    rw [CircularBuffer.window_length, if_pos rfl, Option.bind_some, Transition.run_nil, hring,
      hdata, hconsumer, if_neg hzero]

omit hwf in
/-- A flush that is not interrupted is `gcomRingFlush`, and discards all there is. -/
theorem flush_alone (hconsumer : s.consumer = none) :
    Transition.run SharedRing.next s [.flush, .publishFlush] = some { s with
      ring := gcomRingFlush s.ring
      consumed := s.consumed ++ [.flush (gcomRingReadAvailable s.ring).toNat] } := by
  simp only [Transition.run_cons, SharedRing.next, hconsumer, Option.bind_some, Transition.run_nil]
  rfl

end Alone

/-! ## The counters behind a shared ring -/

/-- A write in progress: it has reserved what it will copy, and is ahead by what it has copied. -/
structure RingWriteCall.At (call : RingWriteCall) (ring : RingBuffer) (a : Spsc.State UCHAR) :
    Prop where
  wp : call.wp = ring.writePos &&& ring.mask
  firstChunk : call.firstChunk = ulongMin call.toWrite (ring.size - call.wp)
  reserved : a.reserved = call.toWrite.toNat
  fits : call.toWrite.toNat ≤ call.data.length
  copied_le : call.copied ≤ call.toWrite.toNat
  ahead : a.ahead = call.data.take call.copied

/-- A read in progress: it has claimed what it will copy, and has got the first unread bytes. -/
structure RingReadCall.At (call : RingReadCall) (ring : RingBuffer) (a : Spsc.State UCHAR) :
    Prop where
  rp : call.rp = ring.readPos &&& ring.mask
  firstChunk : call.firstChunk = ulongMin call.toRead (ring.size - call.rp)
  claimed : a.claimed = call.toRead.toNat
  length_le : call.data.length ≤ call.toRead.toNat
  data : call.data = a.unread.take call.data.length

/-- Where the producer is. -/
def ProducerAt (ring : RingBuffer) (a : Spsc.State UCHAR) : Option RingWriteCall → Prop
  | none => a.ahead = []
  | some call => call.At ring a

/-- Where the consumer is; a flush has claimed everything up to the position it has read. -/
def ConsumerAt (ring : RingBuffer) (a : Spsc.State UCHAR) : Option ConsumerCall → Prop
  | none => True
  | some (.read call) => call.At ring a
  | some (.flush wp) => wp.toNat = (a.released + a.claimed) % a.size

/-- The positions of the ring are those of the counters, and its cells hold the same bytes. -/
structure RingBuffer.StandsFor (ring : RingBuffer) (a : Spsc.State UCHAR) : Prop where
  wf : ring.WellFormed
  size : a.size = ring.size.toNat
  writePos : ring.writePos.toNat = a.stream.length % ring.size.toNat
  readPos : ring.readPos.toNat = a.released % ring.size.toNat
  cells : ∀ cell < ring.size.toNat, ring.buffer[cell]? = some (a.cells cell)

/-- A shared ring stands for a state of the counters. -/
structure SharedRing.StandsFor (s : SharedRing) (a : Spsc.State UCHAR) : Prop where
  ring : s.ring.StandsFor a
  producer : ProducerAt s.ring a s.producer
  consumer : ConsumerAt s.ring a s.consumer
  written : s.written = a.stream
  consumed : ∃ taken, List.Forall₂ Consumed.Takes s.consumed taken ∧
    taken.flatten = a.stream.take a.released

/-- A write in progress is where the counters say. -/
theorem SharedRing.StandsFor.writer {s : SharedRing} {a : Spsc.State UCHAR} (h : s.StandsFor a)
    {call : RingWriteCall} (hcall : s.producer = some call) : call.At s.ring a := by
  have hplace := h.producer
  rwa [hcall] at hplace

/-- So is a read. -/
theorem SharedRing.StandsFor.reader {s : SharedRing} {a : Spsc.State UCHAR} (h : s.StandsFor a)
    {call : RingReadCall} (hcall : s.consumer = some (.read call)) : call.At s.ring a := by
  have hplace := h.consumer
  rwa [hcall] at hplace

namespace RingBuffer.StandsFor

variable {ring : RingBuffer} {a : Spsc.State UCHAR} (h : ring.StandsFor a) (ha : Spsc.Sound a)
include h ha

/-- What is readable are the unread bytes. -/
theorem readAvailable : (gcomRingReadAvailable ring).toNat = a.unread.length := by
  have hpublished := ha.published
  have hroom := ha.room
  have hsize := h.size
  rw [h.wf.readAvailable_of_counters h.writePos h.readPos (by omega) (by omega),
    Spsc.State.unread, List.length_drop]

/-- There is room for what the unread bytes leave, but for one cell. -/
theorem writeAvailable :
    (gcomRingWriteAvailable ring).toNat = ring.size.toNat - 1 - a.unread.length := by
  rw [h.wf.writeAvailable_toNat, h.readAvailable ha]

/-- The contents of the ring are the unread bytes. -/
theorem contents : ring.contents = a.unread := by
  have hlength := ha.unread_length
  have hsize := h.size
  refine (CircularBuffer.eq_window (h.readAvailable ha).symm fun i hi ↦ ?_).symm
  rw [h.readAvailable ha] at hi
  rw [h.wf.buffer_length, CircularBuffer.position_eq_mod h.wf.readPos_lt (by omega), h.readPos,
    Nat.mod_add_mod, h.cells _ (Nat.mod_lt _ h.wf.size_pos), List.getElem?_eq_getElem hi,
    ← h.size, ha.unread_cell (List.getElem?_eq_getElem hi)]

/-- The occupied cells are those of the unread bytes. -/
theorem occupied_iff (cell : ℕ) :
    ring.Occupied cell ↔ ∃ i < a.unread.length, cell = (a.released + i) % ring.size.toNat := by
  unfold RingBuffer.Occupied
  rw [h.readAvailable ha]
  simp only [h.readPos, Nat.mod_add_mod]

end RingBuffer.StandsFor

/-! ## Steps and moves -/

section Steps

variable {s t : SharedRing} {ring : RingBuffer} {a b : Spsc.State UCHAR}

/-- A write that has bytes left stores the next one. -/
theorem store_byte_cases (ht : s.next .storeByte = some t) :
    ∃ call, s.producer = some call ∧ call.copied < call.toWrite.toNat ∧ t = { s with
      ring.buffer := s.ring.buffer.set (transferCell call.wp call.firstChunk call.copied)
        (call.data.getD call.copied 0)
      producer := some { call with copied := call.copied + 1 } } := by
  cases hproducer : s.producer with
  | none =>
      simp only [SharedRing.next, hproducer] at ht
      cases ht
  | some call =>
      simp only [SharedRing.next, hproducer] at ht
      split at ht
      · next hlt =>
          cases ht
          exact ⟨call, rfl, hlt, rfl⟩
      · cases ht

/-- A read that has bytes left loads the next one. -/
theorem load_byte_cases (ht : s.next .loadByte = some t) :
    ∃ call, s.consumer = some (.read call) ∧ call.data.length < call.toRead.toNat ∧
      t = { s with consumer := some (.read { call with
        data := call.data ++
          [s.ring.buffer.getD (transferCell call.rp call.firstChunk call.data.length) 0] }) } := by
  cases hconsumer : s.consumer with
  | none =>
      simp only [SharedRing.next, hconsumer] at ht
      cases ht
  | some call =>
      cases call with
      | flush wp =>
          simp only [SharedRing.next, hconsumer] at ht
          cases ht
      | read call =>
          simp only [SharedRing.next, hconsumer] at ht
          split at ht
          · next hlt =>
              cases ht
              exact ⟨call, rfl, hlt, rfl⟩
          · cases ht

/-- A ring knows nothing of what is copied ahead, reserved or claimed. -/
theorem RingBuffer.StandsFor.of_eq (h : ring.StandsFor a) (hsize : b.size = a.size)
    (hcells : b.cells = a.cells) (hstream : b.stream = a.stream)
    (hreleased : b.released = a.released) : ring.StandsFor b :=
  ⟨h.wf, hsize.trans h.size, hstream ▸ h.writePos, hreleased ▸ h.readPos, hcells ▸ h.cells⟩

/-- The producer keeps its place while its own position and what it has copied stay. -/
theorem ProducerAt.of_eq {ring' : RingBuffer} {producer : Option RingWriteCall}
    (h : ProducerAt ring a producer) (hsize : ring'.size = ring.size)
    (hmask : ring'.mask = ring.mask) (hpos : ring'.writePos = ring.writePos)
    (hahead : b.ahead = a.ahead) (hreserved : b.reserved = a.reserved) :
    ProducerAt ring' b producer := by
  cases producer with
  | none => exact hahead.trans h
  | some call =>
      obtain ⟨hwp, hfirst, hcall, hfits, hcopied, hdata⟩ := h
      exact ⟨by rw [hwp, hpos, hmask], by rw [hfirst, hsize], hreserved.trans hcall, hfits, hcopied,
        hahead.trans hdata⟩

/-- The consumer keeps its place while its own position and what it has claimed stay, whatever is
published. -/
theorem ConsumerAt.of_eq {ring' : RingBuffer} {consumer : Option ConsumerCall} (ha : Spsc.Sound a)
    (h : ConsumerAt ring a consumer) (hsize : ring'.size = ring.size)
    (hmask : ring'.mask = ring.mask) (hpos : ring'.readPos = ring.readPos)
    (hsize' : b.size = a.size) {more : List UCHAR} (hstream : b.stream = a.stream ++ more)
    (hreleased : b.released = a.released) (hclaimed : b.claimed = a.claimed) :
    ConsumerAt ring' b consumer := by
  cases consumer with
  | none => trivial
  | some call =>
      cases call with
      | read call =>
          obtain ⟨hrp, hfirst, hcall, hlength, hdata⟩ := h
          refine ⟨by rw [hrp, hpos, hmask], by rw [hfirst, hsize], hclaimed.trans hcall, hlength,
            ?_⟩
          -- what is published later follows the claimed bytes
          have hpublished := ha.published
          have hunread : a.unread.length = a.stream.length - a.released := List.length_drop
          rw [Spsc.State.unread, hstream, hreleased,
            List.drop_append_of_le_length (by omega), List.take_append_of_le_length ?_]
          · exact hdata
          · show call.data.length ≤ a.unread.length
            omega
      | flush wp =>
          show wp.toNat = (b.released + b.claimed) % b.size
          rw [hreleased, hclaimed, hsize']
          exact h

variable (h : s.StandsFor a) (ha : Spsc.Sound a)
include h ha

/-- A write that begins reserves what it will copy. -/
theorem write_moves {data : List UCHAR} {length : ULONG} {fits : length.toNat ≤ data.length}
    (ht : s.next (.write data length fits) = some t) :
    t.StandsFor a ∨ ∃ b, Spsc.Move a b ∧ t.StandsFor b := by
  cases hproducer : s.producer with
  | some call =>
      simp only [SharedRing.next, hproducer] at ht
      cases ht
  | none =>
      simp only [SharedRing.next, hproducer] at ht
      have hahead : a.ahead = [] := by
        have hplace := h.producer
        rwa [hproducer] at hplace
      split at ht
      · cases ht
        exact .inl h
      · cases ht
        have havailable := h.ring.writeAvailable ha
        have hcount := ulong_min_toNat length (gcomRingWriteAvailable s.ring)
        have hunread := ha.unread_length
        have hsize := h.ring.size
        have hpublished := ha.published
        have hlength : a.unread.length = a.stream.length - a.released := List.length_drop
        have hpos := h.ring.wf.size_pos
        have hfits : (ulongMin length (gcomRingWriteAvailable s.ring)).toNat ≤ data.length :=
          hcount.trans_le ((Nat.min_le_left ..).trans fits)
        refine .inr ⟨_, .reserve a (ulongMin length (gcomRingWriteAvailable s.ring)).toNat ?_
          hahead, ?_⟩
        · omega
        · refine ⟨h.ring.of_eq rfl rfl rfl rfl, ?_, ?_, h.written, h.consumed⟩
          · exact ⟨rfl, rfl, rfl, hfits, Nat.zero_le _, hahead⟩
          · exact h.consumer.of_eq ha rfl rfl rfl rfl (List.append_nil _).symm rfl rfl

/-- The byte that a write stores goes where the counters say. -/
theorem store_byte_moves (ht : s.next .storeByte = some t) :
    ∃ b, Spsc.Move a b ∧ t.StandsFor b := by
  obtain ⟨call, hproducer, hlt, rfl⟩ := store_byte_cases ht
  obtain ⟨hwp, hfirst, hreserved, hfits, hcopied, hahead⟩ := h.writer hproducer
  have hlength : a.ahead.length = call.copied := by
    rw [hahead, List.length_take]
    omega
  have hroom := ha.room
  have hpublished := ha.published
  have hunread := ha.unread_length
  have hsize := h.ring.size
  have hcell : transferCell call.wp call.firstChunk call.copied =
      (a.stream.length + a.ahead.length) % a.size := by
    rw [hfirst, hwp, h.ring.wf.transfer_cell_eq h.ring.writePos hlt (by omega), hlength,
      hsize]
  have hget : call.data[call.copied]? = some (call.data.getD call.copied 0) := by
    rw [List.getD_eq_getElem?_getD, List.getElem?_eq_getElem (by omega), Option.getD_some]
  refine ⟨_, .put a (call.data.getD call.copied 0) (by omega), ?_, ?_, ?_, h.written,
    h.consumed⟩
  · refine ⟨⟨h.ring.wf.size_pow, h.ring.wf.mask_eq, h.ring.wf.writePos_lt,
      h.ring.wf.readPos_lt, ?_⟩, h.ring.size, h.ring.writePos, h.ring.readPos, ?_⟩
    · exact List.length_set.trans h.ring.wf.buffer_length
    · intro cell hcell'
      show (s.ring.buffer.set (transferCell _ _ _) _)[cell]? =
        some (Function.update a.cells _ (call.data.getD call.copied 0) cell)
      rw [hcell, List.getElem?_set, Function.update_apply]
      by_cases heq : (a.stream.length + a.ahead.length) % a.size = cell
      · rw [if_pos heq, if_pos heq.symm, if_pos]
        rw [h.ring.wf.buffer_length, heq]
        exact hcell'
      · rw [if_neg heq, if_neg (Ne.symm heq)]
        exact h.ring.cells cell hcell'
  · refine ⟨hwp, hfirst, hreserved, hfits, hlt, ?_⟩
    show a.ahead ++ [_] = call.data.take (call.copied + 1)
    rw [hahead, List.take_add_one, hget]
    rfl
  · exact h.consumer.of_eq ha rfl rfl rfl rfl (List.append_nil _).symm rfl rfl

/-- A write that ends publishes what it has copied. -/
theorem publish_write_moves (ht : s.next .publishWrite = some t) :
    ∃ b, Spsc.Move a b ∧ t.StandsFor b := by
  cases hproducer : s.producer with
  | none =>
      simp only [SharedRing.next, hproducer] at ht
      cases ht
  | some call =>
      simp only [SharedRing.next, hproducer] at ht
      obtain ⟨hwp, hfirst, hreserved, hfits, hcopied, hahead⟩ := h.writer hproducer
      split at ht
      · next hall =>
          cases ht
          have hlength : a.ahead.length = call.toWrite.toNat := by
            rw [hahead, List.length_take]
            omega
          have hpublished := ha.published
          have hunread := ha.unread_length
          have hsize := h.ring.size
          have hadvance := h.ring.wf.advance_counter h.ring.writePos
            (show call.toWrite.toNat ≤ s.ring.size.toNat by omega)
          obtain ⟨taken, htakes, htaken⟩ := h.consumed
          refine ⟨_, .publish a, ?_, rfl, ?_, ?_, taken, htakes, ?_⟩
          · refine ⟨⟨h.ring.wf.size_pow, h.ring.wf.mask_eq, ?_, h.ring.wf.readPos_lt,
              h.ring.wf.buffer_length⟩, h.ring.size, ?_, h.ring.readPos, h.ring.cells⟩
            · exact hadvance.trans_lt (Nat.mod_lt _ h.ring.wf.size_pos)
            · rw [List.length_append, hlength]
              exact hadvance
          · exact h.consumer.of_eq ha rfl rfl rfl rfl rfl rfl rfl
          · show s.written ++ _ = a.stream ++ a.ahead
            rw [h.written, hahead]
          · rw [htaken]
            exact (List.take_append_of_le_length (by omega)).symm
      · cases ht

/-- A read that begins claims what it will copy. -/
theorem read_moves {length : ULONG} (ht : s.next (.read length) = some t) :
    t.StandsFor a ∨ ∃ b, Spsc.Move a b ∧ t.StandsFor b := by
  cases hconsumer : s.consumer with
  | some call =>
      simp only [SharedRing.next, hconsumer] at ht
      cases ht
  | none =>
      simp only [SharedRing.next, hconsumer] at ht
      split at ht
      · cases ht
        exact .inl h
      · cases ht
        have havailable := h.ring.readAvailable ha
        have hcount := ulong_min_toNat length (gcomRingReadAvailable s.ring)
        have hpublished := ha.published
        have hlength : a.unread.length = a.stream.length - a.released := List.length_drop
        refine .inr ⟨_, .claim a (ulongMin length (gcomRingReadAvailable s.ring)).toNat
          (by omega), h.ring.of_eq rfl rfl rfl rfl, ?_, ?_, h.written, h.consumed⟩
        · exact h.producer.of_eq rfl rfl rfl rfl rfl
        · exact ⟨rfl, rfl, rfl, Nat.zero_le _, rfl⟩

/-- The byte that a read loads is the next unread one. -/
theorem load_byte_stays (ht : s.next .loadByte = some t) : t.StandsFor a := by
  obtain ⟨call, hconsumer, hlt, rfl⟩ := load_byte_cases ht
  obtain ⟨hrp, hfirst, hclaimed, hle, hdata⟩ := h.reader hconsumer
  have hpublished := ha.published
  have hunread := ha.unread_length
  have hsize := h.ring.size
  have hlength : a.unread.length = a.stream.length - a.released := List.length_drop
  have hcell := h.ring.wf.transfer_cell_eq h.ring.readPos hlt (by omega)
  rw [← hrp, ← hfirst] at hcell
  have hget : a.unread[call.data.length]? = some (s.ring.buffer.getD
      (transferCell call.rp call.firstChunk call.data.length) 0) := by
    have hheld := List.getElem?_eq_getElem
      (show call.data.length < a.unread.length by omega)
    have hbyte := ha.unread_cell hheld
    rw [List.getD_eq_getElem?_getD, hcell,
      h.ring.cells _ (Nat.mod_lt _ h.ring.wf.size_pos), Option.getD_some, ← hsize,
      hbyte, hheld]
  refine ⟨h.ring, h.producer, ⟨hrp, hfirst, hclaimed, ?_, ?_⟩, h.written, h.consumed⟩
  · exact List.length_append.trans_le hlt
  · show call.data ++ _ = a.unread.take (call.data ++ _).length
    rw [List.length_append, List.length_singleton, List.take_add_one, ← hdata, hget]
    rfl

/-- A read that ends releases what it has copied. -/
theorem publish_read_moves (ht : s.next .publishRead = some t) :
    ∃ b, Spsc.Move a b ∧ t.StandsFor b := by
  cases hconsumer : s.consumer with
  | none =>
      simp only [SharedRing.next, hconsumer] at ht
      cases ht
  | some call =>
      cases call with
      | flush wp =>
          simp only [SharedRing.next, hconsumer] at ht
          cases ht
      | read call =>
          simp only [SharedRing.next, hconsumer] at ht
          obtain ⟨hrp, hfirst, hclaimed, hle, hdata⟩ := h.reader hconsumer
          split at ht
          · next hall =>
              cases ht
              have hpublished := ha.published
              have hunread := ha.unread_length
              have hsize := h.ring.size
              have hlength : a.unread.length = a.stream.length - a.released := List.length_drop
              have hadvance := h.ring.wf.advance_counter h.ring.readPos
                (show call.toRead.toNat ≤ s.ring.size.toNat by omega)
              obtain ⟨taken, htakes, htaken⟩ := h.consumed
              refine ⟨_, .release a call.toRead.toNat hclaimed.ge, ?_, ?_, trivial, h.written,
                taken ++ [call.data], List.rel_append htakes (.cons rfl .nil), ?_⟩
              · refine ⟨⟨h.ring.wf.size_pow, h.ring.wf.mask_eq, h.ring.wf.writePos_lt, ?_,
                  h.ring.wf.buffer_length⟩, h.ring.size, h.ring.writePos, hadvance, h.ring.cells⟩
                exact hadvance.trans_lt (Nat.mod_lt _ h.ring.wf.size_pos)
              · exact h.producer.of_eq rfl rfl rfl rfl rfl
              · show (taken ++ [call.data]).flatten = a.stream.take (a.released + call.toRead.toNat)
                rw [List.flatten_append, htaken, List.take_add, ← hall, hdata]
                simp [Spsc.State.unread]
          · cases ht

/-- A flush that begins claims everything that is published. -/
theorem flush_moves (ht : s.next .flush = some t) : ∃ b, Spsc.Move a b ∧ t.StandsFor b := by
  cases hconsumer : s.consumer with
  | some call =>
      simp only [SharedRing.next, hconsumer] at ht
      cases ht
  | none =>
      simp only [SharedRing.next, hconsumer] at ht
      cases ht
      have hpublished := ha.published
      refine ⟨_, .claim a (a.stream.length - a.released) (by omega), h.ring.of_eq rfl rfl rfl rfl,
        h.producer.of_eq rfl rfl rfl rfl rfl, ?_, h.written, h.consumed⟩
      show s.ring.writePos.toNat = (a.released + (a.stream.length - a.released)) % a.size
      rw [h.ring.writePos, h.ring.size]
      congr 1
      omega

/-- A flush that ends releases what it has claimed. -/
theorem publish_flush_moves (ht : s.next .publishFlush = some t) :
    ∃ b, Spsc.Move a b ∧ t.StandsFor b := by
  cases hconsumer : s.consumer with
  | none =>
      simp only [SharedRing.next, hconsumer] at ht
      cases ht
  | some call =>
      cases call with
      | read call =>
          simp only [SharedRing.next, hconsumer] at ht
          cases ht
      | flush wp =>
          simp only [SharedRing.next, hconsumer] at ht
          cases ht
          have hplace : wp.toNat = (a.released + a.claimed) % a.size := by
            have hplace := h.consumer
            rwa [hconsumer] at hplace
          have hpublished := ha.published
          have hunread := ha.unread_length
          have hsize := h.ring.size
          have hlength : a.unread.length = a.stream.length - a.released := List.length_drop
          rw [hsize] at hplace
          have hlt : wp.toNat < s.ring.size.toNat := by
            rw [hplace]
            exact Nat.mod_lt _ h.ring.wf.size_pos
          have hwf : { s.ring with writePos := wp : RingBuffer }.WellFormed :=
            ⟨h.ring.wf.size_pow, h.ring.wf.mask_eq, hlt, h.ring.wf.readPos_lt,
              h.ring.wf.buffer_length⟩
          have hcount := hwf.readAvailable_of_counters hplace h.ring.readPos (by omega)
            (by show _ < a.released + s.ring.size.toNat; omega)
          obtain ⟨taken, htakes, htaken⟩ := h.consumed
          refine ⟨_, .release a a.claimed (le_refl _), ?_, ?_, trivial, h.written,
            taken ++ [a.unread.take a.claimed], List.rel_append htakes (.cons ?_ .nil), ?_⟩
          · refine ⟨⟨h.ring.wf.size_pow, h.ring.wf.mask_eq, h.ring.wf.writePos_lt, hlt,
              h.ring.wf.buffer_length⟩, h.ring.size, h.ring.writePos, hplace, h.ring.cells⟩
          · exact h.producer.of_eq rfl rfl rfl rfl rfl
          · show (a.unread.take a.claimed).length = _
            rw [hcount, List.length_take]
            omega
          · show (taken ++ [a.unread.take a.claimed]).flatten =
              a.stream.take (a.released + a.claimed)
            rw [List.flatten_append, htaken, List.take_add]
            simp [Spsc.State.unread]

/-- Every step is a move of the counters or leaves them alone. -/
theorem step_moves {e : RingStep} (ht : s.next e = some t) :
    t.StandsFor a ∨ ∃ b, Spsc.Move a b ∧ t.StandsFor b := by
  cases e with
  | write data length fits => exact write_moves h ha ht
  | storeByte => exact .inr (store_byte_moves h ha ht)
  | publishWrite => exact .inr (publish_write_moves h ha ht)
  | read length => exact read_moves h ha ht
  | loadByte => exact .inl (load_byte_stays h ha ht)
  | publishRead => exact .inr (publish_read_moves h ha ht)
  | flush => exact .inr (flush_moves h ha ht)
  | publishFlush => exact .inr (publish_flush_moves h ha ht)

/-! ## Safety -/

/-- The counters put the bytes in order. -/
theorem SharedRing.StandsFor.inOrder : s.InOrder := by
  have hcontents := h.ring.contents ha
  have hunread := ha.unread_length
  have hsize := h.ring.size
  refine ⟨?_, ?_, ?_⟩
  · obtain ⟨taken, htakes, htaken⟩ := h.consumed
    refine ⟨taken, htakes, ?_⟩
    rw [htaken, hcontents, h.written, Spsc.State.unread, List.take_append_drop]
  · intro call hcall
    have hplace := h.reader hcall
    rw [hcontents, hplace.data]
    exact List.take_prefix ..
  · have hahead : s.ahead ≤ a.reserved := by
      unfold SharedRing.ahead
      cases hproducer : s.producer with
      | none => exact Nat.zero_le _
      | some call =>
          have hplace := h.writer hproducer
          exact hplace.reserved ▸ hplace.copied_le
    rw [hcontents]
    omega

/-- The producer stores into a cell that is not occupied. -/
theorem stored_free {call : RingWriteCall} (hcall : s.producer = some call)
    (ht : s.next .storeByte = some t) :
    transferCell call.wp call.firstChunk call.copied < s.ring.buffer.length ∧
      ¬s.ring.Occupied (transferCell call.wp call.firstChunk call.copied) := by
  obtain ⟨call', hproducer, hlt, -⟩ := store_byte_cases ht
  cases hcall.symm.trans hproducer
  obtain ⟨hwp, hfirst, hreserved, hfits, hcopied, hahead⟩ := h.writer hcall
  have hunread := ha.unread_length
  have hpublished := ha.published
  have hsize := h.ring.size
  have hlength : a.ahead.length = call.copied := by
    rw [hahead, List.length_take]
    omega
  have hcell := h.ring.wf.transfer_cell_eq h.ring.writePos hlt (by omega)
  rw [← hwp, ← hfirst] at hcell
  rw [hcell, h.ring.wf.buffer_length, h.ring.occupied_iff ha]
  refine ⟨Nat.mod_lt _ h.ring.wf.size_pos, ?_⟩
  rintro ⟨i, hi, heq⟩
  rw [Spsc.State.unread, List.length_drop] at hi
  refine ha.put_free (i := a.released + i) (by omega) (Nat.le_add_right ..) (by omega) ?_
  rw [hsize, hlength]
  exact heq.symm

/-- The consumer loads from an occupied cell. -/
theorem loaded_occupied {call : RingReadCall} (hcall : s.consumer = some (.read call))
    (ht : s.next .loadByte = some t) :
    s.ring.Occupied (transferCell call.rp call.firstChunk call.data.length) := by
  obtain ⟨call', hconsumer, hlt, -⟩ := load_byte_cases ht
  cases hcall.symm.trans hconsumer
  obtain ⟨hrp, hfirst, hclaimed, hle, hdata⟩ := h.reader hcall
  have hunread := ha.unread_length
  have hpublished := ha.published
  have hsize := h.ring.size
  have hlength : a.unread.length = a.stream.length - a.released := List.length_drop
  have hcell := h.ring.wf.transfer_cell_eq h.ring.readPos hlt (by omega)
  rw [← hrp, ← hfirst] at hcell
  rw [hcell, h.ring.occupied_iff ha]
  exact ⟨call.data.length, by omega, rfl⟩

end Steps

/-- A ring that `GcomRingInit` has made stands for counters at zero. -/
theorem start_stands {size : ULONG} {ring : RingBuffer}
    (hinit : gcomRingInit size true = .ok ring) :
    ∃ a, (SharedRing.start ring).StandsFor a ∧ Spsc.Sound a := by
  have hwf := gcom_ring_init_wf hinit
  have hring : ring.writePos = 0 ∧ ring.readPos = 0 ∧
      ring.buffer = List.replicate ring.size.toNat 0 := by
    unfold gcomRingInit at hinit
    split at hinit
    · cases hinit
    · cases hinit
      exact ⟨rfl, rfl, rfl⟩
  obtain ⟨hwrite, hread, hbuffer⟩ := hring
  refine ⟨⟨ring.size.toNat, fun _ ↦ 0, [], 0, [], 0, 0⟩, ⟨⟨hwf, rfl, ?_, ?_, ?_⟩, rfl, trivial, rfl,
    [], .nil, rfl⟩, .start _ hwf.size_pos _⟩
  · show ring.writePos.toNat = _
    rw [hwrite]
    exact (Nat.zero_mod _).symm
  · show ring.readPos.toNat = _
    rw [hread]
    exact (Nat.zero_mod _).symm
  · intro cell hcell
    show ring.buffer[cell]? = some 0
    rw [hbuffer, List.getElem?_replicate]
    exact if_pos hcell

/-- The ring is safe for one producer and one consumer without a lock: in every interleaving of
their steps the written bytes are those that reads have got and flushes discarded, in order, and
those in the ring, which never take all its cells; no byte is stored over one that has not been
consumed, and none is loaded that has not been published. -/
theorem ring_lock_free {size : ULONG} {ring : RingBuffer}
    (hinit : gcomRingInit size true = .ok ring) (events : List RingStep) :
    EveryStep SharedRing.next SharedRing.SafeStep (.start ring) events := by
  refine EveryStep.of_invariant (I := fun s ↦ ∃ a, s.StandsFor a ∧ Spsc.Sound a) ?_
    (start_stands hinit)
  rintro s e t ⟨a, h, ha⟩ ht
  have hnext : ∃ b, t.StandsFor b ∧ Spsc.Sound b := by
    rcases step_moves h ha ht with hsame | ⟨b, hmove, hb⟩
    · exact ⟨a, hsame, ha⟩
    · exact ⟨b, hb, hmove.sound ha⟩
  refine ⟨hnext, ?_, ?_, ?_⟩
  · obtain ⟨b, hb, hsound⟩ := hnext
    exact hb.inOrder hsound
  · rintro rfl call hcall
    exact stored_free h ha hcall ht
  · rintro rfl call hcall
    exact loaded_occupied h ha hcall ht

/-- A write of two bytes into a ring of four cells, and a read that runs into it. -/
theorem four_byte_ring_lock_free :
    EveryStep SharedRing.next SharedRing.SafeStep
      (.start ⟨List.replicate 4 0, 4, 3, 0, 0⟩)
      [.write [1, 2] 2 (by decide), .storeByte, .read 2, .storeByte, .publishWrite, .read 2,
        .loadByte, .loadByte, .publishRead] := by
  have hinit : gcomRingInit 4 true = .ok ⟨List.replicate 4 0, 4, 3, 0, 0⟩ := rfl
  exact ring_lock_free hinit _

end GhostCom
