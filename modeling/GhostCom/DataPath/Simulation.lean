import GhostCom.Driver.Lane
import GhostCom.Library.Channel

/-!
# Lanes simulate bounded channels

`Lane.channel` reads a lane and the effects recorded so far as an abstract channel: the contents of
the ring are the buffer, the queues are the lines of waiting parties. Every loop and handler body of
`Driver.Lane` is then a sequence of channel moves, and the handler bodies keep the lane settled.
A settled lane is what makes the direct paths agree with the lines: a direct read finds no earlier
read pended, and a direct write no earlier write.
-/

namespace GhostCom

open Channel (Move Moves)
open Relation

/-- The prefix of a write that an effect puts into the ring. -/
def LaneEffect.acceptedEntry : LaneEffect → Option (ℕ × List UCHAR)
  | .accepted req count => some (req.id, req.data.take count)
  | _ => none

/-- The bytes that an effect takes out of the ring. -/
def LaneEffect.removedEntry : LaneEffect → Option (ℕ × List UCHAR)
  | .removed req bytes => some (req.id, bytes)
  | _ => none

/-- The accepted prefixes of a trace, oldest first. -/
def acceptedEntries (trace : List LaneEffect) : List (ℕ × List UCHAR) :=
  trace.filterMap LaneEffect.acceptedEntry

/-- The removed bytes of a trace, oldest first. -/
def removedEntries (trace : List LaneEffect) : List (ℕ × List UCHAR) :=
  trace.filterMap LaneEffect.removedEntry

@[simp] theorem accepted_entries_append (trace out : List LaneEffect) :
    acceptedEntries (trace ++ out) = acceptedEntries trace ++ acceptedEntries out :=
  List.filterMap_append

@[simp] theorem removed_entries_append (trace out : List LaneEffect) :
    removedEntries (trace ++ out) = removedEntries trace ++ removedEntries out :=
  List.filterMap_append

namespace Lane

/-- A lane with its recorded effects, as a channel. `clock` is the handle of the next request. -/
def channel (clock : ℕ) (lane : Lane) (trace : List LaneEffect) : Channel.State UCHAR where
  clock := clock
  capacity := lane.ring.capacity
  buffer := lane.ring.contents
  writers := lane.writeQueue.map fun req ↦ ⟨req.id, req.data⟩
  readers := lane.readQueue.map fun req ↦ ⟨req.id, req.length.toNat⟩
  admitted := acceptedEntries trace
  served := removedEntries trace

/-- Reads are pended only on an empty ring and writes only on a full one. -/
structure Settled (lane : Lane) : Prop where
  reads : lane.readQueue ≠ [] → lane.ring.contents = []
  writes : lane.writeQueue ≠ [] → lane.ring.contents.length = lane.ring.capacity

/-- Completions leave the channel's history alone. -/
theorem channel_append_done {clock : ℕ} {lane : Lane} {trace done : List LaneEffect}
    (h : ∀ e ∈ done, e.acceptedEntry = none ∧ e.removedEntry = none) :
    lane.channel clock (trace ++ done) = lane.channel clock trace := by
  have ha : acceptedEntries done = [] := List.filterMap_eq_nil_iff.mpr fun e he ↦ (h e he).1
  have hr : removedEntries done = [] := List.filterMap_eq_nil_iff.mpr fun e he ↦ (h e he).2
  simp [channel, ha, hr]

/-- A completion leaves the channel's history alone. -/
theorem channel_read_done (clock : ℕ) (lane : Lane) (trace : List LaneEffect) (req : ReadRequest)
    (st : NTSTATUS) (information : ℕ) :
    lane.channel clock (trace ++ [.readDone req st information]) = lane.channel clock trace :=
  channel_append_done (by simp [LaneEffect.acceptedEntry, LaneEffect.removedEntry])

theorem channel_write_done (clock : ℕ) (lane : Lane) (trace : List LaneEffect)
    (req : WriteRequest) (st : NTSTATUS) (information : ℕ) :
    lane.channel clock (trace ++ [.writeDone req st information]) = lane.channel clock trace :=
  channel_append_done (by simp [LaneEffect.acceptedEntry, LaneEffect.removedEntry])

/-- Serving the first pended read from the ring is a move of the channel. -/
theorem serve_move (clock : ℕ) (ring : Ring) (req : ReadRequest) (rest : List ReadRequest)
    (writes : List WriteRequest) (trace : List LaneEffect) (hlength : 0 < req.length.toNat)
    (hcontents : ring.contents ≠ []) :
    Move (channel clock ⟨ring, req :: rest, writes⟩ trace)
      (channel clock ⟨(ring.read req.length).1, rest, writes⟩
        (trace ++ [.removed req (ring.read req.length).2.2])) := by
  have hmove := Move.serve (channel clock ⟨ring, req :: rest, writes⟩ trace)
    ⟨req.id, req.length.toNat⟩ _ rfl hlength hcontents
  have hserved : removedEntries [.removed req (ring.read req.length).2.2] =
      [(req.id, ring.contents.take req.length.toNat)] := by
    simp [removedEntries, LaneEffect.removedEntry]
  have hadmitted : acceptedEntries [.removed req (ring.read req.length).2.2] = [] := rfl
  simpa only [channel, removed_entries_append, accepted_entries_append, hserved, hadmitted,
    Ring.read_contents, Ring.read_capacity, List.append_nil] using hmove

/-- The prefix that a write puts into the ring is what fits. -/
theorem written_data (ring : Ring) (req : WriteRequest) :
    req.data.take (ring.write req).2.toNat =
      req.data.take (ring.capacity - ring.contents.length) := by
  rw [Ring.write_count, Nat.min_comm, ← List.take_take, List.take_length]

/-- Admitting the first pended write to the ring is a move of the channel. -/
theorem admit_move (clock : ℕ) (ring : Ring) (req : WriteRequest) (reads : List ReadRequest)
    (rest : List WriteRequest) (trace : List LaneEffect) (hlength : 0 < req.data.length)
    (hroom : ring.contents.length < ring.capacity) :
    Move (channel clock ⟨ring, reads, req :: rest⟩ trace)
      (channel clock ⟨(ring.write req).1, reads, rest⟩
        (trace ++ [.accepted req (ring.write req).2.toNat])) := by
  have hmove := Move.accept (channel clock ⟨ring, reads, req :: rest⟩ trace)
    ⟨req.id, req.data⟩ _ rfl (List.ne_nil_of_length_pos hlength) hroom
  have hadmitted : acceptedEntries [.accepted req (ring.write req).2.toNat] =
      [(req.id, req.data.take (ring.capacity - ring.contents.length))] :=
    congrArg (fun bytes ↦ [(req.id, bytes)]) (written_data ring req)
  have hserved : removedEntries [.accepted req (ring.write req).2.toNat] = [] := rfl
  simpa only [channel, removed_entries_append, accepted_entries_append, hserved, hadmitted,
    Ring.write_contents, Ring.write_capacity, List.append_nil, written_data] using hmove

end Lane

/-- The loop over the pended reads serves them in line, and drops those whose buffer cannot be
mapped. -/
theorem drain_reads_moves (wdf : Wdf) (clock : ℕ) (writes : List WriteRequest)
    (reads : List ReadRequest) (ring : Ring) (trace : List LaneEffect) :
    Moves (Lane.channel clock ⟨ring, reads, writes⟩ trace)
      (Lane.channel clock
        ⟨(gcomDrainRingToReads wdf ring reads).1, (gcomDrainRingToReads wdf ring reads).2.1, writes⟩
        (trace ++ (gcomDrainRingToReads wdf ring reads).2.2)) := by
  have h := reads_drained wdf ring reads
  generalize gcomDrainRingToReads wdf ring reads = after at h ⊢
  induction h generalizing trace with
  | stop => simpa using ReflTransGen.refl
  | @dropped ring req rest st after _ _ _ ih =>
      have hleave : Move (Lane.channel clock ⟨ring, req :: rest, writes⟩ trace)
          (Lane.channel clock ⟨ring, rest, writes⟩ (trace ++ [.readDone req st 0])) := by
        rw [Lane.channel_read_done]
        exact .readersLeave _ _ (List.sublist_cons_self _ _)
      rw [List.append_cons]
      exact ReflTransGen.head hleave (ih _)
  | @served ring req rest after hcontents hbuf _ ih =>
      have hserve := Lane.serve_move clock ring req rest writes trace (le_of_retrieve hbuf)
        hcontents
      rw [← Lane.channel_read_done _ ⟨_, rest, writes⟩ _ req .success
        (ring.read req.length).2.1.toNat] at hserve
      rw [List.append_cons, List.append_cons]
      exact ReflTransGen.head hserve (ih _)

/-- After the loop over the pended reads, reads are still pended only if the ring is empty. -/
theorem drain_reads_settled (wdf : Wdf) (reads : List ReadRequest) (ring : Ring)
    (h : (gcomDrainRingToReads wdf ring reads).2.1 ≠ []) :
    (gcomDrainRingToReads wdf ring reads).1.contents = [] := by
  have hdrained := reads_drained wdf ring reads
  generalize gcomDrainRingToReads wdf ring reads = after at hdrained h ⊢
  induction hdrained with
  | stop hstop => exact hstop h
  | dropped _ _ _ ih | served _ _ _ ih => exact ih h

/-- The loop over the pended writes admits them in line, serving the peer's pended reads after each
one. -/
theorem drain_writes_moves (wdf : Wdf) (clock : ℕ) (writes : List WriteRequest)
    (reads : List ReadRequest) (ring : Ring) (trace : List LaneEffect) :
    Moves (Lane.channel clock ⟨ring, reads, writes⟩ trace)
      (Lane.channel clock (gcomDrainWritesToRing wdf ring reads writes).1
        (trace ++ (gcomDrainWritesToRing wdf ring reads writes).2)) := by
  have h := writes_drained wdf ring reads writes
  generalize gcomDrainWritesToRing wdf ring reads writes = after at h ⊢
  induction h generalizing trace with
  | stop => simpa using ReflTransGen.refl
  | @dropped ring reads req rest st after _ _ _ ih =>
      have hleave : Move (Lane.channel clock ⟨ring, reads, req :: rest⟩ trace)
          (Lane.channel clock ⟨ring, reads, rest⟩ (trace ++ [.writeDone req st 0])) := by
        rw [Lane.channel_write_done]
        exact .writersLeave _ _ (List.sublist_cons_self _ _)
      rw [List.append_cons]
      exact ReflTransGen.head hleave (ih _)
  | @admitted ring reads req rest after hroom hbuf _ ih =>
      have hadmit := Lane.admit_move clock ring req reads rest trace (le_of_retrieve hbuf) hroom
      rw [← Lane.channel_write_done _ ⟨_, reads, rest⟩ _ req .success
        (ring.write req).2.toNat] at hadmit
      have hserve := drain_reads_moves wdf clock rest reads (ring.write req).1
        (trace ++ [.accepted req (ring.write req).2.toNat] ++
          [.writeDone req .success (ring.write req).2.toNat])
      rw [List.cons_append, List.cons_append, List.append_cons, List.append_cons,
        ← List.append_assoc]
      exact ReflTransGen.head hadmit (hserve.trans (ih _))

/-- After the loop over the pended writes, writes are still pended only if the ring is full. -/
theorem drain_writes_settled (wdf : Wdf) (writes : List WriteRequest) (reads : List ReadRequest)
    (ring : Ring) (h : (gcomDrainWritesToRing wdf ring reads writes).1.writeQueue ≠ []) :
    (gcomDrainWritesToRing wdf ring reads writes).1.ring.contents.length =
      (gcomDrainWritesToRing wdf ring reads writes).1.ring.capacity := by
  have hdrained := writes_drained wdf ring reads writes
  generalize gcomDrainWritesToRing wdf ring reads writes = after at hdrained h ⊢
  induction hdrained with
  | stop hstop => exact hstop h
  | dropped _ _ _ ih | admitted _ _ _ ih => exact ih h

end GhostCom
