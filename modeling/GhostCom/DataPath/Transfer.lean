import GhostCom.DataPath.IdleReads
import GhostCom.DataPath.Purge
import GhostCom.DataPath.WriteFates

/-!
# What a callback transfers

What a callback of a pair, any of them, does to the consumer of one direction: which of its reads it
completes, and which bytes it accepts into the ring, removes from it for those reads, or discards.
Two such accounts put together are an account of both, so a run has one as well.
-/

namespace GhostCom

open Channel.State (items)

/-- The read that an effect completes. -/
def LaneEffect.completedRead : LaneEffect → Option ReadRequest
  | .readDone req _ _ => some req
  | _ => none

/-- The reads that a trace completes, oldest first. -/
def completedReads (trace : List LaneEffect) : List ReadRequest :=
  trace.filterMap LaneEffect.completedRead

/-- The bytes that a trace removes from the ring, oldest first. -/
def removedBytes (trace : List LaneEffect) : List UCHAR := items (removedEntries trace)

/-- The bytes that a trace accepts into the ring, oldest first. -/
def acceptedBytes (trace : List LaneEffect) : List UCHAR := items (acceptedEntries trace)

@[simp] theorem completed_reads_append (trace out : List LaneEffect) :
    completedReads (trace ++ out) = completedReads trace ++ completedReads out :=
  List.filterMap_append

@[simp] theorem read_reports_append (trace out : List LaneEffect) :
    readReports (trace ++ out) = readReports trace ++ readReports out :=
  List.filterMap_append

@[simp] theorem removed_bytes_append (trace out : List LaneEffect) :
    removedBytes (trace ++ out) = removedBytes trace ++ removedBytes out := by
  simp [removedBytes, items]

@[simp] theorem accepted_bytes_append (trace out : List LaneEffect) :
    acceptedBytes (trace ++ out) = acceptedBytes trace ++ acceptedBytes out := by
  simp [acceptedBytes, items]

@[simp] theorem sizes_append (first second : List (ℕ × List UCHAR)) :
    sizes (first ++ second) = sizes first ++ sizes second :=
  List.map_append

/-- An account of what happened to one direction between two states. Every read that was pended or
has arrived is completed or still pended; the completions report the bytes removed; the bytes
removed and those left in the ring are, in order, among those that were there and those accepted,
and all of them unless some were discarded. -/
structure Lane.Transfer (discards : Bool) (lane lane' : Lane) (arrived : List ReadRequest)
    (out : List LaneEffect) : Prop where
  answered : (lane.readQueue ++ arrived).Perm (completedReads out ++ lane'.readQueue)
  reported : (readReports out).Perm (sizes (removedEntries out))
  ordered : (removedBytes out ++ lane'.ring.contents).Sublist
    (lane.ring.contents ++ acceptedBytes out)
  conserved : discards = false →
    removedBytes out ++ lane'.ring.contents = lane.ring.contents ++ acceptedBytes out
  capacity : lane'.ring.capacity = lane.ring.capacity
  served : ∀ req bytes, .removed req bytes ∈ out →
    req ∈ lane.readQueue ++ arrived ∧ bytes.length ≤ req.length.toNat

namespace Lane.Transfer

variable {discards discards' : Bool} {lane mid lane' : Lane} {arrived arrived' : List ReadRequest}
  {out out' : List LaneEffect}

/-- An account with every byte kept. -/
theorem of_conserved (answered : (lane.readQueue ++ arrived).Perm
      (completedReads out ++ lane'.readQueue))
    (reported : (readReports out).Perm (sizes (removedEntries out)))
    (conserved : removedBytes out ++ lane'.ring.contents =
      lane.ring.contents ++ acceptedBytes out)
    (capacity : lane'.ring.capacity = lane.ring.capacity)
    (served : ∀ req bytes, .removed req bytes ∈ out →
      req ∈ lane.readQueue ++ arrived ∧ bytes.length ≤ req.length.toNat) :
    Transfer discards lane lane' arrived out where
  answered := answered
  reported := reported
  ordered := by rw [conserved]
  conserved _ := conserved
  capacity := capacity
  served := served

/-- Nothing happens. -/
theorem refl (discards : Bool) (lane : Lane) : Transfer discards lane lane [] [] := by
  apply of_conserved
  · simp [completedReads]
  · exact .nil
  · simp [removedBytes, acceptedBytes, removedEntries, acceptedEntries, items]
  · rfl
  · intro req bytes hmem
    cases hmem

/-- An account may leave open whether bytes were discarded. -/
theorem weaken (h : Transfer false lane lane' arrived out) (discards : Bool) :
    Transfer discards lane lane' arrived out :=
  of_conserved h.answered h.reported (h.conserved rfl) h.capacity h.served

/-- Two accounts, one after the other. -/
theorem trans (h : Transfer discards lane mid arrived out)
    (h' : Transfer discards' mid lane' arrived' out') :
    Transfer (discards || discards') lane lane' (arrived ++ arrived') (out ++ out') where
  answered := by
    have hfirst := h.answered.append_right arrived'
    have hsecond := h'.answered.append_left (completedReads out)
    simp only [completed_reads_append, List.append_assoc] at hfirst hsecond ⊢
    exact hfirst.trans hsecond
  reported := by
    rw [read_reports_append, removed_entries_append, sizes_append]
    exact h.reported.append h'.reported
  ordered := by
    have hfirst := h.ordered.append_right (acceptedBytes out')
    have hsecond := h'.ordered.append_left (removedBytes out)
    simp only [removed_bytes_append, accepted_bytes_append, List.append_assoc]
      at hfirst hsecond ⊢
    exact hsecond.trans hfirst
  conserved hkept := by
    obtain ⟨hd, hd'⟩ := Bool.or_eq_false_iff.mp hkept
    rw [removed_bytes_append, accepted_bytes_append, List.append_assoc, h'.conserved hd',
      ← List.append_assoc, h.conserved hd, List.append_assoc]
  capacity := h'.capacity.trans h.capacity
  served req bytes hmem := by
    rw [← List.append_assoc]
    cases List.mem_append.mp hmem with
    | inl hfirst =>
        obtain ⟨hreq, hlength⟩ := h.served req bytes hfirst
        exact ⟨List.mem_append_left _ hreq, hlength⟩
    | inr hsecond =>
        obtain ⟨hreq, hlength⟩ := h'.served req bytes hsecond
        refine ⟨?_, hlength⟩
        cases List.mem_append.mp hreq with
        | inl hmid =>
            exact List.mem_append_left _ (h.answered.mem_iff.mpr (List.mem_append_right _ hmid))
        | inr harrived => exact List.mem_append_right _ harrived

/-- A read is completed without data. -/
theorem read_empty (discards : Bool) (ring : Ring) (req : ReadRequest) (rest : List ReadRequest)
    (writes : List WriteRequest) (st : NTSTATUS) :
    Transfer discards ⟨ring, req :: rest, writes⟩ ⟨ring, rest, writes⟩ []
      [.readDone req st 0] := by
  apply of_conserved
  · show (req :: rest ++ []).Perm ([req] ++ rest)
    rw [List.append_nil]
    exact .refl _
  · rw [(Balanced.read_empty req st).reads]
  · exact (List.append_nil ring.contents).symm
  · rfl
  · intro req bytes hmem
    simp at hmem

/-- A pended read is served from a ring that holds bytes. -/
theorem read_served {ring : Ring} {req : ReadRequest} (hlength : 0 < req.length.toNat)
    (hcontents : ring.contents ≠ []) (rest : List ReadRequest) (writes : List WriteRequest) :
    Transfer false ⟨ring, req :: rest, writes⟩ ⟨(ring.read req.length).1, rest, writes⟩ []
      [.removed req (ring.read req.length).2.2,
        .readDone req .success (ring.read req.length).2.1.toNat] := by
  apply of_conserved
  · show (req :: rest ++ []).Perm ([req] ++ rest)
    rw [List.append_nil]
    exact .refl _
  · rw [(Balanced.of_read ring req hlength hcontents).reads]
  · show (ring.read req.length).2.2 ++ [] ++ (ring.read req.length).1.contents = ring.contents ++ []
    rw [List.append_nil, List.append_nil, Ring.read_data, Ring.read_contents,
      List.take_append_drop]
  · exact Ring.read_capacity ring req.length
  · intro req' bytes hmem
    cases List.mem_cons.mp hmem with
    | inl heq =>
        cases heq
        refine ⟨List.mem_append_left _ (List.mem_cons_self ..), ?_⟩
        rw [Ring.read_data]
        exact List.length_take_le _ _
    | inr hlast => simp at hlast

/-- A write enters the ring, whatever its completion. -/
theorem write_accepted (ring : Ring) (req : WriteRequest) (reads : List ReadRequest)
    (writes writes' : List WriteRequest) {out : List LaneEffect}
    (hout : out = [] ∨ out = [.writeDone req .success (ring.write req).2.toNat]) :
    Transfer false ⟨ring, reads, writes⟩ ⟨(ring.write req).1, reads, writes'⟩ []
      (.accepted req (ring.write req).2.toNat :: out) := by
  have hcontents : (ring.write req).1.contents =
      ring.contents ++ (req.data.take (ring.write req).2.toNat ++ []) := by
    rw [List.append_nil, Ring.write_contents]
  rcases hout with rfl | rfl
  all_goals
    apply of_conserved
    · show (reads ++ []).Perm reads
      rw [List.append_nil]
    · exact .nil
    · exact hcontents
    · exact Ring.write_capacity ring req
    · intro req bytes hmem
      simp at hmem

/-- Effects that are about writes only, and leave the ring alone. -/
theorem write_only {reads : List ReadRequest} {ring : Ring} (writes writes' : List WriteRequest)
    {out : List LaneEffect}
    (hout : ∀ effect ∈ out, ∃ req st n, effect = .writeDone req st n) :
    Transfer false ⟨ring, reads, writes⟩ ⟨ring, reads, writes'⟩ [] out := by
  have hsilent {α : Type} (f : LaneEffect → Option α)
      (hf : ∀ req st n, f (.writeDone req st n) = none) : out.filterMap f = [] := by
    rw [List.filterMap_eq_nil_iff]
    intro effect heffect
    obtain ⟨req, st, n, rfl⟩ := hout effect heffect
    exact hf req st n
  have hcompleted : completedReads out = [] := hsilent _ fun _ _ _ ↦ rfl
  have hreports : readReports out = [] := hsilent _ fun _ _ _ ↦ rfl
  have hremoved : removedEntries out = [] := hsilent _ fun _ _ _ ↦ rfl
  have haccepted : acceptedEntries out = [] := hsilent _ fun _ _ _ ↦ rfl
  apply of_conserved
  · rw [hcompleted, List.append_nil, List.nil_append]
  · rw [hreports, hremoved]
    exact .nil
  · simp [removedBytes, acceptedBytes, hremoved, haccepted, items]
  · rfl
  · intro req bytes hmem
    obtain ⟨_, _, _, heq⟩ := hout _ hmem
    cases heq

end Lane.Transfer

/-! ## The loops -/

/-- The loop over the pended reads. -/
theorem drain_reads_transfer (wdf : Wdf) (ring : Ring) (reads : List ReadRequest)
    (writes : List WriteRequest) :
    Lane.Transfer false ⟨ring, reads, writes⟩
      ⟨(gcomDrainRingToReads wdf ring reads).1, (gcomDrainRingToReads wdf ring reads).2.1, writes⟩
      [] (gcomDrainRingToReads wdf ring reads).2.2 := by
  have h := reads_drained wdf ring reads
  generalize gcomDrainRingToReads wdf ring reads = after at h ⊢
  induction h with
  | stop => exact .refl false _
  | @dropped ring req rest st _ _ _ _ ih =>
      exact (Lane.Transfer.read_empty false ring req rest writes st).trans ih
  | @served ring req rest _ hcontents hbuf _ ih =>
      exact (Lane.Transfer.read_served (le_of_retrieve hbuf) hcontents rest writes).trans ih

/-- The loop over the pended writes. -/
theorem drain_writes_transfer (wdf : Wdf) (ring : Ring) (reads : List ReadRequest)
    (writes : List WriteRequest) :
    Lane.Transfer false ⟨ring, reads, writes⟩ (gcomDrainWritesToRing wdf ring reads writes).1 []
      (gcomDrainWritesToRing wdf ring reads writes).2 := by
  have h := writes_drained wdf ring reads writes
  generalize gcomDrainWritesToRing wdf ring reads writes = after at h ⊢
  induction h with
  | stop => exact .refl false _
  | @dropped ring reads req rest st _ _ _ _ ih =>
      have hfirst : Lane.Transfer false ⟨ring, reads, req :: rest⟩ ⟨ring, reads, rest⟩ []
          [.writeDone req st 0] := by
        apply Lane.Transfer.write_only
        intro effect heffect
        exact ⟨req, st, 0, List.mem_singleton.mp heffect⟩
      exact hfirst.trans ih
  | @admitted ring reads req rest _ _ _ _ ih =>
      have hwritten := Lane.Transfer.write_accepted ring req reads (req :: rest) rest (.inr rfl)
      exact (hwritten.trans (drain_reads_transfer wdf _ reads rest)).trans ih

/-! ## The callbacks of one direction -/

namespace Lane

variable (wdf : Wdf) (lane : Lane)

/-- A read that arrives is served around the writes it makes room for, completed without data, or
pended. -/
theorem evt_read_transfer (nonBlocking : Bool) (req : ReadRequest) :
    Transfer false lane (lane.evtRead wdf nonBlocking req).1 [req]
      (lane.evtRead wdf nonBlocking req).2.2 := by
  obtain ⟨ring, reads, writes⟩ := lane
  have hempty (st : NTSTATUS) : Transfer false ⟨ring, reads, writes⟩ ⟨ring, reads, writes⟩ [req]
      [.readDone req st 0] := by
    apply Transfer.of_conserved
    · exact List.perm_append_comm
    · rw [(Balanced.read_empty req st).reads]
    · exact (List.append_nil ring.contents).symm
    · rfl
    · intro req bytes hmem
      simp at hmem
  unfold evtRead
  dsimp only
  cases hbuf : retrieveBuffer wdf req.id 1 req.length.toNat with
  | error st => exact hempty st
  | ok =>
      dsimp only
      rw [ulong_min_self]
      split
      · next hread =>
          have hcontents := (ring.read_pos_iff (le_of_retrieve hbuf)).mp hread
          have hserved := Balanced.of_read ring req (le_of_retrieve hbuf) hcontents
          have hdrained := drain_writes_transfer wdf (ring.read req.length).1 reads writes
          generalize gcomDrainWritesToRing wdf (ring.read req.length).1 reads writes = after
            at hdrained ⊢
          apply Transfer.of_conserved
          · -- the direct read is completed last
            have hanswered := hdrained.answered.append_right [req]
            rw [List.append_nil, List.append_assoc] at hanswered
            show (reads ++ [req]).Perm (completedReads (after.2 ++ [.readDone req .success _]) ++ _)
            rw [completed_reads_append, List.append_assoc]
            exact hanswered.trans (List.perm_append_comm.append_left _)
          · -- the bytes of the direct read are removed first
            show (readReports (after.2 ++ [_])).Perm
              (sizes ([(req.id, _)] ++ removedEntries (after.2 ++ [.readDone req .success _])))
            have hlast : readReports [.readDone req .success (ring.read req.length).2.1.toNat] =
                sizes [(req.id, (ring.read req.length).2.2)] := hserved.reads
            rw [read_reports_append, hlast, removed_entries_append, sizes_append, sizes_append]
            show (readReports after.2 ++ _).Perm (_ ++ (sizes (removedEntries after.2) ++ []))
            rw [List.append_nil]
            exact (hdrained.reported.append_right _).trans List.perm_append_comm
          · have hkept := hdrained.conserved rfl
            show (ring.read req.length).2.2 ++ removedBytes (after.2 ++ [_]) ++
              after.1.ring.contents = ring.contents ++ acceptedBytes (after.2 ++ [_])
            rw [removed_bytes_append, accepted_bytes_append]
            show (ring.read req.length).2.2 ++ (removedBytes after.2 ++ []) ++
              after.1.ring.contents = ring.contents ++ (acceptedBytes after.2 ++ [])
            rw [List.append_nil, List.append_nil, List.append_assoc, hkept, ← List.append_assoc,
              Ring.read_data, Ring.read_contents, List.take_append_drop]
          · exact hdrained.capacity.trans (Ring.read_capacity ring req.length)
          · intro req' bytes hmem
            show req' ∈ reads ++ [req] ∧ _
            have hmem : .removed req' bytes ∈ .removed req (ring.read req.length).2.2 ::
                (after.2 ++ [.readDone req .success (ring.read req.length).2.1.toNat]) := hmem
            cases List.mem_cons.mp hmem with
            | inl heq =>
                cases heq
                refine ⟨List.mem_append_right _ (List.mem_singleton_self _), ?_⟩
                rw [Ring.read_data]
                exact List.length_take_le _ _
            | inr hlater =>
                cases List.mem_append.mp hlater with
                | inl hdrain =>
                    obtain ⟨hreq, hlength⟩ := hdrained.served req' bytes hdrain
                    rw [List.append_nil] at hreq
                    exact ⟨List.mem_append_left _ hreq, hlength⟩
                | inr hlast => simp at hlast
      · split
        · exact hempty .success
        · cases wdf.forward req.id with
          | ok =>
              apply Transfer.of_conserved
              · exact .refl _
              · exact .nil
              · exact (List.append_nil ring.contents).symm
              · rfl
              · intro req bytes hmem
                cases hmem
          | error st => exact hempty st

/-- A write that arrives enters the ring and the pended reads are served, or the ring stays as it
is. -/
theorem evt_write_transfer (req : WriteRequest) :
    Transfer false lane (lane.evtWrite wdf req).1 [] (lane.evtWrite wdf req).2.2 := by
  obtain ⟨ring, reads, writes⟩ := lane
  have hdone (st : NTSTATUS) (n : ℕ) (effect : LaneEffect)
      (heffect : effect ∈ [LaneEffect.writeDone req st n]) :
      ∃ req st n, effect = .writeDone req st n :=
    ⟨req, st, n, List.mem_singleton.mp heffect⟩
  unfold evtWrite
  dsimp only
  cases hbuf : retrieveBuffer wdf req.id 1 req.data.length with
  | error st => exact Transfer.write_only writes writes (hdone st 0)
  | ok =>
      dsimp only
      split
      · have hwritten := Transfer.write_accepted ring req reads writes writes (.inl rfl)
        have hdrained := drain_reads_transfer wdf (ring.write req).1 reads writes
        exact (hwritten.trans hdrained).trans (Transfer.write_only writes writes (hdone _ _))
      · cases wdf.forward req.id with
        | ok =>
            refine Transfer.write_only writes (writes ++ [req]) ?_
            intro effect heffect
            cases heffect
        | error st => exact Transfer.write_only writes writes (hdone st 0)

/-- Reads and writes of a direction are cancelled. -/
theorem cancelled_transfer {reads cancelled kept : List ReadRequest}
    (hsplit : reads.Perm (cancelled ++ kept)) (ring : Ring)
    (writes failed left : List WriteRequest) :
    Transfer false ⟨ring, reads, writes⟩ ⟨ring, kept, left⟩ []
      (cancelled.map (.readDone · .cancelled 0) ++ failed.map (.writeDone · .cancelled 0)) := by
  have hreads : Transfer false ⟨ring, reads, writes⟩ ⟨ring, kept, writes⟩ []
      (cancelled.map (.readDone · .cancelled 0)) := by
    have hcompleted : completedReads (cancelled.map (.readDone · .cancelled 0)) = cancelled := by
      simp [completedReads, LaneEffect.completedRead, Function.comp_def]
    have hsilent {α : Type} (f : LaneEffect → Option α)
        (hf : ∀ req : ReadRequest, f (.readDone req .cancelled 0) = none) :
        (cancelled.map (.readDone · .cancelled 0)).filterMap f = [] := by
      rw [List.filterMap_map, List.filterMap_eq_nil_iff]
      exact fun req _ ↦ hf req
    have hreports := hsilent LaneEffect.readReport fun _ ↦ rfl
    have hremoved := hsilent LaneEffect.removedEntry fun _ ↦ rfl
    have haccepted := hsilent LaneEffect.acceptedEntry fun _ ↦ rfl
    apply Transfer.of_conserved
    · rw [hcompleted, List.append_nil]
      exact hsplit
    · rw [readReports, hreports, removedEntries, hremoved]
      exact .nil
    · simp [removedBytes, acceptedBytes, removedEntries, acceptedEntries, hremoved, haccepted,
        items]
    · rfl
    · intro req bytes hmem
      simp at hmem
  refine hreads.trans (Transfer.write_only writes left ?_)
  intro effect heffect
  obtain ⟨req, -, rfl⟩ := List.mem_map.mp heffect
  exact ⟨req, .cancelled, 0, rfl⟩

theorem cancel_transfer (id : RequestId) :
    Transfer false lane (lane.cancel id).1 [] (lane.cancel id).2 := by
  refine cancelled_transfer ?_ lane.ring lane.writeQueue _ _
  have hsplit := (List.filter_append_perm (fun req : ReadRequest ↦ decide (req.id = id))
    lane.readQueue).symm
  simpa using hsplit

theorem purge_reads_transfer : Transfer false lane lane.purgeReads.1 [] lane.purgeReads.2 := by
  have h := cancelled_transfer (.of_eq (List.append_nil lane.readQueue).symm) lane.ring
    lane.writeQueue [] lane.writeQueue
  rw [List.map_nil, List.append_nil] at h
  exact h

theorem purge_writes_transfer : Transfer false lane lane.purgeWrites.1 [] lane.purgeWrites.2 :=
  cancelled_transfer (List.Perm.refl ([] ++ lane.readQueue)) lane.ring lane.writeQueue
    lane.writeQueue []

/-- Flushing the ring discards what is in it. -/
theorem flush_transfer : Transfer true lane lane.flush [] [] where
  answered := by
    rw [List.append_nil]
    exact .refl _
  reported := .nil
  ordered := by
    show List.Sublist ([] ++ lane.ring.flush.contents) _
    rw [Ring.flush_contents]
    exact List.nil_sublist _
  conserved h := by cases h
  capacity := rfl
  served req bytes hmem := by cases hmem

end Lane

/-! ## The callbacks of a pair -/

/-- An account of what a callback did to both directions of a pair. -/
def PairTransfer (discards : Direction → Bool) (arrived : Direction → List ReadRequest)
    (pp : PortPair) (result : PortPair × List Effect) : Prop :=
  ∀ d, Lane.Transfer (discards d) (pp.lane d) (result.1.lane d) (arrived d)
    (laneTrace d result.2)

/-- A callback that leaves the lanes alone, and is not seen on them. -/
structure LanesKept (pp : PortPair) (result : PortPair × List Effect) : Prop where
  lane : ∀ d, result.1.lane d = pp.lane d
  silent : ∀ d, laneTrace d result.2 = []

/-- Nothing is discarded, and nothing arrives. -/
def neither : Direction → Bool := fun _ ↦ false
def noReads : Direction → List ReadRequest := fun _ ↦ []

/-- A read that arrives in one direction. -/
def readIn (direction : Direction) (req : ReadRequest) : Direction → List ReadRequest :=
  fun d ↦ if direction = d then [req] else []

namespace PairTransfer

variable {discards : Direction → Bool} {arrived : Direction → List ReadRequest} {pp : PortPair}
  {result : PortPair × List Effect}

/-- A callback that leaves the lanes alone. -/
theorem idle (h : LanesKept pp result) : PairTransfer neither noReads pp result := by
  intro d
  rw [h.lane d, h.silent d]
  exact .refl false _

/-- An account may leave open whether bytes were discarded. -/
theorem weaken (h : PairTransfer neither arrived pp result) (discards : Direction → Bool) :
    PairTransfer discards arrived pp result :=
  fun d ↦ (h d).weaken (discards d)

/-- A callback that works on one direction. -/
theorem of_lane (direction : Direction) {lane : Lane} {out : List LaneEffect}
    (h : Lane.Transfer false (pp.lane direction) lane (arrived direction) out)
    (hother : ∀ d, direction ≠ d → arrived d = []) :
    PairTransfer neither arrived pp (pp.withLane direction lane, laneEffects direction out) := by
  intro d
  show Lane.Transfer false (pp.lane d) ((pp.withLane direction lane).lane d) (arrived d)
    (laneTrace d (laneEffects direction out))
  rw [PortPair.lane_withLane, lane_trace_lane_effects]
  by_cases hd : direction = d
  · subst hd
    rw [if_pos rfl, if_pos rfl]
    exact h
  · rw [if_neg (Ne.symm hd), if_neg hd, hother d hd]
    exact .refl false _

/-- A read that arrives in one direction. -/
theorem of_read (direction : Direction) (req : ReadRequest) {lane : Lane} {out : List LaneEffect}
    (h : Lane.Transfer false (pp.lane direction) lane [req] out) :
    PairTransfer neither (readIn direction req) pp
      (pp.withLane direction lane, laneEffects direction out) := by
  apply of_lane direction
  · rw [readIn, if_pos rfl]
    exact h
  · intro d hd
    exact if_neg hd

/-- Effects that are not seen on the lanes may follow, and fields that are not on them change. -/
theorem append (h : PairTransfer discards arrived pp result) {pp' : PortPair} {out : List Effect}
    (hlane : ∀ d, pp'.lane d = result.1.lane d) (hout : ∀ d, laneTrace d out = []) :
    PairTransfer discards arrived pp (pp', result.2 ++ out) := by
  intro d
  show Lane.Transfer _ _ (pp'.lane d) _ (laneTrace d (result.2 ++ out))
  rw [hlane d, lane_trace_append, hout d, List.append_nil]
  exact h d

/-- Another callback may follow. -/
theorem trans (h : PairTransfer discards arrived pp result) {discards' : Direction → Bool}
    {arrived' : Direction → List ReadRequest} {later : PortPair × List Effect}
    (h' : PairTransfer discards' arrived' result.1 later) :
    PairTransfer (fun d ↦ discards d || discards' d) (fun d ↦ arrived d ++ arrived' d) pp
      (later.1, result.2 ++ later.2) := by
  intro d
  rw [lane_trace_append]
  exact (h d).trans (h' d)

end PairTransfer

section Handlers

variable (wdf : Wdf) (pp : PortPair)

/-- A direction can be stored as it is. -/
theorem with_lane_self (direction : Direction) :
    pp.withLane direction (pp.lane direction) = pp := by
  cases direction <;> rfl

/-- A read that arrives when its pair is gone. -/
theorem read_away_transfer (direction : Direction) (req : ReadRequest) (st : NTSTATUS) :
    PairTransfer neither (readIn direction req) pp
      (pp, laneEffects direction [.readDone req st 0]) := by
  have h : Lane.Transfer false (pp.lane direction) (pp.lane direction) [req]
      [.readDone req st 0] := by
    apply Lane.Transfer.of_conserved
    · exact List.perm_append_comm
    · rw [(Balanced.read_empty req st).reads]
    · exact (List.append_nil _).symm
    · rfl
    · intro req bytes hmem
      simp at hmem
  have hpair := PairTransfer.of_read direction req h
  rwa [with_lane_self] at hpair

/-- A write that arrives when its pair is gone. -/
theorem write_away_transfer (direction : Direction) (req : WriteRequest) (st : NTSTATUS) :
    PairTransfer neither noReads pp (pp, laneEffects direction [.writeDone req st 0]) := by
  have h : Lane.Transfer false (pp.lane direction) (pp.lane direction) []
      [.writeDone req st 0] := by
    apply Lane.Transfer.write_only
    intro effect heffect
    exact ⟨req, st, 0, List.mem_singleton.mp heffect⟩
  have hpair : PairTransfer neither noReads pp (pp.withLane direction (pp.lane direction),
      laneEffects direction [.writeDone req st 0]) := .of_lane direction h fun _ _ ↦ rfl
  rwa [with_lane_self] at hpair

theorem com_read_transfer (req : ReadRequest) :
    PairTransfer neither (readIn .companionToCom req) pp (gcomComEvtRead wdf pp req) := by
  unfold gcomComEvtRead
  split
  · exact read_away_transfer pp .companionToCom req _
  · have h := PairTransfer.of_read .companionToCom req (Lane.evt_read_transfer wdf
      (pp.lane .companionToCom) pp.timeouts.nonBlocking req)
    intro d
    have hd := h d
    cases d <;> exact hd

theorem comp_read_transfer (req : ReadRequest) :
    PairTransfer neither (readIn .comToCompanion req) pp (gcomCompEvtRead wdf pp req) := by
  unfold gcomCompEvtRead
  split
  · exact read_away_transfer pp .comToCompanion req _
  · exact .of_read .comToCompanion req (Lane.evt_read_transfer wdf _ false req)

theorem com_write_transfer (req : WriteRequest) :
    PairTransfer neither noReads pp (gcomComEvtWrite wdf pp req) := by
  unfold gcomComEvtWrite
  split
  · exact write_away_transfer pp .comToCompanion req _
  · have h : PairTransfer neither noReads pp (_, _) := .of_lane .comToCompanion
      (Lane.evt_write_transfer wdf (pp.lane .comToCompanion) req) fun _ _ ↦ rfl
    dsimp only
    split
    · refine h.append (fun d ↦ ?_) fun d ↦ lane_trace_check_wait_mask d wdf _ _
      rw [check_wait_mask_lane]
      cases d <;> rfl
    · intro d
      have hd := h d
      cases d <;> exact hd

theorem comp_write_transfer (req : WriteRequest) :
    PairTransfer neither noReads pp (gcomCompEvtWrite wdf pp req) := by
  unfold gcomCompEvtWrite
  split
  · exact write_away_transfer pp .companionToCom req _
  · have h : PairTransfer neither noReads pp (_, _) := .of_lane .companionToCom
      (Lane.evt_write_transfer wdf (pp.lane .companionToCom) req) fun _ _ ↦ rfl
    dsimp only
    split
    · exact h.append (fun d ↦ check_wait_mask_lane ..) fun d ↦ lane_trace_check_wait_mask d wdf _ _
    · exact h

end Handlers

/-! ## IOCTLs, opens, closes and the teardown -/

namespace LanesKept

variable {pp : PortPair} {result : PortPair × List Effect}

/-- Effects that are not seen on the lanes may follow. -/
theorem append (h : LanesKept pp result) {out : List Effect} (hout : ∀ d, laneTrace d out = []) :
    LanesKept pp (result.1, result.2 ++ out) where
  lane := h.lane
  silent d := by rw [lane_trace_append, h.silent d, hout d, List.append_nil]

/-- Another such callback may follow. -/
theorem then_kept (h : LanesKept pp result) {later : PortPair × List Effect}
    (hlater : LanesKept result.1 later) : LanesKept pp (later.1, result.2 ++ later.2) where
  lane d := (hlater.lane d).trans (h.lane d)
  silent d := by rw [lane_trace_append, h.silent d, hlater.silent d, List.append_nil]

end LanesKept

section Ioctls

variable (wdf : Wdf) (pp : PortPair) (req : IoctlRequest)

/-- The wait queues are not on the lanes. -/
theorem check_wait_mask_kept (events : ULONG) : LanesKept pp (gcomCheckWaitMask wdf pp events) :=
  ⟨fun _ ↦ check_wait_mask_lane .., fun d ↦ lane_trace_check_wait_mask d wdf pp events⟩

/-- Neither is the signal state. -/
theorem notify_kept (state : SignalState) (changedBits : ULONG) :
    LanesKept pp (notify wdf pp state changedBits) := by
  refine ⟨fun d ↦ ?_, fun d ↦ lane_trace_signal_changed d wdf _ _⟩
  rw [notify, signal_changed_lane]
  cases d <;> rfl

theorem complete_kept (st : NTSTATUS) : LanesKept pp (pp, [complete req st]) :=
  ⟨fun _ ↦ rfl, fun _ ↦ rfl⟩

theorem get_request_kept (size : ℕ) (output : Output) :
    LanesKept pp (getRequest wdf pp req size output) := by
  unfold getRequest
  split <;> exact ⟨fun _ ↦ rfl, fun _ ↦ rfl⟩

theorem set_request_kept (size : ℕ) {body : PortPair × List Effect} (h : LanesKept pp body) :
    LanesKept pp (setRequest wdf pp req size body) := by
  unfold setRequest
  split
  · exact h.append fun _ ↦ rfl
  · exact complete_kept pp req _

theorem set_wait_mask_kept (mask : ULONG) : LanesKept pp (setWaitMask wdf pp mask) := by
  have hcancelled (d : Direction) : laneTrace d
      (pp.waitMaskQueue.map fun req ↦ Effect.completed req.id .cancelled 0 .none) = [] :=
    lane_trace_waits d (fun _ ↦ rfl) pp.waitMaskQueue
  have hpurged : LanesKept pp ({ pp with waitMaskQueue := [] },
      pp.waitMaskQueue.map fun req ↦ Effect.completed req.id .cancelled 0 .none) :=
    ⟨fun d ↦ by cases d <;> rfl, hcancelled⟩
  exact hpurged.then_kept (notify_kept wdf _ _ _)

theorem wait_on_mask_kept : LanesKept pp (waitOnMask wdf pp req) := by
  unfold waitOnMask
  split
  · exact ⟨fun d ↦ by cases d <;> rfl, fun _ ↦ rfl⟩
  · exact complete_kept pp req _

/-- The IOCTLs of the companion side leave the data alone. -/
theorem comp_ioctl_kept (ioctl : CompIoctl) : LanesKept pp (gcomCompEvtIoctl wdf pp req ioctl) := by
  unfold gcomCompEvtIoctl
  split
  · exact complete_kept pp req _
  cases ioctl with
  | waitSignalChange =>
      show LanesKept pp (waitSignalChange wdf pp req)
      unfold waitSignalChange
      split
      · exact ⟨fun d ↦ by cases d <;> rfl, fun _ ↦ rfl⟩
      · exact complete_kept pp req _
  | getSignals => exact get_request_kept wdf pp req _ _
  | setSignals dtrState rtsState =>
      have hlines : LanesKept pp ({ pp with
          compDtr := isTrue dtrState
          compRts := isTrue rtsState }, []) :=
        ⟨fun d ↦ by cases d <;> rfl, fun _ ↦ rfl⟩
      refine set_request_kept wdf pp req _ ?_
      unfold setSignals
      dsimp only
      split
      · exact hlines.then_kept (check_wait_mask_kept wdf _ _)
      · exact hlines
  | unknown => exact complete_kept pp req _

/-- The rings that `IOCTL_SERIAL_PURGE` flushes. -/
def purgeDiscards (flags : ULONG) : Direction → Bool :=
  flushed (isTrue (flags &&& serialPurgeTxClear)) (isTrue (flags &&& serialPurgeRxClear))

theorem purge_queue_transfer (d : Direction) :
    PairTransfer neither noReads pp (purgeQueue pp d) := by
  cases d with
  | comToCompanion =>
      exact .of_lane .comToCompanion (Lane.purge_writes_transfer _) fun _ _ ↦ rfl
  | companionToCom =>
      exact .of_lane .companionToCom (Lane.purge_reads_transfer _) fun _ _ ↦ rfl

/-- A section of `IOCTL_SERIAL_PURGE` whose flag may be unset. -/
theorem purge_flag_transfer (flag : Bool) (d : Direction) :
    PairTransfer neither noReads pp (if flag then purgeQueue pp d else (pp, [])) := by
  cases flag with
  | true => exact purge_queue_transfer pp d
  | false => exact .idle ⟨fun _ ↦ rfl, fun _ ↦ rfl⟩

/-- The section under the data lock discards what is in the rings it flushes. -/
theorem flush_rings_transfer (flags : ULONG) :
    PairTransfer (purgeDiscards flags) noReads pp (flushRings pp
      (isTrue (flags &&& serialPurgeTxClear)) (isTrue (flags &&& serialPurgeRxClear)), []) := by
  intro d
  show Lane.Transfer _ _ ((flushRings _ _ _).lane d) [] []
  rw [flush_rings_lane, purgeDiscards]
  cases flushed (isTrue (flags &&& serialPurgeTxClear))
      (isTrue (flags &&& serialPurgeRxClear)) d with
  | true => exact Lane.flush_transfer _
  | false => exact .refl false _

theorem purge_transfer (flags : ULONG) :
    PairTransfer (purgeDiscards flags) noReads pp (purge pp flags) := by
  have haborted := (purge_flag_transfer pp (isTrue (flags &&& serialPurgeTxAbort))
    .comToCompanion).trans
      (purge_flag_transfer _ (isTrue (flags &&& serialPurgeRxAbort)) .companionToCom)
  intro d
  have h := haborted.trans (flush_rings_transfer _ flags) d
  dsimp only at h
  rw [List.append_nil] at h
  exact h

theorem immediate_char_transfer (ch : UCHAR) :
    PairTransfer neither noReads pp (immediateChar wdf pp req ch) := by
  have hwritten := Lane.Transfer.write_accepted (pp.lane .comToCompanion).ring
    ⟨req.id, [ch], one_byte_fits ch⟩ (pp.lane .comToCompanion).readQueue
    (pp.lane .comToCompanion).writeQueue (pp.lane .comToCompanion).writeQueue (.inl rfl)
  exact .of_lane .comToCompanion (hwritten.trans (drain_reads_transfer wdf _ _ _)) fun _ _ ↦ rfl

/-- The rings whose contents an IOCTL of the COM side discards. -/
def ComIoctl.discards : ComIoctl → Direction → Bool
  | .purge flags => purgeDiscards flags
  | _ => neither

/-- A code with an input structure. -/
theorem set_request_transfer (size : ℕ) {discards : Direction → Bool}
    {body : PortPair × List Effect} (h : PairTransfer discards noReads pp body) :
    PairTransfer discards noReads pp (setRequest wdf pp req size body) := by
  unfold setRequest
  split
  · exact h.append (fun _ ↦ rfl) fun _ ↦ rfl
  · exact (PairTransfer.idle (complete_kept pp req _)).weaken discards

theorem com_ioctl_transfer (ioctl : ComIoctl) :
    PairTransfer ioctl.discards noReads pp (gcomComEvtIoctl wdf pp req ioctl) := by
  unfold gcomComEvtIoctl
  split
  · exact (PairTransfer.idle (complete_kept pp req _)).weaken _
  cases ioctl with
  | getBaudRate | getLineControl | getTimeouts | getHandflow | getChars | getWaitMask
  | getModemStatus | getCommStatus | getProperties | getDtrRts | getStats | configSize
  | getModemControl => exact .idle (get_request_kept wdf pp req _ _)
  | setBaudRate | setLineControl | setHandflow | setChars | setModemControl =>
      exact set_request_transfer wdf pp req _ (.idle (notify_kept wdf pp _ _))
  | setDtr | clrDtr | setRts | clrRts | setBreakOff =>
      exact .idle ((notify_kept wdf pp _ _).append fun _ ↦ rfl)
  | setQueueSize | noOp | unknown => exact .idle (complete_kept pp req _)
  | clearStats => exact .idle ⟨fun d ↦ by cases d <;> rfl, fun _ ↦ rfl⟩
  | setTimeouts timeouts =>
      exact set_request_transfer wdf pp req _
        (.idle ⟨fun d ↦ by cases d <;> rfl, fun _ ↦ rfl⟩)
  | setBreakOn =>
      exact .idle (((notify_kept wdf pp _ _).then_kept
        (check_wait_mask_kept wdf _ serialEvBreak)).append fun _ ↦ rfl)
  | setWaitMask mask =>
      exact set_request_transfer wdf pp req _ (.idle (set_wait_mask_kept wdf pp mask))
  | waitOnMask => exact .idle (wait_on_mask_kept wdf pp req)
  | purge flags => exact set_request_transfer wdf pp req _ (purge_transfer pp flags)
  | immediateChar ch =>
      exact set_request_transfer wdf pp req _ (immediate_char_transfer wdf pp req ch)

end Ioctls

section Files

variable (wdf : Wdf) (pp : PortPair) (id : RequestId)

theorem com_open_kept :
    LanesKept pp ((gcomComEvtFileCreate wdf pp id).pp,
      (gcomComEvtFileCreate wdf pp id).effects) := by
  unfold gcomComEvtFileCreate
  split
  · exact ⟨fun _ ↦ rfl, fun _ ↦ rfl⟩
  · split
    · exact ⟨fun _ ↦ rfl, fun _ ↦ rfl⟩
    · refine ⟨fun d ↦ ?_, fun d ↦ ?_⟩
      · show (gcomSignalChanged wdf _ changedComOpen).1.lane d = pp.lane d
        rw [signal_changed_lane]
        cases d <;> rfl
      · show laneTrace d ((gcomSignalChanged wdf _ changedComOpen).2 ++ [_]) = []
        rw [lane_trace_append, lane_trace_signal_changed]
        rfl

theorem com_close_kept :
    LanesKept pp ((gcomComEvtFileClose wdf pp).pp, (gcomComEvtFileClose wdf pp).effects) := by
  unfold gcomComEvtFileClose
  by_cases hactive : pp.active = true
  · simp only [if_pos hactive]
    refine ⟨fun d ↦ ?_, fun d ↦ lane_trace_signal_changed d wdf _ _⟩
    have h := signal_changed_lane wdf { pp with comSideOpen := 0 } changedComClose d
    cases d <;> exact h
  · simp only [if_neg hactive]
    exact ⟨fun d ↦ by cases d <;> rfl, fun _ ↦ rfl⟩

theorem comp_open_kept :
    LanesKept pp ((gcomCompEvtFileCreate pp id).pp, (gcomCompEvtFileCreate pp id).effects) := by
  unfold gcomCompEvtFileCreate
  split
  · exact ⟨fun _ ↦ rfl, fun _ ↦ rfl⟩
  · split
    · exact ⟨fun _ ↦ rfl, fun _ ↦ rfl⟩
    · exact ⟨fun d ↦ by cases d <;> rfl, fun _ ↦ rfl⟩

theorem comp_close_kept :
    LanesKept pp ((gcomCompEvtFileClose pp).pp, (gcomCompEvtFileClose pp).effects) := by
  unfold gcomCompEvtFileClose
  cases pp.active <;> exact ⟨fun d ↦ by cases d <;> rfl, fun _ ↦ rfl⟩

theorem cancel_wait_kept : LanesKept pp (pp.cancelWait id) := by
  refine ⟨fun d ↦ by cases d <;> rfl, fun d ↦ ?_⟩
  have hwaits (waits : List WaitRequest) : laneTrace d (waits.map cancelledWait) = [] :=
    lane_trace_waits d (fun _ ↦ rfl) waits
  unfold PortPair.cancelWait
  rw [lane_trace_append, hwaits, hwaits, List.append_nil]

theorem cancel_transfer : PairTransfer neither noReads pp (pp.cancel id) := by
  have htx : PairTransfer neither noReads pp (_, _) :=
    .of_lane .comToCompanion (Lane.cancel_transfer (pp.lane .comToCompanion) id) fun _ _ ↦ rfl
  have hrx (pp : PortPair) : PairTransfer neither noReads pp (_, _) :=
    .of_lane .companionToCom (Lane.cancel_transfer (pp.lane .companionToCom) id) fun _ _ ↦ rfl
  exact htx.trans (hrx _)

/-- The teardown cancels everything that is pended and frees the rings. -/
theorem teardown_transfer : PairTransfer (fun _ ↦ true) noReads pp pp.teardown := by
  have hwaits (d : Direction) : laneTrace d
      ((pp.signalWaitQueue ++ pp.waitMaskQueue).map cancelledWait) = [] :=
    lane_trace_waits d (fun _ ↦ rfl) _
  intro d
  have h : Lane.Transfer false (pp.lane d) ((portPairTeardown pp).1.lane d) []
      ((pp.lane d).purgeReads.2 ++ (pp.lane d).purgeWrites.2) := by
    have hreads := Lane.purge_reads_transfer (pp.lane d)
    have hwrites := Lane.purge_writes_transfer (pp.lane d).purgeReads.1
    cases d <;> exact hreads.trans hwrites
  have htrace : laneTrace d pp.teardown.2 =
      (pp.lane d).purgeReads.2 ++ (pp.lane d).purgeWrites.2 := by
    rw [PortPair.teardown, lane_trace_append, hwaits, List.append_nil, lane_trace_append,
      lane_trace_lane_effects, lane_trace_lane_effects]
    cases d with
    | comToCompanion => rfl
    | companionToCom => exact List.append_nil _
  rw [htrace]
  exact h.weaken true

end Files

/-! ## Every event -/

/-- The read request that arrives with an event. -/
def PairEvent.readArrival (id : RequestId) : PairEvent → Direction → List ReadRequest
  | .data (.comRead length _) => readIn .companionToCom ⟨id, length⟩
  | .data (.compRead length _) => readIn .comToCompanion ⟨id, length⟩
  | _ => noReads

/-- The rings whose contents an event discards. -/
def PairEvent.discards : PairEvent → Direction → Bool
  | .comIoctl _ _ ioctl _ => ioctl.discards
  | .teardown => fun _ ↦ true
  | _ => neither

/-- The account of an event. -/
theorem PairEvent.transfer (id : RequestId) (pp : PortPair) (e : PairEvent) :
    PairTransfer e.discards (e.readArrival id) pp (e.call id pp) := by
  cases e with
  | data e =>
      cases e with
      | comRead length wdf => exact com_read_transfer wdf pp ⟨id, length⟩
      | comWrite data fits wdf => exact com_write_transfer wdf pp ⟨id, data, fits⟩
      | compRead length wdf => exact comp_read_transfer wdf pp ⟨id, length⟩
      | compWrite data fits wdf => exact comp_write_transfer wdf pp ⟨id, data, fits⟩
      | setTimeouts inputLength timeouts wdf =>
          exact com_ioctl_transfer wdf pp ⟨id, inputLength, 0⟩ (.setTimeouts timeouts)
      | cancel request => exact cancel_transfer pp request
  | comIoctl inputLength outputLength ioctl wdf =>
      exact com_ioctl_transfer wdf pp ⟨id, inputLength, outputLength⟩ ioctl
  | compIoctl inputLength outputLength ioctl wdf => exact .idle (comp_ioctl_kept wdf pp _ ioctl)
  | comOpen wdf => exact .idle (com_open_kept wdf pp id)
  | comClose wdf => exact .idle (com_close_kept wdf pp)
  | compOpen => exact .idle (comp_open_kept pp id)
  | compClose => exact .idle (comp_close_kept pp)
  | cancelWait request => exact .idle (cancel_wait_kept pp request)
  | teardown => exact teardown_transfer pp

/-! ## Runs -/

namespace DataPath

/-- The account of a pair since its creation; `discarded` says in which directions bytes may have
been discarded. -/
def Accounts (discarded : Direction → Bool) (s : DataPath) : Prop :=
  ∀ d, ∃ arrived, Lane.Transfer (discarded d) ⟨.initial, [], []⟩ (s.pair.lane d) arrived
    (laneTrace d s.trace)

theorem initial_accounts (portNumber : ULONG) : (initial portNumber).Accounts neither := by
  intro d
  refine ⟨[], ?_⟩
  show Lane.Transfer false _ ((PortPair.initial portNumber).lane d) [] []
  rw [PortPair.initial_lane]
  exact .refl false _

variable {discarded : Direction → Bool} {s : DataPath}

/-- Every event keeps the account. -/
theorem Accounts.step (h : s.Accounts discarded) (e : PairEvent) :
    (s.pairStep e).Accounts fun d ↦ discarded d || e.discards d := by
  intro d
  obtain ⟨arrived, hsince⟩ := h d
  refine ⟨arrived ++ e.readArrival s.nextRequest d, ?_⟩
  show Lane.Transfer _ _ _ _ (laneTrace d (s.trace ++ _))
  rw [lane_trace_append]
  exact hsince.trans (e.transfer s.nextRequest s.pair d)

/-- Every run keeps the account. -/
theorem Accounts.run (h : s.Accounts discarded) (events : List PairEvent) :
    (s.pairRun events).Accounts fun d ↦ discarded d || events.any (·.discards d) := by
  induction events generalizing s discarded with
  | nil => simpa [pairRun] using h
  | cons e events ih =>
      have hrest := ih (h.step e)
      simpa [pairRun, Bool.or_assoc] using hrest

/-- The unread bytes of a direction, counted. -/
theorem Accounts.unread (h : s.Accounts discarded) (d : Direction) :
    (removedBytes (laneTrace d s.trace)).length + (s.pair.lane d).ring.contents.length ≤
        (acceptedBytes (laneTrace d s.trace)).length ∧
      (discarded d = false →
        (removedBytes (laneTrace d s.trace)).length + (s.pair.lane d).ring.contents.length =
          (acceptedBytes (laneTrace d s.trace)).length) ∧
      (s.pair.lane d).ring.contents.length ≤ 65535 := by
  obtain ⟨arrived, hsince⟩ := h d
  refine ⟨?_, fun hkept ↦ ?_, ?_⟩
  · have hlength := hsince.ordered.length_le
    simpa using hlength
  · have hlength := congrArg List.length (hsince.conserved hkept)
    simpa using hlength
  · have hle := (s.pair.lane d).ring.contents_length_le
    rwa [hsince.capacity, Ring.initial_capacity] at hle

end DataPath

/-- `GET_COMMSTATUS` tells how much is unread. After every run of the callbacks of a pair it is
completed with an error or reports, for both directions, at most the number of bytes accepted and
not removed, exactly that number if no event of the run discards bytes of the direction, and never
more than a ring holds. -/
theorem comm_status_exact (portNumber : ULONG) (events : List PairEvent) (wdf : Wdf)
    (req : IoctlRequest) :
    let s := (DataPath.initial portNumber).pairRun events
    let moved (d : Direction) := laneTrace d s.trace
    let agrees (d : Direction) (amount : ULONG) : Prop :=
      amount.toNat + (removedBytes (moved d)).length ≤ (acceptedBytes (moved d)).length ∧
      (events.any (·.discards d) = false →
        amount.toNat + (removedBytes (moved d)).length = (acceptedBytes (moved d)).length) ∧
      amount.toNat ≤ 65535
    let reply := gcomComEvtIoctl wdf s.pair req .getCommStatus
    reply.1 = s.pair ∧
      ((∃ st : ErrorStatus, reply.2 = [complete req st]) ∨
        ∃ inQueue outQueue,
          reply.2 = [.completed req.id .success 20 (.commStatus inQueue outQueue)] ∧
          agrees .companionToCom inQueue ∧ agrees .comToCompanion outQueue) := by
  intro s moved agrees reply
  have hunread (d : Direction) :=
    ((DataPath.initial_accounts portNumber).run events).unread d
  have hagrees (d : Direction) : agrees d (s.pair.lane d).ring.readAvailable := by
    obtain ⟨hle, heq, hbound⟩ := hunread d
    simp only [agrees, Ring.readAvailable_toNat]
    refine ⟨by rw [Nat.add_comm]; exact hle, fun hkept ↦ ?_, hbound⟩
    rw [Nat.add_comm]
    exact heq hkept
  show (gcomComEvtIoctl wdf s.pair req .getCommStatus).1 = s.pair ∧
    ((∃ st : ErrorStatus, (gcomComEvtIoctl wdf s.pair req .getCommStatus).2 = _) ∨ ∃ _ _,
      (gcomComEvtIoctl wdf s.pair req .getCommStatus).2 = _ ∧ _)
  unfold gcomComEvtIoctl
  split
  · exact ⟨rfl, .inl ⟨⟨.deviceNotConnected, by simp⟩, rfl⟩⟩
  · dsimp only
    unfold getRequest
    split
    · exact ⟨rfl, .inr ⟨_, _, rfl, hagrees .companionToCom, hagrees .comToCompanion⟩⟩
    · next st _ => exact ⟨rfl, .inl ⟨st, rfl⟩⟩

end GhostCom
