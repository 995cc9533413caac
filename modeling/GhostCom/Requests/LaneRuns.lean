import GhostCom.Requests.Settled

/-!
# Runs on one direction of a pair

The drain loops and the bodies of the read and write callbacks do to the queues of their direction,
and complete, what their flows do in some run. A flow leaves open how its calls and tests turn out;
the embedding fixes them, by the ring and by the outcomes in a `Wdf`.
-/

namespace GhostCom

open Custody (Runs)

/-- The requests `ids` in a manual queue. -/
def inQueue (q : QueueHandle) (ids : List RequestId) : Multiset (QueueHandle × RequestId) :=
  (ids : Multiset RequestId).map (q, ·)

@[simp] theorem in_queue_nil (q : QueueHandle) : inQueue q [] = 0 := rfl

@[simp] theorem in_queue_cons (q : QueueHandle) (id : RequestId) (ids : List RequestId) :
    inQueue q (id :: ids) = (q, id) ::ₘ inQueue q ids := rfl

theorem mem_in_queue (q : QueueHandle) (ids : List RequestId) (x : QueueHandle × RequestId) :
    x ∈ inQueue q ids ↔ x.1 = q ∧ x.2 ∈ ids := by
  simp only [inQueue, Multiset.mem_map, Multiset.mem_coe]
  constructor
  · rintro ⟨id, hid, rfl⟩
    exact ⟨rfl, hid⟩
  · rintro ⟨rfl, hid⟩
    exact ⟨x.2, hid, rfl⟩

/-- A request that is forwarded joins its queue. -/
@[simp] theorem in_queue_concat (q : QueueHandle) (id : RequestId) (ids : List RequestId) :
    inQueue q (ids ++ [id]) = (q, id) ::ₘ inQueue q ids := by
  have hperm : ((ids ++ [id] : List RequestId) : Multiset RequestId) = id ::ₘ ids :=
    Multiset.coe_eq_coe.mpr (List.perm_append_singleton id ids)
  rw [inQueue, hperm, Multiset.map_cons]
  rfl

/-- The request that an effect on a lane completes. -/
def LaneEffect.completes : LaneEffect → Option RequestId
  | .accepted _ _ | .removed _ _ => none
  | .writeDone req _ _ => some req.id
  | .readDone req _ _ => some req.id

/-- The request that an effect completes. -/
def Effect.completes : Effect → Option RequestId
  | .data _ effect => effect.completes
  | .completed id _ _ _ => some id
  | .signalChanged _ => none

/-- Where each of a list of effects completes a request, all of these are completed. -/
theorem filterMap_completes {α β : Type*} {f : α → β} {completes : β → Option RequestId}
    {id : α → RequestId} (hf : ∀ a, completes (f a) = some (id a)) (as : List α) :
    (as.map f).filterMap completes = as.map id := by
  have hcomp : completes ∘ f = some ∘ id := funext hf
  rw [List.filterMap_map, hcomp, ← List.filterMap_map, List.filterMap_some]

/-- The requests completed on a lane. -/
def laneCompletions (out : List LaneEffect) : Multiset RequestId :=
  out.filterMap LaneEffect.completes

/-- The requests a callback completes. -/
def completions (out : List Effect) : Multiset RequestId := out.filterMap Effect.completes

@[simp] theorem lane_completions_nil : laneCompletions [] = 0 := rfl

@[simp] theorem lane_completions_cons (e : LaneEffect) (out : List LaneEffect) :
    laneCompletions (e :: out) = e.completes.elim 0 (fun id ↦ {id}) + laneCompletions out := by
  cases e <;> simp [laneCompletions, LaneEffect.completes] <;> rfl

@[simp] theorem lane_completions_append (out out' : List LaneEffect) :
    laneCompletions (out ++ out') = laneCompletions out + laneCompletions out' := by
  simp [laneCompletions, List.filterMap_append]

@[simp] theorem completions_nil : completions [] = 0 := rfl

@[simp] theorem completions_append (out out' : List Effect) :
    completions (out ++ out') = completions out + completions out' := by
  simp [completions, List.filterMap_append]

theorem completions_lane_effects (d : Direction) (out : List LaneEffect) :
    completions (laneEffects d out) = laneCompletions out := by
  simp only [completions, laneEffects, List.filterMap_map]
  rfl

/-- Effects that complete one request of a lane each complete all of them. -/
theorem lane_completions_map {α : Type*} {f : α → LaneEffect} {id : α → RequestId}
    (hf : ∀ a, (f a).completes = some (id a)) (as : List α) :
    laneCompletions (as.map f) = (as.map id : List RequestId) :=
  congrArg _ (filterMap_completes hf as)

/-- Effects that complete one wait each complete all of them. -/
theorem completions_waits {f : WaitRequest → Effect} (hf : ∀ w, (f w).completes = some w.id)
    (waits : List WaitRequest) :
    completions (waits.map f) = (waits.map (·.id) : List RequestId) :=
  congrArg _ (filterMap_completes hf waits)

variable {H C : Multiset RequestId} {Q : Multiset (QueueHandle × RequestId)} (wdf : Wdf)

/-- `GcomDrainRingToReads` runs its flow. -/
theorem drain_ring_runs (ring : Ring) (reads : List ReadRequest) (q : QueueHandle) :
    Runs (RequestFlow.gcomDrainRingToReads q)
      ⟨H, inQueue q (reads.map (·.id)) + Q, C, false⟩ .done
      ⟨H, inQueue q ((gcomDrainRingToReads wdf ring reads).2.1.map (·.id)) + Q,
        laneCompletions (gcomDrainRingToReads wdf ring reads).2.2 + C, false⟩ := by
  induction reads generalizing ring C with
  | nil =>
      refine Runs.drain_end ?_
      simpa [gcomDrainRingToReads] using Runs.refl
  | cons req rest ih =>
      unfold gcomDrainRingToReads
      split
      · refine Runs.drain_end ?_
        simpa using Runs.refl
      · rw [List.map_cons, in_queue_cons, Multiset.cons_add]
        split
        · have hrest := ih (C := req.id ::ₘ C) ring
          refine Runs.drain_turn (.test_no (.complete .refl)) ?_
          simpa [LaneEffect.completes, RequestFlow.gcomDrainRingToReads] using hrest
        · dsimp only
          split
          · have hrest := ih (C := req.id ::ₘ C) (ring.read req.length).1
            refine Runs.drain_turn (.test_yes (.test_yes (.complete .refl))) ?_
            simpa [LaneEffect.completes, RequestFlow.gcomDrainRingToReads] using hrest
          · split
            · refine Runs.drain_leave (.test_yes (.test_no (.forward_accepted .refl))) ?_
              simpa using Runs.refl
            · refine Runs.drain_leave
                (.test_yes (.test_no (.forward_refused (.complete .refl)))) ?_
              simpa [LaneEffect.completes] using Runs.refl

/-- `GcomDrainWritesToRing` runs its flow. -/
theorem drain_writes_runs (ring : Ring) (reads : List ReadRequest) (writes : List WriteRequest)
    (readQueue writeQueue : QueueHandle) :
    Runs (RequestFlow.gcomDrainWritesToRing writeQueue readQueue)
      ⟨H, inQueue writeQueue (writes.map (·.id)) + (inQueue readQueue (reads.map (·.id)) + Q), C,
        false⟩ .done
      ⟨H,
        inQueue writeQueue
            ((gcomDrainWritesToRing wdf ring reads writes).1.writeQueue.map (·.id)) +
          (inQueue readQueue
            ((gcomDrainWritesToRing wdf ring reads writes).1.readQueue.map (·.id)) + Q),
        laneCompletions (gcomDrainWritesToRing wdf ring reads writes).2 + C, false⟩ := by
  induction writes generalizing ring reads C with
  | nil =>
      refine Runs.drain_end ?_
      simpa [gcomDrainWritesToRing] using Runs.refl
  | cons req rest ih =>
      unfold gcomDrainWritesToRing
      split
      · rw [List.map_cons, in_queue_cons, Multiset.cons_add]
        split
        · have hrest := ih (C := req.id ::ₘ C) ring reads
          refine Runs.drain_turn (.test_no (.complete .refl)) ?_
          simpa [LaneEffect.completes, RequestFlow.gcomDrainWritesToRing] using hrest
        · dsimp only
          split
          · generalize hring : (ring.write req).1 = ring'
            -- the write is completed, then the reads of the peer are served
            have hdrain := drain_ring_runs wdf (H := H) (C := req.id ::ₘ C)
              (Q := inQueue writeQueue (rest.map (·.id)) + Q) ring' reads readQueue
            have hrest := ih
              (C := laneCompletions (gcomDrainRingToReads wdf ring' reads).2.2 + req.id ::ₘ C)
              (gcomDrainRingToReads wdf ring' reads).1 (gcomDrainRingToReads wdf ring' reads).2.1
            rw [add_left_comm, add_left_comm (inQueue readQueue _)] at hdrain
            refine Runs.drain_turn (.test_yes (.test_yes (.complete (.test_yes hdrain)))) ?_
            simpa [LaneEffect.completes, RequestFlow.gcomDrainWritesToRing, add_left_comm,
              add_assoc] using hrest
          · split
            · refine Runs.drain_leave (.test_yes (.test_no (.forward_accepted .refl))) ?_
              simpa using Runs.refl
            · refine Runs.drain_leave
                (.test_yes (.test_no (.forward_refused (.complete .refl)))) ?_
              simpa [LaneEffect.completes] using Runs.refl
      · refine Runs.drain_end ?_
        simpa using Runs.refl

/-! ## One direction -/

variable (address : ℕ) (d : Direction)

/-- The requests pended in one direction of the pair at `address`. -/
def Lane.pended (lane : Lane) : Multiset (QueueHandle × RequestId) :=
  inQueue ⟨address, d.writeQueue⟩ (lane.writeQueue.map (·.id)) +
    inQueue ⟨address, d.readQueue⟩ (lane.readQueue.map (·.id))

variable {flow empty after : RequestFlow}

/-- A read that finds nothing is forwarded, or completed with the error. -/
theorem pend_read_runs (lane : Lane) (req : ReadRequest) :
    Runs (RequestFlow.pend req.id ⟨address, d.readQueue⟩)
      ⟨{req.id}, lane.pended address d + Q, C, false⟩ .done
      (match wdf.forward req.id with
      | .ok () =>
          ⟨0, { lane with readQueue := lane.readQueue ++ [req] }.pended address d + Q, C, false⟩
      | .error _ => ⟨0, lane.pended address d + Q, req.id ::ₘ C, false⟩) := by
  split
  · refine Runs.forward_accepted ?_
    simpa [Lane.pended] using Runs.refl
  · exact Runs.forward_refused (.complete .refl)

/-- A write that finds no room is forwarded, or completed with the error. -/
theorem pend_write_runs (lane : Lane) (req : WriteRequest) :
    Runs (RequestFlow.pend req.id ⟨address, d.writeQueue⟩)
      ⟨{req.id}, lane.pended address d + Q, C, false⟩ .done
      (match wdf.forward req.id with
      | .ok () =>
          ⟨0, { lane with writeQueue := lane.writeQueue ++ [req] }.pended address d + Q, C, false⟩
      | .error _ => ⟨0, lane.pended address d + Q, req.id ::ₘ C, false⟩) := by
  split
  · refine Runs.forward_accepted ?_
    simpa [Lane.pended] using Runs.refl
  · exact Runs.forward_refused (.complete .refl)

/-- The body of the read callbacks runs its flow. `empty` pends the request, except that a read
under the non-blocking timeouts is completed. -/
theorem evt_read_runs (lane : Lane) (nonBlocking : Bool) (req : ReadRequest)
    (hempty : ∀ s t, Runs (bif nonBlocking then .complete req.id .done
      else RequestFlow.pend req.id ⟨address, d.readQueue⟩) s .done t → Runs empty s .done t) :
    Runs (RequestFlow.evtRead req.id ⟨address, d.readQueue⟩ ⟨address, d.writeQueue⟩ empty)
      ⟨{req.id}, lane.pended address d + Q, C, false⟩ .done
      ⟨0, (lane.evtRead wdf nonBlocking req).1.pended address d + Q,
        laneCompletions (lane.evtRead wdf nonBlocking req).2.2 + C, false⟩ := by
  refine Runs.test_yes ?_
  unfold Lane.evtRead
  split
  · refine Runs.test_no (.complete ?_)
    simpa [LaneEffect.completes] using Runs.refl
  · refine Runs.test_yes ?_
    dsimp only
    split
    · -- the bytes made room, so pended writes are admitted before the completion
      generalize (lane.ring.read (ulongMin req.length req.length)).1 = ring
      have hdrain := drain_writes_runs wdf (H := {req.id}) (C := C) (Q := Q) ring lane.readQueue
        lane.writeQueue ⟨address, d.readQueue⟩ ⟨address, d.writeQueue⟩
      rw [← add_assoc] at hdrain
      refine Runs.test_yes (.test_yes (.seq hdrain (.complete ?_)))
      simpa [Lane.pended, LaneEffect.completes, add_assoc] using Runs.refl
    · refine Runs.test_no (hempty _ _ ?_)
      cases nonBlocking with
      | true =>
          refine Runs.complete ?_
          simpa [LaneEffect.completes] using Runs.refl
      | false =>
          have hpend := pend_read_runs (C := C) (Q := Q) wdf address d lane req
          simp only [cond_false, Bool.false_eq_true, if_false]
          split <;> simp_all [LaneEffect.completes]

/-- The body of the write callbacks runs its flow up to the completion; the flow `after` it follows
if bytes were written, with nothing left to dispose of. -/
theorem evt_write_runs (lane : Lane) (req : WriteRequest) {t : RequestLedger}
    (hafter : (lane.evtWrite wdf req).2.1 > 0 → Runs after
      ⟨0, (lane.evtWrite wdf req).1.pended address d + Q,
        laneCompletions (lane.evtWrite wdf req).2.2 + C, false⟩ .done t)
    (hnothing : ¬ (lane.evtWrite wdf req).2.1 > 0 →
      t = ⟨0, (lane.evtWrite wdf req).1.pended address d + Q,
        laneCompletions (lane.evtWrite wdf req).2.2 + C, false⟩) :
    Runs (RequestFlow.evtWrite req.id ⟨address, d.writeQueue⟩ ⟨address, d.readQueue⟩ after)
      ⟨{req.id}, lane.pended address d + Q, C, false⟩ .done t := by
  refine Runs.test_yes ?_
  cases hretrieve : retrieveBuffer wdf req.id 1 req.data.length with
  | error st =>
      obtain rfl := hnothing (by simp [Lane.evtWrite, hretrieve])
      refine Runs.test_no (.complete ?_)
      simpa [Lane.evtWrite, hretrieve, LaneEffect.completes] using Runs.refl
  | ok =>
      refine Runs.test_yes ?_
      by_cases hwritten : (lane.ring.write req).2 > 0
      · have hdrain := drain_ring_runs wdf (H := {req.id}) (C := C)
          (Q := inQueue ⟨address, d.writeQueue⟩ (lane.writeQueue.map (·.id)) + Q)
          (lane.ring.write req).1 lane.readQueue ⟨address, d.readQueue⟩
        rw [add_left_comm, ← add_assoc] at hdrain
        simp only [Lane.evtWrite, hretrieve, if_pos hwritten] at hafter
        have hrun := hafter hwritten
        refine Runs.test_yes (.test_yes (.seq hdrain (.complete ?_)))
        simpa [Lane.pended, LaneEffect.completes, add_assoc, add_left_comm] using hrun
      · -- nothing was written: the request is pended, or fails with its forward
        have hpend := pend_write_runs (C := C) (Q := Q) wdf address d lane req
        simp only [Lane.evtWrite, hretrieve, if_neg hwritten] at hnothing
        refine Runs.test_no ?_
        cases hforward : wdf.forward req.id with
        | ok =>
            simp only [hforward] at hnothing hpend
            obtain rfl := hnothing (by simp)
            simpa using hpend
        | error st =>
            simp only [hforward] at hnothing hpend
            obtain rfl := hnothing (by simp)
            simpa [LaneEffect.completes] using hpend

end GhostCom
