import GhostCom.Requests.LaneRuns

/-!
# Runs on a pair

`Performs` says that a flow has a run that does to the manual queues of a pair, and completes, what
the embedding says. It has the rules of a program logic: one for each way a flow goes on, and one
for calls. `GcomSignalChanged` and `GcomCheckWaitMask` are the first two cases.
-/

namespace GhostCom

open Custody (Runs)

variable {H C : Multiset RequestId} {Q : Multiset (QueueHandle × RequestId)} (wdf : Wdf)
  (address : ℕ) (d : Direction) (pp : PortPair)

/-- The requests pended in the manual queues of the pair at `address`. -/
def PortPair.pended : Multiset (QueueHandle × RequestId) :=
  (pp.lane .comToCompanion).pended address .comToCompanion +
      (pp.lane .companionToCom).pended address .companionToCom +
    (inQueue ⟨address, .signalWait⟩ (pp.signalWaitQueue.map (·.id)) +
      inQueue ⟨address, .waitMask⟩ (pp.waitMaskQueue.map (·.id)))

/-- The requests pended outside of a direction. -/
def PortPair.pendedBeside : Direction → Multiset (QueueHandle × RequestId)
  | .comToCompanion =>
      (pp.lane .companionToCom).pended address .companionToCom +
        (inQueue ⟨address, .signalWait⟩ (pp.signalWaitQueue.map (·.id)) +
          inQueue ⟨address, .waitMask⟩ (pp.waitMaskQueue.map (·.id)))
  | .companionToCom =>
      (pp.lane .comToCompanion).pended address .comToCompanion +
        (inQueue ⟨address, .signalWait⟩ (pp.signalWaitQueue.map (·.id)) +
          inQueue ⟨address, .waitMask⟩ (pp.waitMaskQueue.map (·.id)))

/-- Storing a direction changes what is pended there. -/
theorem pended_with_lane (lane : Lane) :
    (pp.withLane d lane).pended address = lane.pended address d + pp.pendedBeside address d := by
  cases d with
  | comToCompanion => exact add_assoc ..
  | companionToCom =>
      show _ + lane.pended address .companionToCom + _ = _
      rw [add_comm (Lane.pended _ _ _), add_assoc]
      rfl

/-- What is pended in a direction, and what is beside it. -/
theorem pended_lane :
    pp.pended address = (pp.lane d).pended address d + pp.pendedBeside address d := by
  rw [← pended_with_lane]
  cases d <;> rfl

/-- The requests in a manual queue of a pair. -/
def PortPair.requestsIn : QueueField → List RequestId
  | .comRead => pp.comReadQueue.map (·.id)
  | .comWrite => pp.comWriteQueue.map (·.id)
  | .waitMask => pp.waitMaskQueue.map (·.id)
  | .compRead => pp.compReadQueue.map (·.id)
  | .compWrite => pp.compWriteQueue.map (·.id)
  | .signalWait => pp.signalWaitQueue.map (·.id)

/-- The pair with one of its manual queues emptied. -/
def PortPair.emptied : QueueField → PortPair
  | .comRead => { pp with comReadQueue := [] }
  | .comWrite => { pp with comWriteQueue := [] }
  | .waitMask => { pp with waitMaskQueue := [] }
  | .compRead => { pp with compReadQueue := [] }
  | .compWrite => { pp with compWriteQueue := [] }
  | .signalWait => { pp with signalWaitQueue := [] }

/-- What is pended in one queue, and what else. -/
theorem pended_queue (q : QueueField) :
    pp.pended address =
      inQueue ⟨address, q⟩ (pp.requestsIn q) + (pp.emptied q).pended address := by
  cases q <;>
    simp only [PortPair.pended, PortPair.emptied, PortPair.requestsIn, Lane.pended, PortPair.lane,
      Direction.readQueue, Direction.writeQueue, List.map_nil, in_queue_nil, zero_add, add_zero] <;>
    ac_rfl

/-- What is pended in the pair at `address`, entry by entry. -/
theorem mem_pended (x : QueueHandle × RequestId) :
    x ∈ pp.pended address ↔ x.1.pair = address ∧ x.2 ∈ pp.requestsIn x.1.queue := by
  obtain ⟨⟨pair, q⟩, id⟩ := x
  cases q <;>
    simp [PortPair.pended, PortPair.requestsIn, Lane.pended, PortPair.lane, mem_in_queue,
      Direction.readQueue, Direction.writeQueue]

variable {pp}

/-- On the pair `pp` the flow has a run that turns the requests `H` the callback owns into `H'` and
does to the queues of the pair, and completes, what the embedding says. Other pairs are left
alone. -/
def Performs (flow : RequestFlow) (H H' : Multiset RequestId) (pp : PortPair)
    (result : PortPair × List Effect) : Prop :=
  ∀ Q C, (∀ x ∈ Q, x.1.pair ≠ address) →
    Runs flow ⟨H, pp.pended address + Q, C, false⟩ .done
      ⟨H', result.1.pended address + Q, completions result.2 + C, false⟩

namespace Performs

variable {address} {yes no : RequestFlow} {x : FlowTest} {H' : Multiset RequestId}
  {id : RequestId} {r R : PortPair × List Effect}

/-- Nothing happens to the queues and nothing is completed. -/
theorem finish (hpended : r.1.pended address = pp.pended address)
    (hout : completions r.2 = 0) : Performs address .done H H pp r := by
  intro Q C _
  rw [hpended, hout, zero_add]
  exact Runs.refl

/-- The request of the callback is completed. -/
theorem complete (hpended : r.1.pended address = pp.pended address)
    (hout : completions r.2 = {id}) :
    Performs address (.complete id .done) {id} 0 pp r := by
  intro Q C _
  refine Runs.complete ?_
  rw [hpended, hout, Multiset.singleton_add]
  exact Runs.refl

theorem test_yes (h : Performs address yes H H' pp r) :
    Performs address (.test x yes no) H H' pp r :=
  fun Q C hQ ↦ Runs.test_yes (h Q C hQ)

theorem test_no (h : Performs address no H H' pp r) :
    Performs address (.test x yes no) H H' pp r :=
  fun Q C hQ ↦ Runs.test_no (h Q C hQ)

/-- A call, then what follows it. -/
theorem seq {H'' : Multiset RequestId} (hfirst : Performs address yes H H' pp r)
    (hrest : Performs address no H' H'' r.1 R) :
    Performs address (yes.seq no) H H'' pp (R.1, r.2 ++ R.2) := by
  intro Q C hQ
  have hsecond := hrest Q (completions r.2 + C) hQ
  rw [add_left_comm, ← add_assoc, ← completions_append] at hsecond
  exact (hfirst Q C hQ).seq hsecond

/-- Only what is pended in the pair matters. -/
theorem of_pended {pp' : PortPair} (h : Performs address yes H H' pp' r)
    (hpended : pp.pended address = pp'.pended address)
    (hresult : R.1.pended address = r.1.pended address)
    (hout : completions R.2 = completions r.2) :
    Performs address yes H H' pp R := by
  intro Q C hQ
  rw [hpended, hresult, hout]
  exact h Q C hQ

end Performs

/-- A loop that completes every wait in a queue. -/
theorem drain_waits_runs (q : QueueHandle) (ids : List RequestId) :
    Runs (.drain q (fun waitReq ↦ RequestFlow.completeEither waitReq .retrieveOutput) .done)
      ⟨H, inQueue q ids + Q, C, false⟩ .done ⟨H, Q, (ids : Multiset RequestId) + C, false⟩ := by
  induction ids generalizing C with
  | nil =>
      refine Runs.drain_end ?_
      simpa using Runs.refl
  | cons id ids ih =>
      rw [in_queue_cons, Multiset.cons_add]
      have hrest := ih (C := id ::ₘ C)
      refine Runs.drain_turn (.test_yes (.complete .refl)) ?_
      rwa [Multiset.add_cons, ← Multiset.cons_add, Multiset.cons_coe] at hrest

/-- `GcomSignalChanged` runs its flow. -/
theorem signal_changed_performs (changedBits : ULONG) :
    Performs address (RequestFlow.gcomSignalChanged address) H H pp
      (gcomSignalChanged wdf pp changedBits) := by
  unfold gcomSignalChanged
  split
  · exact .test_no (.finish rfl rfl)
  · have hcompletes (snapshot : SignalState) (w : WaitRequest) :
        (completeSignalWait wdf snapshot w).completes = some w.id := by
      unfold completeSignalWait
      split <;> rfl
    refine .test_yes (.test_yes ?_)
    intro Q C _
    have hdrain := drain_waits_runs (H := H) (C := C)
      (Q := (pp.emptied .signalWait).pended address + Q)
      ⟨address, .signalWait⟩ (pp.requestsIn .signalWait)
    rw [← add_assoc, ← pended_queue, PortPair.requestsIn,
      ← completions_waits (hcompletes (signalUpdate pp.signalState changedBits))] at hdrain
    exact hdrain

/-- `GcomCheckWaitMask` runs its flow. -/
theorem check_wait_mask_performs (events : ULONG) :
    Performs address (RequestFlow.gcomCheckWaitMask address) H H pp
      (gcomCheckWaitMask wdf pp events) := by
  unfold gcomCheckWaitMask
  split
  · exact .test_no (.finish rfl rfl)
  · dsimp only
    split
    · exact .test_yes (.test_no (.finish rfl rfl))
    · have hcompletes (matched : ULONG) (w : WaitRequest) :
          (completeMaskWait wdf matched w).completes = some w.id := by
        unfold completeMaskWait
        split <;> rfl
      refine .test_yes (.test_yes ?_)
      intro Q C _
      have hdrain := drain_waits_runs (H := H) (C := C)
        (Q := (pp.emptied .waitMask).pended address + Q)
        ⟨address, .waitMask⟩ (pp.requestsIn .waitMask)
      rw [← add_assoc, ← pended_queue, PortPair.requestsIn,
        ← completions_waits (hcompletes (events &&& pp.signalState.waitMask))] at hdrain
      exact hdrain

end GhostCom
