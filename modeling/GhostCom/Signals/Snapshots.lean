import GhostCom.Library.Transition
import GhostCom.Signals.View

/-!
# Concurrent signal changes

Calls of `GcomSignalChanged` that run at the same time, split at their locked sections and at each
turn of the loop that completes waits, with one watcher that waits again after each completion. A
call takes its snapshot before it looks for waits and keeps looking until none is pended, so it can
find a wait that was issued after a newer snapshot, or its own, was delivered.
`snapshots_in_order_iff` is the exact condition under which the snapshots arrive in order and once.
-/

namespace GhostCom

open Transition (EveryStep)

/-- The pair's signal state and pended waits, the snapshots of the calls in their loop and of those
about to clear, and the snapshots the watcher has received, oldest first. -/
structure SnapshotRun where
  state : SignalState
  waits : List WaitRequest
  nextRequest : RequestId
  delivering : List SignalState
  clearing : List SignalState
  received : List SignalState

/-- The steps of the calls, which are named by their position, and the watcher's wait. -/
inductive SnapshotEvent where
  | change (changedBits : ULONG)
  | deliver (call : ℕ) (wdf : Wdf)
  | leave (call : ℕ)
  | clear (call : ℕ)
  | wait (wdf : Wdf)

namespace SnapshotRun

/-- A pair with no call running and no wait pended. -/
def initial : SnapshotRun := ⟨.initial, [], 0, [], [], []⟩

/-- What the watcher receives when a wait is completed with a snapshot. -/
def receive (wdf : Wdf) (waitReq : WaitRequest) (snapshot : SignalState) : List SignalState :=
  if waitReq.Deliverable wdf then [snapshot] else []

/-- One step. A change is made while the sequence number does not wrap. -/
def next (s : SnapshotRun) : SnapshotEvent → Option SnapshotRun
  | .change changedBits =>
      if s.state.sequenceNumber.toNat + 1 < 2 ^ 32 then
        let snapshot := signalUpdate s.state changedBits
        some { s with state := snapshot, delivering := s.delivering ++ [snapshot] }
      else none
  | .deliver call wdf =>
      match s.delivering[call]?, s.waits with
      | some snapshot, waitReq :: waits =>
          some { s with waits := waits, received := s.received ++ receive wdf waitReq snapshot }
      | _, _ => none
  | .leave call =>
      match s.delivering[call]?, s.waits with
      | some snapshot, [] =>
          some { s with
            delivering := s.delivering.eraseIdx call
            clearing := s.clearing ++ [snapshot] }
      | _, _ => none
  | .clear call =>
      match s.clearing[call]? with
      | some snapshot =>
          some { s with
            state := signalClear s.state snapshot
            clearing := s.clearing.eraseIdx call }
      | none => none
  | .wait wdf =>
      match s.waits, wdf.forward s.nextRequest with
      | [], .ok () =>
          some { s with
            waits := [⟨s.nextRequest, sizeofSignalState⟩]
            nextRequest := s.nextRequest + 1 }
      | [], .error _ => some { s with nextRequest := s.nextRequest + 1 }
      | _ :: _, _ => none

/-- The sequence numbers the watcher has received strictly increase. -/
def InOrder (s : SnapshotRun) : Prop :=
  (s.received.map (·.sequenceNumber.toNat)).Pairwise (· < ·)

/-- The watcher has received its snapshots in order, whichever call delivers next. -/
def StaysInOrder (s : SnapshotRun) : Prop :=
  s.InOrder ∧ ∀ call wdf t, s.next (.deliver call wdf) = some t → t.InOrder

/-- If the step pends a wait, every call in its loop holds a snapshot newer than all those the
watcher has received. -/
def PendsFresh (s : SnapshotRun) : SnapshotEvent → Prop
  | .wait wdf => wdf.forward s.nextRequest = .ok () →
      ∀ snapshot ∈ s.delivering, ∀ old ∈ s.received,
        old.sequenceNumber.toNat < snapshot.sequenceNumber.toNat
  | _ => True

/-- What a run whose waits are pended fresh keeps. -/
structure Fresh (s : SnapshotRun) : Prop where
  inOrder : s.InOrder
  current : ∀ old ∈ s.received, old.sequenceNumber.toNat ≤ s.state.sequenceNumber.toNat
  single : s.waits.length ≤ 1
  pended : s.waits ≠ [] → ∀ snapshot ∈ s.delivering, ∀ old ∈ s.received,
    old.sequenceNumber.toNat < snapshot.sequenceNumber.toNat
  taken : ∀ snapshot ∈ s.delivering,
    snapshot.sequenceNumber.toNat ≤ s.state.sequenceNumber.toNat

theorem initial_fresh : initial.Fresh where
  inOrder := List.Pairwise.nil
  current := by simp [initial]
  single := Nat.zero_le _
  pended h := absurd rfl h
  taken := by simp [initial]

/-- A change makes the sequence number one larger. -/
theorem update_number {state : SignalState} (changedBits : ULONG)
    (h : state.sequenceNumber.toNat + 1 < 2 ^ 32) :
    (signalUpdate state changedBits).sequenceNumber.toNat = state.sequenceNumber.toNat + 1 := by
  rw [signalUpdate, BitVec.toNat_add, show (1 : ULONG).toNat = 1 from rfl, Nat.mod_eq_of_lt h]

/-- The steps of a run, one case a step that is enabled. -/
theorem next_cases {s t : SnapshotRun} {e : SnapshotEvent} (h : s.next e = some t) :
    (∃ changedBits, e = .change changedBits ∧ s.state.sequenceNumber.toNat + 1 < 2 ^ 32 ∧
      t = { s with
        state := signalUpdate s.state changedBits
        delivering := s.delivering ++ [signalUpdate s.state changedBits] }) ∨
    (∃ call wdf snapshot waitReq waits, e = .deliver call wdf ∧
      snapshot ∈ s.delivering ∧ s.waits = waitReq :: waits ∧
      t = { s with waits := waits, received := s.received ++ receive wdf waitReq snapshot }) ∨
    (∃ call snapshot, e = .leave call ∧ s.waits = [] ∧
      t = { s with
        delivering := s.delivering.eraseIdx call
        clearing := s.clearing ++ [snapshot] }) ∨
    (∃ call snapshot, e = .clear call ∧
      t = { s with
        state := signalClear s.state snapshot
        clearing := s.clearing.eraseIdx call }) ∨
    (∃ wdf, e = .wait wdf ∧ s.waits = [] ∧
      t = { s with
        waits := if wdf.forward s.nextRequest = .ok () then
          [⟨s.nextRequest, sizeofSignalState⟩] else []
        nextRequest := s.nextRequest + 1 }) := by
  unfold next at h
  cases e with
  | change changedBits =>
      dsimp only at h
      split at h
      · next hlt => exact .inl ⟨changedBits, rfl, hlt, (Option.some.inj h).symm⟩
      · cases h
  | deliver call wdf =>
      dsimp only at h
      split at h
      · next snapshot waitReq waits hcall hwaits =>
          exact .inr (.inl ⟨call, wdf, snapshot, waitReq, waits, rfl,
            List.mem_of_getElem? hcall, hwaits, (Option.some.inj h).symm⟩)
      · cases h
  | leave call =>
      dsimp only at h
      split at h
      · next snapshot hcall hwaits =>
          exact .inr (.inr (.inl ⟨call, snapshot, rfl, hwaits, (Option.some.inj h).symm⟩))
      · cases h
  | clear call =>
      dsimp only at h
      split at h
      · next snapshot hcall =>
          exact .inr (.inr (.inr (.inl ⟨call, snapshot, rfl, (Option.some.inj h).symm⟩)))
      · cases h
  | wait wdf =>
      dsimp only at h
      split at h
      · next hwaits hforward =>
          refine .inr (.inr (.inr (.inr ⟨wdf, rfl, hwaits, ?_⟩)))
          rw [if_pos hforward, (Option.some.inj h)]
      · next hwaits hforward =>
          refine .inr (.inr (.inr (.inr ⟨wdf, rfl, hwaits, ?_⟩)))
          rw [if_neg (by rw [hforward]; exact nofun), ← Option.some.inj h, ← hwaits]
      · cases h

/-- What a delivery adds is newer than everything received before, if its snapshot is. -/
theorem inOrder_receive {s : SnapshotRun} (h : s.InOrder) {wdf : Wdf} {waitReq : WaitRequest}
    {snapshot : SignalState}
    (hnew : ∀ old ∈ s.received, old.sequenceNumber.toNat < snapshot.sequenceNumber.toNat) :
    ((s.received ++ receive wdf waitReq snapshot).map (·.sequenceNumber.toNat)).Pairwise
      (· < ·) := by
  unfold receive
  split
  · rw [List.map_append, List.pairwise_append]
    refine ⟨h, List.pairwise_singleton _ _, ?_⟩
    intro n hn m hm
    obtain ⟨old, hold, rfl⟩ := List.mem_map.mp hn
    rw [List.map_singleton, List.mem_singleton] at hm
    exact hm ▸ hnew old hold
  · rw [List.append_nil]
    exact h

/-- In a fresh state every delivery that can come next is in order. -/
theorem Fresh.staysInOrder {s : SnapshotRun} (h : s.Fresh) : s.StaysInOrder := by
  refine ⟨h.inOrder, fun call wdf t ht ↦ ?_⟩
  rcases next_cases ht with ⟨_, he, _⟩ |
    ⟨call', wdf', snapshot, waitReq, waits, he, hmem, hwaits, rfl⟩ | ⟨_, _, he, _⟩ |
    ⟨_, _, he, _⟩ | ⟨_, he, _⟩
  · cases he
  · exact inOrder_receive h.inOrder (h.pended (by simp [hwaits]) snapshot hmem)
  · cases he
  · cases he
  · cases he

/-- A step that pends its wait fresh, if it pends one, keeps a state fresh. -/
theorem Fresh.step {s t : SnapshotRun} {e : SnapshotEvent} (h : s.Fresh) (ht : s.next e = some t)
    (hpends : s.PendsFresh e) : t.Fresh := by
  rcases next_cases ht with ⟨changedBits, rfl, hlt, rfl⟩ |
    ⟨call, wdf, snapshot, waitReq, waits, rfl, hmem, hwaits, rfl⟩ |
    ⟨call, snapshot, rfl, hwaits, rfl⟩ | ⟨call, snapshot, rfl, rfl⟩ | ⟨wdf, rfl, hwaits, rfl⟩
  · have hnumber := update_number changedBits hlt
    -- a new snapshot has a greater number than any received before
    have hold (old : SignalState) (hmem : old ∈ s.received) :
        old.sequenceNumber.toNat <
          (signalUpdate s.state changedBits).sequenceNumber.toNat := by
      rw [hnumber]
      exact Nat.lt_succ_of_le (h.current old hmem)
    refine ⟨h.inOrder, fun old hmem ↦ (hold old hmem).le, h.single, ?_, ?_⟩
    · intro hwaits snapshot hmem
      rcases List.mem_append.mp hmem with hmem | hmem
      · exact h.pended hwaits snapshot hmem
      · rw [List.mem_singleton.mp hmem]
        exact hold
    · intro snapshot hmem
      rcases List.mem_append.mp hmem with hmem | hmem
      · exact (h.taken snapshot hmem).trans (by rw [hnumber]; exact Nat.le_succ _)
      · rw [List.mem_singleton.mp hmem]
  · -- the wait that takes the snapshot is the only one, so none is left after it
    have hnone : waits = [] := by
      have hlength := h.single
      rw [hwaits, List.length_cons] at hlength
      exact List.length_eq_zero_iff.mp (by omega)
    refine ⟨inOrder_receive h.inOrder (h.pended (by simp [hwaits]) snapshot hmem), ?_,
      by rw [hnone]; exact Nat.zero_le _, fun hne ↦ absurd hnone hne, h.taken⟩
    intro old hold
    rcases List.mem_append.mp hold with hold | hold
    · exact h.current old hold
    · unfold receive at hold
      split at hold
      · rw [List.mem_singleton.mp hold]
        exact h.taken snapshot hmem
      · cases hold
  · exact ⟨h.inOrder, h.current, h.single, fun hne ↦ absurd hwaits hne,
      fun other hmem ↦ h.taken other (List.mem_of_mem_eraseIdx hmem)⟩
  · exact ⟨h.inOrder, h.current, h.single, h.pended, h.taken⟩
  · refine ⟨h.inOrder, h.current, ?_, ?_, h.taken⟩
    · dsimp only
      split
      · exact le_rfl
      · exact Nat.zero_le _
    · dsimp only
      split
      · next hforward => exact fun _ ↦ hpends hforward
      · exact fun hne ↦ absurd rfl hne

/-- A wait that is not pended fresh can be completed out of order by the next delivery. -/
theorem pends_fresh_of_stays {s t : SnapshotRun} {wdf : Wdf} (ht : s.next (.wait wdf) = some t)
    (hstays : t.StaysInOrder) : s.PendsFresh (.wait wdf) := by
  intro hforward snapshot hmem old hold
  obtain ⟨call, hcall⟩ := List.getElem?_of_mem hmem
  have ht' : t = { s with
      waits := [⟨s.nextRequest, sizeofSignalState⟩]
      nextRequest := s.nextRequest + 1 } := by
    rcases next_cases ht with ⟨_, he, _⟩ | ⟨_, _, _, _, _, he, _⟩ | ⟨_, _, he, _⟩ |
      ⟨_, _, he, _⟩ | ⟨wdf', he, _, rfl⟩
    · cases he
    · cases he
    · cases he
    · cases he
    · cases he
      rw [if_pos hforward]
  subst ht'
  -- the call in question takes the new wait at once
  have hdeliver : receive .ok ⟨s.nextRequest, sizeofSignalState⟩ snapshot = [snapshot] := by
    rw [receive, if_pos (by rfl)]
  have hnext := hstays.2 call .ok { s with
    waits := []
    nextRequest := s.nextRequest + 1
    received := s.received ++ [snapshot] } (by simp only [next, hcall, hdeliver])
  unfold InOrder at hnext
  rw [List.map_append, List.pairwise_append] at hnext
  exact hnext.2.2 _ (List.mem_map_of_mem hold) _ (by simp)

end SnapshotRun

/-- The turns of a call's loop hand its snapshot to every pended wait. -/
theorem run_deliver (wdf : Wdf) (snapshot : SignalState) (s : SnapshotRun)
    (h : s.delivering = [snapshot]) :
    Transition.run SnapshotRun.next s (List.replicate s.waits.length (.deliver 0 wdf)) =
      some { s with
        waits := []
        received := s.received ++ s.waits.flatMap (SnapshotRun.receive wdf · snapshot) } := by
  obtain ⟨state, waits, nextRequest, delivering, clearing, received⟩ := s
  cases h
  induction waits generalizing received with
  | nil => simp
  | cons waitReq waits ih =>
      rw [List.length_cons, List.replicate_succ, Transition.run_cons]
      have hturn := ih (received ++ SnapshotRun.receive wdf waitReq snapshot)
      rw [List.append_assoc] at hturn
      exact hturn

/-- A call of `GcomSignalChanged` that is not interleaved with others is its sections in a row. -/
theorem signal_changed_sections (wdf : Wdf) (pp : PortPair) (changedBits : ULONG)
    (received : List SignalState) (nextRequest : RequestId) (hactive : pp.active = true)
    (hlt : pp.signalState.sequenceNumber.toNat + 1 < 2 ^ 32) :
    Transition.run SnapshotRun.next
        ⟨pp.signalState, pp.signalWaitQueue, nextRequest, [], [], received⟩
        (.change changedBits :: (List.replicate pp.signalWaitQueue.length (.deliver 0 wdf) ++
          [.leave 0, .clear 0])) =
      some ⟨(gcomSignalChanged wdf pp changedBits).1.signalState,
        (gcomSignalChanged wdf pp changedBits).1.signalWaitQueue, nextRequest, [], [],
        received ++ pp.signalWaitQueue.flatMap
          (SnapshotRun.receive wdf · (signalUpdate pp.signalState changedBits))⟩ := by
  rw [gcomSignalChanged, if_neg (by simp [hactive]), Transition.run_cons]
  simp only [SnapshotRun.next, if_pos hlt, Option.bind_some, List.nil_append]
  rw [Transition.run_append, run_deliver wdf (signalUpdate pp.signalState changedBits) _ rfl]
  rfl

/-- With fewer than `2 ^ 32` changes, the watcher's snapshots arrive in order and once, whichever
call delivers next, exactly when no wait is pended while a call still holds, in its loop, a snapshot
that is not newer than one already received. -/
theorem snapshots_in_order_iff (events : List SnapshotEvent) :
    EveryStep SnapshotRun.next (fun _ _ t ↦ t.StaysInOrder) .initial events ↔
      EveryStep SnapshotRun.next (fun s e _ ↦ s.PendsFresh e) .initial events := by
  have hiff (s : SnapshotRun) (e : SnapshotEvent) (t : SnapshotRun) (hs : s.Fresh)
      (ht : s.next e = some t) : t.StaysInOrder ↔ s.PendsFresh e := by
    refine ⟨fun hstays ↦ ?_, fun hpends ↦ (hs.step ht hpends).staysInOrder⟩
    cases e with
    | wait wdf => exact SnapshotRun.pends_fresh_of_stays ht hstays
    | change | deliver | leave | clear => trivial
  exact Transition.everyStep_iff (I := SnapshotRun.Fresh)
    (fun s e t hs ht hstays ↦ hs.step ht ((hiff s e t hs ht).mp hstays)) hiff
    SnapshotRun.initial_fresh

/-- One change, delivered to a pended wait; the watcher waits again while the call is still in its
loop. -/
def repeatingRun : List SnapshotEvent :=
  [.wait .ok, .change changedDtr, .deliver 0 .ok, .wait .ok, .deliver 0 .ok]

/-- One call of `GcomSignalChanged` delivers its snapshot twice. -/
theorem snapshot_delivered_twice :
    ∃ t, Transition.run SnapshotRun.next .initial repeatingRun = some t ∧
      t.received.map (·.sequenceNumber.toNat) = [1, 1] ∧ ¬ t.InOrder :=
  ⟨_, rfl, by decide, by unfold SnapshotRun.InOrder; decide⟩

end GhostCom
