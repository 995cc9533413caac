import GhostCom.Driver.ComIoctl
import GhostCom.Library.Transition

/-!
# Concurrent comm events

Calls of `GcomCheckWaitMask` that run at the same time as `SET_WAIT_MASK` and `WAIT_ON_MASK`
handlers. A call compares the events with the mask under the signal lock, and then completes waits
one at a time until none is pended. A `SET_WAIT_MASK` stores its mask under the lock, purges the
waits, and completes; the queue takes no waits until the purge has restarted it.

A call in its loop completes whatever it finds, also a wait that was issued after the events were
raised, or under another mask. `reports_as_asked_iff` is the exact condition under which every wait
reports what it was issued for. A handler or a call whose steps are taken without a break is the
function of `Driver` (`set_alone`, `wait_alone`, `check_alone`).
-/

namespace GhostCom

open Transition (EveryStep)

/-- A `WAIT_ON_MASK`, the mask of the latest `SET_WAIT_MASK` that had been completed when it was
issued, and the time at which it was. -/
structure MaskWait where
  request : WaitRequest
  asked : ULONG
  issued : ℕ

/-- A call of `GcomCheckWaitMask` in its loop, and the time at which it took its snapshot. -/
structure MaskCall where
  matchedEvents : ULONG
  raised : ℕ

/-- A wait that was completed with success, and the call that completed it. -/
structure MaskReport where
  wait : MaskWait
  call : MaskCall

/-- A wait with room for its output. -/
def MaskWait.Usable (w : MaskWait) : Prop := 4 ≤ w.request.outputLength

/-- The call holds what the wait was issued for: events of the mask asked for, raised since. -/
structure MaskCall.Serves (call : MaskCall) (w : MaskWait) : Prop where
  asked : call.matchedEvents &&& w.asked = call.matchedEvents
  later : w.issued < call.raised

/-- What a wait should report: events, which it was issued for. -/
def MaskReport.Right (report : MaskReport) : Prop :=
  report.call.matchedEvents ≠ 0 ∧ report.call.Serves report.wait

/-- A report as the completion of its wait. -/
def MaskReport.effect (report : MaskReport) : Effect :=
  .completed report.wait.request.id .success 4 (.ulong report.call.matchedEvents)

/-- The stored mask, the mask of the latest `SET_WAIT_MASK` that has been completed, the masks of
those that have stored theirs and of those that have purged the waits, the number of purges whose
callback has still to restart the queue, and what has been reported, oldest first. -/
structure MaskWaitRun where
  clock : ℕ
  nextRequest : RequestId
  mask : ULONG
  completedMask : ULONG
  stored : List ULONG
  purged : List ULONG
  restarts : ℕ
  accepting : Bool
  waits : List MaskWait
  calls : List MaskCall
  reports : List MaskReport

/-- The steps of the handlers and of the calls, which are named by their position. -/
inductive MaskWaitEvent where
  | storeMask (inputLength : ℕ) (mask : ULONG) (wdf : Wdf)
  | purge (setter : ℕ)
  | completeSet (setter : ℕ)
  | restart
  | wait (outputLength : ℕ) (wdf : Wdf)
  | raise (events : ULONG)
  | deliver (call : ℕ) (wdf : Wdf)
  | leave (call : ℕ)
  | cancel (id : RequestId)

/-- The request has been completed with success. -/
def Effect.succeeded : Effect → Bool
  | .completed _ st _ _ => st = .success
  | _ => false

namespace MaskWaitRun

/-- An active pair with no call running and no wait pended. -/
def initial : MaskWaitRun where
  clock := 0
  nextRequest := 0
  mask := 0
  completedMask := 0
  stored := []
  purged := []
  restarts := 0
  accepting := true
  waits := []
  calls := []
  reports := []

/-- What one turn of the loop reports. -/
def report (wdf : Wdf) (w : MaskWait) (call : MaskCall) : List MaskReport :=
  match retrieveBuffer wdf w.request.id 4 w.request.outputLength with
  | .ok () => [⟨w, call⟩]
  | .error _ => []

/-- One step, without the time it takes. -/
def act (s : MaskWaitRun) : MaskWaitEvent → Option MaskWaitRun
  | .storeMask inputLength mask wdf =>
      match retrieveBuffer wdf s.nextRequest 4 inputLength with
      | .ok () =>
          some { s with
            nextRequest := s.nextRequest + 1
            mask := mask
            stored := s.stored ++ [mask] }
      | .error _ => some { s with nextRequest := s.nextRequest + 1 }
  | .purge setter =>
      s.stored[setter]?.map fun mask ↦
        { s with
          stored := s.stored.eraseIdx setter
          purged := s.purged ++ [mask]
          restarts := s.restarts + 1
          accepting := false
          waits := [] }
  | .completeSet setter =>
      s.purged[setter]?.map fun mask ↦
        { s with
          completedMask := mask
          purged := s.purged.eraseIdx setter }
  | .restart =>
      -- `GcomQueuePurgeComplete`
      if s.restarts = 0 then none
      else some { s with restarts := s.restarts - 1, accepting := true }
  | .wait outputLength wdf =>
      match s.accepting, wdf.forward s.nextRequest with
      | true, .ok () =>
          some { s with
            nextRequest := s.nextRequest + 1
            waits := s.waits ++ [⟨⟨s.nextRequest, outputLength⟩, s.completedMask, s.clock⟩] }
      | _, _ => some { s with nextRequest := s.nextRequest + 1 }
  | .raise events =>
      let matchedEvents := events &&& s.mask
      if matchedEvents = 0 then some s
      else some { s with calls := s.calls ++ [⟨matchedEvents, s.clock⟩] }
  | .deliver call wdf =>
      match s.calls[call]?, s.waits with
      | some c, w :: waits =>
          some { s with waits := waits, reports := s.reports ++ report wdf w c }
      | _, _ => none
  | .leave call =>
      match s.calls[call]?, s.waits with
      | some _, [] => some { s with calls := s.calls.eraseIdx call }
      | _, _ => none
  | .cancel id => some { s with waits := s.waits.filter (·.request.id ≠ id) }

/-- One step. -/
def next (s : MaskWaitRun) (e : MaskWaitEvent) : Option MaskWaitRun :=
  (s.act e).map fun t ↦ { t with clock := s.clock + 1 }

/-- Whatever the calls in their loops deliver next, every report is what its wait was issued for. -/
def ReportsAsAsked (s : MaskWaitRun) : Prop :=
  ∀ (turns : List (ℕ × Wdf)) (t : MaskWaitRun),
    Transition.run next s (turns.map fun turn ↦ .deliver turn.1 turn.2) = some t →
      ∀ report ∈ t.reports, report.Right

/-- A usable wait is pended only while no call is in its loop, and the events of a call that enters
its loop are in the masks asked for by the usable waits that are pended. -/
def InTurn (s : MaskWaitRun) : MaskWaitEvent → Prop
  | .wait outputLength wdf =>
      s.accepting = true → wdf.forward s.nextRequest = .ok () → 4 ≤ outputLength → s.calls = []
  | .raise events => ∀ w ∈ s.waits, w.Usable → events &&& s.mask &&& w.asked = events &&& s.mask
  | _ => True

/-- Every call in its loop serves every usable wait that is pended, and what is known of the times
and the reports so far. -/
structure Matched (s : MaskWaitRun) : Prop where
  served : ∀ call ∈ s.calls, ∀ w ∈ s.waits, w.Usable → call.Serves w
  right : ∀ report ∈ s.reports, report.Right
  nonzero : ∀ call ∈ s.calls, call.matchedEvents ≠ 0
  issued : ∀ w ∈ s.waits, w.issued < s.clock
  raised : ∀ call ∈ s.calls, call.raised < s.clock

theorem initial_matched : initial.Matched := by
  constructor <;> exact nofun

/-- The reports of a turn, for the wait and the call it is about. -/
theorem mem_report {wdf : Wdf} {w : MaskWait} {call : MaskCall} {r : MaskReport}
    (h : r ∈ report wdf w call) : r = ⟨w, call⟩ ∧ w.Usable := by
  unfold report at h
  cases hbuf : retrieveBuffer wdf w.request.id 4 w.request.outputLength with
  | ok =>
      rw [hbuf] at h
      exact ⟨List.mem_singleton.mp h, le_of_retrieve hbuf⟩
  | error st =>
      rw [hbuf] at h
      cases h

/-- A usable wait is reported to when every WDF call succeeds. -/
theorem report_ok {w : MaskWait} (call : MaskCall) (h : w.Usable) :
    report .ok w call = [⟨w, call⟩] := by
  rw [report, retrieve_ok h]

/-- A turn of a loop completes the first wait. -/
theorem deliver_cases {s t : MaskWaitRun} {call : ℕ} {wdf : Wdf}
    (h : s.next (.deliver call wdf) = some t) :
    ∃ c w waits, s.calls[call]? = some c ∧ s.waits = w :: waits ∧
      t = { s with
        clock := s.clock + 1
        waits := waits
        reports := s.reports ++ report wdf w c } := by
  unfold next act at h
  cases hcall : s.calls[call]? with
  | none => simp [hcall] at h
  | some c =>
      cases hwaits : s.waits with
      | nil => simp [hcall, hwaits] at h
      | cons w waits =>
          simp only [hcall, hwaits, Option.map_some, Option.some.injEq] at h
          exact ⟨c, w, waits, rfl, rfl, h.symm⟩

/-- A turn of a loop keeps a matched state matched. -/
theorem Matched.deliver {s t : MaskWaitRun} {call : ℕ} {wdf : Wdf} (h : s.Matched)
    (ht : s.next (.deliver call wdf) = some t) : t.Matched := by
  obtain ⟨c, w, waits, hcall, hwaits, rfl⟩ := deliver_cases ht
  have hc : c ∈ s.calls := List.mem_of_getElem? hcall
  have hkept {other : MaskWait} (hother : other ∈ waits) : other ∈ s.waits := by
    rw [hwaits]
    exact List.mem_cons_of_mem _ hother
  refine ⟨?_, ?_, h.nonzero, ?_, ?_⟩
  · exact fun c' hc' other hother ↦ h.served c' hc' other (hkept hother)
  · intro r hr
    rcases List.mem_append.mp hr with hr | hr
    · exact h.right r hr
    · obtain ⟨rfl, husable⟩ := mem_report hr
      refine ⟨h.nonzero c hc, h.served c hc w ?_ husable⟩
      rw [hwaits]
      exact List.mem_cons_self ..
  · exact fun other hother ↦ (h.issued other (hkept hother)).trans (Nat.lt_succ_self _)
  · exact fun c' hc' ↦ (h.raised c' hc').trans (Nat.lt_succ_self _)

/-- In a matched state the loops report what is asked for. -/
theorem Matched.reportsAsAsked {s : MaskWaitRun} (h : s.Matched) : s.ReportsAsAsked := by
  intro turns t hrun
  have hmatched : t.Matched := by
    refine Transition.run_invariant_of (P := fun e ↦ ∃ call wdf, e = .deliver call wdf) ?_ ?_ h hrun
    · rintro u e v ⟨call, wdf, rfl⟩ hu hv
      exact hu.deliver hv
    · intro e he
      obtain ⟨turn, -, rfl⟩ := List.mem_map.mp he
      exact ⟨_, _, rfl⟩
  exact hmatched.right

/-- A turn of a loop in which every WDF call succeeds. -/
theorem next_deliver {s : MaskWaitRun} {call : ℕ} {c : MaskCall} (hcall : s.calls[call]? = some c)
    {w : MaskWait} {waits : List MaskWait} (hwaits : s.waits = w :: waits) :
    ∃ t, s.next (.deliver call .ok) = some t ∧ t.calls = s.calls ∧ t.waits = waits ∧
      t.reports = s.reports ++ report .ok w c := by
  have hnext : s.next (.deliver call .ok) = some { s with
      clock := s.clock + 1
      waits := waits
      reports := s.reports ++ report .ok w c } := by
    simp only [next, act, hcall, hwaits, Option.map_some]
  exact ⟨_, hnext, rfl, rfl, rfl⟩

/-- A call in its loop can come to any wait that is pended. -/
theorem reaches_wait {s : MaskWaitRun} {call : ℕ} {c : MaskCall} (hcall : s.calls[call]? = some c)
    {w : MaskWait} (husable : w.Usable) {before after : List MaskWait}
    (hwaits : s.waits = before ++ w :: after) :
    ∃ (turns : List (ℕ × Wdf)) (t : MaskWaitRun),
      Transition.run next s (turns.map fun turn ↦ .deliver turn.1 turn.2) = some t ∧
        ⟨w, c⟩ ∈ t.reports := by
  -- by induction on the waits before it, which the call completes first
  induction before generalizing s with
  | nil =>
      obtain ⟨t, hnext, -, -, hreports⟩ := next_deliver hcall hwaits
      refine ⟨[(call, .ok)], t, Transition.run_cons_eq_some.mpr ⟨t, hnext, rfl⟩, ?_⟩
      rw [hreports, report_ok c husable]
      exact List.mem_append_right _ (List.mem_singleton_self _)
  | cons first before ih =>
      obtain ⟨u, hnext, hcalls, hrest, -⟩ := next_deliver hcall hwaits
      rw [← hcalls] at hcall
      obtain ⟨turns, t, hrun, hmem⟩ := ih hcall hrest
      exact ⟨(call, .ok) :: turns, t, Transition.run_cons_eq_some.mpr ⟨u, hnext, hrun⟩, hmem⟩

/-- The run is at a point where no handler and no call is under way on the active pair. -/
structure StandsFor (s : MaskWaitRun) (pp : PortPair) : Prop where
  active : pp.active = true
  mask : s.mask = pp.signalState.waitMask
  waits : s.waits.map (·.request) = pp.waitMaskQueue
  accepting : s.accepting = true
  stored : s.stored = []
  purged : s.purged = []
  calls : s.calls = []

/-- A `WAIT_ON_MASK` handler that runs alone is `waitOnMask`. -/
theorem StandsFor.wait_alone {s : MaskWaitRun} {pp : PortPair} (h : s.StandsFor pp)
    (inputLength outputLength : ℕ) (wdf : Wdf) :
    ∃ t, s.next (.wait outputLength wdf) = some t ∧
      t.StandsFor (waitOnMask wdf pp ⟨s.nextRequest, inputLength, outputLength⟩).1 := by
  cases hforward : wdf.forward s.nextRequest with
  | ok =>
      refine ⟨_, by simp only [next, act, h.accepting, hforward, Option.map_some]; rfl, ?_⟩
      simp only [waitOnMask, hforward]
      exact { h with waits := by simp [h.waits], accepting := rfl }
  | error st =>
      refine ⟨_, by simp only [next, act, h.accepting, hforward, Option.map_some]; rfl, ?_⟩
      simp only [waitOnMask, hforward]
      exact { h with accepting := rfl }

/-- A `SET_WAIT_MASK` handler that runs alone is `setWaitMask`. -/
theorem StandsFor.set_alone {s : MaskWaitRun} {pp : PortPair} (h : s.StandsFor pp)
    {inputLength : ℕ} {wdf : Wdf} (mask : ULONG)
    (hbuf : retrieveBuffer wdf s.nextRequest 4 inputLength = .ok ()) :
    ∃ t, Transition.run next s
        [.storeMask inputLength mask wdf, .purge 0, .restart, .completeSet 0] = some t ∧
      t.StandsFor (setWaitMask wdf pp mask).1 := by
  refine ⟨_, by simp only [Transition.run, next, act, hbuf, h.stored, h.purged]; rfl, ?_⟩
  unfold setWaitMask notify gcomSignalChanged
  simp only [h.active]
  exact ⟨rfl, rfl, rfl, rfl, rfl, rfl, h.calls⟩

/-- The call at the head of the list can complete all the waits. -/
theorem drain {s : MaskWaitRun} {c : MaskCall} (wdf : Wdf) (hcalls : s.calls = [c]) :
    Transition.run next s (List.replicate s.waits.length (.deliver 0 wdf)) = some { s with
      clock := s.clock + s.waits.length
      waits := []
      reports := s.reports ++ s.waits.flatMap (report wdf · c) } := by
  induction hwaits : s.waits generalizing s with
  | nil =>
      simp only [List.length_nil, List.replicate_zero, Transition.run_nil, Nat.add_zero,
        List.flatMap_nil, List.append_nil]
      rw [← hwaits]
  | cons w waits ih =>
      have hfirst : s.next (.deliver 0 wdf) = some { s with
          clock := s.clock + 1
          waits := waits
          reports := s.reports ++ report wdf w c } := by
        simp only [next, act, hcalls, hwaits, List.getElem?_cons_zero, Option.map_some]
      rw [List.length_cons, List.replicate_succ, Transition.run_cons, hfirst, Option.bind_some]
      refine (ih ?_ ?_).trans ?_
      · exact hcalls
      · rfl
      · simp [Nat.add_comm, Nat.add_left_comm]

/-- The reports of a turn are its completion when that has succeeded, and none otherwise. -/
theorem report_effect (wdf : Wdf) (w : MaskWait) (call : MaskCall) :
    (report wdf w call).map MaskReport.effect =
      [completeMaskWait wdf call.matchedEvents w.request].filter (·.succeeded) := by
  unfold report completeMaskWait
  cases retrieveBuffer wdf w.request.id 4 w.request.outputLength with
  | ok => rfl
  | error st => simp [Effect.succeeded, st.property]

/-- A call of `GcomCheckWaitMask` that runs alone is `gcomCheckWaitMask`. -/
theorem StandsFor.check_alone {s : MaskWaitRun} {pp : PortPair} (h : s.StandsFor pp) (wdf : Wdf)
    (events : ULONG) :
    ∃ (turns : List MaskWaitEvent) (t : MaskWaitRun),
      Transition.run next s (.raise events :: turns) = some t ∧
        t.StandsFor (gcomCheckWaitMask wdf pp events).1 ∧
        t.reports.map MaskReport.effect = s.reports.map MaskReport.effect ++
          (gcomCheckWaitMask wdf pp events).2.filter (·.succeeded) := by
  unfold gcomCheckWaitMask
  simp only [h.active, Bool.not_true, Bool.false_eq_true, if_false, ← h.mask]
  by_cases hnone : events &&& s.mask = 0
  · refine ⟨[], { s with clock := s.clock + 1 }, ?_, ?_, ?_⟩
    · simp [Transition.run, next, act, hnone]
    · simpa only [if_pos hnone] using { h with }
    · simp [hnone]
  · let call : MaskCall := ⟨events &&& s.mask, s.clock⟩
    have hraise : s.next (.raise events) = some { s with
        clock := s.clock + 1
        calls := [call] } := by
      simp only [next, act, if_neg hnone, h.calls, List.nil_append, Option.map_some, call]
    refine ⟨List.replicate s.waits.length (.deliver 0 wdf) ++ [.leave 0], { s with
        clock := s.clock + 1 + s.waits.length + 1
        waits := []
        reports := s.reports ++ s.waits.flatMap (report wdf · call) }, ?_, ?_, ?_⟩
    · refine Transition.run_cons_eq_some.mpr ⟨_, hraise, ?_⟩
      rw [Transition.run_append]
      refine Option.bind_eq_some_iff.mpr ⟨_, drain wdf rfl, ?_⟩
      simp [Transition.run, next, act, h.calls]
    · simp only [if_neg hnone]
      exact { h with active := rfl, waits := rfl }
    · simp only [if_neg hnone, List.map_append, ← h.waits, List.map_map]
      congr 1
      -- by induction on the waits, a turn for each
      induction s.waits with
      | nil => rfl
      | cons w waits ih =>
          rw [List.flatMap_cons, List.map_append, ih, report_effect, List.map_cons,
            ← List.filter_append, List.singleton_append]
          rfl

/-- Where the loops report what is asked for, every call in its loop serves every usable wait. -/
theorem ReportsAsAsked.served {s : MaskWaitRun} (h : s.ReportsAsAsked) :
    ∀ call ∈ s.calls, ∀ w ∈ s.waits, w.Usable → call.Serves w := by
  intro c hc w hw husable
  obtain ⟨call, hcall⟩ := List.mem_iff_getElem?.mp hc
  obtain ⟨before, after, hwaits⟩ := List.append_of_mem hw
  obtain ⟨turns, t, hrun, hmem⟩ := reaches_wait hcall husable hwaits
  exact (h turns t hrun ⟨w, c⟩ hmem).2

/-- What has been reported so far was asked for. -/
theorem ReportsAsAsked.right {s : MaskWaitRun} (h : s.ReportsAsAsked) :
    ∀ report ∈ s.reports, report.Right :=
  h [] s rfl

/-- A step that brings no wait, no call and no report keeps a matched state matched. -/
theorem Matched.of_subset {s t : MaskWaitRun} (h : s.Matched) (hwaits : t.waits ⊆ s.waits)
    (hcalls : t.calls ⊆ s.calls) (hreports : t.reports = s.reports) (hclock : s.clock ≤ t.clock) :
    t.Matched where
  served := fun call hcall w hw ↦ h.served call (hcalls hcall) w (hwaits hw)
  right := by
    rw [hreports]
    exact h.right
  nonzero := fun call hcall ↦ h.nonzero call (hcalls hcall)
  issued := fun w hw ↦ (h.issued w (hwaits hw)).trans_le hclock
  raised := fun call hcall ↦ (h.raised call (hcalls hcall)).trans_le hclock

/-- Pending a wait while no call is in its loop, or one with no room for its output, keeps a
matched state matched. -/
theorem Matched.append_wait {s t : MaskWaitRun} (h : s.Matched) {w : MaskWait}
    (hidle : w.Usable → s.calls = []) (hissued : w.issued = s.clock)
    (hwaits : t.waits = s.waits ++ [w]) (hcalls : t.calls = s.calls)
    (hreports : t.reports = s.reports) (hclock : t.clock = s.clock + 1) : t.Matched := by
  have hsplit {other : MaskWait} (hother : other ∈ t.waits) : other ∈ s.waits ∨ other = w := by
    rw [hwaits] at hother
    exact (List.mem_append.mp hother).imp_right List.mem_singleton.mp
  refine ⟨?_, hreports ▸ h.right, hcalls ▸ h.nonzero, ?_, ?_⟩
  · intro call hcall other hother husable
    rw [hcalls] at hcall
    obtain hother | rfl := hsplit hother
    · exact h.served call hcall other hother husable
    · rw [hidle husable] at hcall
      cases hcall
  · intro other hother
    rw [hclock]
    obtain hother | rfl := hsplit hother
    · exact (h.issued other hother).trans (Nat.lt_succ_self _)
    · rw [hissued]
      exact Nat.lt_succ_self _
  · intro call hcall
    rw [hclock]
    exact (h.raised call (hcalls ▸ hcall)).trans (Nat.lt_succ_self _)

/-- A call that enters its loop with events that all usable waits asked for keeps a matched state
matched. -/
theorem Matched.append_call {s t : MaskWaitRun} (h : s.Matched) {call : MaskCall}
    (hasked : ∀ w ∈ s.waits, w.Usable → call.matchedEvents &&& w.asked = call.matchedEvents)
    (hraised : call.raised = s.clock) (hevents : call.matchedEvents ≠ 0)
    (hcalls : t.calls = s.calls ++ [call]) (hwaits : t.waits = s.waits)
    (hreports : t.reports = s.reports) (hclock : t.clock = s.clock + 1) : t.Matched := by
  have hsplit {other : MaskCall} (hother : other ∈ t.calls) : other ∈ s.calls ∨ other = call := by
    rw [hcalls] at hother
    exact (List.mem_append.mp hother).imp_right List.mem_singleton.mp
  refine ⟨?_, hreports ▸ h.right, ?_, ?_, ?_⟩
  · intro other hother w hw husable
    rw [hwaits] at hw
    obtain hother | rfl := hsplit hother
    · exact h.served other hother w hw husable
    · refine ⟨hasked w hw husable, ?_⟩
      rw [hraised]
      exact h.issued w hw
  · intro other hother
    obtain hother | rfl := hsplit hother
    · exact h.nonzero other hother
    · exact hevents
  · intro w hw
    rw [hclock]
    exact (h.issued w (hwaits ▸ hw)).trans (Nat.lt_succ_self _)
  · intro other hother
    rw [hclock]
    obtain hother | rfl := hsplit hother
    · exact (h.raised other hother).trans (Nat.lt_succ_self _)
    · rw [hraised]
      exact Nat.lt_succ_self _

/-- The steps that are neither a wait, a raise nor a turn bring no wait, no call and no report. -/
theorem act_subset {s u : MaskWaitRun} {e : MaskWaitEvent} (hu : s.act e = some u)
    (hwait : ∀ outputLength wdf, e ≠ .wait outputLength wdf) (hraise : ∀ events, e ≠ .raise events)
    (hdeliver : ∀ call wdf, e ≠ .deliver call wdf) :
    u.waits ⊆ s.waits ∧ u.calls ⊆ s.calls ∧ u.reports = s.reports ∧ u.clock = s.clock := by
  cases e with
  | wait outputLength wdf => exact absurd rfl (hwait outputLength wdf)
  | raise events => exact absurd rfl (hraise events)
  | deliver call wdf => exact absurd rfl (hdeliver call wdf)
  | storeMask inputLength mask wdf =>
      simp only [act] at hu
      split at hu <;> cases hu <;> exact ⟨List.Subset.refl _, List.Subset.refl _, rfl, rfl⟩
  | purge setter =>
      obtain ⟨mask, -, rfl⟩ := Option.map_eq_some_iff.mp hu
      exact ⟨List.nil_subset _, List.Subset.refl _, rfl, rfl⟩
  | completeSet setter =>
      obtain ⟨mask, -, rfl⟩ := Option.map_eq_some_iff.mp hu
      exact ⟨List.Subset.refl _, List.Subset.refl _, rfl, rfl⟩
  | restart =>
      simp only [act] at hu
      split at hu
      · cases hu
      · cases hu
        exact ⟨List.Subset.refl _, List.Subset.refl _, rfl, rfl⟩
  | leave call =>
      simp only [act] at hu
      split at hu
      · cases hu
        exact ⟨List.Subset.refl _, List.eraseIdx_subset, rfl, rfl⟩
      · cases hu
  | cancel id =>
      cases hu
      exact ⟨List.filter_sublist.subset, List.Subset.refl _, rfl, rfl⟩

/-- A step that comes in turn keeps a matched state matched. -/
theorem Matched.next {s t : MaskWaitRun} {e : MaskWaitEvent} (h : s.Matched)
    (ht : s.next e = some t) (hturn : s.InTurn e) : t.Matched := by
  have ⟨u, hu, htick⟩ := Option.map_eq_some_iff.mp ht
  cases e with
  | deliver call wdf => exact h.deliver ht
  | wait outputLength wdf =>
      simp only [act] at hu
      split at hu
      next haccepting hforward =>
        cases hu
        subst htick
        refine h.append_wait ?_ rfl rfl rfl rfl rfl
        exact hturn haccepting hforward
      next =>
        cases hu
        subst htick
        exact h.of_subset (List.Subset.refl _) (List.Subset.refl _) rfl (Nat.le_succ _)
  | raise events =>
      simp only [act] at hu
      split at hu
      next =>
        cases hu
        subst htick
        exact h.of_subset (List.Subset.refl _) (List.Subset.refl _) rfl (Nat.le_succ _)
      next hsome =>
        cases hu
        subst htick
        refine h.append_call ?_ rfl hsome rfl rfl rfl rfl
        exact hturn
  | storeMask | purge | completeSet | restart | leave | cancel =>
      obtain ⟨hwaits, hcalls, hreports, hclock⟩ := act_subset hu nofun nofun nofun
      subst htick
      exact h.of_subset hwaits hcalls hreports (hclock ▸ Nat.le_succ _)

/-- A step to a state whose loops report what is asked for comes in turn. -/
theorem Matched.in_turn {s t : MaskWaitRun} {e : MaskWaitEvent} (h : s.Matched)
    (ht : s.next e = some t) (hreports : t.ReportsAsAsked) : s.InTurn e := by
  have ⟨u, hu, htick⟩ := Option.map_eq_some_iff.mp ht
  cases e with
  | wait outputLength wdf =>
      intro haccepting hforward husable
      simp only [act, haccepting, hforward] at hu
      cases hu
      subst htick
      refine List.eq_nil_iff_forall_not_mem.mpr fun call hcall ↦ ?_
      -- the call took its snapshot before the wait was issued
      have hraised := h.raised call hcall
      have hserves := hreports.served call hcall _ (List.mem_concat_self ..) husable
      exact absurd hserves.later hraised.not_gt
  | raise events =>
      intro w hw husable
      simp only [act] at hu
      split at hu
      next hnone =>
        rw [hnone]
        exact BitVec.zero_and
      next =>
        cases hu
        subst htick
        exact (hreports.served _ (List.mem_concat_self ..) w hw husable).asked
  | deliver | storeMask | purge | completeSet | restart | leave | cancel => trivial

/-- Along a run, what the loops report is what their waits were issued for exactly when every step
comes in turn. -/
theorem reports_as_asked_iff (events : List MaskWaitEvent) :
    EveryStep next (fun _ _ t ↦ t.ReportsAsAsked) initial events ↔
      EveryStep next (fun s e _ ↦ s.InTurn e) initial events := by
  refine Transition.everyStep_iff (I := Matched) ?_ ?_ initial_matched
  · intro s e t hs ht hreports
    exact hs.next ht (hs.in_turn ht hreports)
  · intro s e t hs ht
    exact ⟨hs.in_turn ht, fun hturn ↦ (hs.next ht hturn).reportsAsAsked⟩

/-- An application that waits again as soon as its wait is completed, while the call that completed
it is still in its loop, is told of the same event twice. -/
theorem event_reported_twice :
    ¬∀ events, EveryStep next (fun _ _ t ↦ t.ReportsAsAsked) initial events := by
  intro h
  let prior : List MaskWaitEvent := [.storeMask 4 serialEvRxChar .ok, .purge 0, .restart,
    .completeSet 0, .wait 4 .ok, .raise serialEvRxChar, .deliver 0 .ok, .wait 4 .ok]
  have hall := h (prior ++ [.deliver 0 .ok])
  have hlast : ReportsAsAsked _ := EveryStep.at_prefix hall rfl rfl
  -- the second report is to the wait issued at 7, of the event raised at 5
  have hserves := (hlast.right ⟨⟨⟨2, 4⟩, serialEvRxChar, 7⟩, ⟨serialEvRxChar, 5⟩⟩
    (by exact List.mem_cons_of_mem _ (List.mem_singleton_self _))).2
  exact absurd hserves.later (by decide)

end MaskWaitRun

end GhostCom
