import Mathlib.Data.List.Nodup
import GhostCom.DataPath.WriteFates

/-!
# Stream writes

`PortStreamNative::do_write` retries until its whole buffer is written. Here it runs beside a pair
on which every other callback may happen between its steps: COM-side reads, other writes, IOCTLs of
either side, cancellations, opens, closes and the teardown. `entered` is what the requests that
`do_write` issued have put into the `CompanionToCom` ring so far.
-/

namespace GhostCom

open Direction (companionToCom)

namespace StreamWrite

/-- Where `do_write` stands: at the test of its loop, between `WriteFile` and the result, or after
its end. A `WriteFile` that completes at once is one whose result is taken at once. -/
inductive Control where
  | test (offset : ℕ)
  | waiting (offset : ℕ) (id : RequestId)
  | returned (ok : Bool)
  | panicked

/-- The pair, the requests `do_write` has issued, and where it stands. -/
structure State where
  driver : DataPath
  issued : List RequestId
  control : Control

/-- How an iteration of the loop begins: the event of the `OVERLAPPED` cannot be created or reset,
`WriteFile` fails before its request reaches the driver, or the request reaches the driver. -/
inductive Attempt where
  | noEvent
  | refused
  | issued (wdf : Wdf)

/-- How waiting ends: `WaitForSingleObject` or `GetOverlappedResult` fails, or the request has been
completed. -/
inductive Wait where
  | failed
  | completed

/-- What can happen: a callback of the pair, or a step of `do_write`. -/
inductive Event where
  | driver (e : PairEvent)
  | iterate (attempt : Attempt)
  | result (wait : Wait)

/-- The status and the count with which a write was completed. -/
def completionOf (trace : List LaneEffect) (id : RequestId) : Option (NTSTATUS × ℕ) :=
  ((writeCompletions trace).find? (·.1 == id)).map Prod.snd

/-- One turn of the loop up to `WriteFile`. The length of the rest of the buffer is converted to 32
bits, which panics when it does not fit. -/
def iterate (data : List UCHAR) (s : State) (offset : ℕ) : Attempt → State
  | .noEvent | .refused => { s with control := .returned false }
  | .issued wdf =>
      if fits : (data.drop offset).length < 2 ^ 32 then
        { driver := s.driver.pairStep (.data (.compWrite (data.drop offset) fits wdf))
          issued := s.issued ++ [s.driver.nextRequest]
          control := .waiting offset s.driver.nextRequest }
      else { s with control := .panicked }

/-- What `do_write` does with the completion of its request. -/
def advance (offset : ℕ) : NTSTATUS × ℕ → Control
  | (.success, written) => if written = 0 then .test offset else .test (offset + written)
  | _ => .returned false

/-- One event; an event that is not possible where `do_write` stands changes nothing. -/
def step (data : List UCHAR) (s : State) : Event → State
  | .driver e => { s with driver := s.driver.pairStep e }
  | .iterate attempt =>
      match s.control with
      | .test offset =>
          if offset < data.length then iterate data s offset attempt
          else { s with control := .returned true }
      | _ => s
  | .result wait =>
      match s.control, wait with
      | .waiting _ _, .failed => { s with control := .returned false }
      | .waiting offset id, .completed =>
          match completionOf (laneTrace companionToCom s.driver.trace) id with
          | none => s
          | some completion => { s with control := advance offset completion }
      | _, _ => s

/-- A run of events. -/
def run (data : List UCHAR) (s : State) (events : List Event) : State :=
  events.foldl (step data) s

/-- `do_write` is called on a pair. -/
def start (driver : DataPath) : State := ⟨driver, [], .test 0⟩

/-- The bytes of the entries that belong to the given requests. -/
def issuedBytes (issued : List RequestId) (entries : List (ℕ × List UCHAR)) : List UCHAR :=
  (entries.filter (·.1 ∈ issued)).flatMap Prod.snd

/-- The bytes that the given requests have caused to enter `CompanionToCom`. -/
def entered (driver : DataPath) (issued : List RequestId) : List UCHAR :=
  issuedBytes issued (acceptedEntries (laneTrace companionToCom driver.trace))

@[simp] theorem issued_bytes_append (issued : List RequestId)
    (entries more : List (ℕ × List UCHAR)) :
    issuedBytes issued (entries ++ more) =
      issuedBytes issued entries ++ issuedBytes issued more := by
  simp [issuedBytes]

/-- Entries of other requests do not count. -/
theorem issued_bytes_of_none {issued : List RequestId} {entries : List (ℕ × List UCHAR)}
    (h : ∀ entry ∈ entries, entry.1 ∉ issued) : issuedBytes issued entries = [] := by
  have hfilter : entries.filter (·.1 ∈ issued) = [] := by
    rw [List.filter_eq_nil_iff]
    intro entry hentry
    simpa using h entry hentry
  rw [issuedBytes, hfilter]
  rfl

/-- A request that issued nothing yet does not change which entries count. -/
theorem issued_bytes_fresh {issued : List RequestId} {entries : List (ℕ × List UCHAR)}
    {id : RequestId} (h : ∀ entry ∈ entries, entry.1 ≠ id) :
    issuedBytes (issued ++ [id]) entries = issuedBytes issued entries := by
  have hfilter : entries.filter (·.1 ∈ issued ++ [id]) = entries.filter (·.1 ∈ issued) := by
    apply List.filter_congr
    intro entry hentry
    simp [h entry hentry]
  rw [issuedBytes, hfilter, issuedBytes]

end StreamWrite

/-- The bytes a fate puts into the ring. -/
def WriteFate.bytes (req : WriteRequest) : WriteFate → List UCHAR
  | .accepted count => req.data.take count
  | .failed _ => []

namespace WritesHandled

open StreamWrite (issuedBytes issued_bytes_append issued_bytes_of_none)

variable {before after : List WriteRequest} {handled : List HandledWrite} {out : List LaneEffect}
  {issued : List RequestId}

/-- The entries of handled writes carry their handles. -/
theorem entry_id {handled : List HandledWrite} {entry : ℕ × List UCHAR}
    (h : entry ∈ handled.filterMap HandledWrite.entry) : ∃ w ∈ handled, w.1.id = entry.1 := by
  obtain ⟨w, hw, hentry⟩ := List.mem_filterMap.mp h
  refine ⟨w, hw, ?_⟩
  obtain ⟨req, fate⟩ := w
  cases fate with
  | accepted count =>
      cases hentry
      rfl
  | failed status => cases hentry

/-- Handled writes that were not issued contribute nothing. -/
theorem issued_bytes_handled {handled : List HandledWrite} (h : ∀ w ∈ handled, w.1.id ∉ issued) :
    issuedBytes issued (handled.filterMap HandledWrite.entry) = [] := by
  apply issued_bytes_of_none
  intro entry hentry
  obtain ⟨w, hw, hid⟩ := entry_id hentry
  rw [← hid]
  exact h w hw

/-- A handled write was pended or has arrived. -/
theorem mem_before (h : WritesHandled before handled after out) {w : HandledWrite}
    (hw : w ∈ handled) : w.1 ∈ before :=
  h.split.mem_iff.mpr (List.mem_append_left _ (List.mem_map_of_mem hw))

/-- A write that is still pended was pended or has arrived. -/
theorem mem_before_of_after (h : WritesHandled before handled after out) {req : WriteRequest}
    (hreq : req ∈ after) : req ∈ before :=
  h.split.mem_iff.mpr (List.mem_append_right _ hreq)

/-- If no pended write was issued, none enters. -/
theorem idle (h : WritesHandled before handled after out)
    (hnone : ∀ req ∈ before, req.id ∉ issued) :
    issuedBytes issued (acceptedEntries out) = [] ∧ ∀ req ∈ after, req.id ∉ issued := by
  constructor
  · rw [h.entries]
    exact issued_bytes_handled fun w hw ↦ hnone _ (h.mem_before hw)
  · intro req hreq
    exact hnone _ (h.mem_before_of_after hreq)

/-- Of writes with different handles, the completion found for a handle is that of its write. -/
theorem find_completion {handled : List HandledWrite} (hids : (handled.map (·.1.id)).Nodup)
    {w : HandledWrite} (hw : w ∈ handled) :
    (handled.map HandledWrite.completion).find? (·.1 == w.1.id) = some w.completion := by
  induction handled with
  | nil => cases hw
  | cons v rest ih =>
      obtain ⟨hfirst, hrest⟩ := List.nodup_cons.mp hids
      cases List.mem_cons.mp hw with
      | inl heq =>
          rw [heq, List.map_cons]
          exact List.find?_cons_of_pos (beq_self_eq_true v.1.id)
      | inr hmem =>
          have hne : v.1.id ≠ w.1.id := by
            intro heq
            exact hfirst (List.mem_map.mpr ⟨w, hmem, heq.symm⟩)
          rw [List.map_cons, List.find?_cons_of_neg (by simpa [HandledWrite.completion] using hne)]
          exact ih hrest hmem

/-- If one of the handled writes was issued, its bytes are all that entered for the request. -/
theorem issued_bytes_single {handled : List HandledWrite} (hids : (handled.map (·.1.id)).Nodup)
    {w : HandledWrite} (hw : w ∈ handled) (hissued : w.1.id ∈ issued)
    (honly : ∀ v ∈ handled, v.1.id ∈ issued → v.1.id = w.1.id) :
    issuedBytes issued (handled.filterMap HandledWrite.entry) = w.2.bytes w.1 := by
  induction handled with
  | nil => cases hw
  | cons v rest ih =>
      obtain ⟨hfirst, hrest⟩ := List.nodup_cons.mp hids
      show issuedBytes issued (([v] ++ rest).filterMap HandledWrite.entry) = _
      rw [List.filterMap_append, issued_bytes_append]
      cases List.mem_cons.mp hw with
      | inl heq =>
          subst heq
          -- no later write has the handle of this one
          have hnone : issuedBytes issued (rest.filterMap HandledWrite.entry) = [] := by
            apply issued_bytes_handled
            intro later hlater hmem
            have hid := honly later (List.mem_cons_of_mem _ hlater) hmem
            exact hfirst (List.mem_map.mpr ⟨later, hlater, hid⟩)
          rw [hnone, List.append_nil]
          obtain ⟨req, fate⟩ := w
          cases fate with
          | accepted count =>
              simp [HandledWrite.entry, WriteFate.entry, issuedBytes, hissued, WriteFate.bytes]
          | failed status => rfl
      | inr hmem =>
          have hnone : issuedBytes issued ([v].filterMap HandledWrite.entry) = [] := by
            apply issued_bytes_handled
            intro other hother hvissued
            rw [List.mem_singleton.mp hother] at hvissued
            have hid := honly v (List.mem_cons_self ..) hvissued
            exact hfirst (List.mem_map.mpr ⟨w, hmem, hid.symm⟩)
          rw [hnone, List.nil_append]
          exact ih hrest hmem fun other hother ↦ honly other (List.mem_cons_of_mem _ hother)

/-- If one pended write was issued, it stays pended, or it is handled once: its fate tells what
entered and how it was completed. -/
theorem pending (h : WritesHandled before handled after out) (hnodup : (before.map (·.id)).Nodup)
    {req : WriteRequest} (hreq : req ∈ before) (hissued : req.id ∈ issued)
    (honly : ∀ other ∈ before, other.id ∈ issued → other = req) :
    (req ∈ after ∧ issuedBytes issued (acceptedEntries out) = [] ∧
      ∀ c ∈ writeCompletions out, c.1 ≠ req.id) ∨
    (∃ fate : WriteFate, fate.Possible req ∧
      (writeCompletions out).find? (·.1 == req.id) = some (req.id, fate.completion) ∧
      issuedBytes issued (acceptedEntries out) = fate.bytes req ∧
      ∀ other ∈ after, other.id ∉ issued) := by
  have hids : ((handled.map Prod.fst ++ after).map (·.id)).Nodup :=
    (h.split.map (·.id)).nodup_iff.mp hnodup
  rw [List.map_append, List.map_map, List.nodup_append] at hids
  obtain ⟨hhandledIds, -, hdisjoint⟩ := hids
  have hsame : ∀ v ∈ handled, v.1.id ∈ issued → v.1.id = req.id := by
    intro v hv hmem
    exact congrArg (·.id) (honly _ (h.mem_before hv) hmem)
  cases List.mem_append.mp (h.split.mem_iff.mp hreq) with
  | inl hmem =>
      right
      obtain ⟨w, hw, rfl⟩ := List.mem_map.mp hmem
      refine ⟨w.2, h.possible w hw, ?_, ?_, ?_⟩
      · rw [h.completions]
        exact find_completion hhandledIds hw
      · rw [h.entries]
        exact issued_bytes_single hhandledIds hw hissued hsame
      · -- what is still pended has another handle
        intro other hafter hmem
        have heq := honly _ (h.mem_before_of_after hafter) hmem
        rw [heq] at hafter
        exact hdisjoint w.1.id (List.mem_map.mpr ⟨w, hw, rfl⟩) w.1.id
          (List.mem_map_of_mem hafter) rfl
  | inr hafter =>
      left
      have hother : ∀ v ∈ handled, v.1.id ≠ req.id := by
        intro v hv hid
        exact hdisjoint req.id (List.mem_map.mpr ⟨v, hv, hid⟩) req.id
          (List.mem_map_of_mem hafter) rfl
      refine ⟨hafter, ?_, ?_⟩
      · rw [h.entries]
        exact issued_bytes_handled fun v hv hmem ↦ hother v hv (hsame v hv hmem)
      · rw [h.completions]
        intro c hc
        obtain ⟨v, hv, rfl⟩ := List.mem_map.mp hc
        exact hother v hv

end WritesHandled

/-- The write requests of the companion are told apart by their handles: those pended have handles
of their own, none of which has been completed, and every handle seen is below the next one. -/
structure DataPath.Numbered (s : DataPath) : Prop where
  nodup : (s.pair.compWriteQueue.map (·.id)).Nodup
  pending_lt : ∀ req ∈ s.pair.compWriteQueue, req.id < s.nextRequest
  entered_lt : ∀ entry ∈ acceptedEntries (laneTrace companionToCom s.trace),
    entry.1 < s.nextRequest
  completed_lt : ∀ c ∈ writeCompletions (laneTrace companionToCom s.trace), c.1 < s.nextRequest
  open_ : ∀ req ∈ s.pair.compWriteQueue,
    ∀ c ∈ writeCompletions (laneTrace companionToCom s.trace), c.1 ≠ req.id

namespace DataPath

/-- An event numbers at most one new write, with the next handle. -/
theorem arrival_id {id : RequestId} {e : PairEvent} {req : WriteRequest}
    (h : req ∈ e.arrival id) : req.id = id ∧ e.nextRequest id = id + 1 := by
  cases e with
  | data e =>
      cases e with
      | compWrite bytes fits wdf =>
          rw [List.mem_singleton.mp h]
          exact ⟨rfl, rfl⟩
      | _ => cases h
  | _ => cases h

theorem arrival_nodup (id : RequestId) (e : PairEvent) : ((e.arrival id).map (·.id)).Nodup := by
  cases e with
  | data e =>
      cases e with
      | compWrite bytes fits wdf => exact List.nodup_singleton _
      | _ => exact List.nodup_nil
  | _ => exact List.nodup_nil

/-- The handles never go back. -/
theorem next_request_le (id : RequestId) (e : PairEvent) : id ≤ e.nextRequest id := by
  cases e with
  | data e => cases e <;> simp [PairEvent.nextRequest, DataEvent.nextRequest]
  | _ => exact Nat.le_succ id

variable {s : DataPath}

/-- The writes pended before an event and the one that arrives with it have handles of their
own. -/
theorem Numbered.before_nodup (h : s.Numbered) (e : PairEvent) :
    ((s.pair.compWriteQueue ++ e.arrival s.nextRequest).map (·.id)).Nodup := by
  rw [List.map_append, List.nodup_append]
  refine ⟨h.nodup, arrival_nodup _ _, ?_⟩
  intro id hpending id' harrival
  obtain ⟨req, hreq, rfl⟩ := List.mem_map.mp hpending
  obtain ⟨new, hnew, rfl⟩ := List.mem_map.mp harrival
  have hlt := h.pending_lt req hreq
  show req.id ≠ new.id
  rw [(arrival_id hnew).1]
  exact Nat.ne_of_lt hlt

/-- Every such handle is below the one that comes next. -/
theorem Numbered.before_lt (h : s.Numbered) {e : PairEvent} {req : WriteRequest}
    (hreq : req ∈ s.pair.compWriteQueue ++ e.arrival s.nextRequest) :
    req.id < e.nextRequest s.nextRequest := by
  cases List.mem_append.mp hreq with
  | inl hpending => exact Nat.lt_of_lt_of_le (h.pending_lt req hpending) (next_request_le _ _)
  | inr harrival =>
      obtain ⟨hid, hnext⟩ := arrival_id harrival
      rw [hid, hnext]
      exact Nat.lt_succ_self _

/-- None of them has been completed before the event. -/
theorem Numbered.before_open (h : s.Numbered) {e : PairEvent} {req : WriteRequest}
    (hreq : req ∈ s.pair.compWriteQueue ++ e.arrival s.nextRequest) :
    ∀ c ∈ writeCompletions (laneTrace companionToCom s.trace), c.1 ≠ req.id := by
  intro c hc
  cases List.mem_append.mp hreq with
  | inl hpending => exact h.open_ req hpending c hc
  | inr harrival =>
      have hlt := h.completed_lt c hc
      rw [(arrival_id harrival).1]
      omega

/-- Every event keeps the handles apart. -/
theorem Numbered.step (h : s.Numbered) (e : PairEvent) : (s.pairStep e).Numbered := by
  obtain ⟨handled, hh⟩ := e.writes_handled s.nextRequest s.pair
  have hle := next_request_le s.nextRequest e
  have hids : ((handled.map Prod.fst ++
      (e.call s.nextRequest s.pair).1.compWriteQueue).map (·.id)).Nodup :=
    (hh.split.map (·.id)).nodup_iff.mp (h.before_nodup e)
  rw [List.map_append, List.map_map, List.nodup_append] at hids
  obtain ⟨-, hafterIds, hdisjoint⟩ := hids
  refine ⟨hafterIds, ?_, ?_, ?_, ?_⟩
  · intro req hreq
    exact h.before_lt (hh.mem_before_of_after hreq)
  · intro entry hentry
    rw [pairStep, lane_trace_append, accepted_entries_append, hh.entries] at hentry
    cases List.mem_append.mp hentry with
    | inl hold => exact Nat.lt_of_lt_of_le (h.entered_lt entry hold) hle
    | inr hnew =>
        obtain ⟨w, hw, hid⟩ := WritesHandled.entry_id hnew
        rw [← hid]
        exact h.before_lt (hh.mem_before hw)
  · intro c hc
    rw [pairStep, lane_trace_append, write_completions_append, hh.completions] at hc
    cases List.mem_append.mp hc with
    | inl hold => exact Nat.lt_of_lt_of_le (h.completed_lt c hold) hle
    | inr hnew =>
        obtain ⟨w, hw, rfl⟩ := List.mem_map.mp hnew
        exact h.before_lt (hh.mem_before hw)
  · -- a write that stays pended has another handle than those completed here
    intro req hreq c hc
    rw [pairStep, lane_trace_append, write_completions_append, hh.completions] at hc
    cases List.mem_append.mp hc with
    | inl hold => exact h.before_open (hh.mem_before_of_after hreq) c hold
    | inr hnew =>
        obtain ⟨w, hw, rfl⟩ := List.mem_map.mp hnew
        exact hdisjoint w.1.id (List.mem_map.mpr ⟨w, hw, rfl⟩) req.id (List.mem_map_of_mem hreq)

/-- A new pair has no writes. -/
theorem initial_numbered (portNumber : ULONG) : (initial portNumber).Numbered := by
  constructor <;> simp [initial, PortPair.initial, acceptedEntries, writeCompletions]

/-- Every run keeps the handles apart. -/
theorem Numbered.run (h : s.Numbered) (events : List PairEvent) : (s.pairRun events).Numbered := by
  induction events generalizing s with
  | nil => exact h
  | cons e events ih => exact ih (h.step e)

/-- No write has been completed with success and a count of zero. -/
def Progressing (s : DataPath) : Prop :=
  ∀ c ∈ writeCompletions (laneTrace companionToCom s.trace), c.2.1 = .success → 0 < c.2.2

theorem Progressing.step (h : s.Progressing) (e : PairEvent) : (s.pairStep e).Progressing := by
  obtain ⟨handled, hh⟩ := e.writes_handled s.nextRequest s.pair
  intro c hc hsuccess
  rw [pairStep, lane_trace_append, write_completions_append, hh.completions] at hc
  cases List.mem_append.mp hc with
  | inl hold => exact h c hold hsuccess
  | inr hnew =>
      obtain ⟨⟨req, fate⟩, hw, rfl⟩ := List.mem_map.mp hnew
      cases fate with
      | accepted count => exact (hh.possible _ hw).1
      | failed status => exact absurd hsuccess status.2

theorem initial_progressing (portNumber : ULONG) : (initial portNumber).Progressing := by
  intro c hc
  cases hc

theorem Progressing.run (h : s.Progressing) (events : List PairEvent) :
    (s.pairRun events).Progressing := by
  induction events generalizing s with
  | nil => exact h
  | cons e events ih => exact ih (h.step e)

end DataPath

namespace StreamWrite

variable {data : List UCHAR} {driver : DataPath} {issued : List RequestId}

/-- None of the issued requests is pended, and the first `offset` bytes have entered. -/
structure Idle (data : List UCHAR) (driver : DataPath) (issued : List RequestId) (offset : ℕ) :
    Prop where
  entered : entered driver issued = data.take offset
  bound : offset ≤ data.length
  none : ∀ req ∈ driver.pair.compWriteQueue, req.id ∉ issued

/-- The last issued request is pended with the bytes from `offset` on, and what lies before has
entered. -/
structure Pending (data : List UCHAR) (driver : DataPath) (issued : List RequestId) (offset : ℕ)
    (req : WriteRequest) : Prop where
  entered : entered driver issued = data.take offset
  bound : offset < data.length
  rest : req.data = data.drop offset
  pended : req ∈ driver.pair.compWriteQueue
  mem : req.id ∈ issued
  only : ∀ other ∈ driver.pair.compWriteQueue, other.id ∈ issued → other = req

/-- The request of `do_write` has been completed with `completion`, and what entered agrees with
it. -/
inductive Completed (data : List UCHAR) (driver : DataPath) (issued : List RequestId)
    (offset : ℕ) : NTSTATUS × ℕ → Prop where
  | success (written : ℕ) :
      0 < written → Idle data driver issued (offset + written) →
      Completed data driver issued offset (.success, written)
  | error (status : ErrorStatus) :
      Idle data driver issued offset → Completed data driver issued offset (status, 0)

/-- The request `id` of `do_write` is pended, or has been completed. -/
def Outstanding (data : List UCHAR) (driver : DataPath) (issued : List RequestId) (offset : ℕ)
    (id : RequestId) : Prop :=
  (∃ req, req.id = id ∧ Pending data driver issued offset req) ∨
    ∃ completion, completionOf (laneTrace companionToCom driver.trace) id = some completion ∧
      Completed data driver issued offset completion

/-- Nothing but a prefix has entered, and of the issued requests at most one is pended, with the
bytes that follow. -/
def Ended (data : List UCHAR) (driver : DataPath) (issued : List RequestId) : Prop :=
  ∃ offset, Idle data driver issued offset ∨ ∃ req, Pending data driver issued offset req

/-- What holds where `do_write` stands. -/
def AtControl (data : List UCHAR) (driver : DataPath) (issued : List RequestId) :
    Control → Prop
  | .test offset => Idle data driver issued offset
  | .waiting offset id => Outstanding data driver issued offset id
  | .returned true => Idle data driver issued data.length
  | .returned false | .panicked => Ended data driver issued

/-- What every run keeps. -/
structure Sound (data : List UCHAR) (s : State) : Prop where
  numbered : s.driver.Numbered
  progressing : s.driver.Progressing
  issued_lt : ∀ id ∈ s.issued, id < s.driver.nextRequest
  control : AtControl data s.driver s.issued s.control

/-- What a callback adds to what has entered. -/
theorem entered_step (e : PairEvent) :
    entered (driver.pairStep e) issued = entered driver issued ++ issuedBytes issued
      (acceptedEntries (laneTrace companionToCom (e.call driver.nextRequest driver.pair).2)) := by
  show issuedBytes issued (acceptedEntries (laneTrace companionToCom (driver.trace ++ _))) = _
  rw [lane_trace_append, accepted_entries_append, issued_bytes_append]
  rfl

/-- A write that arrives with another's callback is not one of the issued ones. -/
theorem arrival_not_issued (hfresh : ∀ id ∈ issued, id < driver.nextRequest) {e : PairEvent}
    {req : WriteRequest} (hreq : req ∈ e.arrival driver.nextRequest) : req.id ∉ issued := by
  intro hmem
  have hlt := hfresh req.id hmem
  rw [(DataPath.arrival_id hreq).1] at hlt
  exact Nat.lt_irrefl _ hlt

/-- After a callback without a request of `do_write` pended, none is pended and nothing more has
entered. -/
theorem Idle.step {offset : ℕ} (h : Idle data driver issued offset)
    (hfresh : ∀ id ∈ issued, id < driver.nextRequest) (e : PairEvent) :
    Idle data (driver.pairStep e) issued offset := by
  obtain ⟨handled, hh⟩ := e.writes_handled driver.nextRequest driver.pair
  have hnone : ∀ req ∈ driver.pair.compWriteQueue ++ e.arrival driver.nextRequest,
      req.id ∉ issued := by
    intro req hreq
    cases List.mem_append.mp hreq with
    | inl hpending => exact h.none req hpending
    | inr harrival => exact arrival_not_issued hfresh harrival
  obtain ⟨hbytes, hafter⟩ := hh.idle hnone
  refine ⟨?_, h.bound, hafter⟩
  rw [entered_step, hbytes, List.append_nil, h.entered]

/-- What a fate means for a request that carried the bytes from `offset` on. -/
theorem completed_of_fate {offset : ℕ} {req : WriteRequest} {fate : WriteFate}
    (hpossible : fate.Possible req) (hbound : offset < data.length)
    (hrest : req.data = data.drop offset)
    (hentered : entered driver issued = data.take offset ++ fate.bytes req)
    (hnone : ∀ other ∈ driver.pair.compWriteQueue, other.id ∉ issued) :
    Completed data driver issued offset fate.completion := by
  cases fate with
  | accepted count =>
      obtain ⟨hpos, hle⟩ := hpossible
      rw [hrest, List.length_drop] at hle
      refine .success count hpos ⟨?_, by omega, hnone⟩
      rw [hentered, List.take_add, ← hrest]
      rfl
  | failed status =>
      refine .error status ⟨?_, by omega, hnone⟩
      rw [hentered]
      exact List.append_nil _

/-- After a callback that sees one request of `do_write`, this request is pended or completed. -/
theorem outstanding_step {offset : ℕ} {e : PairEvent} {req : WriteRequest}
    (hnumbered : driver.Numbered) (hentered : entered driver issued = data.take offset)
    (hbound : offset < data.length) (hrest : req.data = data.drop offset)
    (hreq : req ∈ driver.pair.compWriteQueue ++ e.arrival driver.nextRequest)
    (hissued : req.id ∈ issued)
    (honly : ∀ other ∈ driver.pair.compWriteQueue ++ e.arrival driver.nextRequest,
      other.id ∈ issued → other = req) :
    Outstanding data (driver.pairStep e) issued offset req.id := by
  obtain ⟨handled, hh⟩ := e.writes_handled driver.nextRequest driver.pair
  cases hh.pending (hnumbered.before_nodup e) hreq hissued honly with
  | inl hstays =>
      obtain ⟨hafter, hbytes, -⟩ := hstays
      refine .inl ⟨req, rfl, ?_, hbound, hrest, hafter, hissued, ?_⟩
      · rw [entered_step, hbytes, List.append_nil, hentered]
      · intro other hother
        exact honly other (hh.mem_before_of_after hother)
  | inr hhandled =>
      -- handled once: its fate gives both the completion and what has entered
      obtain ⟨fate, hpossible, hfind, hbytes, hnone⟩ := hhandled
      refine .inr ⟨fate.completion, ?_, completed_of_fate hpossible hbound hrest ?_ hnone⟩
      · -- the trace before the callback has no completion of this request
        have hopen : (writeCompletions (laneTrace companionToCom driver.trace)).find?
            (·.1 == req.id) = none := by
          rw [List.find?_eq_none]
          intro c hc
          simpa using hnumbered.before_open hreq c hc
        show completionOf (laneTrace companionToCom (driver.trace ++ _)) req.id = _
        rw [completionOf, lane_trace_append, write_completions_append, List.find?_append, hopen,
          hfind]
        rfl
      · rw [entered_step, hbytes, hentered]

/-- A request that is pended before a callback is pended or completed after it. -/
theorem Pending.step {offset : ℕ} {req : WriteRequest}
    (h : Pending data driver issued offset req) (hnumbered : driver.Numbered)
    (hfresh : ∀ id ∈ issued, id < driver.nextRequest) (e : PairEvent) :
    Outstanding data (driver.pairStep e) issued offset req.id := by
  apply outstanding_step hnumbered h.entered h.bound h.rest
    (List.mem_append_left _ h.pended) h.mem
  intro other hother hmem
  cases List.mem_append.mp hother with
  | inl hpending => exact h.only other hpending hmem
  | inr harrival => exact absurd hmem (arrival_not_issued hfresh harrival)

/-- A completion stays as it is. -/
theorem Completed.step {offset : ℕ} {completion : NTSTATUS × ℕ}
    (h : Completed data driver issued offset completion)
    (hfresh : ∀ id ∈ issued, id < driver.nextRequest) (e : PairEvent) :
    Completed data (driver.pairStep e) issued offset completion := by
  cases h with
  | success written hpos hidle => exact .success written hpos (hidle.step hfresh e)
  | error status hidle => exact .error status (hidle.step hfresh e)

/-- An outstanding request stays outstanding. -/
theorem Outstanding.step {offset : ℕ} {id : RequestId}
    (h : Outstanding data driver issued offset id) (hnumbered : driver.Numbered)
    (hfresh : ∀ id ∈ issued, id < driver.nextRequest) (e : PairEvent) :
    Outstanding data (driver.pairStep e) issued offset id := by
  cases h with
  | inl hpending =>
      obtain ⟨req, rfl, hpending⟩ := hpending
      exact hpending.step hnumbered hfresh e
  | inr hcompleted =>
      obtain ⟨completion, hfind, hcompleted⟩ := hcompleted
      refine .inr ⟨completion, ?_, hcompleted.step hfresh e⟩
      obtain ⟨found, hfound, hsnd⟩ := Option.map_eq_some_iff.mp hfind
      show completionOf (laneTrace companionToCom (driver.trace ++ _)) id = _
      rw [completionOf, lane_trace_append, write_completions_append, List.find?_append, hfound]
      exact congrArg some hsnd

/-- An outstanding request leaves a prefix behind, whether or not it is waited for. -/
theorem Outstanding.ended {offset : ℕ} {id : RequestId}
    (h : Outstanding data driver issued offset id) : Ended data driver issued := by
  cases h with
  | inl hpending =>
      obtain ⟨req, -, hpending⟩ := hpending
      exact ⟨offset, .inr ⟨req, hpending⟩⟩
  | inr hcompleted =>
      obtain ⟨completion, -, hcompleted⟩ := hcompleted
      cases hcompleted with
      | success written _ hidle => exact ⟨_, .inl hidle⟩
      | error status hidle => exact ⟨_, .inl hidle⟩

/-- What has entered is a prefix. -/
theorem Ended.entered_prefix (h : Ended data driver issued) : entered driver issued <+: data := by
  obtain ⟨offset, hcases⟩ := h
  have hentered : entered driver issued = data.take offset := by
    cases hcases with
    | inl hidle => exact hidle.entered
    | inr hpending =>
        obtain ⟨req, hpending⟩ := hpending
        exact hpending.entered
  rw [hentered]
  exact List.take_prefix offset data

/-- A callback keeps what holds where `do_write` stands. -/
theorem AtControl.step {control : Control} (h : AtControl data driver issued control)
    (hnumbered : driver.Numbered) (hfresh : ∀ id ∈ issued, id < driver.nextRequest)
    (e : PairEvent) : AtControl data (driver.pairStep e) issued control := by
  have hended (h : Ended data driver issued) : Ended data (driver.pairStep e) issued := by
    obtain ⟨offset, hcases⟩ := h
    cases hcases with
    | inl hidle => exact ⟨offset, .inl (hidle.step hfresh e)⟩
    | inr hpending =>
        obtain ⟨req, hpending⟩ := hpending
        exact (hpending.step hnumbered hfresh e).ended
  cases control with
  | test offset => exact Idle.step h hfresh e
  | waiting offset id => exact Outstanding.step h hnumbered hfresh e
  | returned ok =>
      cases ok with
      | true => exact Idle.step h hfresh e
      | false => exact hended h
  | panicked => exact hended h

/-- Taking a completion moves `do_write` to where its offset agrees with what has entered. -/
theorem Completed.advance {offset : ℕ} {completion : NTSTATUS × ℕ}
    (h : Completed data driver issued offset completion) :
    AtControl data driver issued (advance offset completion) := by
  cases h with
  | success written hpos hidle =>
      show AtControl data driver issued (if written = 0 then _ else _)
      rw [if_neg (Nat.ne_of_gt hpos)]
      exact hidle
  | error status hidle =>
      have hadvance : StreamWrite.advance offset (status.1, 0) = .returned false := by
        obtain ⟨status, hstatus⟩ := status
        cases status with
        | success => exact absurd rfl hstatus
        | _ => rfl
      rw [hadvance]
      exact ⟨offset, .inl hidle⟩

/-- One turn of the loop issues a request that is pended or completed when `WriteFile` returns. -/
theorem iterate_sound {s : State} (h : Sound data s) {offset : ℕ}
    (hidle : Idle data s.driver s.issued offset) (hbound : offset < data.length)
    (attempt : Attempt) : Sound data (iterate data s offset attempt) := by
  have hended : Sound data { s with control := .returned false } :=
    ⟨h.numbered, h.progressing, h.issued_lt, offset, .inl hidle⟩
  cases attempt with
  | noEvent => exact hended
  | refused => exact hended
  | issued wdf =>
      unfold iterate
      dsimp only
      split
      · next fits =>
          refine ⟨h.numbered.step _, h.progressing.step _, ?_, ?_⟩
          · intro id hid
            show id < s.driver.nextRequest + 1
            cases List.mem_append.mp hid with
            | inl hold => exact Nat.lt_succ_of_lt (h.issued_lt id hold)
            | inr hnew =>
                rw [List.mem_singleton.mp hnew]
                exact Nat.lt_succ_self _
          · -- the new request has a handle of its own, so what entered before counts as before
            have hentered : entered s.driver (s.issued ++ [s.driver.nextRequest]) =
                data.take offset := by
              rw [entered, issued_bytes_fresh, ← entered, hidle.entered]
              intro entry hentry
              exact Nat.ne_of_lt (h.numbered.entered_lt entry hentry)
            have hreq : (⟨s.driver.nextRequest, data.drop offset, fits⟩ : WriteRequest) ∈
                s.driver.pair.compWriteQueue ++ PairEvent.arrival s.driver.nextRequest
                  (.data (.compWrite (data.drop offset) fits wdf)) :=
              List.mem_append_right _ (List.mem_singleton_self _)
            apply outstanding_step h.numbered hentered hbound rfl hreq
            · exact List.mem_append_right _ (List.mem_singleton_self _)
            · intro other hother hmem
              cases List.mem_append.mp hother with
              | inr harrival => exact List.mem_singleton.mp harrival
              | inl hpending =>
                  cases List.mem_append.mp hmem with
                  | inl hold => exact absurd hold (hidle.none other hpending)
                  | inr hnew =>
                      have hlt := h.numbered.pending_lt other hpending
                      rw [List.mem_singleton.mp hnew] at hlt
                      exact absurd hlt (Nat.lt_irrefl _)
      · exact ⟨h.numbered, h.progressing, h.issued_lt, offset, .inl hidle⟩

/-- Every event keeps the accounts. -/
theorem Sound.step {s : State} (h : Sound data s) (event : Event) :
    Sound data (step data s event) := by
  obtain ⟨driver, issued, control⟩ := s
  cases event with
  | driver e =>
      refine ⟨h.numbered.step e, h.progressing.step e, ?_, h.control.step h.numbered h.issued_lt e⟩
      intro id hid
      exact Nat.lt_of_lt_of_le (h.issued_lt id hid) (DataPath.next_request_le _ e)
  | iterate attempt =>
      cases control with
      | test offset =>
          show Sound data (if offset < data.length then _ else _)
          split
          · next hlt => exact iterate_sound h h.control hlt attempt
          · next hge =>
              have hidle : Idle data driver issued offset := h.control
              have heq : offset = data.length := Nat.le_antisymm hidle.bound (Nat.not_lt.mp hge)
              rw [heq] at hidle
              exact ⟨h.numbered, h.progressing, h.issued_lt, hidle⟩
      | _ => exact h
  | result wait =>
      cases control with
      | waiting offset id =>
          have houtstanding : Outstanding data driver issued offset id := h.control
          cases wait with
          | failed => exact ⟨h.numbered, h.progressing, h.issued_lt, houtstanding.ended⟩
          | completed =>
              show Sound data (match completionOf _ id with | none => _ | some completion => _)
              cases hfind : completionOf (laneTrace companionToCom driver.trace) id with
              | none => exact h
              | some completion =>
                  refine ⟨h.numbered, h.progressing, h.issued_lt, ?_⟩
                  cases houtstanding with
                  | inl hpending =>
                      -- a pended request has no completion to take
                      obtain ⟨req, rfl, hpending⟩ := hpending
                      obtain ⟨found, hfound, -⟩ := Option.map_eq_some_iff.mp hfind
                      have hmem := List.mem_of_find?_eq_some hfound
                      have hid := List.find?_some hfound
                      exact absurd (by simpa using hid)
                        (h.numbered.open_ req hpending.pended found hmem)
                  | inr hcompleted =>
                      obtain ⟨other, hother, hcompleted⟩ := hcompleted
                      rw [hfind] at hother
                      cases hother
                      exact hcompleted.advance
      | _ => cases wait <;> exact h

/-- A call of `do_write` on a pair after any run. -/
theorem start_sound {driver : DataPath} (hnumbered : driver.Numbered)
    (hprogressing : driver.Progressing) : Sound data (start driver) := by
  refine ⟨hnumbered, hprogressing, ?_, ?_⟩
  · intro id hid
    cases hid
  · refine ⟨?_, Nat.zero_le _, ?_⟩
    · exact issued_bytes_of_none fun _ _ ↦ List.not_mem_nil
    · intro req _
      exact List.not_mem_nil

/-- Taking a completion either ends `do_write` or moves its offset forward. -/
theorem Sound.progress {s : State} (h : Sound data s) {offset offset' : ℕ} {id : RequestId}
    (hwaiting : s.control = .waiting offset id)
    (hnext : (StreamWrite.step data s (.result .completed)).control = .test offset') :
    offset < offset' := by
  obtain ⟨driver, issued, control⟩ := s
  cases hwaiting
  change State.control (match completionOf (laneTrace companionToCom driver.trace) id with
    | none => _
    | some completion => _) = _ at hnext
  cases hfind : completionOf (laneTrace companionToCom driver.trace) id with
  | none =>
      rw [hfind] at hnext
      cases hnext
  | some completion =>
      rw [hfind] at hnext
      change StreamWrite.advance offset completion = .test offset' at hnext
      obtain ⟨status, written⟩ := completion
      cases status with
      | success =>
          obtain ⟨found, hfound, hsnd⟩ := Option.map_eq_some_iff.mp hfind
          -- the driver completes no write with success and a count of zero
          have hpos := h.progressing found (List.mem_of_find?_eq_some hfound)
            (congrArg Prod.fst hsnd)
          rw [hsnd] at hpos
          change (if written = 0 then Control.test offset else _) = _ at hnext
          rw [if_neg (Nat.ne_of_gt hpos)] at hnext
          cases hnext
          exact Nat.lt_add_of_pos_right hpos
      | _ => cases hnext

/-- Every run keeps the accounts. -/
theorem Sound.run {s : State} (h : Sound data s) (events : List Event) :
    Sound data (run data s events) := by
  induction events generalizing s with
  | nil => exact h
  | cons event events ih => exact ih (h.step event)

end StreamWrite

/-- A stream write is all or error. Whatever happened to the pair before and happens to it between
the steps of `do_write`: if it has returned `Ok`, its requests have put exactly `data` into
`CompanionToCom`; if it has returned an error, a prefix of `data`, also later on. No write is
completed with success and a count of zero, so taking a successful completion moves the offset
forward. -/
theorem stream_write_all_or_error (portNumber : ULONG) (before : List PairEvent)
    (data : List UCHAR) (events : List StreamWrite.Event) :
    let s := StreamWrite.run data
      (StreamWrite.start ((DataPath.initial portNumber).pairRun before)) events
    (s.control = .returned true → StreamWrite.entered s.driver s.issued = data) ∧
    (s.control = .returned false → StreamWrite.entered s.driver s.issued <+: data) ∧
    (∀ c ∈ writeCompletions (laneTrace companionToCom s.driver.trace),
      c.2.1 = .success → 0 < c.2.2) ∧
    (∀ offset offset' id, s.control = .waiting offset id →
      (StreamWrite.step data s (.result .completed)).control = .test offset' →
      offset < offset') := by
  intro s
  have hsound : StreamWrite.Sound data s :=
    (StreamWrite.start_sound ((DataPath.initial_numbered portNumber).run before)
      ((DataPath.initial_progressing portNumber).run before)).run events
  refine ⟨?_, ?_, hsound.progressing, ?_⟩
  · intro hreturned
    have hidle := hsound.control
    rw [hreturned] at hidle
    rw [hidle.entered, List.take_length]
  · intro hreturned
    have hended := hsound.control
    rw [hreturned] at hended
    exact hended.entered_prefix
  · intro offset offset' id hwaiting hnext
    exact hsound.progress hwaiting hnext

end GhostCom
