import GhostCom.Clients.StreamWrite
import GhostCom.Clients.Workers
import GhostCom.DataPath.Transfer

/-!
# The reading side of a stream

`PortStreamNative::read_thread_main` with the bytes it carries, the queue of its thread-safe
function, and what the constructor, `_read` and `_destroy` of `VirtualPortStream` do on the JS
thread. It runs beside a pair on which every other callback may happen between its steps, but no
companion-side read: the companion handle is this stream's.
-/

namespace GhostCom

open Channel.State (items)
open Direction (comToCompanion)

namespace Stream

/-- `READ_BUF_SIZE`. -/
def readBufSize : ULONG := 65536

/-- The points of `read_thread_main`: those of `ReadPoint`, with the request that is waited for, the
chunk that is delivered, and the branch taken when `ReadFile` itself fails. -/
inductive ReaderPoint where
  | create
  | testFlag
  | testPaused
  | pausedFlag
  | sleep
  | reset
  | readFile
  | waiting (id : RequestId)
  | errorFlag
  | readError (aborted : Bool)
  | deliver (bytes : List UCHAR)
  | done
deriving DecidableEq

/-- The JS thread with respect to the stream: running its event loop, in the `join` of `shutdown`,
or past it. -/
inductive ScriptPhase where
  | running
  | joining
  | closed
deriving DecidableEq

/-- The read thread and what it shares with the JS thread: the flags, the calls of `data_tsfn` and
`error_tsfn` that the event loop has not run, whether `error_tsfn` is set, `#reading`, whether the
stream machinery has called `_read` since the last `push`, the chunks pushed, and those dropped when
the functions were aborted. -/
structure Reader where
  point : ReaderPoint
  shutdown : Bool
  paused : Bool
  calls : List (List UCHAR)
  errorTsfn : Bool
  errors : ℕ
  reading : Bool
  demand : Bool
  pushed : List (List UCHAR)
  dropped : List (List UCHAR)
  phase : ScriptPhase

/-- The reader when `on_data` has spawned its thread. -/
def Reader.spawned : Reader where
  point := .create
  shutdown := false
  paused := false
  calls := []
  errorTsfn := false
  errors := 0
  reading := false
  demand := false
  pushed := []
  dropped := []
  phase := .running

/-- The outcome of the call a step makes: it succeeds, it fails, the wait for a request fails,
`ReadFile` fails before its request reaches the driver, or the request reaches the driver; `atOnce`
says whether a result that is there when `ReadFile` returns is returned by `ReadFile`. -/
inductive ReaderCall where
  | ok
  | fails
  | waitFails
  | refused (aborted : Bool)
  | issued (wdf : Wdf) (atOnce : Bool)

end Stream

/-- A read that an effect completes, with the status and the count. -/
def LaneEffect.readOutcome : LaneEffect → Option (ReadRequest × NTSTATUS × ℕ)
  | .readDone req status information => some (req, status, information)
  | _ => none

/-- The reads that a trace completes, with their results. -/
def readOutcomes (trace : List LaneEffect) : List (ReadRequest × NTSTATUS × ℕ) :=
  trace.filterMap LaneEffect.readOutcome

@[simp] theorem read_outcomes_append (trace out : List LaneEffect) :
    readOutcomes (trace ++ out) = readOutcomes trace ++ readOutcomes out :=
  List.filterMap_append

namespace Stream

/-- What `GetOverlappedResult` gives for a request, with the bytes that are then in its buffer. -/
def readResult (trace : List LaneEffect) (id : RequestId) : Option (NTSTATUS × List UCHAR) :=
  ((readOutcomes trace).find? (·.1.id == id)).map fun outcome ↦
    (outcome.2.1, (items ((removedEntries trace).filter (·.1 == id))).take outcome.2.2)

/-- Where `read_thread_main` goes with the result of the request it waited for. -/
def afterWait : NTSTATUS × List UCHAR → ReaderPoint
  | (.success, bytes) => .deliver bytes
  | _ => .errorFlag

/-- Where it goes with a result that `ReadFile` returns. -/
def afterReadFile : NTSTATUS × List UCHAR → ReaderPoint
  | (.success, bytes) => .deliver bytes
  | (.cancelled, _) => .readError true
  | _ => .readError false

/-- One step of `read_thread_main`. A request that is still pended keeps the thread waiting; when
the wait itself fails the thread goes on, and the request stays what it is. -/
def readerStep (driver : DataPath) (r : Reader) (call : ReaderCall) : Option (DataPath × Reader) :=
  let goto (point : ReaderPoint) : Option (DataPath × Reader) :=
    some (driver, { r with point := point })
  match r.point, call with
  | .create, .ok => goto .testFlag
  | .create, .fails => goto .done
  | .testFlag, .ok => goto (if r.shutdown then .done else .testPaused)
  | .testPaused, .ok => goto (if r.paused then .pausedFlag else .reset)
  | .pausedFlag, .ok => goto (if r.shutdown then .done else .sleep)
  | .sleep, .ok => goto .testPaused
  | .reset, .ok => goto .readFile
  | .reset, .fails => goto .done
  | .readFile, .refused aborted => goto (.readError aborted)
  | .readFile, .issued wdf atOnce =>
      let driver' := driver.pairStep (.data (.compRead readBufSize wdf))
      let result := readResult (laneTrace comToCompanion driver'.trace) driver.nextRequest
      some (driver', { r with point :=
        match atOnce, result with
        | true, some result => afterReadFile result
        | _, _ => .waiting driver.nextRequest })
  | .waiting id, .ok =>
      match readResult (laneTrace comToCompanion driver.trace) id with
      | some result => goto (afterWait result)
      | none => none
  | .waiting _, .waitFails => goto .errorFlag
  | .errorFlag, .ok => goto (if r.shutdown then .done else .testFlag)
  | .readError aborted, .ok =>
      let report := !r.shutdown && !aborted && r.errorTsfn
      some (driver, { r with
        point := .done, errors := if report then r.errors + 1 else r.errors })
  | .deliver bytes, .ok =>
      some (driver, { r with
        point := .testFlag, calls := if bytes = [] then r.calls else r.calls ++ [bytes] })
  | _, _ => none

/-- What the JS thread does: the constructor registers the error callback, the event loop runs a
call of `data_tsfn` or of `error_tsfn`, the stream machinery calls `_read` or `_destroy`, and `join`
returns. `accepts` is what `push` returns. -/
inductive ScriptEvent where
  | onReadError
  | runData (accepts : Bool)
  | runError
  | read
  | destroy
  | joined

/-- `_destroy`: `shutdown` stores the flag and joins the thread. The requests that its `CancelIoEx`
cancels are cancelled by driver events. -/
def Reader.destroy (r : Reader) : Reader := { r with shutdown := true, phase := .joining }

/-- One event of the JS thread. While it joins the read thread it runs nothing else; after the join
the thread-safe functions are aborted, and the calls that were not run are dropped. -/
def scriptStep (r : Reader) (event : ScriptEvent) : Option Reader :=
  match r.phase, event with
  | .running, .onReadError => some { r with errorTsfn := true }
  | .running, .runData accepts =>
      match r.calls with
      | [] => none
      | bytes :: rest =>
          some { r with
            calls := rest
            pushed := r.pushed ++ [bytes]
            demand := false
            paused := r.paused || !accepts
            reading := r.reading && accepts }
  | .running, .runError =>
      match r.errors with
      | 0 => none
      | errors + 1 => some { r.destroy with errors := errors }
  | .running, .read =>
      some { r with demand := true, reading := true, paused := r.reading && r.paused }
  | .running, .destroy => some r.destroy
  | .joining, .joined =>
      if r.point = .done then
        some { r with
          phase := .closed, dropped := r.calls, calls := [], errors := 0, errorTsfn := false }
      else none
  | _, _ => none

end Stream

/-! ## What happens to a single read -/

/-- The completed reads are those of the outcomes. -/
theorem completed_reads_eq (trace : List LaneEffect) :
    completedReads trace = (readOutcomes trace).map Prod.fst := by
  rw [completedReads, readOutcomes, List.map_filterMap]
  congr 1
  funext effect
  cases effect <;> rfl

/-- The report of an outcome. -/
def outcomeReport : ReadRequest × NTSTATUS × ℕ → Option (ℕ × ℕ)
  | (req, .success, information) => if information = 0 then none else some (req.id, information)
  | _ => none

/-- The reports are those of the outcomes. -/
theorem read_reports_eq (trace : List LaneEffect) :
    readReports trace = (readOutcomes trace).filterMap outcomeReport := by
  rw [readReports, readOutcomes, List.filterMap_filterMap]
  congr 1
  funext effect
  cases effect with
  | readDone req status information => cases status <;> rfl
  | _ => rfl

/-- The fate of the only read of a direction: it stays pended and nothing is removed, or it is
completed and what is removed is removed for it. -/
inductive SingleRead (req : ReadRequest) (after : List ReadRequest) (out : List LaneEffect) :
    Prop where
  | pended (hafter : after = [req]) (houtcomes : readOutcomes out = [])
      (hremoved : removedEntries out = [])
  | completed (status : NTSTATUS) (count : ℕ) (bytes : List UCHAR) (hafter : after = [])
      (houtcomes : readOutcomes out = [(req, status, count)])
      (hremoved : removedEntries out = if bytes = [] then [] else [(req.id, bytes)])
      (hstatus : status = .success ∧ count = bytes.length ∨ status ≠ .success ∧ bytes = [])
      (hsize : bytes.length ≤ req.length.toNat)

/-- Without outcomes nothing is removed. -/
theorem Lane.Transfer.removed_nil {discards : Bool} {lane lane' : Lane}
    {arrived : List ReadRequest} {out : List LaneEffect}
    (h : Lane.Transfer discards lane lane' arrived out) (houtcomes : readOutcomes out = []) :
    removedEntries out = [] := by
  have hreported := h.reported
  rw [read_reports_eq, houtcomes] at hreported
  exact List.map_eq_nil_iff.mp hreported.symm.eq_nil

/-- An entry of what was removed comes from a read. -/
theorem mem_removed_entries {out : List LaneEffect} {entry : ℕ × List UCHAR}
    (h : entry ∈ removedEntries out) : ∃ req, .removed req entry.2 ∈ out ∧ req.id = entry.1 := by
  obtain ⟨effect, heffect, hentry⟩ := List.mem_filterMap.mp h
  cases effect with
  | removed req bytes =>
      cases hentry
      exact ⟨req, heffect, rfl⟩
  | _ => cases hentry

/-- The only read of a direction. -/
theorem Lane.Transfer.single_read {discards : Bool} {lane lane' : Lane}
    {arrived : List ReadRequest} {out : List LaneEffect} {req : ReadRequest}
    (h : Lane.Transfer discards lane lane' arrived out)
    (hsingle : lane.readQueue ++ arrived = [req]) : SingleRead req lane'.readQueue out := by
  have hanswered := h.answered
  have hreported := h.reported
  rw [hsingle, List.singleton_perm, completed_reads_eq] at hanswered
  rcases List.singleton_eq_append_iff.mp hanswered with ⟨hnone, hafter⟩ | ⟨hone, hafter⟩
  · have houtcomes := List.map_eq_nil_iff.mp hnone
    exact .pended hafter houtcomes (h.removed_nil houtcomes)
  · obtain ⟨outcome, houtcomes, rfl⟩ := List.map_eq_singleton_iff.mp hone
    obtain ⟨req, status, count⟩ := outcome
    rw [read_reports_eq, houtcomes] at hreported
    have hsilent (hreports : outcomeReport (req, status, count) = none) :
        removedEntries out = [] := by
      rw [List.filterMap_cons_none hreports] at hreported
      exact List.map_eq_nil_iff.mp hreported.symm.eq_nil
    by_cases hsuccess : status = .success
    · subst hsuccess
      by_cases hcount : count = 0
      · subst hcount
        exact .completed .success 0 [] hafter houtcomes (hsilent rfl) (.inl ⟨rfl, rfl⟩)
          (Nat.zero_le _)
      · -- the report names the one entry there is
        have hreport : outcomeReport (req, .success, count) = some (req.id, count) := if_neg hcount
        rw [List.filterMap_cons_some hreport, List.filterMap_nil, List.singleton_perm] at hreported
        obtain ⟨entry, hremoved, hentry⟩ := List.map_eq_singleton_iff.mp hreported.symm
        obtain ⟨id, bytes⟩ := entry
        cases hentry
        have hbytes : bytes ≠ [] := mt List.length_eq_zero_iff.mpr hcount
        obtain ⟨req', hserved, -⟩ := mem_removed_entries
          (hremoved ▸ List.mem_singleton_self (req.id, bytes))
        obtain ⟨hreq, hsize⟩ := h.served req' bytes hserved
        rw [hsingle] at hreq
        rw [List.mem_singleton.mp hreq] at hsize
        refine .completed .success bytes.length bytes hafter houtcomes ?_ (.inl ⟨rfl, rfl⟩) hsize
        rw [if_neg hbytes, hremoved]
    · have hreport : outcomeReport (req, status, count) = none := by
        cases status with
        | success => exact absurd rfl hsuccess
        | _ => rfl
      exact .completed status count [] hafter houtcomes (hsilent hreport) (.inr ⟨hsuccess, rfl⟩)
        (Nat.zero_le _)

/-- Without a read nothing is completed. -/
theorem Lane.Transfer.no_read {discards : Bool} {lane lane' : Lane} {arrived : List ReadRequest}
    {out : List LaneEffect} (h : Lane.Transfer discards lane lane' arrived out)
    (hnone : lane.readQueue ++ arrived = []) :
    lane'.readQueue = [] ∧ readOutcomes out = [] ∧ removedEntries out = [] := by
  have hanswered := h.answered
  rw [hnone, List.nil_perm, List.append_eq_nil_iff, completed_reads_eq] at hanswered
  have houtcomes := List.map_eq_nil_iff.mp hanswered.1
  exact ⟨hanswered.2, houtcomes, h.removed_nil houtcomes⟩

namespace Stream

/-! ## The account of the reader -/

/-- The chunks the reader has taken from the driver, oldest first. -/
def Reader.chunks (r : Reader) : List (List UCHAR) := r.pushed ++ r.dropped ++ r.calls

/-- The chunk the thread is about to deliver. -/
def ReaderPoint.inHand : ReaderPoint → List UCHAR
  | .deliver bytes => bytes
  | _ => []

/-- The bytes the reader has taken from the driver. -/
def Reader.carried (r : Reader) : List UCHAR := r.chunks.flatten ++ r.point.inHand

/-- The companion reads completed so far are older than `id`. -/
structure ReadsBefore (driver : DataPath) (id : RequestId) : Prop where
  outcomes : ∀ outcome ∈ readOutcomes (laneTrace comToCompanion driver.trace), outcome.1.id < id
  removed : ∀ entry ∈ removedEntries (laneTrace comToCompanion driver.trace), entry.1 < id

/-- No read is pended, and what was removed has been taken over. -/
structure Settled (driver : DataPath) (carried : List UCHAR) : Prop where
  queue : driver.pair.compReadQueue = []
  account : removedBytes (laneTrace comToCompanion driver.trace) = carried

/-- The read `id` is pended, and what was removed has been taken over. -/
structure Pended (driver : DataPath) (carried : List UCHAR) (id : RequestId) : Prop where
  queue : driver.pair.compReadQueue = [⟨id, readBufSize⟩]
  account : removedBytes (laneTrace comToCompanion driver.trace) = carried
  before : ReadsBefore driver id
  lt : id < driver.nextRequest

/-- The read `id` has been completed, and its bytes are what has not been taken over. -/
structure Answered (driver : DataPath) (carried : List UCHAR) (id : RequestId)
    (result : NTSTATUS × List UCHAR) : Prop where
  queue : driver.pair.compReadQueue = []
  account : removedBytes (laneTrace comToCompanion driver.trace) = carried ++ result.2
  found : readResult (laneTrace comToCompanion driver.trace) id = some result
  status : result.1 ≠ .success → result.2 = []
  size : result.2.length ≤ 65536

/-- The read `id` is outstanding. -/
def Outstanding (driver : DataPath) (carried : List UCHAR) (id : RequestId) : Prop :=
  Pended driver carried id ∨ ∃ result, Answered driver carried id result

/-- What the driver owes the reader where its thread stands. -/
def AtPoint (driver : DataPath) (r : Reader) : Prop :=
  match r.point with
  | .waiting id => Outstanding driver r.carried id
  | _ => Settled driver r.carried

/-- What holds of the reader and its pair in every state of a run. -/
structure Reader.Sound (driver : DataPath) (r : Reader) : Prop where
  before : ReadsBefore driver driver.nextRequest
  point : AtPoint driver r
  sizes : ∀ chunk ∈ r.chunks, chunk ≠ [] ∧ chunk.length ≤ 65536
  hand : r.point.inHand.length ≤ 65536
  dropped : r.phase ≠ .closed → r.dropped = []
  closed : r.phase = .closed → r.calls = [] ∧ r.point = .done

/-- Nothing new about a request that is answered. -/
theorem read_result_append {trace out : List LaneEffect} (houtcomes : readOutcomes out = [])
    (hremoved : removedEntries out = []) (id : RequestId) :
    readResult (trace ++ out) id = readResult trace id := by
  rw [readResult, read_outcomes_append, removed_entries_append, houtcomes, hremoved,
    List.append_nil, List.append_nil, readResult]

/-- The result of a request that is completed for the first time. -/
theorem read_result_new {trace out : List LaneEffect} {req : ReadRequest} {status : NTSTATUS}
    {count : ℕ} {bytes : List UCHAR}
    (hold : ∀ outcome ∈ readOutcomes trace, outcome.1.id < req.id)
    (hentries : ∀ entry ∈ removedEntries trace, entry.1 < req.id)
    (houtcomes : readOutcomes out = [(req, status, count)])
    (hremoved : removedEntries out = if bytes = [] then [] else [(req.id, bytes)]) :
    readResult (trace ++ out) req.id = some (status, bytes.take count) := by
  have hnone : (readOutcomes trace).find? (·.1.id == req.id) = none := by
    rw [List.find?_eq_none]
    intro outcome houtcome
    simpa using Nat.ne_of_lt (hold outcome houtcome)
  have hfilter : (removedEntries trace).filter (·.1 == req.id) = [] := by
    rw [List.filter_eq_nil_iff]
    intro entry hentry
    simpa using Nat.ne_of_lt (hentries entry hentry)
  have hbytes : items ((removedEntries out).filter (·.1 == req.id)) = bytes := by
    rw [hremoved]
    split
    · next hempty => exact hempty.symm
    · simp [items]
  rw [readResult, read_outcomes_append, List.find?_append, hnone, houtcomes,
    removed_entries_append, List.filter_append, hfilter, List.nil_append, hbytes]
  simp

/-! ## Callbacks of the driver -/

variable {driver : DataPath} {carried : List UCHAR} {id : RequestId}

/-- The trace after an event. -/
theorem trace_step (e : PairEvent) :
    laneTrace comToCompanion (driver.pairStep e).trace =
      laneTrace comToCompanion driver.trace ++
        laneTrace comToCompanion (e.call driver.nextRequest driver.pair).2 :=
  lane_trace_append ..

/-- What an event does to the reads of the companion. -/
theorem transfer_step (e : PairEvent) :
    Lane.Transfer (e.discards comToCompanion) (driver.pair.lane comToCompanion)
      ((driver.pairStep e).pair.lane comToCompanion)
      (e.readArrival driver.nextRequest comToCompanion)
      (laneTrace comToCompanion (e.call driver.nextRequest driver.pair).2) :=
  e.transfer driver.nextRequest driver.pair comToCompanion

/-- Reads that are older than the next handle stay so. -/
theorem ReadsBefore.step (h : ReadsBefore driver driver.nextRequest) {e : PairEvent}
    (hnew : ∀ req ∈ driver.pair.compReadQueue ++ e.readArrival driver.nextRequest comToCompanion,
      req.id < e.nextRequest driver.nextRequest) :
    ReadsBefore (driver.pairStep e) (driver.pairStep e).nextRequest := by
  have hle := DataPath.next_request_le driver.nextRequest e
  have htransfer := @transfer_step driver e
  constructor
  · intro outcome houtcome
    rw [trace_step, read_outcomes_append] at houtcome
    cases List.mem_append.mp houtcome with
    | inl hold => exact Nat.lt_of_lt_of_le (h.outcomes outcome hold) hle
    | inr hout =>
        apply hnew
        rw [show driver.pair.compReadQueue = (driver.pair.lane comToCompanion).readQueue from rfl,
          htransfer.answered.mem_iff, completed_reads_eq]
        exact List.mem_append_left _ (List.mem_map_of_mem hout)
  · intro entry hentry
    rw [trace_step, removed_entries_append] at hentry
    cases List.mem_append.mp hentry with
    | inl hold => exact Nat.lt_of_lt_of_le (h.removed entry hold) hle
    | inr hout =>
        obtain ⟨req, hserved, hid⟩ := mem_removed_entries hout
        rw [← hid]
        exact hnew req (htransfer.served req entry.2 hserved).1

/-- A settled pair stays settled while no read arrives. -/
theorem Settled.step (h : Settled driver carried) {e : PairEvent}
    (hnone : e.readArrival driver.nextRequest comToCompanion = []) :
    Settled (driver.pairStep e) carried := by
  have hqueue : (driver.pair.lane comToCompanion).readQueue ++
      e.readArrival driver.nextRequest comToCompanion = [] := by
    rw [hnone, List.append_nil]
    exact h.queue
  obtain ⟨hafter, -, hremoved⟩ := (transfer_step e).no_read hqueue
  refine ⟨hafter, ?_⟩
  rw [trace_step, removed_bytes_append, h.account]
  simp [removedBytes, hremoved, items]

/-- An answered read stays answered. -/
theorem Answered.step {result : NTSTATUS × List UCHAR} (h : Answered driver carried id result)
    {e : PairEvent} (hnone : e.readArrival driver.nextRequest comToCompanion = []) :
    Answered (driver.pairStep e) carried id result := by
  have hqueue : (driver.pair.lane comToCompanion).readQueue ++
      e.readArrival driver.nextRequest comToCompanion = [] := by
    rw [hnone, List.append_nil]
    exact h.queue
  obtain ⟨hafter, houtcomes, hremoved⟩ := (transfer_step e).no_read hqueue
  refine ⟨hafter, ?_, ?_, h.status, h.size⟩
  · rw [trace_step, removed_bytes_append, h.account]
    simp [removedBytes, hremoved, items]
  · rw [trace_step, read_result_append houtcomes hremoved, h.found]

/-- The only read there is, pended before an event or arriving with it, is outstanding after it. -/
theorem outstanding_step {e : PairEvent}
    (hqueue : driver.pair.compReadQueue ++ e.readArrival driver.nextRequest comToCompanion =
      [⟨id, readBufSize⟩])
    (haccount : removedBytes (laneTrace comToCompanion driver.trace) = carried)
    (hbefore : ReadsBefore driver id) (hlt : id < e.nextRequest driver.nextRequest) :
    Outstanding (driver.pairStep e) carried id := by
  cases (transfer_step e).single_read hqueue with
  | pended hafter houtcomes hremoved =>
      refine .inl ⟨hafter, ?_, ⟨?_, ?_⟩, hlt⟩
      · rw [trace_step, removed_bytes_append, haccount]
        simp [removedBytes, hremoved, items]
      · rw [trace_step, read_outcomes_append, houtcomes, List.append_nil]
        exact hbefore.outcomes
      · rw [trace_step, removed_entries_append, hremoved, List.append_nil]
        exact hbefore.removed
  | completed status count bytes hafter houtcomes hremoved hstatus hsize =>
      have hbytes : bytes.take count = bytes := by
        rcases hstatus with ⟨-, rfl⟩ | ⟨-, rfl⟩
        · exact List.take_length
        · exact List.take_nil
      refine .inr ⟨(status, bytes), hafter, ?_, ?_, ?_, hsize⟩
      · rw [trace_step, removed_bytes_append, haccount, removedBytes, hremoved]
        split
        · next hempty => rw [hempty, items, List.flatMap_nil]
        · simp [items]
      · rw [trace_step]
        have hfound := read_result_new hbefore.outcomes hbefore.removed houtcomes hremoved
        rw [hbytes] at hfound
        exact hfound
      · intro hne
        rcases hstatus with ⟨hsuccess, -⟩ | ⟨-, hempty⟩
        · exact absurd hsuccess hne
        · exact hempty

/-- An outstanding read stays outstanding. -/
theorem Outstanding.step (h : Outstanding driver carried id) {e : PairEvent}
    (hnone : e.readArrival driver.nextRequest comToCompanion = []) :
    Outstanding (driver.pairStep e) carried id := by
  cases h with
  | inl hpended =>
      have hle := DataPath.next_request_le driver.nextRequest e
      apply outstanding_step _ hpended.account hpended.before (Nat.lt_of_lt_of_le hpended.lt hle)
      rw [hnone, List.append_nil, hpended.queue]
  | inr hanswered =>
      obtain ⟨result, hanswered⟩ := hanswered
      exact .inr ⟨result, hanswered.step hnone⟩

/-- The read that is pended has been issued. -/
theorem AtPoint.queue_lt {r : Reader} (h : AtPoint driver r) :
    ∀ req ∈ driver.pair.compReadQueue, req.id < driver.nextRequest := by
  intro req hreq
  unfold AtPoint at h
  split at h
  · rcases h with hpended | ⟨result, hanswered⟩
    · rw [hpended.queue] at hreq
      rw [List.mem_singleton.mp hreq]
      exact hpended.lt
    · rw [hanswered.queue] at hreq
      cases hreq
  · rw [Settled.queue h] at hreq
    cases hreq

/-- A callback other than a companion read keeps the account of the reader. -/
theorem Reader.Sound.beside {r : Reader} (h : r.Sound driver) {e : PairEvent}
    (hnone : e.readArrival driver.nextRequest comToCompanion = []) :
    r.Sound (driver.pairStep e) := by
  refine ⟨h.before.step ?_, ?_, h.sizes, h.hand, h.dropped, h.closed⟩
  · intro req hreq
    rw [hnone, List.append_nil] at hreq
    exact Nat.lt_of_lt_of_le (h.point.queue_lt req hreq) (DataPath.next_request_le _ e)
  · have hpoint := h.point
    unfold AtPoint at hpoint ⊢
    split at hpoint
    · exact Outstanding.step hpoint hnone
    · exact Settled.step hpoint hnone

/-! ## Steps of the read thread -/

/-- Whether the thread waits for nothing and holds nothing. -/
def ReaderPoint.quiet : ReaderPoint → Bool
  | .waiting _ | .deliver _ => false
  | _ => true

/-- Whether the thread can deliver one more chunk without another test of `paused`. -/
def ReaderPoint.owes : ReaderPoint → ℕ
  | .reset | .readFile | .waiting _ | .deliver _ => 1
  | _ => 0

theorem ReaderPoint.owes_le (point : ReaderPoint) : point.owes ≤ 1 := by
  cases point <;> simp [ReaderPoint.owes]

/-- At a quiet point the pair is settled. -/
theorem AtPoint.settled {r : Reader} (h : AtPoint driver r) (hquiet : r.point.quiet = true) :
    r.point.inHand = [] ∧ Settled driver r.chunks.flatten := by
  have hhand : r.point.inHand = [] := by
    cases hpoint : r.point with
    | deliver bytes =>
        rw [hpoint] at hquiet
        cases hquiet
    | _ => rfl
  refine ⟨hhand, ?_⟩
  unfold AtPoint at h
  split at h
  · next id hpoint =>
      rw [hpoint] at hquiet
      cases hquiet
  · rw [Reader.carried, hhand, List.append_nil] at h
    exact h

/-- What a step of the read thread does: it passes from one quiet point to another, perhaps
reporting an error, issues a request, takes its result, gives up waiting for it, or calls
`data_tsfn`. -/
inductive ReaderMove (driver : DataPath) (r : Reader) (call : ReaderCall) :
    DataPath → Reader → Prop where
  | pass (point : ReaderPoint) (errors : ℕ) (hfrom : r.point.quiet = true)
      (hto : point.quiet = true) (hdone : r.point ≠ .done)
      (howes : r.paused = true → point.owes ≤ r.point.owes) :
      ReaderMove driver r call driver { r with point := point, errors := errors }
  | issue (wdf : Wdf) (point : ReaderPoint) (hfrom : r.point = .readFile)
      (hto : point = .waiting driver.nextRequest ∨ ∃ result,
        readResult (laneTrace comToCompanion
          (driver.pairStep (.data (.compRead readBufSize wdf))).trace) driver.nextRequest =
            some result ∧ point = afterReadFile result) :
      ReaderMove driver r call (driver.pairStep (.data (.compRead readBufSize wdf)))
        { r with point := point }
  | take (id : RequestId) (result : NTSTATUS × List UCHAR) (hfrom : r.point = .waiting id)
      (hfound : readResult (laneTrace comToCompanion driver.trace) id = some result) :
      ReaderMove driver r call driver { r with point := afterWait result }
  | giveUp (id : RequestId) (hcall : call = .waitFails) (hfrom : r.point = .waiting id) :
      ReaderMove driver r call driver { r with point := .errorFlag }
  | deliver (bytes : List UCHAR) (hfrom : r.point = .deliver bytes) :
      ReaderMove driver r call driver { r with
        point := .testFlag, calls := if bytes = [] then r.calls else r.calls ++ [bytes] }

/-- Every step is one of these moves. -/
theorem reader_move {r r' : Reader} {driver' : DataPath} {call : ReaderCall}
    (hstep : readerStep driver r call = some (driver', r')) :
    ReaderMove driver r call driver' r' := by
  have hbranch (b : Bool) {yes no : ReaderPoint} (hyes : yes.quiet = true)
      (hno : no.quiet = true) : (if b = true then yes else no).quiet = true := by
    cases b
    · exact hno
    · exact hyes
  have hflag (b : Bool) {yes no : ReaderPoint} (hyes : yes.owes = 0) (hno : no.owes = 0) :
      (if b = true then yes else no).owes ≤ r.point.owes := by
    cases b
    · exact Nat.le_trans (Nat.le_of_eq hno) (Nat.zero_le _)
    · exact Nat.le_trans (Nat.le_of_eq hyes) (Nat.zero_le _)
  unfold readerStep at hstep
  dsimp only at hstep
  split at hstep
  case h_10 wdf atOnce hpoint =>
    cases hstep
    refine .issue wdf _ hpoint ?_
    cases atOnce with
    | false => exact .inl rfl
    | true =>
        cases hfound : readResult (laneTrace comToCompanion
            (driver.pairStep (.data (.compRead readBufSize wdf))).trace) driver.nextRequest with
        | none => exact .inl rfl
        | some result => exact .inr ⟨result, rfl, rfl⟩
  case h_11 id hpoint =>
    split at hstep
    · next result hfound =>
        cases hstep
        exact .take id result hpoint hfound
    · cases hstep
  case h_12 id hpoint =>
    cases hstep
    exact .giveUp id rfl hpoint
  case h_14 aborted hpoint =>
    cases hstep
    exact .pass .done _ (by rw [hpoint]; rfl) rfl (by simp [hpoint]) fun _ ↦ Nat.zero_le _
  case h_15 bytes hpoint =>
    cases hstep
    exact .deliver bytes hpoint
  case h_16 => cases hstep
  case h_3 hpoint | h_5 hpoint | h_13 hpoint =>
    cases hstep
    exact .pass _ r.errors (by rw [hpoint]; rfl) (hbranch _ rfl rfl) (by simp [hpoint])
      fun _ ↦ hflag _ rfl rfl
  case h_4 hpoint =>
    cases hstep
    refine .pass _ r.errors (by rw [hpoint]; rfl) (hbranch _ rfl rfl) (by simp [hpoint]) ?_
    intro hpaused
    rw [if_pos hpaused]
    exact Nat.zero_le _
  all_goals
    next hpoint =>
    cases hstep
    exact .pass _ r.errors (by rw [hpoint]; rfl) rfl (by simp [hpoint]) fun _ ↦ by
      simp [hpoint, ReaderPoint.owes]

/-- A pended read has no result. -/
theorem Pended.no_result (h : Pended driver carried id) :
    readResult (laneTrace comToCompanion driver.trace) id = none := by
  cases hfound : readResult (laneTrace comToCompanion driver.trace) id with
  | none => rfl
  | some result =>
      obtain ⟨outcome, houtcome, -⟩ := Option.map_eq_some_iff.mp hfound
      have hlt := h.before.outcomes outcome (List.mem_of_find?_eq_some houtcome)
      have hid : outcome.1.id = id := by simpa using List.find?_some houtcome
      exact absurd hid (Nat.ne_of_lt hlt)

/-- A result that is there is the one of an answered read. -/
theorem Outstanding.answered {result : NTSTATUS × List UCHAR} (h : Outstanding driver carried id)
    (hfound : readResult (laneTrace comToCompanion driver.trace) id = some result) :
    Answered driver carried id result := by
  cases h with
  | inl hpended =>
      rw [hpended.no_result] at hfound
      cases hfound
  | inr hanswered =>
      obtain ⟨other, hanswered⟩ := hanswered
      have hsame : other = result := Option.some.inj (hanswered.found.symm.trans hfound)
      rwa [hsame] at hanswered

/-- What a point does not wait for is settled. -/
theorem AtPoint.of_settled {r : Reader} (h : Settled driver r.carried)
    (hpoint : ∀ id, r.point ≠ .waiting id) : AtPoint driver r := by
  unfold AtPoint
  split
  · next id hwaiting => exact absurd hwaiting (hpoint id)
  · exact h

/-- The thread takes a result over: `point` is where it goes with it, and the bytes it holds there
are the bytes of the result. -/
theorem Answered.taken {r : Reader} {result : NTSTATUS × List UCHAR} {point : ReaderPoint}
    (h : Answered driver r.chunks.flatten id result)
    (hhand : result.1 = .success → point = .deliver result.2)
    (hquiet : result.1 ≠ .success → point.quiet = true) :
    AtPoint driver { r with point := point } ∧ point.inHand.length ≤ 65536 := by
  by_cases hsuccess : result.1 = .success
  · rw [hhand hsuccess]
    exact ⟨⟨h.queue, h.account⟩, h.size⟩
  · have haccount := h.account
    rw [h.status hsuccess] at haccount
    have hnone : point.inHand = [] := by
      cases point with
      | deliver bytes => cases hquiet hsuccess
      | _ => rfl
    refine ⟨.of_settled ⟨h.queue, ?_⟩ ?_, ?_⟩
    · show _ = r.chunks.flatten ++ point.inHand
      rw [haccount, hnone]
    · intro id hwaiting
      have hpoint := hquiet hsuccess
      rw [show point = .waiting id from hwaiting] at hpoint
      cases hpoint
    · rw [hnone]
      exact Nat.zero_le _

/-- Where the thread goes with a result it waited for. -/
theorem after_wait_hand (result : NTSTATUS × List UCHAR) :
    (result.1 = .success → afterWait result = .deliver result.2) ∧
      (result.1 ≠ .success → (afterWait result).quiet = true) := by
  obtain ⟨status, bytes⟩ := result
  cases status with
  | success => exact ⟨fun _ ↦ rfl, fun hne ↦ absurd rfl hne⟩
  | _ => exact ⟨fun heq ↦ NTSTATUS.noConfusion heq, fun _ ↦ rfl⟩

/-- Where it goes with a result that `ReadFile` returned. -/
theorem after_read_file_hand (result : NTSTATUS × List UCHAR) :
    (result.1 = .success → afterReadFile result = .deliver result.2) ∧
      (result.1 ≠ .success → (afterReadFile result).quiet = true) := by
  obtain ⟨status, bytes⟩ := result
  cases status with
  | success => exact ⟨fun _ ↦ rfl, fun hne ↦ absurd rfl hne⟩
  | _ => exact ⟨fun heq ↦ NTSTATUS.noConfusion heq, fun _ ↦ rfl⟩

/-- The request that the thread issues is outstanding when `ReadFile` returns. -/
theorem Settled.issue (h : Settled driver carried) (hbefore : ReadsBefore driver driver.nextRequest)
    (wdf : Wdf) :
    Outstanding (driver.pairStep (.data (.compRead readBufSize wdf))) carried
      driver.nextRequest := by
  apply outstanding_step _ h.account hbefore (Nat.lt_succ_self _)
  rw [h.queue]
  rfl

/-- A step of the thread keeps the account, unless a wait fails. -/
theorem Reader.Sound.thread {r r' : Reader} {driver' : DataPath} {call : ReaderCall}
    (h : r.Sound driver) (hcall : call ≠ .waitFails)
    (hstep : readerStep driver r call = some (driver', r')) : r'.Sound driver' := by
  have hopen (hpoint : r.point ≠ .done) : r.phase ≠ .closed := by
    intro hclosed
    exact hpoint (h.closed hclosed).2
  cases reader_move hstep with
  | pass point errors hfrom hto hdone howes =>
      obtain ⟨-, hsettled⟩ := h.point.settled hfrom
      have hhand : point.inHand = [] := by
        cases point with
        | deliver bytes => cases hto
        | _ => rfl
      refine ⟨h.before, .of_settled ⟨hsettled.queue, ?_⟩ ?_, h.sizes, ?_, h.dropped, ?_⟩
      · show _ = r.chunks.flatten ++ point.inHand
        rw [hsettled.account, hhand, List.append_nil]
      · intro id hwaiting
        rw [show point = .waiting id from hwaiting] at hto
        cases hto
      · show point.inHand.length ≤ _
        rw [hhand]
        exact Nat.zero_le _
      · intro hclosed
        exact absurd hclosed (hopen hdone)
  | issue wdf point hfrom hto =>
      obtain ⟨-, hsettled⟩ := h.point.settled (by rw [hfrom]; rfl)
      have houtstanding := hsettled.issue h.before wdf
      have hbefore : ReadsBefore (driver.pairStep (.data (.compRead readBufSize wdf)))
          (driver.nextRequest + 1) := by
        apply h.before.step
        intro req hreq
        rw [hsettled.queue] at hreq
        rw [List.mem_singleton.mp hreq]
        exact Nat.lt_succ_self _
      have hclosed (hclosed : r.phase = .closed) : r.calls = [] ∧ point = .done :=
        absurd hclosed (hopen (by simp [hfrom]))
      rcases hto with rfl | ⟨result, hfound, rfl⟩
      · refine ⟨hbefore, ?_, h.sizes, Nat.zero_le _, h.dropped, hclosed⟩
        show Outstanding _ (r.chunks.flatten ++ []) _
        rw [List.append_nil]
        exact houtstanding
      · obtain ⟨hhand, hquiet⟩ := after_read_file_hand result
        obtain ⟨hpoint, hsize⟩ := (houtstanding.answered hfound).taken hhand hquiet
        exact ⟨hbefore, hpoint, h.sizes, hsize, h.dropped, hclosed⟩
  | take id result hfrom hfound =>
      have houtstanding : Outstanding driver r.chunks.flatten id := by
        have hpoint := h.point
        unfold AtPoint at hpoint
        rw [hfrom, Reader.carried, hfrom] at hpoint
        simpa [ReaderPoint.inHand] using hpoint
      obtain ⟨hhand, hquiet⟩ := after_wait_hand result
      obtain ⟨hpoint, hsize⟩ := (houtstanding.answered hfound).taken hhand hquiet
      refine ⟨h.before, hpoint, h.sizes, hsize, h.dropped, ?_⟩
      intro hclosed
      exact absurd hclosed (hopen (by simp [hfrom]))
  | giveUp id hfails hfrom => exact absurd hfails hcall
  | deliver bytes hfrom =>
      have hsettled : Settled driver (r.chunks.flatten ++ bytes) := by
        have hpoint := h.point
        unfold AtPoint at hpoint
        rw [hfrom, Reader.carried, hfrom] at hpoint
        exact hpoint
      have hphase := hopen (by simp [hfrom])
      refine ⟨h.before, .of_settled ⟨hsettled.queue, ?_⟩ (by simp), ?_, Nat.zero_le _, h.dropped,
        fun hclosed ↦ absurd hclosed hphase⟩
      · show _ = Reader.carried _
        rw [hsettled.account]
        by_cases hbytes : bytes = [] <;>
          simp [Reader.carried, Reader.chunks, ReaderPoint.inHand, hbytes]
      · intro chunk hchunk
        by_cases hbytes : bytes = []
        · rw [Reader.chunks, if_pos hbytes] at hchunk
          exact h.sizes chunk hchunk
        · rw [Reader.chunks, if_neg hbytes, ← List.append_assoc] at hchunk
          cases List.mem_append.mp hchunk with
          | inl hold => exact h.sizes chunk hold
          | inr hnew =>
              rw [List.mem_singleton.mp hnew]
              have hsize := h.hand
              rw [hfrom] at hsize
              exact ⟨hbytes, hsize⟩

/-! ## Events of the JS thread -/

/-- What an event of the JS thread does to the chunks: they stay, and so does the thread. -/
structure ScriptMove (r r' : Reader) : Prop where
  chunks : r'.chunks = r.chunks
  point : r'.point = r.point
  dropped : r'.phase ≠ .closed → r'.dropped = r.dropped ∧ r.phase ≠ .closed
  closed : r'.phase = .closed → r'.calls = [] ∧ r'.point = .done

/-- Every event of the JS thread is such a move. -/
theorem script_move {r r' : Reader} {event : ScriptEvent}
    (hdropped : r.phase ≠ .closed → r.dropped = []) (hstep : scriptStep r event = some r') :
    ScriptMove r r' := by
  have hrunning (hphase : r.phase = .running) : r.dropped = [] ∧ r.phase ≠ .closed := by
    rw [hphase] at hdropped ⊢
    exact ⟨hdropped (by simp), by simp⟩
  unfold scriptStep at hstep
  split at hstep
  case h_1 hphase =>
    cases hstep
    exact ⟨rfl, rfl, fun _ ↦ ⟨rfl, (hrunning hphase).2⟩, fun h ↦ absurd h (hrunning hphase).2⟩
  case h_2 accepts hphase =>
    split at hstep
    · cases hstep
    · next bytes rest hcalls =>
        cases hstep
        refine ⟨?_, rfl, fun _ ↦ ⟨rfl, (hrunning hphase).2⟩, fun h ↦ absurd h (hrunning hphase).2⟩
        simp [Reader.chunks, (hrunning hphase).1, hcalls]
  case h_3 hphase =>
    split at hstep
    · cases hstep
    · cases hstep
      exact ⟨rfl, rfl, fun _ ↦ ⟨rfl, (hrunning hphase).2⟩, fun h ↦ ScriptPhase.noConfusion h⟩
  case h_4 hphase =>
    cases hstep
    exact ⟨rfl, rfl, fun _ ↦ ⟨rfl, (hrunning hphase).2⟩, fun h ↦ absurd h (hrunning hphase).2⟩
  case h_5 hphase =>
    cases hstep
    exact ⟨rfl, rfl, fun _ ↦ ⟨rfl, (hrunning hphase).2⟩, fun h ↦ ScriptPhase.noConfusion h⟩
  case h_6 hphase =>
    split at hstep
    · next hdone =>
        cases hstep
        have hnone : r.dropped = [] := hdropped (by simp [hphase])
        refine ⟨?_, rfl, fun h ↦ absurd rfl h, fun _ ↦ ⟨rfl, hdone⟩⟩
        simp [Reader.chunks, hnone]
    · cases hstep
  case h_7 => cases hstep

/-- An event of the JS thread keeps the account. -/
theorem Reader.Sound.script {r r' : Reader} {event : ScriptEvent} (h : r.Sound driver)
    (hstep : scriptStep r event = some r') : r'.Sound driver := by
  have hmove := script_move h.dropped hstep
  refine ⟨h.before, ?_, ?_, ?_, ?_, hmove.closed⟩
  · have hpoint := h.point
    unfold AtPoint at hpoint ⊢
    rw [hmove.point, Reader.carried, hmove.chunks, hmove.point]
    exact hpoint
  · rw [hmove.chunks]
    exact h.sizes
  · rw [hmove.point]
    exact h.hand
  · intro hopen
    obtain ⟨hdropped, hphase⟩ := hmove.dropped hopen
    rw [hdropped]
    exact h.dropped hphase

/-! ## The worker without its bytes -/

/-- The point of the worker that a point of the reader stands for. A thread that leaves the loop
because `ReadFile` failed has not left it yet. -/
def ReaderPoint.control : ReaderPoint → ReadPoint
  | .create => .create
  | .testFlag => .testFlag
  | .testPaused => .testPaused
  | .pausedFlag => .pausedFlag
  | .sleep => .sleep
  | .reset => .reset
  | .readFile | .readError _ => .readFile
  | .waiting _ => .waiting
  | .errorFlag => .errorFlag
  | .deliver _ => .deliver
  | .done => .done

/-- The worker that the read thread is. -/
def Reader.worker (r : Reader) : ReadThread := ⟨r.point.control, r.paused⟩

/-- Every step of the read thread with its bytes is a step of the worker, or the completion of the
request it waits for, or not visible to it. -/
theorem reader_step_refines {r r' : Reader} {driver' : DataPath} {call : ReaderCall}
    (hstep : readerStep driver r call = some (driver', r')) :
    r'.worker = r.worker ∨
      (∃ outcome, readThreadStep r.shutdown r.worker outcome = some r'.worker) ∨
      r.worker.point = .waiting ∧ r'.worker = { r.worker with point := .deliver } := by
  unfold readerStep at hstep
  dsimp only at hstep
  split at hstep
  case h_9 hpoint =>
    cases hstep
    exact .inl (by rw [Reader.worker, Reader.worker, hpoint]; rfl)
  case h_10 wdf atOnce hpoint =>
    cases hstep
    have hpending : readThreadStep r.shutdown r.worker .pending = some ⟨.waiting, r.paused⟩ := by
      rw [Reader.worker, hpoint]
      rfl
    cases atOnce with
    | false => exact .inr (.inl ⟨.pending, hpending⟩)
    | true =>
        cases readResult (laneTrace comToCompanion
            (driver.pairStep (.data (.compRead readBufSize wdf))).trace) driver.nextRequest with
        | none => exact .inr (.inl ⟨.pending, hpending⟩)
        | some result =>
            obtain ⟨status, bytes⟩ := result
            cases status with
            | success => exact .inr (.inl ⟨.ok, by rw [Reader.worker, hpoint]; rfl⟩)
            | _ => exact .inl (by rw [Reader.worker, Reader.worker, hpoint]; rfl)
  case h_11 id hpoint =>
    split at hstep
    · next result hfound =>
        cases hstep
        obtain ⟨status, bytes⟩ := result
        cases status with
        | success =>
            exact .inr (.inr (by rw [Reader.worker, Reader.worker, hpoint]; exact ⟨rfl, rfl⟩))
        | _ => exact .inr (.inl ⟨.fails, by rw [Reader.worker, hpoint]; rfl⟩)
    · cases hstep
  case h_2 hpoint | h_8 hpoint | h_12 _ hpoint | h_14 _ hpoint =>
    cases hstep
    exact .inr (.inl ⟨.fails, by rw [Reader.worker, hpoint]; rfl⟩)
  case h_3 hpoint | h_5 hpoint | h_13 hpoint =>
    cases hstep
    refine .inr (.inl ⟨.ok, ?_⟩)
    cases hflag : r.shutdown <;>
      simp [Reader.worker, readThreadStep, ReaderPoint.control, hpoint]
  case h_4 hpoint =>
    cases hstep
    refine .inr (.inl ⟨.ok, ?_⟩)
    cases hflag : r.paused <;>
      simp [Reader.worker, readThreadStep, ReaderPoint.control, hpoint, hflag]
  case h_16 => cases hstep
  all_goals
    next hpoint =>
    cases hstep
    exact .inr (.inl ⟨.ok, by simp [Reader.worker, readThreadStep, ReaderPoint.control, hpoint]⟩)

end Stream

end GhostCom
