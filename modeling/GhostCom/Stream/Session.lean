import GhostCom.DataPath.IdleReads
import GhostCom.Stream.Reader
import GhostCom.Stream.Writer

/-!
# A stream over a pair

`VirtualPortStream` from its constructor on: the read thread, the write threads and the JS thread,
beside every callback of the pair that is not a read or a write of the companion handle, in any
order. Every byte that the COM side writes reaches the consumer of the stream in order as long as
the waits of the read thread for its event succeed, every byte of the chunks that were written
reaches the COM side in order, and a consumer that does not read stops the COM side.
-/

namespace GhostCom

open Channel.State (items)
open Direction (comToCompanion companionToCom)

/-- Reads and writes of the companion handle. -/
def PairEvent.byCompanion : PairEvent → Bool
  | .data (.compRead _ _) | .data (.compWrite _ _ _) => true
  | _ => false

/-- Another event brings no companion read and no companion write. -/
theorem PairEvent.no_arrival {e : PairEvent} (h : ¬e.byCompanion = true) (id : RequestId) :
    e.readArrival id comToCompanion = [] ∧ e.arrival id = [] := by
  cases e with
  | data e =>
      cases e with
      | compRead length wdf => exact absurd rfl h
      | compWrite data fits wdf => exact absurd rfl h
      | comRead length wdf => exact ⟨rfl, rfl⟩
      | _ => exact ⟨rfl, rfl⟩
  | _ => exact ⟨rfl, rfl⟩

namespace Stream

/-- The pair, the reading side and the writing side. -/
structure Session where
  driver : DataPath
  reader : Reader
  writer : Writer

/-- A pair whose stream reads and writes nothing yet. -/
def Session.initial (portNumber : ULONG) : Session :=
  ⟨.initial portNumber, .spawned, .initial⟩

/-- A callback of the pair, a step of the read thread, an event of the JS thread for the reading
side, or an event of the writing side. -/
inductive SessionEvent where
  | driver (e : PairEvent)
  | reader (call : ReaderCall)
  | script (event : ScriptEvent)
  | writer (event : WriterEvent)

/-- Whether the JS thread can be where an event of the writing side needs it: `_write` is called by
a stream that is not destroyed, and a callback is run by the event loop. -/
def WriterEvent.possible (phase : ScriptPhase) : WriterEvent → Bool
  | .write _ _ => phase = .running
  | .callback => phase ≠ .joining
  | _ => true

/-- Whether an event is the callback that reports an error. -/
def Writer.reportsError (w : Writer) : WriterEvent → Bool
  | .callback =>
      match w.point with
      | .busy _ _ (.returned false) => true
      | _ => false
  | _ => false

/-- One event, if it is possible. A callback with an error destroys a stream that is not. -/
def Session.step (s : Session) : SessionEvent → Option Session
  | .driver e => if e.byCompanion then none else some { s with driver := s.driver.pairStep e }
  | .reader call =>
      (readerStep s.driver s.reader call).map fun next ↦
        { s with driver := next.1, reader := next.2 }
  | .script event => (scriptStep s.reader event).map fun reader ↦ { s with reader := reader }
  | .writer event =>
      if event.possible s.reader.phase then
        (writerStep s.driver s.writer event).map fun next ↦
          { driver := next.1
            reader :=
              if s.writer.reportsError event && s.reader.phase = .running then s.reader.destroy
              else s.reader
            writer := next.2 }
      else none

/-- One event; one that is not possible changes nothing. -/
def Session.next (s : Session) (event : SessionEvent) : Session := (s.step event).getD s

/-- A run of events. -/
def Session.run (s : Session) (events : List SessionEvent) : Session := events.foldl Session.next s

/-- The rings whose contents an event discards. -/
def SessionEvent.discards : SessionEvent → Direction → Bool
  | .driver e => e.discards
  | _ => neither

/-- The bytes that have left the ring and are not yet a chunk: the result that the thread has not
taken, or the chunk it is about to deliver. -/
def Reader.transit (driver : DataPath) (r : Reader) : List UCHAR :=
  match r.point with
  | .deliver bytes => bytes
  | .waiting id =>
      match readResult (laneTrace comToCompanion driver.trace) id with
      | some result => result.2
      | none => []
  | _ => []

/-- No wait of the read thread for its event fails. After one that does, the thread would issue its
next request with the `OVERLAPPED` and the buffer of one that is still outstanding. -/
def WaitsSucceed (events : List SessionEvent) : Prop :=
  ∀ event ∈ events, event ≠ .reader .waitFails

/-! ## The account of a session -/

/-- What holds in every state of a run; `discarded` says in which directions bytes may have been
discarded, and `waits` that the waits of the read thread have succeeded. -/
structure Session.Sound (discarded : Direction → Bool) (waits : Prop) (s : Session) : Prop where
  accounts : s.driver.Accounts discarded
  idleReads : s.driver.pair.ReadsAtEmpty
  reader : waits → s.reader.Sound s.driver
  writer : s.writer.Sound s.driver

variable {discarded : Direction → Bool} {waits : Prop} {s : Session}

/-- A new pair owes its stream nothing. -/
theorem Session.initial_sound (portNumber : ULONG) :
    (Session.initial portNumber).Sound neither True := by
  refine ⟨DataPath.initial_accounts portNumber, DataPath.pair_run_reads portNumber [],
    fun _ ↦ ?_, ?_⟩
  · refine ⟨⟨?_, ?_⟩, ⟨rfl, rfl⟩, ?_, Nat.zero_le _, fun _ ↦ rfl, ?_⟩
    · intro outcome houtcome
      cases houtcome
    · intro entry hentry
      cases hentry
    · intro chunk hchunk
      cases hchunk
    · intro hclosed
      cases hclosed
  · exact ⟨DataPath.initial_numbered portNumber, DataPath.initial_progressing portNumber, rfl, rfl⟩

/-- What a step does to the pair: nothing, or it is a callback. -/
inductive DriverMove (driver : DataPath) : (Direction → Bool) → DataPath → Prop where
  | kept : DriverMove driver neither driver
  | callback (e : PairEvent) : DriverMove driver e.discards (driver.pairStep e)

/-- Either way the accounts are kept. -/
theorem DriverMove.accounts {driver driver' : DataPath} {discards : Direction → Bool}
    (h : DriverMove driver discards driver') (haccounts : driver.Accounts discarded)
    (hreads : driver.pair.ReadsAtEmpty) :
    (driver'.Accounts fun d ↦ discarded d || discards d) ∧ driver'.pair.ReadsAtEmpty := by
  cases h with
  | kept => exact ⟨by simpa [neither] using haccounts, hreads⟩
  | callback e => exact ⟨haccounts.step e, hreads.call _ e⟩

/-- A step of the read thread as the pair and the writing side see it. -/
theorem reader_driver_move {driver driver' : DataPath} {r r' : Reader} {call : ReaderCall}
    (hstep : readerStep driver r call = some (driver', r')) :
    DriverMove driver neither driver' ∧ ∀ w : Writer, w.Sound driver → w.Sound driver' := by
  cases reader_move hstep with
  | issue wdf point hfrom hto =>
      exact ⟨.callback (.data (.compRead readBufSize wdf)), fun w hw ↦ hw.beside rfl⟩
  | pass => exact ⟨.kept, fun w hw ↦ hw⟩
  | take => exact ⟨.kept, fun w hw ↦ hw⟩
  | giveUp => exact ⟨.kept, fun w hw ↦ hw⟩
  | deliver => exact ⟨.kept, fun w hw ↦ hw⟩

/-- An iteration of `do_write` issues one request or none. -/
theorem iterate_driver (chunk : List UCHAR) (s : StreamWrite.State)
    (attempt : StreamWrite.Attempt) :
    (StreamWrite.step chunk s (.iterate attempt)).driver = s.driver ∨
      ∃ data fits wdf, (StreamWrite.step chunk s (.iterate attempt)).driver =
        s.driver.pairStep (.data (.compWrite data fits wdf)) := by
  obtain ⟨driver, issued, control⟩ := s
  cases control with
  | test offset =>
      by_cases hlt : offset < chunk.length
      · rw [show StreamWrite.step chunk ⟨driver, issued, .test offset⟩ (.iterate attempt) =
          StreamWrite.iterate chunk ⟨driver, issued, .test offset⟩ offset attempt from if_pos hlt]
        cases attempt with
        | issued wdf =>
            unfold StreamWrite.iterate
            dsimp only
            split
            · next fits => exact .inr ⟨_, fits, wdf, rfl⟩
            · exact .inl rfl
        | noEvent => exact .inl rfl
        | refused => exact .inl rfl
      · rw [show StreamWrite.step chunk ⟨driver, issued, .test offset⟩ (.iterate attempt) =
          ⟨driver, issued, .returned true⟩ from if_neg hlt]
        exact .inl rfl
  | _ => exact .inl rfl

/-- An event of the writing side as the pair and the reading side see it. -/
theorem writer_driver_move {driver driver' : DataPath} {w w' : Writer} {event : WriterEvent}
    (hstep : writerStep driver w event = some (driver', w')) :
    DriverMove driver neither driver' ∧ ∀ r : Reader, r.Sound driver → r.Sound driver' := by
  have hkept (hdriver : driver' = driver) :
      DriverMove driver neither driver' ∧ ∀ r : Reader, r.Sound driver → r.Sound driver' := by
    subst hdriver
    exact ⟨.kept, fun r hr ↦ hr⟩
  obtain ⟨written, point⟩ := w
  cases event with
  | write chunk spawned =>
      cases point with
      | idle =>
          cases hstep
          exact hkept rfl
      | _ => cases hstep
  | iterate attempt =>
      cases point with
      | busy chunk issued control =>
          cases hstep
          rcases iterate_driver chunk ⟨driver, issued, control⟩ attempt with
            hsame | ⟨data, fits, wdf, hwrite⟩
          · exact hkept hsame
          · rw [hwrite]
            exact ⟨.callback (.data (.compWrite data fits wdf)), fun r hr ↦ hr.beside rfl⟩
      | _ => cases hstep
  | result wait =>
      cases point with
      | busy chunk issued control =>
          cases hstep
          exact hkept (result_driver ⟨driver, issued, control⟩ wait).1
      | _ => cases hstep
  | callback =>
      cases point with
      | busy chunk issued control =>
          cases control with
          | returned ok => cases ok <;> (cases hstep; exact hkept rfl)
          | _ => cases hstep
      | _ => cases hstep

/-- `destroy` is possible while the event loop runs. -/
theorem destroy_step {r : Reader} (hrunning : r.phase = .running) :
    scriptStep r .destroy = some r.destroy := by
  unfold scriptStep
  rw [hrunning]

/-- An event that is possible keeps the account, that of the reader unless a wait fails. -/
theorem Session.Sound.step {event : SessionEvent} {s' : Session} (h : s.Sound discarded waits)
    (hstep : s.step event = some s') :
    s'.Sound (fun d ↦ discarded d || event.discards d)
      (waits ∧ event ≠ .reader .waitFails) := by
  cases event with
  | driver e =>
      by_cases hcompanion : e.byCompanion = true
      · rw [Session.step, if_pos hcompanion] at hstep
        cases hstep
      · rw [Session.step, if_neg hcompanion] at hstep
        cases hstep
        obtain ⟨hread, hwrite⟩ := PairEvent.no_arrival hcompanion s.driver.nextRequest
        obtain ⟨haccounts, hidle⟩ := (DriverMove.callback e).accounts h.accounts h.idleReads
        exact ⟨haccounts, hidle, fun hwaits ↦ (h.reader hwaits.1).beside hread,
          h.writer.beside hwrite⟩
  | reader call =>
      obtain ⟨next, hnext, rfl⟩ := Option.map_eq_some_iff.mp hstep
      obtain ⟨hmove, hwriter⟩ := reader_driver_move hnext
      obtain ⟨haccounts, hidle⟩ := hmove.accounts h.accounts h.idleReads
      refine ⟨haccounts, hidle, fun hwaits ↦ ?_, hwriter _ h.writer⟩
      exact (h.reader hwaits.1).thread (fun hcall ↦ hwaits.2 (by rw [hcall])) hnext
  | script event =>
      obtain ⟨reader, hreader, rfl⟩ := Option.map_eq_some_iff.mp hstep
      obtain ⟨haccounts, hidle⟩ := DriverMove.kept.accounts h.accounts h.idleReads
      exact ⟨haccounts, hidle, fun hwaits ↦ (h.reader hwaits.1).script hreader, h.writer⟩
  | writer event =>
      by_cases hpossible : event.possible s.reader.phase = true
      · rw [Session.step, if_pos hpossible] at hstep
        obtain ⟨next, hnext, rfl⟩ := Option.map_eq_some_iff.mp hstep
        obtain ⟨hmove, hreader⟩ := writer_driver_move hnext
        obtain ⟨haccounts, hidle⟩ := hmove.accounts h.accounts h.idleReads
        refine ⟨haccounts, hidle, fun hwaits ↦ ?_, h.writer.step hnext⟩
        show Reader.Sound next.1 (if _ then _ else _)
        split
        · next herror =>
            have hrunning : s.reader.phase = .running := by
              simpa using (Bool.and_eq_true_iff.mp herror).2
            exact (hreader _ (h.reader hwaits.1)).script (destroy_step hrunning)
        · exact hreader _ (h.reader hwaits.1)
      · rw [Session.step, if_neg hpossible] at hstep
        cases hstep

/-- An event that is not possible discards nothing. -/
theorem discards_of_none {event : SessionEvent} (hstep : s.step event = none) :
    event.discards = neither := by
  cases event with
  | driver e =>
      cases e with
      | data e => rfl
      | _ => cases hstep
  | _ => rfl

/-- Every event keeps the account. -/
theorem Session.Sound.next (h : s.Sound discarded waits) (event : SessionEvent) :
    (s.next event).Sound (fun d ↦ discarded d || event.discards d)
      (waits ∧ event ≠ .reader .waitFails) := by
  unfold Session.next
  cases hstep : s.step event with
  | none =>
      rw [discards_of_none hstep]
      refine ⟨?_, h.idleReads, fun hwaits ↦ h.reader hwaits.1, h.writer⟩
      simpa [neither] using h.accounts
  | some s' => exact h.step hstep

/-- Every run keeps the account. -/
theorem Session.Sound.run (h : s.Sound discarded waits) (events : List SessionEvent) :
    (s.run events).Sound (fun d ↦ discarded d || events.any (·.discards d))
      (waits ∧ WaitsSucceed events) := by
  induction events generalizing s discarded waits with
  | nil => simpa [Session.run, WaitsSucceed] using h
  | cons event events ih =>
      have hrest := ih (h.next event)
      simpa [Session.run, WaitsSucceed, Bool.or_assoc, and_assoc] using hrest

/-- What has left the ring and is no chunk yet is in transit. -/
theorem Reader.Sound.taken {driver : DataPath} {r : Reader} (h : r.Sound driver) :
    removedBytes (laneTrace comToCompanion driver.trace) =
        r.chunks.flatten ++ r.transit driver ∧
      (r.transit driver).length ≤ 65536 := by
  have hpoint := h.point
  have hhand := h.hand
  unfold AtPoint at hpoint
  unfold Reader.transit
  cases hat : r.point with
  | waiting id =>
      rw [hat, Reader.carried, hat] at hpoint
      dsimp only
      cases hpoint with
      | inl hpended =>
          rw [hpended.no_result]
          refine ⟨?_, Nat.zero_le _⟩
          rw [hpended.account]
          rfl
      | inr hanswered =>
          obtain ⟨result, hanswered⟩ := hanswered
          rw [hanswered.found]
          refine ⟨?_, hanswered.size⟩
          rw [hanswered.account]
          show r.chunks.flatten ++ [] ++ result.2 = _
          rw [List.append_nil]
  | _ =>
      rw [hat] at hpoint hhand
      refine ⟨?_, hhand⟩
      rw [Settled.account hpoint, Reader.carried, hat]
      rfl

/-- Every state that a session reaches. -/
theorem Session.reached (portNumber : ULONG) (events : List SessionEvent) :
    ((Session.initial portNumber).run events).Sound (fun d ↦ events.any (·.discards d))
      (WaitsSucceed events) := by
  simpa [neither] using (Session.initial_sound portNumber).run events

/-- The COM side's bytes reach the consumer. In every state of a session in which no wait of the
read thread fails, the chunks that were pushed, those dropped by `shutdown` and those queued for the
event loop, followed by what is in transit and what the ring holds, are the bytes accepted from the
COM side, in order and without the bytes that a purge or the teardown discarded. No chunk is empty
or longer than the read buffer, nothing is dropped before `shutdown` has joined the thread, and
after that nothing is in transit. -/
theorem stream_receives (portNumber : ULONG) (events : List SessionEvent)
    (hwaits : WaitsSucceed events) :
    let s := (Session.initial portNumber).run events
    let accepted := acceptedBytes (laneTrace comToCompanion s.driver.trace)
    let chunks := s.reader.pushed ++ s.reader.dropped ++ s.reader.calls
    let received := chunks.flatten ++ s.reader.transit s.driver ++
      (s.driver.pair.lane comToCompanion).ring.contents
    received.Sublist accepted ∧
    (events.any (·.discards comToCompanion) = false → received = accepted) ∧
    (∀ chunk ∈ chunks, chunk ≠ [] ∧ chunk.length ≤ 65536) ∧
    (s.reader.transit s.driver).length ≤ 65536 ∧
    (s.reader.phase ≠ .closed → s.reader.dropped = []) ∧
    (s.reader.phase = .closed → s.reader.calls = [] ∧ s.reader.transit s.driver = []) := by
  intro s accepted chunks received
  have h := Session.reached portNumber events
  have hsound := h.reader hwaits
  obtain ⟨htaken, htransit⟩ := hsound.taken
  obtain ⟨arrived, hsince⟩ := h.accounts comToCompanion
  have hreceived : received = removedBytes (laneTrace comToCompanion s.driver.trace) ++
      (s.driver.pair.lane comToCompanion).ring.contents := by
    rw [htaken]
    rfl
  refine ⟨?_, ?_, hsound.sizes, htransit, hsound.dropped, ?_⟩
  · rw [hreceived]
    simpa using hsince.ordered
  · intro hkept
    rw [hreceived]
    simpa using hsince.conserved hkept
  · intro hclosed
    obtain ⟨hcalls, hdone⟩ := hsound.closed hclosed
    refine ⟨hcalls, ?_⟩
    rw [Reader.transit, show s.reader.point = .done from hdone]

/-- A byte is in transit. -/
def transitRun : List SessionEvent :=
  [.driver (.data (.comWrite [65] (by decide) .ok)), .reader .ok, .reader .ok, .reader .ok,
    .reader .ok, .reader (.issued .ok true)]

theorem stream_receives_first_byte :
    let s := (Session.initial 3).run transitRun
    (s.reader.pushed ++ s.reader.dropped ++ s.reader.calls).flatten ++
      s.reader.transit s.driver ++ (s.driver.pair.lane comToCompanion).ring.contents = [65] :=
  (stream_receives 3 transitRun (by simp [WaitsSucceed, transitRun])).2.1 rfl

/-- The chunks that were written reach the COM side. In every state of a session the bytes that have
entered the ring of the COM side are those of the chunks whose callbacks reported success, followed
by a prefix of the chunk that is being written or has failed; the COM side has removed a part of
them and the ring holds the rest, in order and without what a purge or the teardown discarded. -/
theorem stream_sends (portNumber : ULONG) (events : List SessionEvent) :
    let s := (Session.initial portNumber).run events
    let moved := laneTrace companionToCom s.driver.trace
    let sent := removedBytes moved ++ (s.driver.pair.lane companionToCom).ring.contents
    (∃ rest, acceptedBytes moved = s.writer.written.flatten ++ rest ∧
      match s.writer.point with
      | .idle => rest = []
      | .busy chunk _ _ | .failed chunk _ => rest <+: chunk) ∧
    sent.Sublist (acceptedBytes moved) ∧
    (events.any (·.discards companionToCom) = false → sent = acceptedBytes moved) := by
  intro s moved sent
  have h := Session.reached portNumber events
  obtain ⟨arrived, hsince⟩ := h.accounts companionToCom
  refine ⟨h.writer.entered_prefix, ?_, ?_⟩
  · simpa using hsince.ordered
  · intro hkept
    simpa using hsince.conserved hkept

/-! ## Backpressure -/

/-- What a paused reader is held to: it stays paused, its chunks stay, and of those it can still
deliver it delivers at most one. -/
structure Reader.Held (r r' : Reader) : Prop where
  paused : r.paused = true → r'.paused = true
  chunks : r.chunks <+: r'.chunks
  owes : r.paused = true → r'.chunks.length + r'.point.owes ≤ r.chunks.length + r.point.owes

namespace Reader.Held

theorem refl (r : Reader) : r.Held r := ⟨id, List.prefix_rfl, fun _ ↦ Nat.le_refl _⟩

theorem trans {r mid r' : Reader} (h : r.Held mid) (h' : mid.Held r') : r.Held r' :=
  ⟨fun hpaused ↦ h'.paused (h.paused hpaused), h.chunks.trans h'.chunks,
    fun hpaused ↦ Nat.le_trans (h'.owes (h.paused hpaused)) (h.owes hpaused)⟩

/-- A step of the thread. -/
theorem thread {driver driver' : DataPath} {r r' : Reader} {call : ReaderCall}
    (hstep : readerStep driver r call = some (driver', r')) : r.Held r' := by
  cases reader_move hstep with
  | pass point errors hfrom hto hdone howes =>
      exact ⟨id, List.prefix_rfl, fun hpaused ↦ Nat.add_le_add_left (howes hpaused) _⟩
  | issue wdf point hfrom hto =>
      refine ⟨id, List.prefix_rfl, fun _ ↦ Nat.add_le_add_left ?_ _⟩
      rw [hfrom]
      exact point.owes_le
  | take id result hfrom hfound =>
      refine ⟨fun hpaused ↦ hpaused, List.prefix_rfl, fun _ ↦ Nat.add_le_add_left ?_ _⟩
      rw [hfrom]
      exact (afterWait result).owes_le
  | giveUp =>
      exact ⟨fun hpaused ↦ hpaused, List.prefix_rfl, fun _ ↦ Nat.add_le_add_left (Nat.zero_le _) _⟩
  | deliver bytes hfrom =>
      by_cases hbytes : bytes = []
      · rw [if_pos hbytes]
        exact ⟨id, List.prefix_rfl, fun _ ↦ Nat.add_le_add_left (Nat.zero_le _) _⟩
      · rw [if_neg hbytes]
        refine ⟨id, ⟨[bytes], ?_⟩, fun _ ↦ ?_⟩
        · simp [Reader.chunks]
        · simp [Reader.chunks, hfrom, ReaderPoint.owes]
          omega

/-- An event of the JS thread other than `_read`. -/
theorem script {r r' : Reader} {event : ScriptEvent} (hread : event ≠ .read)
    (hdropped : r.phase ≠ .closed → r.dropped = []) (hstep : scriptStep r event = some r') :
    r.Held r' := by
  have hmove := script_move hdropped hstep
  refine ⟨fun hpaused ↦ ?_, ?_, fun _ ↦ ?_⟩
  · unfold scriptStep at hstep
    split at hstep
    case h_2 accepts hphase =>
      split at hstep
      · cases hstep
      · cases hstep
        simp [hpaused]
    case h_3 hphase =>
      split at hstep
      · cases hstep
      · cases hstep
        exact hpaused
    case h_4 => exact absurd rfl hread
    case h_6 =>
      split at hstep
      · cases hstep
        exact hpaused
      · cases hstep
    all_goals
      cases hstep
      try exact hpaused
  · exact hmove.chunks ▸ List.prefix_rfl
  · rw [hmove.chunks, hmove.point]

end Reader.Held

/-- What an event of a session does to the reader: nothing, a step of its thread, or an event of the
JS thread, which is `_read` only if the session's event is. -/
inductive ReaderEffect (s : Session) (event : SessionEvent) : Reader → Prop where
  | kept : ReaderEffect s event s.reader
  | thread {call : ReaderCall} {driver : DataPath} {r : Reader}
      (hstep : readerStep s.driver s.reader call = some (driver, r)) : ReaderEffect s event r
  | script {e : ScriptEvent} {r : Reader} (hread : e = .read → event = .script .read)
      (hstep : scriptStep s.reader e = some r) : ReaderEffect s event r

/-- Every event does one of these. -/
theorem Session.reader_effect (s : Session) (event : SessionEvent) :
    ReaderEffect s event (s.next event).reader := by
  unfold Session.next
  cases hstep : s.step event with
  | none => exact .kept
  | some s' =>
      show ReaderEffect s event s'.reader
      cases event with
      | driver e =>
          by_cases hcompanion : e.byCompanion = true
          · rw [Session.step, if_pos hcompanion] at hstep
            cases hstep
          · rw [Session.step, if_neg hcompanion] at hstep
            cases hstep
            exact .kept
      | reader call =>
          obtain ⟨next, hnext, rfl⟩ := Option.map_eq_some_iff.mp hstep
          exact .thread hnext
      | script event =>
          obtain ⟨reader, hreader, rfl⟩ := Option.map_eq_some_iff.mp hstep
          exact .script (fun hread ↦ by rw [hread]) hreader
      | writer event =>
          by_cases hpossible : event.possible s.reader.phase = true
          · rw [Session.step, if_pos hpossible] at hstep
            obtain ⟨next, hnext, rfl⟩ := Option.map_eq_some_iff.mp hstep
            show ReaderEffect s (.writer event) (if _ then _ else _)
            split
            · next herror =>
                have hrunning : s.reader.phase = .running := by
                  simpa using (Bool.and_eq_true_iff.mp herror).2
                exact .script (fun hread ↦ ScriptEvent.noConfusion hread)
                  (destroy_step hrunning)
            · exact .kept
          · rw [Session.step, if_neg hpossible] at hstep
            cases hstep

/-- An event of a session other than `_read`. -/
theorem Session.Sound.held {event : SessionEvent} (h : s.Sound discarded waits) (hwaits : waits)
    (hread : event ≠ .script .read) : s.reader.Held (s.next event).reader := by
  have heffect := s.reader_effect event
  generalize (s.next event).reader = r at heffect ⊢
  cases heffect with
  | kept => exact .refl _
  | thread hstep => exact .thread hstep
  | script hcall hstep =>
      exact .script (fun heq ↦ hread (hcall heq)) (h.reader hwaits).dropped hstep

/-- A run without `_read`. -/
theorem Session.Sound.held_run {events : List SessionEvent} (h : s.Sound discarded waits)
    (hwaits : waits) (hsucceed : WaitsSucceed events)
    (hread : ∀ event ∈ events, event ≠ .script .read) :
    s.reader.Held (s.run events).reader := by
  induction events generalizing s discarded waits with
  | nil => exact .refl _
  | cons event events ih =>
      obtain ⟨hevent, hevents⟩ := List.forall_mem_cons.mp hread
      obtain ⟨hsucceeds, hrest⟩ := List.forall_mem_cons.mp hsucceed
      have hfirst := h.held hwaits hevent
      exact hfirst.trans (ih (h.next event) ⟨hwaits, hsucceeds⟩ hrest hevents)

/-- How many chunks a held reader delivers. -/
theorem Reader.Held.chunks_le {r r' : Reader} (h : r.Held r') (hpaused : r.paused = true) :
    r'.chunks.length ≤ r.chunks.length + 1 := by
  have howes := h.owes hpaused
  have hone := r.point.owes_le
  omega

/-- Without a chunk owed nothing is in transit. -/
theorem Reader.transit_nil {driver : DataPath} {r : Reader} (h : r.point.owes = 0) :
    r.transit driver = [] := by
  unfold Reader.transit
  cases hpoint : r.point with
  | waiting id => simp [hpoint, ReaderPoint.owes] at h
  | deliver bytes => simp [hpoint, ReaderPoint.owes] at h
  | _ => rfl

/-- How much a held reader takes out of the ring. -/
theorem Reader.Held.taken {driver driver' : DataPath} {r r' : Reader} (h : r.Held r')
    (hbefore : r.Sound driver) (hafter : r'.Sound driver') (hpaused : r.paused = true) :
    (removedBytes (laneTrace comToCompanion driver'.trace)).length ≤
      (removedBytes (laneTrace comToCompanion driver.trace)).length + 65536 := by
  obtain ⟨more, hmore⟩ := h.chunks
  have howes := h.owes hpaused
  rw [← hmore, List.length_append] at howes
  obtain ⟨htaken, htransit⟩ := hafter.taken
  rw [htaken, hbefore.taken.1, ← hmore]
  have hone := r.point.owes_le
  cases more with
  | nil => simp; omega
  | cons chunk rest =>
      -- the one chunk that was owed has been delivered, so nothing is in transit
      rw [List.length_cons] at howes
      have hrest : rest = [] := List.length_eq_zero_iff.mp (by omega)
      have hnothing : r'.transit driver' = [] := Reader.transit_nil (by omega)
      have hsize := (hafter.sizes chunk (by rw [← hmore]; simp)).2
      rw [hrest, hnothing]
      simp
      omega

/-- A consumer that does not read stops the COM side. From any state of a session in which the read
thread is paused, as long as `_read` is not called and no wait of the thread fails, whatever else
happens: at most one more chunk is delivered and at most one read buffer more is taken out of the
ring; so, if nothing is discarded, the COM side can have no more accepted than one read buffer and
one ring beyond what was taken. -/
theorem paused_stream_stops_writers (portNumber : ULONG) (before after : List SessionEvent)
    (hwaits : WaitsSucceed (before ++ after)) (hread : ∀ event ∈ after, event ≠ .script .read)
    (hpaused : ((Session.initial portNumber).run before).reader.paused = true) :
    let s := (Session.initial portNumber).run before
    let s' := s.run after
    let taken (driver : DataPath) := removedBytes (laneTrace comToCompanion driver.trace)
    s'.reader.paused = true ∧
    s'.reader.chunks.length ≤ s.reader.chunks.length + 1 ∧
    (taken s'.driver).length ≤ (taken s.driver).length + 65536 ∧
    ((before ++ after).any (·.discards comToCompanion) = false →
      (acceptedBytes (laneTrace comToCompanion s'.driver.trace)).length ≤
        (taken s.driver).length + 65536 + 65535) := by
  intro s s' taken
  obtain ⟨hfirst, hlater⟩ := List.forall_mem_append.mp hwaits
  have hbefore := Session.reached portNumber before
  have hafter := hbefore.run after
  have hheld := hbefore.held_run hfirst hlater hread
  have htaken := hheld.taken (hbefore.reader hfirst) (hafter.reader ⟨hfirst, hlater⟩) hpaused
  refine ⟨hheld.paused hpaused, ?_, htaken, ?_⟩
  · exact hheld.chunks_le hpaused
  · intro hkept
    rw [List.any_append] at hkept
    obtain ⟨-, hconserved, hring⟩ := hafter.accounts.unread comToCompanion
    rw [← hconserved hkept]
    exact Nat.add_le_add htaken hring

/-- A chunk has been delivered, and the consumer asks for no more. -/
def pausedRun : List SessionEvent :=
  [.driver (.data (.comWrite [65] (by decide) .ok)), .reader .ok, .reader .ok, .reader .ok,
    .reader .ok, .reader (.issued .ok true), .reader .ok, .script (.runData false)]

/-- A paused stream beside one more write of the COM side. -/
theorem paused_stream_beside_write :
    let s := (Session.initial 3).run pausedRun
    let s' := s.run [.driver (.data (.comWrite [66] (by decide) .ok)), .reader .ok]
    s.reader.paused = true ∧ s'.reader.chunks.length ≤ s.reader.chunks.length + 1 :=
  ⟨rfl, (paused_stream_stops_writers 3 pausedRun
    [.driver (.data (.comWrite [66] (by decide) .ok)), .reader .ok]
    (by simp [WaitsSucceed, pausedRun]) (by simp) rfl).2.1⟩

end Stream

end GhostCom
