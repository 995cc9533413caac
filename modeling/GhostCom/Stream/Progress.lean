import GhostCom.Stream.Session

/-!
# The read thread makes progress

While the consumer asks for data, nothing holds the read thread back: left alone, in a bounded
number of its own steps it turns everything the ring held into chunks.
-/

namespace GhostCom

open Direction (comToCompanion)

/-! ## Reading what is there -/

/-- A companion read that holds everything there is takes it at once. -/
theorem comp_read_serves {pp : PortPair} {req : ReadRequest} (hactive : pp.active = true)
    (hne : (pp.lane comToCompanion).ring.contents ≠ [])
    (hsize : (pp.lane comToCompanion).ring.contents.length ≤ req.length.toNat) :
    let contents := (pp.lane comToCompanion).ring.contents
    let out := laneTrace comToCompanion (gcomCompEvtRead .ok pp req).2
    .removed req contents ∈ out ∧ .readDone req .success contents.length ∈ out := by
  intro contents out
  have hpos : 1 ≤ req.length.toNat :=
    Nat.le_trans (List.length_pos_iff.mpr hne) hsize
  have hbuf : retrieveBuffer .ok req.id 1 req.length.toNat = .ok () :=
    if_neg (Nat.not_lt.mpr hpos)
  have hread := ((pp.lane comToCompanion).ring.read_pos_iff hpos).mpr hne
  have hout : out = ((pp.lane comToCompanion).evtRead .ok false req).2.2 := by
    show laneTrace comToCompanion (gcomCompEvtRead .ok pp req).2 = _
    unfold gcomCompEvtRead
    simp [hactive, lane_trace_lane_effects]
  have hdata := (pp.lane comToCompanion).ring.read_data req.length
  have hcount := (pp.lane comToCompanion).ring.read_count req.length
  rw [List.take_of_length_le hsize] at hdata
  rw [Nat.min_eq_right hsize] at hcount
  rw [hout]
  unfold Lane.evtRead
  rw [hbuf]
  simp only [ulong_min_self]
  rw [if_pos hread, hdata, hcount]
  simp [contents]

namespace Stream

/-! ## The flags -/

/-- What the flags say: while `_read` waits for data the thread is not paused. -/
structure Reader.Flags (r : Reader) : Prop where
  reading : r.reading = true → r.paused = false
  demand : r.demand = true → r.reading = true

/-- An event of the JS thread keeps what the flags say. -/
theorem Reader.Flags.script {r r' : Reader} {event : ScriptEvent} (h : r.Flags)
    (hstep : scriptStep r event = some r') : r'.Flags := by
  unfold scriptStep at hstep
  split at hstep
  case h_2 accepts hphase =>
    split at hstep
    · cases hstep
    · cases hstep
      refine ⟨fun hreading ↦ ?_, fun hdemand ↦ Bool.noConfusion hdemand⟩
      obtain ⟨hbefore, haccepts⟩ := Bool.and_eq_true_iff.mp hreading
      simp [h.reading hbefore, haccepts]
  case h_3 hphase =>
    split at hstep
    · cases hstep
    · cases hstep
      exact ⟨h.reading, h.demand⟩
  case h_4 hphase =>
    cases hstep
    refine ⟨fun _ ↦ ?_, fun _ ↦ rfl⟩
    show (r.reading && r.paused) = false
    cases hreading : r.reading with
    | false => rfl
    | true => exact h.reading hreading
  case h_6 hphase =>
    split at hstep
    · cases hstep
      exact ⟨h.reading, h.demand⟩
    · cases hstep
  case h_7 => cases hstep
  all_goals
    cases hstep
    exact ⟨h.reading, h.demand⟩

/-- A step of the thread leaves the flags alone. -/
theorem reader_step_flags {driver driver' : DataPath} {r r' : Reader} {call : ReaderCall}
    (h : r.Flags) (hstep : readerStep driver r call = some (driver', r')) : r'.Flags := by
  cases reader_move hstep <;> exact ⟨h.reading, h.demand⟩

/-- In every state of a session the flags say so. -/
theorem Session.flags_run (portNumber : ULONG) (events : List SessionEvent) :
    ((Session.initial portNumber).run events).reader.Flags := by
  have hnext (s : Session) (event : SessionEvent) (h : s.reader.Flags) :
      (s.next event).reader.Flags := by
    have heffect := s.reader_effect event
    generalize (s.next event).reader = r at heffect ⊢
    cases heffect with
    | kept => exact h
    | thread hstep => exact reader_step_flags h hstep
    | script _ hstep => exact h.script hstep
  have hrun (s : Session) (h : s.reader.Flags) : (s.run events).reader.Flags := by
    induction events generalizing s with
    | nil => exact h
    | cons event events ih => exact ih _ (hnext s event h)
  exact hrun _ ⟨fun h ↦ Bool.noConfusion h, fun h ↦ Bool.noConfusion h⟩

/-! ## Steps of the thread alone -/

/-- The calls of the thread that succeed. -/
def ReaderCall.succeeds (call : ReaderCall) : Prop := call = .ok ∨ call = .issued .ok true

/-- At most `n` successful steps of the thread alone turn the given bytes into chunks. -/
def Session.Drains (s : Session) (n : ℕ) (bytes : List UCHAR) : Prop :=
  ∃ calls : List ReaderCall, calls.length ≤ n ∧ (∀ call ∈ calls, call.succeeds) ∧
    (s.run (calls.map .reader)).reader.chunks.flatten = bytes

/-- One step, then the rest. -/
theorem Session.Drains.cons {s s' : Session} {n : ℕ} {bytes : List UCHAR} {call : ReaderCall}
    (h : s'.Drains n bytes) (hcall : call.succeeds) (hstep : s.step (.reader call) = some s') :
    s.Drains (n + 1) bytes := by
  obtain ⟨calls, hlength, hsucceed, hchunks⟩ := h
  refine ⟨call :: calls, Nat.succ_le_succ hlength, ?_, ?_⟩
  · intro other hother
    cases List.mem_cons.mp hother with
    | inl heq => rwa [heq]
    | inr hrest => exact hsucceed other hrest
  · have hnext : s.next (.reader call) = s' := by
      rw [Session.next, hstep, Option.getD_some]
    show ((s.next (.reader call)).run (calls.map .reader)).reader.chunks.flatten = bytes
    rw [hnext]
    exact hchunks

/-- A step of the thread that the pair does not see. -/
theorem Session.Drains.step {s : Session} {n : ℕ} {bytes : List UCHAR} {r : Reader}
    (h : (⟨s.driver, r, s.writer⟩ : Session).Drains n bytes)
    (hstep : readerStep s.driver s.reader .ok = some (s.driver, r)) : s.Drains (n + 1) bytes :=
  h.cons (.inl rfl) (by rw [Session.step, hstep]; rfl)

/-- A state in which nothing holds the thread back and the ring holds something. -/
structure Session.Ready (s : Session) : Prop where
  reader : s.reader.Sound s.driver
  active : s.driver.pair.active = true
  unread : (s.driver.pair.lane comToCompanion).ring.contents ≠ []
  size : (s.driver.pair.lane comToCompanion).ring.contents.length ≤ 65536
  shutdown : s.reader.shutdown = false
  paused : s.reader.paused = false

/-- The bytes taken out of the ring and those it holds. -/
def Session.available (s : Session) : List UCHAR :=
  removedBytes (laneTrace comToCompanion s.driver.trace) ++
    (s.driver.pair.lane comToCompanion).ring.contents

/-- The read that a ready thread issues is completed when `ReadFile` returns, with all of the
ring. -/
theorem Settled.served {driver : DataPath} {carried : List UCHAR} (h : Settled driver carried)
    (hbefore : ReadsBefore driver driver.nextRequest) (hactive : driver.pair.active = true)
    (hne : (driver.pair.lane comToCompanion).ring.contents ≠ [])
    (hsize : (driver.pair.lane comToCompanion).ring.contents.length ≤ 65536) :
    readResult (laneTrace comToCompanion
      (driver.pairStep (.data (.compRead readBufSize .ok))).trace) driver.nextRequest =
        some (.success, (driver.pair.lane comToCompanion).ring.contents) := by
  obtain ⟨hremoved, hdone⟩ :=
    @comp_read_serves driver.pair ⟨driver.nextRequest, readBufSize⟩ hactive hne hsize
  have houtcome := List.mem_filterMap.mpr
    ⟨_, hdone, show LaneEffect.readOutcome _ = some _ from rfl⟩
  have hentry := List.mem_filterMap.mpr
    ⟨_, hremoved, show LaneEffect.removedEntry _ = some _ from rfl⟩
  have hqueue : driver.pair.compReadQueue ++
      (PairEvent.data (.compRead readBufSize .ok)).readArrival driver.nextRequest comToCompanion =
        [⟨driver.nextRequest, readBufSize⟩] := by
    rw [h.queue]
    rfl
  cases (transfer_step (.data (.compRead readBufSize .ok))).single_read hqueue with
  | pended hafter houtcomes =>
      change _ ∈ readOutcomes (laneTrace comToCompanion
        ((PairEvent.data (.compRead readBufSize .ok)).call driver.nextRequest driver.pair).2)
        at houtcome
      rw [houtcomes] at houtcome
      cases houtcome
  | completed status count bytes hafter houtcomes hremovedEntries =>
      change _ ∈ readOutcomes (laneTrace comToCompanion
        ((PairEvent.data (.compRead readBufSize .ok)).call driver.nextRequest driver.pair).2)
        at houtcome
      change _ ∈ removedEntries (laneTrace comToCompanion
        ((PairEvent.data (.compRead readBufSize .ok)).call driver.nextRequest driver.pair).2)
        at hentry
      rw [trace_step, read_result_new hbefore.outcomes hbefore.removed houtcomes hremovedEntries]
      -- the one outcome and the one entry are those of the read that was served
      rw [houtcomes] at houtcome
      rw [hremovedEntries] at hentry
      cases List.mem_singleton.mp houtcome
      split at hentry
      · cases hentry
      · have hbytes : (driver.pair.lane comToCompanion).ring.contents = bytes :=
          congrArg Prod.snd (List.mem_singleton.mp hentry)
        rw [hbytes, List.take_length]

variable {s : Session}

/-- The last step: the chunk in hand is delivered. -/
theorem drains_deliver {bytes : List UCHAR} (h : s.reader.Sound s.driver)
    (hat : s.reader.point = .deliver bytes) :
    s.Drains 1 (removedBytes (laneTrace comToCompanion s.driver.trace)) := by
  refine ⟨[.ok], Nat.le_refl 1, ?_, ?_⟩
  · intro call hcall
    exact .inl (List.mem_singleton.mp hcall)
  · have htaken := h.taken.1
    rw [Reader.transit, hat] at htaken
    rw [htaken]
    show (s.next (.reader .ok)).reader.chunks.flatten = _
    rw [Session.next, Session.step]
    unfold readerStep
    rw [hat]
    dsimp only
    by_cases hbytes : bytes = [] <;> simp [Reader.chunks, hbytes]

/-- From the call of `ReadFile`. -/
theorem drains_read_file (h : s.Ready) (hat : s.reader.point = .readFile) :
    s.Drains 2 s.available := by
  obtain ⟨-, hsettled⟩ := h.reader.point.settled (by rw [hat]; rfl)
  have hserved := hsettled.served h.reader.before h.active h.unread h.size
  have hstep : readerStep s.driver s.reader (.issued .ok true) =
      some (s.driver.pairStep (.data (.compRead readBufSize .ok)), { s.reader with
        point := .deliver (s.driver.pair.lane comToCompanion).ring.contents }) := by
    unfold readerStep
    rw [hat]
    dsimp only
    rw [hserved]
    rfl
  have hsound := h.reader.thread (by simp) hstep
  have htaken : removedBytes (laneTrace comToCompanion
      (s.driver.pairStep (.data (.compRead readBufSize .ok))).trace) = s.available := by
    rw [hsound.taken.1, Session.available, hsettled.account]
    rfl
  rw [← htaken]
  have hrest : (Session.mk _ _ s.writer).Drains 1 _ := drains_deliver hsound rfl
  exact hrest.cons (.inr rfl) (by rw [Session.step, hstep]; rfl)

/-- A step of a ready thread that issues nothing leaves it ready. -/
theorem Session.Ready.step {r : Reader} (h : s.Ready)
    (hstep : readerStep s.driver s.reader .ok = some (s.driver, r))
    (hshutdown : r.shutdown = s.reader.shutdown) (hpaused : r.paused = s.reader.paused) :
    (⟨s.driver, r, s.writer⟩ : Session).Ready :=
  ⟨h.reader.thread (by simp) hstep, h.active, h.unread, h.size, hshutdown.trans h.shutdown,
    hpaused.trans h.paused⟩

/-- From the reset of the event. -/
theorem drains_reset (h : s.Ready) (hat : s.reader.point = .reset) : s.Drains 3 s.available := by
  have hstep : readerStep s.driver s.reader .ok =
      some (s.driver, { s.reader with point := .readFile }) := by
    unfold readerStep
    rw [hat]
  exact (drains_read_file (h.step hstep rfl rfl) rfl).step hstep

/-- From the test of `paused`. -/
theorem drains_test_paused (h : s.Ready) (hat : s.reader.point = .testPaused) :
    s.Drains 4 s.available := by
  have hstep : readerStep s.driver s.reader .ok =
      some (s.driver, { s.reader with point := .reset }) := by
    unfold readerStep
    rw [hat]
    simp [h.paused]
  exact (drains_reset (h.step hstep rfl rfl) rfl).step hstep

/-- From the test of `shutdown`. -/
theorem drains_test_flag (h : s.Ready) (hat : s.reader.point = .testFlag) :
    s.Drains 5 s.available := by
  have hstep : readerStep s.driver s.reader .ok =
      some (s.driver, { s.reader with point := .testPaused }) := by
    unfold readerStep
    rw [hat]
    simp [h.shutdown]
  exact (drains_test_paused (h.step hstep rfl rfl) rfl).step hstep

theorem Session.Drains.mono {n m : ℕ} {bytes : List UCHAR} (h : s.Drains n bytes) (hle : n ≤ m) :
    s.Drains m bytes := by
  obtain ⟨calls, hlength, hrest⟩ := h
  exact ⟨calls, Nat.le_trans hlength hle, hrest⟩

/-- From the call of `data_tsfn`. -/
theorem drains_hand {bytes : List UCHAR} (h : s.Ready) (hat : s.reader.point = .deliver bytes) :
    s.Drains 6 s.available := by
  have hstep : readerStep s.driver s.reader .ok = some (s.driver, { s.reader with
      point := .testFlag
      calls := if bytes = [] then s.reader.calls else s.reader.calls ++ [bytes] }) := by
    unfold readerStep
    rw [hat]
  exact (drains_test_flag (h.step hstep rfl rfl) rfl).step hstep

/-- From the result of a request, which is there. -/
theorem drains_waiting {id : RequestId} {result : NTSTATUS × List UCHAR} (h : s.Ready)
    (hat : s.reader.point = .waiting id)
    (hfound : readResult (laneTrace comToCompanion s.driver.trace) id = some result) :
    s.Drains 7 s.available := by
  have hstep : readerStep s.driver s.reader .ok =
      some (s.driver, { s.reader with point := afterWait result }) := by
    unfold readerStep
    rw [hat]
    dsimp only
    rw [hfound]
  have hready := h.step hstep rfl rfl
  refine Session.Drains.step ?_ hstep
  obtain ⟨status, bytes⟩ := result
  cases status with
  | success => exact drains_hand hready rfl
  | _ =>
      -- the request was not served: the flag is tested and the next request is issued
      have hstep' : readerStep s.driver { s.reader with point := .errorFlag } .ok =
          some (s.driver, { s.reader with point := .testFlag }) := by
        unfold readerStep
        simp [h.shutdown]
      exact (drains_test_flag (hready.step hstep' rfl rfl) rfl).step hstep'

/-- From every point of a thread that is alive. -/
theorem Session.Ready.drains (h : s.Ready) (hidle : s.driver.pair.ReadsAtEmpty)
    (hdone : s.reader.point ≠ .done) (herror : ∀ aborted, s.reader.point ≠ .readError aborted) :
    s.Drains 7 s.available := by
  cases hat : s.reader.point with
  | create =>
      have hstep : readerStep s.driver s.reader .ok =
          some (s.driver, { s.reader with point := .testFlag }) := by
        unfold readerStep
        rw [hat]
      exact ((drains_test_flag (h.step hstep rfl rfl) rfl).step hstep).mono (by decide)
  | testFlag => exact (drains_test_flag h hat).mono (by decide)
  | testPaused => exact (drains_test_paused h hat).mono (by decide)
  | pausedFlag =>
      have hstep : readerStep s.driver s.reader .ok =
          some (s.driver, { s.reader with point := .sleep }) := by
        unfold readerStep
        rw [hat]
        simp [h.shutdown]
      have hstep' : readerStep s.driver { s.reader with point := .sleep } .ok =
          some (s.driver, { s.reader with point := .testPaused }) := rfl
      have hready := h.step hstep rfl rfl
      have hrest := drains_test_paused (hready.step hstep' rfl rfl) rfl
      exact ((hrest.step hstep').step hstep).mono (by decide)
  | sleep =>
      have hstep : readerStep s.driver s.reader .ok =
          some (s.driver, { s.reader with point := .testPaused }) := by
        unfold readerStep
        rw [hat]
      exact ((drains_test_paused (h.step hstep rfl rfl) rfl).step hstep).mono (by decide)
  | reset => exact (drains_reset h hat).mono (by decide)
  | readFile => exact (drains_read_file h hat).mono (by decide)
  | waiting id =>
      have hpoint := h.reader.point
      unfold AtPoint at hpoint
      rw [hat] at hpoint
      cases hpoint with
      | inl hpended =>
          -- a read is pended only while the ring is empty
          have hempty := hidle comToCompanion (by
            show s.driver.pair.compReadQueue ≠ []
            simp [hpended.queue])
          exact absurd hempty h.unread
      | inr hanswered =>
          obtain ⟨result, hanswered⟩ := hanswered
          exact drains_waiting h hat hanswered.found
  | errorFlag =>
      have hstep : readerStep s.driver s.reader .ok =
          some (s.driver, { s.reader with point := .testFlag }) := by
        unfold readerStep
        rw [hat]
        simp [h.shutdown]
      exact ((drains_test_flag (h.step hstep rfl rfl) rfl).step hstep).mono (by decide)
  | readError aborted => exact absurd hat (herror aborted)
  | deliver bytes => exact (drains_hand h hat).mono (by decide)
  | done => exact absurd hat hdone

/-- What the ring holds reaches the event loop. In every state of a session in which no wait of the
read thread fails, with an active pair whose ring holds something, whose read thread is neither shut
down nor ended by an error, and whose consumer has asked for data or has not stopped it, at most
seven steps of the thread alone, none of which fails, turn what is in transit and all that the ring
holds into chunks. -/
theorem reader_drains_ring (portNumber : ULONG) (events : List SessionEvent)
    (hwaits : WaitsSucceed events)
    (hactive : ((Session.initial portNumber).run events).driver.pair.active = true)
    (hunread : (((Session.initial portNumber).run events).driver.pair.lane
      comToCompanion).ring.contents ≠ [])
    (hasked : ((Session.initial portNumber).run events).reader.paused = false ∨
      ((Session.initial portNumber).run events).reader.demand = true)
    (hshutdown : ((Session.initial portNumber).run events).reader.shutdown = false)
    (hdone : ((Session.initial portNumber).run events).reader.point ≠ .done)
    (herror : ∀ aborted,
      ((Session.initial portNumber).run events).reader.point ≠ .readError aborted) :
    let s := (Session.initial portNumber).run events
    ∃ calls : List ReaderCall, calls.length ≤ 7 ∧
      (∀ call ∈ calls, call = .ok ∨ call = .issued .ok true) ∧
      (s.run (calls.map .reader)).reader.chunks.flatten = s.reader.chunks.flatten ++
        s.reader.transit s.driver ++ (s.driver.pair.lane comToCompanion).ring.contents := by
  intro s
  have h := Session.reached portNumber events
  have hflags := Session.flags_run portNumber events
  have hpaused : s.reader.paused = false :=
    hasked.elim id fun hdemand ↦ hflags.reading (hflags.demand hdemand)
  have hsize : (s.driver.pair.lane comToCompanion).ring.contents.length ≤ 65536 :=
    Nat.le_succ_of_le (h.accounts.unread comToCompanion).2.2
  have hready : s.Ready := ⟨h.reader hwaits, hactive, hunread, hsize, hshutdown, hpaused⟩
  obtain ⟨calls, hlength, hsucceed, hchunks⟩ := hready.drains h.idleReads hdone herror
  refine ⟨calls, hlength, hsucceed, ?_⟩
  rw [hchunks, Session.available, (h.reader hwaits).taken.1]

/-- A byte written before the read thread takes its first step. -/
theorem reader_drains_first_byte :
    let s := (Session.initial 3).run [.driver (.data (.comWrite [65] (by decide) .ok))]
    ∃ calls : List ReaderCall, calls.length ≤ 7 ∧
      (∀ call ∈ calls, call = .ok ∨ call = .issued .ok true) ∧
      (s.run (calls.map .reader)).reader.chunks.flatten = s.reader.chunks.flatten ++
        s.reader.transit s.driver ++ (s.driver.pair.lane comToCompanion).ring.contents :=
  reader_drains_ring 3 [.driver (.data (.comWrite [65] (by decide) .ok))]
    (by simp [WaitsSucceed]) rfl (by decide) (.inl rfl) rfl (by decide) (by decide)

end Stream

end GhostCom
