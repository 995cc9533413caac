import GhostCom.DataPath.IdleReads

/-!
# Comm events of the data path

Bytes that enter the ring to the COM side are an `EV_RXCHAR`, and a ring to the companion that runs
empty is an `EV_TXEMPTY`. The write handlers raise these events where they move the bytes of their
own write. The read handlers move the bytes of pended writes and drain the ring without raising
any. `events_raised_iff` says which steps go unannounced, for every state that the callbacks of a
pair can reach.
-/

namespace GhostCom

/-! ## What the loops over pended writes do -/

/-- With no read pended, the loop over the pended writes leaves in the ring what was there and what
it accepted. -/
theorem drain_writes_contents (wdf : Wdf) (writes : List WriteRequest) (ring : Ring) :
    (gcomDrainWritesToRing wdf ring [] writes).1.ring.contents =
      ring.contents ++ (acceptedEntries (gcomDrainWritesToRing wdf ring [] writes).2).flatMap
        Prod.snd := by
  have h := writes_drained wdf ring [] writes
  generalize gcomDrainWritesToRing wdf ring [] writes = after at h ⊢
  generalize hreads : ([] : List ReadRequest) = reads at h
  induction h with
  | stop => exact (List.append_nil _).symm
  | dropped _ _ _ ih => exact ih hreads
  | @admitted ring _ req _ after _ _ _ ih =>
      subst hreads
      refine (ih rfl).trans ?_
      show (ring.write req).1.contents ++ _ = _
      rw [Ring.write_contents, List.append_assoc]
      rfl

/-- Where there is room, the loop accepts bytes exactly when one of the pended writes has a buffer
that can be mapped. -/
theorem drain_writes_accept_iff (wdf : Wdf) (writes : List WriteRequest) (reads : List ReadRequest)
    (ring : Ring) (hroom : ring.writeAvailable > 0) :
    (∃ entry ∈ acceptedEntries (gcomDrainWritesToRing wdf ring reads writes).2, entry.2 ≠ []) ↔
      ∃ req ∈ writes, retrieveBuffer wdf req.id 1 req.data.length = .ok () := by
  have h := writes_drained wdf ring reads writes
  generalize gcomDrainWritesToRing wdf ring reads writes = after at h ⊢
  induction h with
  | @stop ring _ writes hstop =>
      have hwrites : writes = [] := of_not_not fun hne ↦
        (Ring.writeAvailable_pos_iff.mp hroom).ne (hstop hne)
      rw [hwrites]
      simp [acceptedEntries]
  | @dropped _ _ req rest st _ _ hbuf _ ih =>
      refine (ih hroom).trans ?_
      rw [List.exists_mem_cons_iff]
      exact (or_iff_right (by simp [hbuf])).symm
  | @admitted ring _ req rest _ hfree hbuf _ _ =>
      -- a write that is mapped while there is room enters with at least one byte
      refine iff_of_true ?_ ⟨req, List.mem_cons_self .., hbuf⟩
      refine ⟨(req.id, req.data.take (ring.write req).2.toNat), List.mem_cons_self .., ?_⟩
      rw [Ne, ← List.length_eq_zero_iff, List.length_take]
      have := ulong_pos_iff.mp ((ring.write_pos_iff (le_of_retrieve hbuf)).mpr hfree)
      have := le_of_retrieve hbuf
      show min _ _ ≠ 0
      omega

/-! ## What a read does to its ring -/

section Read

variable (wdf : Wdf) (nonBlocking : Bool) {lane : Lane} (req : ReadRequest)

/-- A read that takes something makes room in the ring. -/
theorem Ring.read_makes_room (ring : Ring) {length : ULONG} (hlength : 0 < length.toNat)
    (hcontents : ring.contents ≠ []) : (ring.read length).1.writeAvailable > 0 := by
  rw [Ring.writeAvailable_pos_iff, Ring.read_contents, Ring.read_capacity, List.length_drop]
  have := List.length_pos_iff.mpr hcontents
  have := ring.contents_length_le
  omega

/-- A read handler admits bytes of pended writes exactly when its buffer can be mapped, the ring
holds something for it, and one of the pended writes has a buffer that can be mapped. -/
theorem evt_read_accepts_iff :
    (∃ entry ∈ acceptedEntries (lane.evtRead wdf nonBlocking req).2.2, entry.2 ≠ []) ↔
      retrieveBuffer wdf req.id 1 req.length.toNat = .ok () ∧ lane.ring.contents ≠ [] ∧
        ∃ w ∈ lane.writeQueue, retrieveBuffer wdf w.id 1 w.data.length = .ok () := by
  unfold Lane.evtRead
  cases hbuf : retrieveBuffer wdf req.id 1 req.length.toNat with
  | error st => simp [acceptedEntries, LaneEffect.acceptedEntry]
  | ok =>
      have hlength := le_of_retrieve hbuf
      simp only [ulong_min_self, true_and]
      by_cases hread : (lane.ring.read req.length).2.1 > 0
      · have hcontents := (lane.ring.read_pos_iff hlength).mp hread
        rw [if_pos hread]
        simp only [accepted_entries_append]
        have hdrain := drain_writes_accept_iff wdf lane.writeQueue lane.readQueue
          (lane.ring.read req.length).1 (lane.ring.read_makes_room hlength hcontents)
        simpa [acceptedEntries, LaneEffect.acceptedEntry, hcontents] using hdrain
      · have hempty : lane.ring.contents = [] :=
          of_not_not (mt (lane.ring.read_pos_iff hlength).mpr hread)
        rw [if_neg hread]
        -- a read that gets nothing makes no room, and the loop over the writes is not run
        have hnone : ¬lane.ring.contents ≠ [] := not_not_intro hempty
        refine iff_of_false ?_ fun h ↦ hnone h.1
        rintro ⟨entry, hentry, -⟩
        revert hentry
        split
        · exact List.not_mem_nil
        · split <;> exact List.not_mem_nil

/-- What a read handler leaves in a ring that holds something. -/
theorem evt_read_contents (h : lane.readQueue ≠ [] → lane.ring.contents = [])
    (hbuf : retrieveBuffer wdf req.id 1 req.length.toNat = .ok ())
    (hcontents : lane.ring.contents ≠ []) :
    (lane.evtRead wdf nonBlocking req).1.ring.contents =
      lane.ring.contents.drop req.length.toNat ++
        (acceptedEntries (lane.evtRead wdf nonBlocking req).2.2).flatMap Prod.snd := by
  obtain ⟨ring, reads, writes⟩ := lane
  have hreads : reads = [] := of_not_not fun hne ↦ hcontents (h hne)
  subst hreads
  have hread := (ring.read_pos_iff (le_of_retrieve hbuf)).mpr hcontents
  unfold Lane.evtRead
  simp only [hbuf, ulong_min_self, if_pos hread]
  rw [drain_writes_contents, Ring.read_contents, accepted_entries_append]
  exact congrArg (fun entries ↦ _ ++ List.flatMap Prod.snd entries) (List.append_nil _).symm

/-- A read handler that fails to map its buffer, or finds the ring empty, leaves the ring as it
is. -/
theorem evt_read_idle (h : ¬(retrieveBuffer wdf req.id 1 req.length.toNat = .ok () ∧
    lane.ring.contents ≠ [])) : (lane.evtRead wdf nonBlocking req).1.ring = lane.ring := by
  unfold Lane.evtRead
  cases hbuf : retrieveBuffer wdf req.id 1 req.length.toNat with
  | error st => rfl
  | ok =>
      have hread : ¬(lane.ring.read req.length).2.1 > 0 := fun hread ↦
        h ⟨hbuf, (lane.ring.read_pos_iff (le_of_retrieve hbuf)).mp hread⟩
      simp only [ulong_min_self, if_neg hread]
      split
      · rfl
      · split <;> rfl

/-- A read handler makes its ring run empty exactly when it takes all of it and no pended write is
admitted. -/
theorem evt_read_runs_empty_iff (h : lane.readQueue ≠ [] → lane.ring.contents = []) :
    ((lane.ring.contents ≠ [] ∨
        ∃ entry ∈ acceptedEntries (lane.evtRead wdf nonBlocking req).2.2, entry.2 ≠ []) ∧
      (lane.evtRead wdf nonBlocking req).1.ring.contents = []) ↔
      retrieveBuffer wdf req.id 1 req.length.toNat = .ok () ∧ lane.ring.contents ≠ [] ∧
        lane.ring.contents.length ≤ req.length.toNat ∧
          ∀ w ∈ lane.writeQueue, retrieveBuffer wdf w.id 1 w.data.length ≠ .ok () := by
  have haccepts : _ ↔ _ ∧ lane.ring.contents ≠ [] ∧ _ := evt_read_accepts_iff wdf nonBlocking req
  by_cases hready : retrieveBuffer wdf req.id 1 req.length.toNat = .ok () ∧ lane.ring.contents ≠ []
  · obtain ⟨hbuf, hcontents⟩ := hready
    rw [evt_read_contents wdf nonBlocking req h hbuf hcontents, List.append_eq_nil_iff,
      List.drop_eq_nil_iff, List.flatMap_eq_nil_iff]
    -- Nothing is left of the bytes accepted exactly when none were accepted.
    have hnone : (∀ entry ∈ acceptedEntries (lane.evtRead wdf nonBlocking req).2.2,
        entry.2 = []) ↔
        ∀ w ∈ lane.writeQueue, retrieveBuffer wdf w.id 1 w.data.length ≠ .ok () := by
      have hnot := not_congr haccepts
      simpa [hbuf, hcontents] using hnot
    rw [hnone]
    simp [hbuf, hcontents]
  · rw [evt_read_idle wdf nonBlocking req hready]
    refine iff_of_false ?_ fun hall ↦ hready ⟨hall.1, hall.2.1⟩
    rintro ⟨hcontents | haccepted, hempty⟩
    · exact hcontents hempty
    · exact (haccepts.mp haccepted).2.1 hempty

end Read

/-! ## Steps and waits -/

/-- Bytes of a write enter the ring of a direction. -/
def Enters (d : Direction) (out : List Effect) : Prop :=
  ∃ entry ∈ acceptedEntries (laneTrace d out), entry.2 ≠ []

/-- The ring to the companion goes from holding bytes, which it had before the step or got in it, to
empty. -/
def RunsEmpty (pp : PortPair) (result : PortPair × List Effect) : Prop :=
  (pp.comToCompanion.contents ≠ [] ∨ Enters .comToCompanion result.2) ∧
    result.1.comToCompanion.contents = []

/-- The `WAIT_ON_MASK` is pended with a usable buffer, and its mask has the event. -/
structure Awaits (wdf : Wdf) (pp : PortPair) (event : ULONG) (w : WaitRequest) : Prop where
  pended : w ∈ pp.waitMaskQueue
  enabled : pp.signalState.waitMask &&& event ≠ 0
  usable : retrieveBuffer wdf w.id 4 w.outputLength = .ok ()

/-- Every wait for the event is completed with it. -/
def Reported (wdf : Wdf) (pp : PortPair) (event : ULONG) (out : List Effect) : Prop :=
  ∀ w, Awaits wdf pp event w →
    ∃ events, events &&& event ≠ 0 ∧ .completed w.id .success 4 (.ulong events) ∈ out

/-- The events of a step are reported. -/
structure Announced (wdf : Wdf) (pp : PortPair) (result : PortPair × List Effect) : Prop where
  rxChar : Enters .companionToCom result.2 → Reported wdf pp serialEvRxChar result.2
  txEmpty : RunsEmpty pp result → Reported wdf pp serialEvTxEmpty result.2

/-- The COM read makes room for a pended companion write with a usable buffer. -/
def AdmitsWrite (wdf : Wdf) (pp : PortPair) (req : ReadRequest) : Prop :=
  pp.active = true ∧ retrieveBuffer wdf req.id 1 req.length.toNat = .ok () ∧
    pp.companionToCom.contents ≠ [] ∧
      ∃ w ∈ pp.compWriteQueue, retrieveBuffer wdf w.id 1 w.data.length = .ok ()

/-- The companion read takes all that the ring holds, and no COM write with a usable buffer is
pended. -/
def TakesAll (wdf : Wdf) (pp : PortPair) (req : ReadRequest) : Prop :=
  pp.active = true ∧ retrieveBuffer wdf req.id 1 req.length.toNat = .ok () ∧
    pp.comToCompanion.contents ≠ [] ∧ pp.comToCompanion.contents.length ≤ req.length.toNat ∧
      ∀ w ∈ pp.comWriteQueue, retrieveBuffer wdf w.id 1 w.data.length ≠ .ok ()

namespace DataEvent

/-- The outcomes of the WDF calls of an event. -/
def wdf : DataEvent → Wdf
  | .comRead _ wdf | .comWrite _ _ wdf | .compRead _ wdf | .compWrite _ _ wdf
  | .setTimeouts _ _ wdf => wdf
  | .cancel _ => .ok

/-- A read that moves an event somebody waits for: a COM read that admits a companion write, or a
companion read that takes all there is. -/
def Unannounced (id : RequestId) (pp : PortPair) : DataEvent → Prop
  | .comRead length wdf =>
      AdmitsWrite wdf pp ⟨id, length⟩ ∧ ∃ w, Awaits wdf pp serialEvRxChar w
  | .compRead length wdf =>
      TakesAll wdf pp ⟨id, length⟩ ∧ ∃ w, Awaits wdf pp serialEvTxEmpty w
  | _ => False

end DataEvent

/-- `GcomCheckWaitMask` completes every pended wait with the enabled events. -/
theorem check_wait_mask_completes (wdf : Wdf) {pp pp' : PortPair} {events : ULONG}
    (hactive : pp'.active = true) (hqueue : pp'.waitMaskQueue = pp.waitMaskQueue)
    (hmask : pp'.signalState.waitMask = pp.signalState.waitMask)
    (hevents : events &&& pp.signalState.waitMask ≠ 0) {w : WaitRequest}
    (hw : w ∈ pp.waitMaskQueue) :
    completeMaskWait wdf (events &&& pp.signalState.waitMask) w ∈
      (gcomCheckWaitMask wdf pp' events).2 := by
  unfold gcomCheckWaitMask
  rw [if_neg (by simp [hactive]), hmask]
  dsimp only
  rw [if_neg hevents, hqueue]
  exact List.mem_map_of_mem hw

/-- The comm event that a handler raises is reported to everyone who waits for it. -/
theorem check_wait_mask_reports (wdf : Wdf) {pp pp' : PortPair} {event : ULONG}
    (hactive : pp'.active = true) (hqueue : pp'.waitMaskQueue = pp.waitMaskQueue)
    (hmask : pp'.signalState.waitMask = pp.signalState.waitMask) (out : List Effect) :
    Reported wdf pp event (out ++ (gcomCheckWaitMask wdf pp' event).2) := by
  intro w hw
  have hevent : event &&& pp.signalState.waitMask ≠ 0 := by
    rw [BitVec.and_comm]
    exact hw.enabled
  refine ⟨event &&& pp.signalState.waitMask, ?_, List.mem_append_right _ ?_⟩
  · rw [BitVec.and_comm, ← BitVec.and_assoc, BitVec.and_self]
    exact hevent
  · have hcompleted := check_wait_mask_completes wdf hactive hqueue hmask hevent hw.pended
    rw [completeMaskWait, hw.usable] at hcompleted
    exact hcompleted

/-- A handler that completes no wait reports an event to nobody. -/
theorem reported_lane_effects_iff (wdf : Wdf) (pp : PortPair) (event : ULONG) (d : Direction)
    (out : List LaneEffect) :
    Reported wdf pp event (laneEffects d out) ↔ ¬∃ w, Awaits wdf pp event w := by
  constructor
  · rintro hreported ⟨w, hw⟩
    obtain ⟨events, -, hmem⟩ := hreported w hw
    obtain ⟨effect, -, heq⟩ := List.mem_map.mp hmem
    cases heq
  · intro hnone w hw
    exact absurd ⟨w, hw⟩ hnone

/-! ## Which steps are announced -/

section Handlers

variable (wdf : Wdf) (pp : PortPair)

/-- Bytes enter a ring only through effects on its lane. -/
theorem enters_lane_effects_iff (d direction : Direction) (out : List LaneEffect) :
    Enters d (laneEffects direction out) ↔
      direction = d ∧ ∃ entry ∈ acceptedEntries out, entry.2 ≠ [] := by
  unfold Enters
  rw [lane_trace_lane_effects]
  by_cases hd : direction = d
  · rw [if_pos hd]
    exact (and_iff_right hd).symm
  · rw [if_neg hd]
    exact iff_of_false (by rintro ⟨entry, hentry, -⟩; cases hentry) fun h ↦ hd h.1

/-- A step that moves no bytes announces all there is. -/
theorem announced_of_idle {result : PortPair × List Effect}
    (hring : result.1.comToCompanion = pp.comToCompanion)
    (hentries : ∀ d, acceptedEntries (laneTrace d result.2) = []) : Announced wdf pp result := by
  have hnone (d : Direction) : ¬Enters d result.2 := by
    rintro ⟨entry, hentry, -⟩
    rw [hentries d] at hentry
    cases hentry
  refine ⟨fun henters ↦ absurd henters (hnone _), ?_⟩
  rintro ⟨hheld | henters, hempty⟩
  · rw [hring] at hempty
    exact absurd hempty hheld
  · exact absurd henters (hnone _)

/-- A COM read is announced unless it admits a companion write that somebody waits for. -/
theorem com_read_announced_iff (req : ReadRequest) :
    Announced wdf pp (gcomComEvtRead wdf pp req) ↔
      ¬(AdmitsWrite wdf pp req ∧ ∃ w, Awaits wdf pp serialEvRxChar w) := by
  unfold gcomComEvtRead
  by_cases hactive : pp.active = true
  · rw [if_neg (by simp [hactive])]
    dsimp only
    have henters := (enters_lane_effects_iff .companionToCom .companionToCom
      ((pp.lane .companionToCom).evtRead wdf pp.timeouts.nonBlocking req).2.2).trans
      (and_iff_right rfl |>.trans (evt_read_accepts_iff wdf pp.timeouts.nonBlocking req))
    have hadmits : AdmitsWrite wdf pp req ↔ Enters .companionToCom (laneEffects .companionToCom
        ((pp.lane .companionToCom).evtRead wdf pp.timeouts.nonBlocking req).2.2) :=
      (and_iff_right hactive).trans henters.symm
    rw [hadmits]
    constructor
    · rintro hannounced ⟨hin, hawaited⟩
      exact (reported_lane_effects_iff ..).mp (hannounced.rxChar hin) hawaited
    · intro hnot
      refine ⟨fun hin ↦ (reported_lane_effects_iff ..).mpr fun hawaited ↦ hnot ⟨hin, hawaited⟩, ?_⟩
      -- a COM read does not touch the ring to the companion
      rintro ⟨hheld | hin, hempty⟩
      · exact absurd hempty hheld
      · exact absurd ((enters_lane_effects_iff ..).mp hin).1 nofun
  · rw [if_pos (by simpa using hactive)]
    refine iff_of_true ?_ fun h ↦ hactive h.1.1
    exact announced_of_idle wdf pp rfl fun d ↦ by cases d <;> rfl

/-- A companion read is announced unless it takes all there is and somebody waits for that. -/
theorem comp_read_announced_iff (req : ReadRequest) (h : pp.ReadsAtEmpty) :
    Announced wdf pp (gcomCompEvtRead wdf pp req) ↔
      ¬(TakesAll wdf pp req ∧ ∃ w, Awaits wdf pp serialEvTxEmpty w) := by
  unfold gcomCompEvtRead
  by_cases hactive : pp.active = true
  · rw [if_neg (by simp [hactive])]
    dsimp only
    have hempties := evt_read_runs_empty_iff wdf false req (h .comToCompanion)
    have htakes : TakesAll wdf pp req ↔ RunsEmpty pp
        (pp.withLane .comToCompanion ((pp.lane .comToCompanion).evtRead wdf false req).1,
          laneEffects .comToCompanion ((pp.lane .comToCompanion).evtRead wdf false req).2.2) := by
      refine (and_iff_right hactive).trans (hempties.symm.trans (and_congr_left' ?_))
      refine or_congr_right ((and_iff_right rfl).symm.trans
        (enters_lane_effects_iff .comToCompanion .comToCompanion _).symm)
    rw [htakes]
    constructor
    · rintro hannounced ⟨hruns, hawaited⟩
      exact (reported_lane_effects_iff ..).mp (hannounced.txEmpty hruns) hawaited
    · intro hnot
      -- nothing enters the ring to the COM side here
      refine ⟨fun hin ↦ absurd ((enters_lane_effects_iff ..).mp hin).1 nofun, fun hruns ↦ ?_⟩
      exact (reported_lane_effects_iff ..).mpr fun hawaited ↦ hnot ⟨hruns, hawaited⟩
  · rw [if_pos (by simpa using hactive)]
    refine iff_of_true ?_ fun h ↦ hactive h.1.1
    exact announced_of_idle wdf pp rfl fun d ↦ by cases d <;> rfl

/-- The body of a write handler that counts no bytes moves none. -/
theorem evt_write_idle {lane : Lane} (req : WriteRequest) (h : ¬(lane.evtWrite wdf req).2.1 > 0) :
    (lane.evtWrite wdf req).1.ring = lane.ring ∧
      acceptedEntries (lane.evtWrite wdf req).2.2 = [] := by
  unfold Lane.evtWrite at h ⊢
  cases hbuf : retrieveBuffer wdf req.id 1 req.data.length with
  | error st => exact ⟨rfl, rfl⟩
  | ok =>
      rw [hbuf] at h
      by_cases hwritten : (lane.ring.write req).2 > 0
      · simp only [if_pos hwritten] at h
        exact absurd hwritten h
      · simp only [if_neg hwritten]
        split <;> exact ⟨rfl, rfl⟩

/-- A companion write announces the bytes it moves. -/
theorem comp_write_announced (req : WriteRequest) :
    Announced wdf pp (gcomCompEvtWrite wdf pp req) := by
  unfold gcomCompEvtWrite
  by_cases hactive : pp.active = true
  · rw [if_neg (by simp [hactive])]
    dsimp only
    by_cases hwritten : ((pp.lane .companionToCom).evtWrite wdf req).2.1 > 0
    · rw [if_pos hwritten]
      refine ⟨fun _ ↦ ?_, ?_⟩
      · apply check_wait_mask_reports
        · exact hactive
        · rfl
        · rfl
      · have hlane := congrArg Lane.ring (check_wait_mask_lane wdf
          (pp.withLane .companionToCom ((pp.lane .companionToCom).evtWrite wdf req).1)
          serialEvRxChar .comToCompanion)
        rintro ⟨hheld | ⟨entry, hentry, -⟩, hempty⟩
        · exact absurd ((congrArg Ring.contents hlane).symm.trans hempty) hheld
        · rw [lane_trace_append, lane_trace_check_wait_mask, lane_trace_lane_effects,
            if_neg nofun] at hentry
          cases hentry
    · rw [if_neg hwritten]
      refine announced_of_idle wdf pp rfl fun d ↦ ?_
      rw [lane_trace_lane_effects]
      split
      · exact (evt_write_idle wdf req hwritten).2
      · rfl
  · rw [if_pos (by simpa using hactive)]
    exact announced_of_idle wdf pp rfl fun d ↦ by cases d <;> rfl

/-- A COM write announces a ring that it finds or leaves empty. -/
theorem com_write_announced (req : WriteRequest) :
    Announced wdf pp (gcomComEvtWrite wdf pp req) := by
  unfold gcomComEvtWrite
  by_cases hactive : pp.active = true
  · rw [if_neg (by simp [hactive])]
    dsimp only
    by_cases hwritten : ((pp.lane .comToCompanion).evtWrite wdf req).2.1 > 0
    · split
      · next hraised =>
          refine ⟨?_, fun _ ↦ ?_⟩
          · rintro ⟨entry, hentry, -⟩
            rw [lane_trace_append, lane_trace_check_wait_mask, lane_trace_lane_effects,
              if_neg nofun] at hentry
            cases hentry
          · apply check_wait_mask_reports
            · exact hactive
            · rfl
            · rfl
      · next hquiet =>
          refine ⟨fun hin ↦ absurd ((enters_lane_effects_iff ..).mp hin).1 nofun, ?_⟩
          -- the handler was quiet because bytes are left in the ring
          rintro ⟨-, hempty⟩
          exact (hquiet (Bool.and_eq_true_iff.mpr
            ⟨decide_eq_true hwritten, (Ring.isEmpty_iff _).mpr hempty⟩)).elim
    · rw [if_neg fun hraised ↦ hwritten (of_decide_eq_true (Bool.and_eq_true_iff.mp hraised).1)]
      obtain ⟨hring, hentries⟩ := evt_write_idle wdf req hwritten
      refine announced_of_idle wdf pp hring fun d ↦ ?_
      rw [lane_trace_lane_effects]
      split
      · exact hentries
      · rfl
  · rw [if_pos (by simpa using hactive)]
    exact announced_of_idle wdf pp rfl fun d ↦ by cases d <;> rfl

/-- A change of the timeouts moves nothing. -/
theorem set_timeouts_announced (req : IoctlRequest) (timeouts : SerialTimeouts) :
    Announced wdf pp (gcomComEvtIoctl wdf pp req (.setTimeouts timeouts)) := by
  unfold gcomComEvtIoctl
  split
  · exact announced_of_idle wdf pp rfl fun d ↦ rfl
  · dsimp only [setRequest]
    split <;> exact announced_of_idle wdf pp rfl fun d ↦ rfl

/-- Nor does a cancellation. -/
theorem cancel_announced (id : RequestId) : Announced wdf pp (pp.cancel id) := by
  refine announced_of_idle wdf pp rfl fun d ↦ ?_
  have hnone (lane : Lane) : acceptedEntries (lane.cancel id).2 = [] := by
    refine List.filterMap_eq_nil_iff.mpr fun effect heffect ↦ ?_
    rcases List.mem_append.mp heffect with hread | hwrite
    · obtain ⟨req, -, rfl⟩ := List.mem_map.mp hread
      rfl
    · obtain ⟨req, -, rfl⟩ := List.mem_map.mp hwrite
      rfl
  unfold PortPair.cancel
  simp only [lane_trace_append, lane_trace_lane_effects, accepted_entries_append]
  cases d with
  | comToCompanion => exact (List.append_nil _).trans (hnone _)
  | companionToCom => exact hnone _

end Handlers

/-- Whatever the callbacks have done to a pair, a read or write handler announces the bytes it moves
exactly when it is not a read that admits a companion write, or takes all that the ring to the
companion holds, while somebody waits for the event. -/
theorem events_raised_iff (portNumber : ULONG) (events : List PairEvent) (e : DataEvent) :
    let s := (DataPath.initial portNumber).pairRun events
    Announced e.wdf s.pair (e.call s.nextRequest s.pair) ↔ ¬e.Unannounced s.nextRequest s.pair := by
  intro s
  have hreads : s.pair.ReadsAtEmpty := DataPath.pair_run_reads portNumber events
  cases e with
  | comRead length wdf => exact com_read_announced_iff wdf s.pair ⟨s.nextRequest, length⟩
  | compRead length wdf => exact comp_read_announced_iff wdf s.pair ⟨s.nextRequest, length⟩ hreads
  | comWrite data fits wdf => exact iff_of_true (com_write_announced wdf s.pair _) nofun
  | compWrite data fits wdf => exact iff_of_true (comp_write_announced wdf s.pair _) nofun
  | setTimeouts inputLength timeouts wdf =>
      exact iff_of_true (set_timeouts_announced wdf s.pair _ timeouts) nofun
  | cancel request => exact iff_of_true (cancel_announced _ s.pair request) nofun

/-- A new mask and a wait for it, on a pair that is active. -/
theorem wait_under_mask {pp : PortPair} (hactive : pp.active = true) (mask : ULONG)
    (id id' : RequestId) :
    let masked := (gcomComEvtIoctl .ok pp ⟨id, 4, 0⟩ (.setWaitMask mask)).1
    let waiting := (gcomComEvtIoctl .ok masked ⟨id', 0, 4⟩ .waitOnMask).1
    waiting.active = true ∧ (∀ d, waiting.lane d = pp.lane d) ∧
      waiting.signalState.waitMask = mask ∧ waiting.waitMaskQueue = [⟨id', 4⟩] := by
  obtain ⟨portNumber, companionIndex, active⟩ := pp
  cases show active = true from hactive
  exact ⟨rfl, fun d ↦ by cases d <;> rfl, rfl, rfl⟩

theorem seven_fits : [(7 : UCHAR)].length < 2 ^ 32 := one_byte_fits 7

/-- A byte written to the companion, and a wait for the ring to run empty. -/
def waitForEmpty : List PairEvent :=
  [.data (.comWrite [7] seven_fits .ok), .comIoctl 4 0 (.setWaitMask serialEvTxEmpty) .ok,
    .comIoctl 0 4 .waitOnMask .ok]

/-- The companion reads the byte, and the wait stays pended. -/
theorem empty_ring_unannounced :
    ¬∀ (portNumber : ULONG) (events : List PairEvent) (e : DataEvent),
      let s := (DataPath.initial portNumber).pairRun events
      Announced e.wdf s.pair (e.call s.nextRequest s.pair) := by
  intro h
  have hannounced := h 10 waitForEmpty (.compRead 1 .ok)
  have hwrite : (gcomComEvtWrite .ok (.initial 10) ⟨0, [7], by decide⟩).1.lane .comToCompanion =
      ⟨(Ring.initial.write ⟨0, [7], by decide⟩).1, [], []⟩ := by
    rw [com_write_lane _ _ _ rfl, PortPair.initial_lane]
    exact Lane.evt_write_direct (by decide) (by simp)
  have hwriter : (gcomComEvtWrite .ok (.initial 10) ⟨0, [7], by decide⟩).1.active = true :=
    com_write_active ..
  obtain ⟨hactive, hlanes, hmask, hqueue⟩ := wait_under_mask hwriter serialEvTxEmpty 1 2
  have hlane := (hlanes .comToCompanion).trans hwrite
  have hcontents : (Ring.initial.write ⟨0, [7], by decide⟩).1.contents = [7] := by
    rw [Ring.write_contents, Lane.written_data]
    simp
  have hring := (congrArg (fun lane ↦ lane.ring.contents) hlane).trans hcontents
  have hwrites := congrArg Lane.writeQueue hlane
  refine (comp_read_announced_iff .ok _ ⟨3, 1⟩ ?_).mp hannounced ⟨⟨hactive, rfl, ?_, ?_, ?_⟩,
    ⟨⟨2, 4⟩, ?_, ?_, rfl⟩⟩
  · exact DataPath.pair_run_reads 10 waitForEmpty
  · exact fun hempty ↦ List.cons_ne_nil _ _ (hring.symm.trans hempty)
  · exact Nat.le_of_eq (congrArg List.length hring)
  · intro w hw
    rw [show ((DataPath.initial 10).pairRun waitForEmpty).pair.comWriteQueue = [] from
      hwrites] at hw
    cases hw
  · exact hqueue ▸ List.mem_cons_self ..
  · exact hmask ▸ by decide

end GhostCom
