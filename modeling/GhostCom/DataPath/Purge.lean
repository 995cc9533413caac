import GhostCom.DataPath.Runs
import GhostCom.Library.Transition

/-!
# Purges

Runs of the data path with `IOCTL_SERIAL_PURGE`, whose sections may interleave with other callbacks:
a queue is purged under `TXABORT` or `RXABORT`, and rings are flushed under `TXCLEAR` or `RXCLEAR`.
Flushing a ring makes room without admitting the writes pended for it, which the read handlers do
whenever they make room. `purge_unstranded_iff` gives the exact condition under which that is
harmless: no write is pended in a direction when its ring is flushed.
-/

namespace GhostCom

open Channel (Moves)
open Transition (EveryStep)

/-- What can happen on a data path with purges. -/
inductive PurgeEvent where
  | data (e : DataEvent)
  | abort (d : Direction)
  | clear (tx rx : Bool)

/-- The directions a `clear` section flushes. -/
def flushed (tx rx : Bool) : Direction → Bool
  | .comToCompanion => tx
  | .companionToCom => rx

namespace DataPath

/-- One event. -/
def purgeStep (s : DataPath) : PurgeEvent → DataPath
  | .data e => s.step e
  | .abort d =>
      { s with pair := (purgeQueue s.pair d).1, trace := s.trace ++ (purgeQueue s.pair d).2 }
  | .clear tx rx => { s with pair := flushRings s.pair tx rx }

/-- A run of events. -/
def purgeRun (s : DataPath) (events : List PurgeEvent) : DataPath := events.foldl purgeStep s

/-- `purgeStep` as a transition system in which every event is enabled. -/
def purgeNext (s : DataPath) (e : PurgeEvent) : Option DataPath := some (s.purgeStep e)

/-- Pended writes are never stranded or overtaken: in each direction a write is pended only while
the ring is full, no write is pended next to an empty ring and a pended read, and the writes
accepted so far arrived in this order, before all that are pended. -/
structure Unstranded (s : DataPath) : Prop where
  full : ∀ d, (s.pair.lane d).writeQueue ≠ [] →
    (s.pair.lane d).ring.contents.length = (s.pair.lane d).ring.capacity
  notIdle : ∀ d, ¬ ((s.pair.lane d).writeQueue ≠ [] ∧ (s.pair.lane d).ring.contents = [] ∧
    (s.pair.lane d).readQueue ≠ [])
  inOrder : ∀ d, ((acceptedEntries (laneTrace d s.trace)).map Prod.fst ++
    (s.pair.lane d).writeQueue.map (·.id)).Pairwise (· < ·)

end DataPath

/-- No write is pended in a direction whose ring the event flushes. -/
def PurgeEvent.Harmless (s : DataPath) : PurgeEvent → Prop
  | .clear tx rx => ∀ d, flushed tx rx d = true → (s.pair.lane d).writeQueue = []
  | _ => True

/-- The sections of one `IOCTL_SERIAL_PURGE`. -/
def purgeSections (flags : ULONG) : List PurgeEvent :=
  (if isTrue (flags &&& serialPurgeTxAbort) then [.abort .comToCompanion] else []) ++
  (if isTrue (flags &&& serialPurgeRxAbort) then [.abort .companionToCom] else []) ++
  [.clear (isTrue (flags &&& serialPurgeTxClear)) (isTrue (flags &&& serialPurgeRxClear))]

/-- The sections of a request that is not interrupted do what the request does. -/
theorem purge_sections (s : DataPath) (flags : ULONG) :
    s.purgeRun (purgeSections flags) =
      { s with pair := (purge s.pair flags).1, trace := s.trace ++ (purge s.pair flags).2 } := by
  unfold purgeSections purge
  cases isTrue (flags &&& serialPurgeTxAbort) <;>
    cases isTrue (flags &&& serialPurgeRxAbort) <;>
    simp [DataPath.purgeRun, DataPath.purgeStep]

/-- Flushing rings changes the flushed directions only. -/
theorem flush_rings_lane (pp : PortPair) (tx rx : Bool) (d : Direction) :
    (flushRings pp tx rx).lane d = if flushed tx rx d then (pp.lane d).flush else pp.lane d := by
  cases tx <;> cases rx <;> cases d <;> rfl

/-- Purging a queue is a step of every lane. -/
theorem purge_queue_step (pp : PortPair) (clock : ℕ) (direction d : Direction)
    (h : ∀ d, (pp.lane d).Settled) :
    Lane.Step clock clock (pp.lane d) ((purgeQueue pp direction).1.lane d)
      (laneTrace d (purgeQueue pp direction).2) := by
  cases direction with
  | comToCompanion =>
      simp only [purgeQueue, PortPair.lane_withLane, lane_trace_lane_effects]
      cases d with
      | comToCompanion => exact Lane.purge_writes_step (h _)
      | companionToCom => exact .refl (h _)
  | companionToCom =>
      simp only [purgeQueue, PortPair.lane_withLane, lane_trace_lane_effects]
      cases d with
      | comToCompanion => exact .refl (h _)
      | companionToCom => exact Lane.purge_reads_step (h _)

namespace DataPath

/-- What a run with harmless purges keeps in every direction. -/
structure Orderly (s : DataPath) : Prop where
  inOrder : ∀ d, (s.channel d).InOrder
  settled : ∀ d, (s.pair.lane d).Settled
  capacity : ∀ d, (s.pair.lane d).ring.capacity = 65535

theorem initial_orderly (portNumber : ULONG) : (initial portNumber).Orderly where
  inOrder := (initial_sound portNumber).inOrder
  settled := (initial_sound portNumber).settled
  capacity d := by simp [initial, PortPair.initial_lane]

/-- Channel moves into a settled state keep a state orderly. -/
theorem Orderly.of_moves {s t : DataPath} (h : s.Orderly)
    (hmoves : ∀ d, Moves (s.channel d) (t.channel d)) (ht : ∀ d, (t.pair.lane d).Settled) :
    t.Orderly :=
  ⟨fun d ↦ (hmoves d).inOrder (h.inOrder d), ht,
    fun d ↦ (hmoves d).capacity_eq.trans (h.capacity d)⟩

/-- A flush keeps a state orderly when no write is pended for the ring. -/
theorem Orderly.clear {s : DataPath} (h : s.Orderly) {tx rx : Bool}
    (hguard : ∀ d, flushed tx rx d = true → (s.pair.lane d).writeQueue = []) :
    (s.purgeStep (.clear tx rx)).Orderly := by
  have hlane (d : Direction) := flush_rings_lane s.pair tx rx d
  refine ⟨fun d ↦ ?_, fun d ↦ ?_, fun d ↦ ?_⟩
  · show ((flushRings s.pair tx rx).lane d |>.channel s.nextRequest _).InOrder
    rw [hlane]
    split
    · have hdiscard := (h.inOrder d).discard
      simpa [channel, Lane.channel, Lane.flush, purgeStep] using hdiscard
    · exact h.inOrder d
  · show ((flushRings s.pair tx rx).lane d).Settled
    rw [hlane]
    split
    · next hflush =>
        refine ⟨fun _ ↦ Ring.flush_contents _, fun hne ↦ absurd (hguard d hflush) hne⟩
    · exact h.settled d
  · show ((flushRings s.pair tx rx).lane d).ring.capacity = 65535
    rw [hlane]
    split <;> exact h.capacity d

/-- A step that meets the condition keeps a state orderly. -/
theorem Orderly.step {s : DataPath} (h : s.Orderly) (e : PurgeEvent) (hguard : e.Harmless s) :
    (s.purgeStep e).Orderly := by
  cases e with
  | data e =>
      exact h.of_moves (step_moves h.settled e)
        fun d ↦ (e.lane_step s.nextRequest s.pair d h.settled).settled
  | abort direction =>
      have hstep (d : Direction) :=
        purge_queue_step s.pair s.nextRequest direction d h.settled
      refine h.of_moves (fun d ↦ ?_) fun d ↦ (hstep d).settled
      simpa [channel, purgeStep] using (hstep d).moves (laneTrace d s.trace)
  | clear tx rx => exact h.clear hguard

/-- In an orderly state no pended write is stranded or overtaken. -/
theorem Orderly.unstranded {s : DataPath} (h : s.Orderly) : s.Unstranded where
  full d := (h.settled d).writes
  notIdle d := by
    rintro ⟨hwrites, hempty, _⟩
    have hfull := (h.settled d).writes hwrites
    rw [hempty, h.capacity d] at hfull
    exact absurd hfull (by decide)
  inOrder d := by
    have hwriters := (h.inOrder d).writers
    simp only [Channel.State.writerIds, channel, Lane.channel, List.map_map] at hwriters
    exact hwriters

/-- After a step from an orderly state the property holds exactly when the step met the
condition. -/
theorem Orderly.unstranded_iff {s : DataPath} (h : s.Orderly) (e : PurgeEvent) :
    (s.purgeStep e).Unstranded ↔ e.Harmless s := by
  constructor
  · intro hnext
    cases e with
    | data | abort => trivial
    | clear tx rx =>
        intro d hflush
        by_contra hne
        -- the flushed ring is empty, yet a write is pended for it
        have hlane : ((s.purgeStep (.clear tx rx)).pair.lane d) = (s.pair.lane d).flush := by
          show (flushRings s.pair tx rx).lane d = _
          rw [flush_rings_lane, if_pos hflush]
        have hfull := hnext.full d
        rw [hlane] at hfull
        have hcontra := hfull hne
        rw [show (s.pair.lane d).flush.ring = (s.pair.lane d).ring.flush from rfl,
          Ring.flush_contents, Ring.flush_capacity, h.capacity d] at hcontra
        exact absurd hcontra (by decide)
  · intro hguard
    exact (h.step e hguard).unstranded

end DataPath

/-- In a run with purges no pended write is ever stranded or overtaken exactly when no write is
pended in a direction at the moments its ring is flushed. -/
theorem purge_unstranded_iff (portNumber : ULONG) (events : List PurgeEvent) :
    EveryStep DataPath.purgeNext (fun _ _ t ↦ t.Unstranded) (.initial portNumber) events ↔
      EveryStep DataPath.purgeNext (fun s e _ ↦ e.Harmless s) (.initial portNumber) events := by
  refine Transition.everyStep_iff (I := DataPath.Orderly) ?_ ?_ (DataPath.initial_orderly _)
  · intro s e t hs ht hnext
    obtain rfl := Option.some.inj ht
    exact hs.step e ((hs.unstranded_iff e).mp hnext)
  · intro s e t hs ht
    obtain rfl := Option.some.inj ht
    exact hs.unstranded_iff e

/-- One write fills the ring to the companion, another one is pended, and the ring is flushed. -/
def strandingRun (data : List UCHAR) (fits : data.length < 2 ^ 32) : List PurgeEvent :=
  [.data (.comWrite data fits .ok), .data (.comWrite [1] (by decide) .ok), .clear true false]

/-- Whatever fills the ring, the second write stays pended next to an empty ring. -/
theorem stranding_run_lane (portNumber : ULONG) {data : List UCHAR} (fits : data.length < 2 ^ 32)
    (hdata : data.length = 65535) :
    ((DataPath.initial portNumber).purgeRun (strandingRun data fits)).pair.lane .comToCompanion =
      ⟨(Ring.initial.write ⟨0, data, fits⟩).1.flush, [], [⟨1, [1], by decide⟩]⟩ := by
  have hfirst : ((Lane.mk .initial [] []).evtWrite .ok ⟨0, data, fits⟩).1 =
      ⟨(Ring.initial.write ⟨0, data, fits⟩).1, [], []⟩ :=
    Lane.evt_write_direct (by rw [hdata]; decide) (by simp)
  have hsecond : ((Lane.mk (Ring.initial.write ⟨0, data, fits⟩).1 [] []).evtWrite .ok
      ⟨1, [1], by decide⟩).1 =
      ⟨(Ring.initial.write ⟨0, data, fits⟩).1, [], [⟨1, [1], by decide⟩]⟩ := by
    refine Lane.evt_write_pended (by decide) ?_
    rw [Ring.write_contents, Lane.written_data]
    simp [hdata]
  show (flushRings (gcomComEvtWrite .ok (gcomComEvtWrite .ok (.initial portNumber)
    ⟨0, data, fits⟩).1 ⟨1, [1], by decide⟩).1 true false).lane .comToCompanion = _
  rw [flush_rings_lane, flushed, if_pos rfl, com_write_lane _ _ _ (com_write_active _ _ _),
    com_write_lane _ _ _ rfl, PortPair.initial_lane, hfirst, hsecond]
  rfl

/-- Filling the ring with zeros, pending a one-byte write and flushing the ring strands the
write. -/
theorem purge_strands_write :
    ¬ ((DataPath.initial 10).purgeRun (strandingRun (List.replicate 65535 0)
      (by rw [List.length_replicate]; decide))).Unstranded := by
  intro h
  have hfull := h.full .comToCompanion
  rw [stranding_run_lane 10 _ List.length_replicate] at hfull
  have hcontra := hfull (List.cons_ne_nil _ _)
  rw [Ring.flush_contents, Ring.flush_capacity, Ring.write_capacity, Ring.initial_capacity]
    at hcontra
  exact absurd hcontra (by decide)

end GhostCom
