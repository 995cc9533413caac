import GhostCom.DataPath.LaneSteps
import GhostCom.Driver.ComIoctl
import GhostCom.Driver.Handlers

/-!
# Runs of the data path

Reads and writes on both sides of a pair, changes of the timeouts and cancellations, in any order.
Requests are numbered as they arrive, and `trace` records everything the callbacks did. In each
direction every event is a `Lane.Step`, so the channel moves of one event chain into those of a run.
-/

namespace GhostCom

open Channel (Moves)

/-- A pair on the data path: the handle of the next request and the effects so far. -/
structure DataPath where
  pair : PortPair
  nextRequest : RequestId
  trace : List Effect

/-- What can happen on the data path. `wdf` is the outcome of the WDF calls the callback makes. -/
inductive DataEvent where
  | comRead (length : ULONG) (wdf : Wdf)
  | comWrite (data : List UCHAR) (fits : data.length < 2 ^ 32) (wdf : Wdf)
  | compRead (length : ULONG) (wdf : Wdf)
  | compWrite (data : List UCHAR) (fits : data.length < 2 ^ 32) (wdf : Wdf)
  | setTimeouts (inputLength : ℕ) (timeouts : SerialTimeouts) (wdf : Wdf)
  | cancel (id : RequestId)

/-- The framework cancels a request, wherever it is pended. -/
def PortPair.cancel (pp : PortPair) (id : RequestId) : PortPair × List Effect :=
  let (tx, txOut) := (pp.lane .comToCompanion).cancel id
  let pp := pp.withLane .comToCompanion tx
  let (rx, rxOut) := (pp.lane .companionToCom).cancel id
  (pp.withLane .companionToCom rx,
    laneEffects .comToCompanion txOut ++ laneEffects .companionToCom rxOut)

/-- The callback an event runs on the pair, for a request with handle `id`. -/
def DataEvent.call (id : RequestId) (pp : PortPair) : DataEvent → PortPair × List Effect
  | .comRead length wdf => gcomComEvtRead wdf pp ⟨id, length⟩
  | .comWrite data fits wdf => gcomComEvtWrite wdf pp ⟨id, data, fits⟩
  | .compRead length wdf => gcomCompEvtRead wdf pp ⟨id, length⟩
  | .compWrite data fits wdf => gcomCompEvtWrite wdf pp ⟨id, data, fits⟩
  | .setTimeouts inputLength timeouts wdf =>
      gcomComEvtIoctl wdf pp ⟨id, inputLength, 0⟩ (.setTimeouts timeouts)
  | .cancel request => pp.cancel request

/-- The next handle after an event; a cancellation brings no new request. -/
def DataEvent.nextRequest (id : RequestId) : DataEvent → RequestId
  | .cancel _ => id
  | _ => id + 1

namespace DataPath

/-- A new pair. -/
def initial (portNumber : ULONG) : DataPath := ⟨.initial portNumber, 0, []⟩

/-- One event. -/
def step (s : DataPath) (e : DataEvent) : DataPath where
  pair := (e.call s.nextRequest s.pair).1
  nextRequest := e.nextRequest s.nextRequest
  trace := s.trace ++ (e.call s.nextRequest s.pair).2

/-- A run of events. -/
def run (s : DataPath) (events : List DataEvent) : DataPath := events.foldl step s

end DataPath

/-- What an effect does to one direction. -/
def Effect.onLane (d : Direction) : Effect → Option LaneEffect
  | .data direction effect => if direction = d then some effect else none
  | _ => none

/-- What a trace does to one direction. -/
def laneTrace (d : Direction) (trace : List Effect) : List LaneEffect :=
  trace.filterMap (Effect.onLane d)

@[simp] theorem lane_trace_nil (d : Direction) : laneTrace d [] = [] := rfl

@[simp] theorem lane_trace_append (d : Direction) (trace out : List Effect) :
    laneTrace d (trace ++ out) = laneTrace d trace ++ laneTrace d out :=
  List.filterMap_append

/-- The effects of a direction are seen in that direction only. -/
theorem lane_trace_lane_effects (d direction : Direction) (out : List LaneEffect) :
    laneTrace d (laneEffects direction out) = if direction = d then out else [] := by
  induction out with
  | nil => split <;> rfl
  | cons e out ih =>
      by_cases h : direction = d
      · simp only [h, laneEffects, laneTrace, List.map_cons, List.filterMap_cons, Effect.onLane,
          if_true] at ih ⊢
        rw [ih]
      · simp [h, laneEffects, laneTrace, Effect.onLane]

/-- Waits that are completed are not seen on a lane. -/
theorem lane_trace_waits (d : Direction) {f : WaitRequest → Effect}
    (hf : ∀ waitReq, (f waitReq).onLane d = none) (waits : List WaitRequest) :
    laneTrace d (waits.map f) = [] := by
  induction waits with
  | nil => rfl
  | cons waitReq waits ih => exact (List.filterMap_cons_none (hf waitReq)).trans ih

/-- Comm events are not seen on a lane. -/
@[simp] theorem lane_trace_check_wait_mask (d : Direction) (wdf : Wdf) (pp : PortPair)
    (events : ULONG) : laneTrace d (gcomCheckWaitMask wdf pp events).2 = [] := by
  unfold gcomCheckWaitMask
  split
  · rfl
  · dsimp only
    split
    · rfl
    · refine lane_trace_waits d (fun waitReq ↦ ?_) pp.waitMaskQueue
      unfold completeMaskWait
      split <;> rfl

/-- Nothing happens to a lane for a request of the other direction. -/
theorem Lane.Step.idle {clock : ℕ} {lane : Lane} (h : lane.Settled) :
    Lane.Step clock (clock + 1) lane lane [] :=
  .turn_away h .nil (by simp)

section Handlers

variable (wdf : Wdf) (pp : PortPair) (d : Direction)

theorem com_read_step (req : ReadRequest) (h : ∀ d, (pp.lane d).Settled) :
    Lane.Step req.id (req.id + 1) (pp.lane d) ((gcomComEvtRead wdf pp req).1.lane d)
      (laneTrace d (gcomComEvtRead wdf pp req).2) := by
  unfold gcomComEvtRead
  split
  · cases d with
    | comToCompanion => exact .idle (h _)
    | companionToCom => exact .read_away (h _) req _
  · rw [lane_trace_lane_effects]
    cases d with
    | comToCompanion => exact .idle (h _)
    | companionToCom => exact Lane.evt_read_step wdf _ req (h _)

theorem comp_read_step (req : ReadRequest) (h : ∀ d, (pp.lane d).Settled) :
    Lane.Step req.id (req.id + 1) (pp.lane d) ((gcomCompEvtRead wdf pp req).1.lane d)
      (laneTrace d (gcomCompEvtRead wdf pp req).2) := by
  unfold gcomCompEvtRead
  split
  · cases d with
    | comToCompanion => exact .read_away (h _) req _
    | companionToCom => exact .idle (h _)
  · rw [lane_trace_lane_effects]
    cases d with
    | comToCompanion => exact Lane.evt_read_step wdf _ req (h _)
    | companionToCom => exact .idle (h _)

/-- A COM write on an active pair is a write on its lane. -/
theorem com_write_lane (req : WriteRequest) (h : pp.active = true) :
    (gcomComEvtWrite wdf pp req).1.lane .comToCompanion =
      ((pp.lane .comToCompanion).evtWrite wdf req).1 := by
  unfold gcomComEvtWrite
  rw [h]
  dsimp only [Bool.not_true]
  split
  · contradiction
  · split
    · rw [check_wait_mask_lane]
      rfl
    · rfl

theorem com_write_active (req : WriteRequest) :
    (gcomComEvtWrite wdf pp req).1.active = pp.active := by
  unfold gcomComEvtWrite
  split
  · rfl
  · dsimp only
    split <;> simp

theorem com_write_step (req : WriteRequest) (h : ∀ d, (pp.lane d).Settled) :
    Lane.Step req.id (req.id + 1) (pp.lane d) ((gcomComEvtWrite wdf pp req).1.lane d)
      (laneTrace d (gcomComEvtWrite wdf pp req).2) := by
  unfold gcomComEvtWrite
  split
  · cases d with
    | comToCompanion => exact .write_away (h _) req ⟨.deviceNotConnected, nofun⟩
    | companionToCom => exact .idle (h _)
  · dsimp only
    split
    · rw [lane_trace_append, lane_trace_check_wait_mask, List.append_nil,
        lane_trace_lane_effects, check_wait_mask_lane]
      cases d with
      | comToCompanion => exact Lane.evt_write_step wdf req (h _)
      | companionToCom => exact .idle (h _)
    · rw [lane_trace_lane_effects]
      cases d with
      | comToCompanion => exact Lane.evt_write_step wdf req (h _)
      | companionToCom => exact .idle (h _)

theorem comp_write_step (req : WriteRequest) (h : ∀ d, (pp.lane d).Settled) :
    Lane.Step req.id (req.id + 1) (pp.lane d) ((gcomCompEvtWrite wdf pp req).1.lane d)
      (laneTrace d (gcomCompEvtWrite wdf pp req).2) := by
  unfold gcomCompEvtWrite
  split
  · cases d with
    | comToCompanion => exact .idle (h _)
    | companionToCom => exact .write_away (h _) req ⟨.deviceNotConnected, nofun⟩
  · dsimp only
    split
    · rw [lane_trace_append, lane_trace_check_wait_mask, List.append_nil,
        lane_trace_lane_effects, check_wait_mask_lane]
      cases d with
      | comToCompanion => exact .idle (h _)
      | companionToCom => exact Lane.evt_write_step wdf req (h _)
    · rw [lane_trace_lane_effects]
      cases d with
      | comToCompanion => exact .idle (h _)
      | companionToCom => exact Lane.evt_write_step wdf req (h _)

theorem set_timeouts_step (req : IoctlRequest) (timeouts : SerialTimeouts)
    (h : ∀ d, (pp.lane d).Settled) :
    Lane.Step req.id (req.id + 1) (pp.lane d)
      ((gcomComEvtIoctl wdf pp req (.setTimeouts timeouts)).1.lane d)
      (laneTrace d (gcomComEvtIoctl wdf pp req (.setTimeouts timeouts)).2) := by
  unfold gcomComEvtIoctl
  split
  · exact .idle (h d)
  · dsimp only [setRequest]
    split
    · cases d <;> exact .idle (h _)
    · exact .idle (h d)

theorem cancel_step (clock : ℕ) (id : RequestId) (h : ∀ d, (pp.lane d).Settled) :
    Lane.Step clock clock (pp.lane d) ((pp.cancel id).1.lane d)
      (laneTrace d (pp.cancel id).2) := by
  unfold PortPair.cancel
  simp only [lane_trace_append, lane_trace_lane_effects, PortPair.lane_withLane]
  cases d with
  | comToCompanion => simpa using Lane.cancel_step id (h .comToCompanion)
  | companionToCom => simpa using Lane.cancel_step id (h .companionToCom)

end Handlers

/-- Every event is a step of every direction. -/
theorem DataEvent.lane_step (id : RequestId) (pp : PortPair) (e : DataEvent) (d : Direction)
    (h : ∀ d, (pp.lane d).Settled) :
    Lane.Step id (e.nextRequest id) (pp.lane d) ((e.call id pp).1.lane d)
      (laneTrace d (e.call id pp).2) := by
  cases e with
  | comRead length wdf => exact com_read_step wdf pp d ⟨id, length⟩ h
  | comWrite data fits wdf => exact com_write_step wdf pp d ⟨id, data, fits⟩ h
  | compRead length wdf => exact comp_read_step wdf pp d ⟨id, length⟩ h
  | compWrite data fits wdf => exact comp_write_step wdf pp d ⟨id, data, fits⟩ h
  | setTimeouts inputLength timeouts wdf =>
      exact set_timeouts_step wdf pp d ⟨id, inputLength, 0⟩ timeouts h
  | cancel request => exact cancel_step pp d id request h

namespace DataPath

/-- One direction of a state, as a channel. -/
def channel (s : DataPath) (d : Direction) : Channel.State UCHAR :=
  (s.pair.lane d).channel s.nextRequest (laneTrace d s.trace)

/-- What holds in every direction of every state of a run. -/
structure Sound (s : DataPath) : Prop where
  conserved : ∀ d, (s.channel d).Conserved
  inOrder : ∀ d, (s.channel d).InOrder
  settled : ∀ d, (s.pair.lane d).Settled
  balanced : ∀ d, Balanced (laneTrace d s.trace)

theorem initial_sound (portNumber : ULONG) : (initial portNumber).Sound where
  conserved d := by
    simp [channel, initial, PortPair.initial_lane, Lane.channel, Channel.State.Conserved,
      acceptedEntries, removedEntries]
  inOrder d := by
    constructor <;> simp [channel, initial, PortPair.initial_lane, Lane.channel,
      Channel.State.writerIds, Channel.State.readerIds, acceptedEntries, removedEntries]
  settled d := by
    constructor <;> simp [initial, PortPair.initial_lane]
  balanced _ := .nil

/-- With every direction settled, an event is a sequence of moves of every channel. -/
theorem step_moves {s : DataPath} (h : ∀ d, (s.pair.lane d).Settled) (e : DataEvent)
    (d : Direction) : Moves (s.channel d) ((s.step e).channel d) := by
  simpa [channel, step] using
    (e.lane_step s.nextRequest s.pair d h).moves (laneTrace d s.trace)

/-- Every event keeps every direction sound. -/
theorem Sound.step {s : DataPath} (h : s.Sound) (e : DataEvent) : (s.step e).Sound := by
  have hstep (d : Direction) := e.lane_step s.nextRequest s.pair d h.settled
  have hmoves (d : Direction) := step_moves h.settled e d
  refine ⟨fun d ↦ (hmoves d).conserved (h.conserved d), fun d ↦ (hmoves d).inOrder (h.inOrder d),
    fun d ↦ (hstep d).settled, fun d ↦ ?_⟩
  simpa [DataPath.step] using (h.balanced d).append (hstep d).balanced

/-- Every run keeps every direction sound. -/
theorem Sound.run {s : DataPath} (h : s.Sound) (events : List DataEvent) :
    (s.run events).Sound := by
  induction events generalizing s with
  | nil => exact h
  | cons e events ih => exact ih (h.step e)

end DataPath

/-- On every run without purges each direction of a pair is a lossless, order-preserving bounded
channel: the bytes removed for reads and those still in the ring are the prefixes accepted from
writes, completions report the lengths moved, requests of either kind are handled in order of
arrival, and requests are pended only while the ring leaves no other choice. -/
theorem data_path_lossless (portNumber : ULONG) (events : List DataEvent) (d : Direction) :
    let s := (DataPath.initial portNumber).run events
    let lane := s.pair.lane d
    let accepted := acceptedEntries (laneTrace d s.trace)
    let removed := removedEntries (laneTrace d s.trace)
    (removed.flatMap Prod.snd ++ lane.ring.contents = accepted.flatMap Prod.snd ∧
      writeReports (laneTrace d s.trace) = sizes accepted ∧
      readReports (laneTrace d s.trace) = sizes removed) ∧
    ((accepted.map Prod.fst ++ lane.writeQueue.map (·.id)).Pairwise (· < ·) ∧
      (removed.map Prod.fst ++ lane.readQueue.map (·.id)).Pairwise (· < ·)) ∧
    (lane.readQueue ≠ [] → lane.ring.contents = []) ∧
    (lane.writeQueue ≠ [] → lane.ring.contents.length = lane.ring.capacity) := by
  intro s lane accepted removed
  have hsound : s.Sound := (DataPath.initial_sound portNumber).run events
  have horder := hsound.inOrder d
  refine ⟨⟨hsound.conserved d, (hsound.balanced d).writes, (hsound.balanced d).reads⟩,
    ⟨?_, ?_⟩, (hsound.settled d).reads, (hsound.settled d).writes⟩
  · have hwriters := horder.writers
    simp only [Channel.State.writerIds, DataPath.channel, Lane.channel, List.map_map] at hwriters
    exact hwriters
  · have hreaders := horder.readers
    simp only [Channel.State.readerIds, DataPath.channel, Lane.channel, List.map_map] at hreaders
    exact hreaders

end GhostCom
