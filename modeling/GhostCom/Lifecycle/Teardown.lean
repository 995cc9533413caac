import GhostCom.Library.Transition
import GhostCom.Lifecycle.Blocks

/-!
# Destroying a pair under concurrent callbacks

`GcomPortPairDestroy` step by step, with any number of read, write, IOCTL and file close callbacks
in any phase between its steps. WDF deletes a device when the handlers of its queues have returned;
a close callback may run at any time after its file object has been closed. `teardown_safe_iff` is
the exact condition under which no callback is ever about to forward a request to a `NULL` handle,
to acquire a deleted lock or to use a freed ring.
-/

namespace GhostCom

/-- The steps of `GcomPortPairDestroy`; each constructor names the step that comes next. The pair
leaves the table and the child list in `unlist`, which no callback looks at. -/
inductive DestroyStep where
  | clearActive
  | unlist
  | nullSignalQueues
  | nullDataQueues
  | deleteComDevice
  | deleteCompanionDevice
  | freeRings
  | deleteDataLock
  | deleteSignalLock
  | release
  | finished
deriving DecidableEq, Repr

namespace DestroyStep

/-- The place of a step in the order. -/
def index : DestroyStep → ℕ
  | clearActive => 0
  | unlist => 1
  | nullSignalQueues => 2
  | nullDataQueues => 3
  | deleteComDevice => 4
  | deleteCompanionDevice => 5
  | freeRings => 6
  | deleteDataLock => 7
  | deleteSignalLock => 8
  | release => 9
  | finished => 10

/-- Whether `step` has been taken when `current` comes next. -/
def taken (step current : DestroyStep) : Bool := step.index < current.index

end DestroyStep

/-- The step that clears a queue handle. -/
def QueueField.clearedBy (q : QueueField) : DestroyStep :=
  if q.isWait then .nullSignalQueues else .nullDataQueues

/-- The step that deletes a lock. -/
def LockField.deletedBy : LockField → DestroyStep
  | .signal => .deleteSignalLock
  | .data => .deleteDataLock

/-- The step that deletes a device. -/
def Side.deletedBy : Side → DestroyStep
  | .com => .deleteComDevice
  | .companion => .deleteCompanionDevice

/-- Where a callback comes from: a queue of a device, or a file object. -/
inductive Origin where
  | evtIo (side : Side)
  | fileClose (side : Side)
deriving DecidableEq, Repr

/-- The callbacks, with their requests. -/
inductive CallbackRequest where
  | comRead (req : ReadRequest)
  | comWrite (req : WriteRequest)
  | comIoctl (req : IoctlRequest) (ioctl : ComIoctl)
  | compRead (req : ReadRequest)
  | compWrite (req : WriteRequest)
  | compIoctl (req : IoctlRequest) (ioctl : CompIoctl)
  | comFileClose
  | compFileClose

namespace CallbackRequest

/-- Where the callback of a request comes from. -/
def origin : CallbackRequest → Origin
  | comRead _ | comWrite _ | comIoctl .. => .evtIo .com
  | compRead _ | compWrite _ | compIoctl .. => .evtIo .companion
  | comFileClose => .fileClose .com
  | compFileClose => .fileClose .companion

/-- The callback of a request. -/
def callback (wdf : Wdf) : CallbackRequest → Callback
  | comRead req => .gcomComEvtRead wdf req
  | comWrite req => .gcomComEvtWrite wdf req
  | comIoctl req ioctl => .gcomComEvtIoctl wdf req ioctl
  | compRead req => .gcomCompEvtRead wdf req
  | compWrite req => .gcomCompEvtWrite wdf req
  | compIoctl req ioctl => .gcomCompEvtIoctl wdf req ioctl
  | comFileClose => .gcomComEvtFileClose
  | compFileClose => .gcomCompEvtFileClose

end CallbackRequest

/-- A callback that has been started, and what is left of it. -/
structure Thread where
  origin : Origin
  rest : Callback

/-- The state while a pair is destroyed: its memory, the next step of `GcomPortPairDestroy`, the
resources that exist, the file objects that are open and the callbacks that have been started. -/
structure Teardown where
  memory : PairMemory
  step : DestroyStep
  devices : Side → Bool
  rings : Bool
  locks : LockField → Bool
  handles : Side → ℕ
  threads : List Thread

/-- The next step of `GcomPortPairDestroy`, the start of a callback, or the next block of a callback
that has been started. -/
inductive TeardownEvent where
  | destroy
  | start (wdf : Wdf) (request : CallbackRequest)
  | block (i : ℕ)

namespace Teardown

/-- A pair that is in use, with some file objects open. -/
def inUse (pp : PortPair) (handles : Side → ℕ) : Teardown where
  memory := .intact { pp with active := true }
  step := .clearActive
  devices _ := true
  rings := true
  locks _ := true
  handles := handles
  threads := []

variable (s : Teardown)

/-- Whether a handler of a queue of the device has not returned yet. -/
def inFlight (side : Side) : Bool :=
  s.threads.any fun t ↦ t.origin == .evtIo side && !t.rest.isDone

/-- `WdfObjectDelete` of a device returns when its handlers have returned. -/
def deleteDevice (side : Side) (step : DestroyStep) : Option Teardown :=
  if s.inFlight side then none
  else some { s with devices := Function.update s.devices side false, step := step }

/-- One step of `GcomPortPairDestroy`. -/
def destroy : Option Teardown :=
  match s.step with
  | .clearActive =>
      some { s with memory := s.memory.setPair ({ · with active := false }), step := .unlist }
  | .unlist => some { s with step := .nullSignalQueues }
  | .nullSignalQueues =>
      some { s with
        memory.isNull := fun q ↦ s.memory.isNull q || q.isWait
        step := .nullDataQueues }
  | .nullDataQueues =>
      some { s with
        memory.isNull := fun q ↦ s.memory.isNull q || !q.isWait
        step := .deleteComDevice }
  | .deleteComDevice => s.deleteDevice .com .deleteCompanionDevice
  | .deleteCompanionDevice => s.deleteDevice .companion .freeRings
  | .freeRings => some { s with rings := false, step := .deleteDataLock }
  | .deleteDataLock =>
      some { s with locks := Function.update s.locks .data false, step := .deleteSignalLock }
  | .deleteSignalLock =>
      some { s with locks := Function.update s.locks .signal false, step := .release }
  | .release =>
      some { s with
        memory := s.memory.setPair fun pp ↦ (gcomPortPairRelease pp).1
        step := .finished }
  | .finished => none

/-- Start a callback: a handler while its device exists, a close callback for a file object that has
been open. -/
def start (wdf : Wdf) (request : CallbackRequest) : Option Teardown :=
  let thread : Thread := ⟨request.origin, request.callback wdf⟩
  match request.origin with
  | .evtIo side =>
      if s.devices side then some { s with threads := s.threads ++ [thread] } else none
  | .fileClose side =>
      if s.handles side = 0 then none
      else some { s with
        handles := Function.update s.handles side (s.handles side - 1)
        threads := s.threads ++ [thread] }

/-- Run the next block of a callback. -/
def runBlock (i : ℕ) : Option Teardown :=
  match s.threads[i]? with
  | some ⟨origin, .block _ run rest⟩ =>
      some { s with
        memory := run s.memory
        threads := s.threads.set i ⟨origin, rest s.memory⟩ }
  | _ => none

/-- The state after an event, if it can happen. -/
def next : TeardownEvent → Option Teardown
  | .destroy => s.destroy
  | .start wdf request => s.start wdf request
  | .block i => s.runBlock i

/-- No callback is about to forward a request to a `NULL` handle, to acquire a deleted lock or to
use a freed ring. -/
structure Safe : Prop where
  forwards : ∀ t ∈ s.threads, ∀ q, t.rest.forwards s.memory.pp = some q → s.memory.isNull q = false
  locks : ∀ t ∈ s.threads, ∀ l, t.rest.lock = some l → s.locks l = true
  rings : ∀ t ∈ s.threads, t.rest.usesRings = true → s.rings = true

/-- The condition on a step. The handles of the wait queues are cleared when no handler is about to
forward a wait, those of the data queues when no read or write is about to be pended; a block that
runs after that takes from no other read or write what it was going to find; and `SignalLock` is
deleted when no close callback is about to acquire it. -/
def Allows : TeardownEvent → Prop
  | .destroy =>
      match s.step with
      | .nullSignalQueues =>
          ∀ t ∈ s.threads, ∀ q, t.rest.forwards s.memory.pp = some q → q.isWait = false
      | .nullDataQueues =>
          ∀ t ∈ s.threads, ∀ q, t.rest.forwards s.memory.pp = some q → q.isWait = true
      | .deleteSignalLock => ∀ t ∈ s.threads, t.rest.lock ≠ some .signal
      | _ => True
  | .start .. => True
  | .block i =>
      DestroyStep.nullDataQueues.taken s.step = true →
        ∀ u, s.threads[i]? = some u → ∀ j ≠ i, ∀ other, s.threads[j]? = some other →
          ¬u.rest.Starves other.rest s.memory.pp

/-! ## Invariants -/

/-- The resources that exist and the handles that are `NULL` are those of the step that comes next.
-/
structure Progress : Prop where
  active : s.memory.pp.active = (s.step == .clearActive)
  nulls : ∀ q, s.memory.isNull q = q.clearedBy.taken s.step
  devices : ∀ side, s.devices side = !side.deletedBy.taken s.step
  rings : s.rings = !DestroyStep.freeRings.taken s.step
  locks : ∀ l, s.locks l = !l.deletedBy.taken s.step

/-- What is left of a callback: of a handler, with its `Active` check before it or behind it, or of
a close callback. -/
def Shape (t : Thread) : Prop :=
  match t.origin with
  | .evtIo _ => t.rest.Entry ∨ t.rest.Entered
  | .fileClose _ => t.rest.Closing

/-- The invariant of a teardown; the handlers of a deleted device have returned. -/
structure Coherent : Prop where
  progress : s.Progress
  returned : ∀ side, s.devices side = false → ∀ t ∈ s.threads, t.origin = .evtIo side →
    t.rest = .done
  shapes : ∀ t ∈ s.threads, Shape t

variable {s} {t : Teardown}

/-- Nothing has been done yet. -/
theorem in_use_coherent (pp : PortPair) (handles : Side → ℕ) : (inUse pp handles).Coherent where
  progress := by
    refine ⟨rfl, fun q ↦ ?_, fun side ↦ ?_, rfl, fun l ↦ ?_⟩
    · cases q <;> rfl
    · cases side <;> rfl
    · cases l <;> rfl
  returned _ h := nomatch h
  shapes _ h := nomatch h

/-- What deleting a device does. -/
theorem delete_device_eq {side : Side} {step : DestroyStep}
    (h : s.deleteDevice side step = some t) :
    s.inFlight side = false ∧
      t = { s with devices := Function.update s.devices side false, step := step } := by
  unfold deleteDevice at h
  split at h
  · cases h
  · next hreturned => exact ⟨by simpa using hreturned, (Option.some.inj h).symm⟩

/-- `GcomPortPairDestroy` goes on as its next step says. -/
theorem Progress.destroy (h : s.Progress) (ht : s.destroy = some t) : t.Progress := by
  obtain ⟨hactive, hnulls, hdevices, hrings, hlocks⟩ := h
  unfold Teardown.destroy at ht
  cases hstep : s.step <;> rw [hstep] at ht hactive hnulls hdevices hrings hlocks <;>
    dsimp only at ht
  case finished => cases ht
  case deleteComDevice | deleteCompanionDevice =>
    obtain ⟨-, rfl⟩ := delete_device_eq ht
    refine ⟨hactive, fun q ↦ (hnulls q).trans ?_, fun side ↦ ?_, hrings,
      fun l ↦ (hlocks l).trans ?_⟩
    · cases q <;> rfl
    · cases side <;> simp [Function.update, hdevices, Side.deletedBy, DestroyStep.taken,
        DestroyStep.index]
    · cases l <;> rfl
  case nullSignalQueues | nullDataQueues =>
    cases ht
    refine ⟨hactive, fun q ↦ ?_, fun side ↦ (hdevices side).trans ?_, hrings,
      fun l ↦ (hlocks l).trans ?_⟩
    · dsimp only
      rw [hnulls]
      cases q <;> rfl
    · cases side <;> rfl
    · cases l <;> rfl
  case deleteDataLock | deleteSignalLock =>
    cases ht
    refine ⟨hactive, fun q ↦ (hnulls q).trans ?_, fun side ↦ (hdevices side).trans ?_, hrings,
      fun l ↦ ?_⟩
    · cases q <;> rfl
    · cases side <;> rfl
    · cases l <;> simp [Function.update, hlocks, LockField.deletedBy, DestroyStep.taken,
        DestroyStep.index]
  case freeRings =>
    cases ht
    refine ⟨hactive, fun q ↦ (hnulls q).trans ?_, fun side ↦ (hdevices side).trans ?_, rfl,
      fun l ↦ (hlocks l).trans ?_⟩
    · cases q <;> rfl
    · cases side <;> rfl
    · cases l <;> rfl
  case clearActive =>
    cases ht
    refine ⟨rfl, fun q ↦ (hnulls q).trans ?_, fun side ↦ (hdevices side).trans ?_, hrings,
      fun l ↦ (hlocks l).trans ?_⟩
    · cases q <;> rfl
    · cases side <;> rfl
    · cases l <;> rfl
  case unlist | release =>
    cases ht
    refine ⟨hactive, fun q ↦ (hnulls q).trans ?_, fun side ↦ (hdevices side).trans ?_, hrings,
      fun l ↦ (hlocks l).trans ?_⟩
    · cases q <;> rfl
    · cases side <;> rfl
    · cases l <;> rfl

/-- The destroy itself starts no callback and ends none, and deletes a device only when its handlers
have returned. -/
theorem destroy_cases (h : s.destroy = some t) :
    t.threads = s.threads ∧
      ∀ side, t.devices side = false → s.devices side = false ∨ s.inFlight side = false := by
  unfold destroy at h
  cases hstep : s.step <;> rw [hstep] at h <;> dsimp only at h
  case finished => cases h
  case deleteComDevice | deleteCompanionDevice =>
    obtain ⟨hreturned, rfl⟩ := delete_device_eq h
    refine ⟨rfl, fun side hside ↦ ?_⟩
    cases side <;> simp_all [Function.update]
  all_goals
    cases h
    exact ⟨rfl, fun _ hside ↦ .inl hside⟩

/-- A callback that is started, and what does not change. -/
theorem start_cases {wdf : Wdf} {request : CallbackRequest} (h : s.start wdf request = some t) :
    t.memory = s.memory ∧ t.step = s.step ∧ t.devices = s.devices ∧ t.rings = s.rings ∧
      t.locks = s.locks ∧ t.threads = s.threads ++ [⟨request.origin, request.callback wdf⟩] ∧
      ∀ side, request.origin = .evtIo side → s.devices side = true := by
  unfold start at h
  dsimp only at h
  split at h
  · next side horigin =>
      split at h
      · next hdevice =>
          cases h
          refine ⟨rfl, rfl, rfl, rfl, rfl, rfl, fun side' hside ↦ ?_⟩
          rw [horigin] at hside
          cases hside
          exact hdevice
      · cases h
  · next side horigin =>
      split at h
      · cases h
      · cases h
        refine ⟨rfl, rfl, rfl, rfl, rfl, rfl, fun side' hside ↦ ?_⟩
        rw [horigin] at hside
        cases hside

/-- A block that is run. -/
theorem run_block_cases {i : ℕ} (h : s.runBlock i = some t) :
    ∃ origin needs run rest, s.threads[i]? = some ⟨origin, .block needs run rest⟩ ∧
      t = { s with
        memory := run s.memory
        threads := s.threads.set i ⟨origin, rest s.memory⟩ } := by
  unfold runBlock at h
  split at h
  · next origin needs run rest hthread =>
      exact ⟨origin, needs, run, rest, hthread, (Option.some.inj h).symm⟩
  · cases h

/-- A callback starts with its `Active` check, or is a close callback. -/
theorem shape_start (wdf : Wdf) (request : CallbackRequest) :
    Shape ⟨request.origin, request.callback wdf⟩ := by
  cases request with
  | comRead req => exact .inl (Callback.entry_com_read wdf req)
  | comWrite req => exact .inl (Callback.entry_com_write wdf req)
  | comIoctl req ioctl => exact .inl ⟨_, rfl, Callback.entered_com_ioctl wdf req ioctl⟩
  | compRead req => exact .inl (Callback.entry_comp_read wdf req)
  | compWrite req => exact .inl (Callback.entry_comp_write wdf req)
  | compIoctl req ioctl => exact .inl ⟨_, rfl, Callback.entered_comp_ioctl wdf req ioctl⟩
  | comFileClose => exact Callback.closing_com_file_close
  | compFileClose => exact Callback.closing_comp_file_close

/-- A block leaves `Active` and the handles alone and goes on with a callback of the same kind. -/
theorem shape_block {origin : Origin} {needs : Access} {run : PairMemory → PairMemory}
    {rest : PairMemory → Callback} (h : Shape ⟨origin, .block needs run rest⟩) :
    Keeps needs.use run ∧ ∀ m, Shape ⟨origin, rest m⟩ := by
  cases origin with
  | evtIo side =>
      rcases h with ⟨body, heq, hbody⟩ | ⟨hkeeps, hlate⟩
      · cases heq
        refine ⟨quiet_id.keeps (fun _ _ ↦ rfl) fun _ ↦ rfl, fun m ↦ .inr ?_⟩
        dsimp only
        split
        · exact hbody
        · trivial
      · exact ⟨hkeeps, fun m ↦ .inr (hlate m).entered⟩
  | fileClose side => exact ⟨h.1.1, h.2⟩

/-- Every event keeps the invariant. -/
theorem Coherent.next (h : s.Coherent) {e : TeardownEvent} (ht : s.next e = some t) :
    t.Coherent := by
  cases e with
  | destroy =>
      obtain ⟨hthreads, hdevices⟩ := destroy_cases ht
      refine ⟨h.progress.destroy ht, fun side hside u hu horigin ↦ ?_, fun u hu ↦ ?_⟩
      · rw [hthreads] at hu
        rcases hdevices side hside with hgone | hreturned
        · exact h.returned side hgone u hu horigin
        · have hdone := List.any_eq_false.mp hreturned u hu
          -- the device was deleted in this step, once every callback of it had returned
          rcases hrest : u.rest with _ | ⟨needs, run, rest⟩
          · rfl
          · simp [horigin, hrest, Procedure.isDone] at hdone
      · rw [hthreads] at hu
        exact h.shapes u hu
  | start wdf request =>
      obtain ⟨hmemory, hstep, hdevices, hrings, hlocks, hthreads, hdevice⟩ := start_cases ht
      refine ⟨⟨?_, ?_, ?_, ?_, ?_⟩, fun side hside u hu horigin ↦ ?_, fun u hu ↦ ?_⟩
      · rw [hmemory, hstep]
        exact h.progress.active
      · rw [hmemory, hstep]
        exact h.progress.nulls
      · rw [hdevices, hstep]
        exact h.progress.devices
      · rw [hrings, hstep]
        exact h.progress.rings
      · rw [hlocks, hstep]
        exact h.progress.locks
      · rw [hdevices] at hside
        rw [hthreads, List.mem_append, List.mem_singleton] at hu
        rcases hu with hu | rfl
        · exact h.returned side hside u hu horigin
        · rw [hdevice side horigin] at hside
          -- a callback starts only while its device is there
          cases hside
      · rw [hthreads, List.mem_append, List.mem_singleton] at hu
        rcases hu with hu | rfl
        · exact h.shapes u hu
        · exact shape_start wdf request
  | block i =>
      obtain ⟨origin, needs, run, rest, hthread, rfl⟩ := run_block_cases ht
      obtain ⟨hkeeps, hshape⟩ := shape_block (h.shapes _ (List.mem_of_getElem? hthread))
      refine ⟨⟨?_, ?_, h.progress.devices, h.progress.rings, h.progress.locks⟩,
        fun side hside u hu horigin ↦ ?_, fun u hu ↦ ?_⟩
      · exact (hkeeps.active s.memory).trans h.progress.active
      · intro q
        show (run s.memory).isNull q = _
        rw [hkeeps.nulls]
        exact h.progress.nulls q
      · rcases List.mem_or_eq_of_mem_set hu with hu | rfl
        · exact h.returned side hside u hu horigin
        · cases h.returned side hside _ (List.mem_of_getElem? hthread) horigin
      · rcases List.mem_or_eq_of_mem_set hu with hu | rfl
        · exact h.shapes u hu
        · exact hshape s.memory

/-! ## Safety -/

theorem not_taken_iff {step current : DestroyStep} :
    (!step.taken current) = true ↔ current.index ≤ step.index := by
  simp [DestroyStep.taken]

/-- While a device exists, so do the rings and the locks. -/
theorem Progress.resources (h : s.Progress) {side : Side} (hside : s.devices side = true) :
    s.rings = true ∧ ∀ l, s.locks l = true := by
  rw [h.devices, not_taken_iff] at hside
  have hle : side.deletedBy.index ≤ DestroyStep.index .deleteCompanionDevice := by
    cases side <;> decide
  refine ⟨?_, fun l ↦ ?_⟩
  · rw [h.rings, not_taken_iff]
    exact Nat.le_trans (Nat.le_trans hside hle) (by decide)
  · rw [h.locks, not_taken_iff]
    refine Nat.le_trans (Nat.le_trans hside hle) ?_
    cases l <;> decide

/-- A close callback forwards nothing, uses no ring and acquires no lock but `SignalLock`. -/
theorem closing_needs {c : Callback} (h : c.Closing) :
    (∀ pp, c.forwards pp = none) ∧ c.usesRings = false ∧ c.lock ≠ some .data := by
  cases c with
  | done => exact ⟨fun _ ↦ rfl, rfl, nofun⟩
  | block needs run rest =>
      obtain ⟨⟨-, hrings, hlock, hforwards, -⟩, -⟩ := h
      exact ⟨hforwards, hrings, hlock⟩

/-- What is left of a callback is done, if it is a handler of a device that is gone. -/
theorem Coherent.needs_handler (h : s.Coherent) {u : Thread} (hu : u ∈ s.threads) {side : Side}
    (horigin : u.origin = .evtIo side) :
    u.rest = .done ∨ s.rings = true ∧ ∀ l, s.locks l = true := by
  by_cases hside : s.devices side = true
  · exact .inr (h.progress.resources hside)
  · exact .inl (h.returned side (by simpa using hside) u hu horigin)

/-- A thread of a file object is a close callback, or the rest of one. -/
theorem Coherent.closing (h : s.Coherent) {u : Thread} (hu : u ∈ s.threads) {side : Side}
    (horigin : u.origin = .fileClose side) : u.rest.Closing := by
  have hshape := h.shapes u hu
  rw [Shape, horigin] at hshape
  exact hshape

/-- Only handles and `SignalLock` are in danger. -/
theorem Coherent.safe_iff (h : s.Coherent) :
    s.Safe ↔
      (∀ u ∈ s.threads, ∀ q, u.rest.forwards s.memory.pp = some q → s.memory.isNull q = false) ∧
        (s.locks .signal = false → ∀ u ∈ s.threads, u.rest.lock ≠ some .signal) := by
  constructor
  · rintro ⟨hforwards, hlocks, -⟩
    refine ⟨hforwards, fun hdeleted u hu hlock ↦ ?_⟩
    rw [hlocks u hu _ hlock] at hdeleted
    cases hdeleted
  · rintro ⟨hforwards, hsignal⟩
    refine ⟨hforwards, fun u hu l hlock ↦ ?_, fun u hu hrings ↦ ?_⟩
    · rcases horigin : u.origin with side | side
      · rcases h.needs_handler hu horigin with hdone | hresources
        · rw [hdone] at hlock
          cases hlock
        · exact hresources.2 l
      · cases l with
        | data => exact absurd hlock (closing_needs (h.closing hu horigin)).2.2
        | signal =>
            by_contra hdeleted
            exact hsignal (by simpa using hdeleted) u hu hlock
    · rcases horigin : u.origin with side | side
      · rcases h.needs_handler hu horigin with hdone | hresources
        · rw [hdone] at hrings
          cases hrings
        · exact hresources.1
      · rw [(closing_needs (h.closing hu horigin)).2.1] at hrings
        cases hrings

/-- A callback that starts forwards nothing and acquires no lock. -/
theorem start_needs (wdf : Wdf) (request : CallbackRequest) (pp : PortPair) :
    (request.callback wdf).forwards pp = none ∧ (request.callback wdf).lock = none := by
  cases request <;> exact ⟨rfl, rfl⟩

/-- Starting a callback is safe. -/
theorem Safe.start (h : s.Safe) {wdf : Wdf} {request : CallbackRequest}
    (ht : s.start wdf request = some t) : t.Safe := by
  obtain ⟨hmemory, -, -, hrings, hlocks, hthreads, -⟩ := start_cases ht
  have hnew := start_needs wdf request s.memory.pp
  refine ⟨fun u hu q hq ↦ ?_, fun u hu l hl ↦ ?_, fun u hu hu' ↦ ?_⟩
  · rw [hmemory] at hq ⊢
    rw [hthreads, List.mem_append, List.mem_singleton] at hu
    rcases hu with hu | rfl
    · exact h.forwards u hu q hq
    · rw [hnew.1] at hq
      cases hq
  · rw [hlocks]
    rw [hthreads, List.mem_append, List.mem_singleton] at hu
    rcases hu with hu | rfl
    · exact h.locks u hu l hl
    · rw [hnew.2] at hl
      cases hl
  · rw [hrings]
    rw [hthreads, List.mem_append, List.mem_singleton] at hu
    rcases hu with hu | rfl
    · exact h.rings u hu hu'
    · cases request <;> cases hu'

/-- The block that follows forwards only if `Active` was set. -/
theorem rest_forwards {origin : Origin} {needs : Access} {run : PairMemory → PairMemory}
    {rest : PairMemory → Callback} (h : Shape ⟨origin, .block needs run rest⟩) {m : PairMemory}
    {pp : PortPair} {q : QueueField} (hq : (rest m).forwards pp = some q) : m.pp.active = true := by
  have hlate {c : Callback} (hc : c.Late) : c.forwards pp ≠ some q := by
    cases c with
    | done => exact nofun
    | block needs run rest =>
        intro hforwards
        cases (hc.1.2 pp).symm.trans hforwards
  cases origin with
  | evtIo side =>
      rcases h with ⟨body, heq, -⟩ | ⟨-, hrest⟩
      · cases heq
        by_contra hinactive
        dsimp only at hq
        rw [if_neg hinactive] at hq
        cases hq
      · exact absurd hq (hlate (hrest m))
  | fileClose side =>
      rw [(closing_needs (h.2 m)).1 pp] at hq
      cases hq

/-- The block that follows acquires a lock only if its thread has not lost its device, or has held
the lock before. -/
theorem rest_lock {side : Side} {needs : Access} {run : PairMemory → PairMemory}
    {rest : PairMemory → Callback} (h : Shape ⟨.fileClose side, .block needs run rest⟩)
    {m : PairMemory} (hactive : m.pp.active = false) (hneeds : needs.lock ≠ some .signal) :
    (rest m).lock = none := by
  refine h.1.2.2.2.2 m hactive ?_
  match hlock : needs.lock with
  | none => rfl
  | some .signal => exact absurd hlock hneeds
  | some .data => exact absurd hlock h.1.2.2.1

/-- After a block, another callback is about to forward its request to a `NULL` handle if and only
if the data queues have been cleared and the block has starved it. -/
theorem Coherent.forwards_null_iff (h : s.Coherent) (hsafe : s.Safe) {needs : Access}
    {run : PairMemory → PairMemory} (hkeeps : Keeps needs.use run) (rest : PairMemory → Callback)
    {u : Thread} (hu : u ∈ s.threads) :
    (∃ q, u.rest.forwards (run s.memory).pp = some q ∧ s.memory.isNull q = true) ↔
      DestroyStep.nullDataQueues.taken s.step = true ∧
        Callback.Starves (.block needs run rest) u.rest s.memory.pp := by
  have hlive := hsafe.forwards u hu
  rcases hrest : u.rest with _ | ⟨needs', run', rest'⟩ <;> rw [hrest] at hlive
  · refine iff_of_false ?_ ?_
    · rintro ⟨q, hq, -⟩
      cases hq
    · rintro ⟨-, _, -, _, hneeds, -⟩
      cases hneeds
  have hstarves : Callback.Starves (.block needs run rest) (.block needs' run' rest') s.memory.pp ↔
      needs.use.Starves needs'.use s.memory.pp := by
    simp [Callback.Starves, Procedure.needs?]
  rw [hstarves]
  change (∃ q, needs'.use.forwards (run s.memory).pp = some q ∧ _) ↔ _
  change ∀ q, needs'.use.forwards s.memory.pp = some q → _ at hlive
  by_cases htaken : DestroyStep.nullDataQueues.taken s.step = true
  · have hall (q : QueueField) : s.memory.isNull q = true := by
      rw [h.progress.nulls]
      revert htaken
      cases hstep : s.step <;> cases q <;> decide
    have hbefore : needs'.use.forwards s.memory.pp = none := by
      rcases hq : needs'.use.forwards s.memory.pp with _ | q
      · rfl
      · cases (hlive q hq).symm.trans (hall q)
    rw [and_iff_right htaken, ← (hkeeps.turns s.memory hall).starves_iff hbefore]
    exact exists_congr fun q ↦ and_iff_left (hall q)
  · refine iff_of_false ?_ fun hstarved ↦ htaken hstarved.1
    rintro ⟨q, hq, hnull⟩
    -- only a wait queue can be gone, and a wait was about to be forwarded before the block too
    have hwait : q.isWait = true := by
      rw [h.progress.nulls] at hnull
      by_contra hdata
      rw [QueueField.clearedBy, if_neg hdata] at hnull
      exact htaken hnull
    cases (hlive q (BlockUse.forwards_wait hq hwait)).symm.trans hnull

section Rest

variable {i : ℕ} {origin : Origin} {needs : Access} {run : PairMemory → PairMemory}
  {rest : PairMemory → Callback}

/-- What is left of a callback after a block forwards to no handle that is `NULL`: a pair that is
still active has all its queues. -/
theorem Coherent.rest_forwards_live (h : s.Coherent)
    (hthread : s.threads[i]? = some ⟨origin, .block needs run rest⟩) {pp : PortPair}
    {q : QueueField} (hq : (rest s.memory).forwards pp = some q) : s.memory.isNull q = false := by
  have hactive := rest_forwards (h.shapes _ (List.mem_of_getElem? hthread)) hq
  have hstep : s.step = .clearActive := by simpa [h.progress.active] using hactive
  rw [h.progress.nulls, hstep]
  cases q <;> rfl

/-- Nor does it acquire `SignalLock` if that is gone. -/
theorem Coherent.rest_lock_live (h : s.Coherent) (hsafe : s.Safe)
    (hthread : s.threads[i]? = some ⟨origin, .block needs run rest⟩)
    (hdeleted : s.locks .signal = false) : (rest s.memory).lock ≠ some .signal := by
  have hmem := List.mem_of_getElem? hthread
  have hneeds : needs.lock ≠ some .signal := by
    intro hneeds
    rw [hsafe.locks _ hmem .signal hneeds] at hdeleted
    cases hdeleted
  -- a request keeps the lock there, and a close of an inactive pair does not take it
  cases origin with
  | evtIo side =>
      rcases h.needs_handler hmem rfl with hdone | ⟨-, hall⟩
      · cases hdone
      · rw [hall] at hdeleted
        cases hdeleted
  | fileClose side =>
      have hinactive : s.memory.pp.active = false := by
        rw [h.progress.active]
        rw [h.progress.locks] at hdeleted
        cases hstep : s.step <;> first | rfl | (rw [hstep] at hdeleted; cases hdeleted)
      rw [rest_lock (h.shapes _ hmem) hinactive hneeds]
      simp

/-- The threads after a block: what is left of its own, and the others. -/
theorem mem_set_thread {thread new u : Thread} (hthread : s.threads[i]? = some thread) :
    u ∈ s.threads.set i new ↔ u = new ∨ ∃ j ≠ i, s.threads[j]? = some u := by
  have hbound : i < s.threads.length := (List.getElem?_eq_some_iff.mp hthread).1
  rw [List.mem_iff_getElem?]
  constructor
  · rintro ⟨j, hj⟩
    by_cases heq : i = j
    · subst heq
      rw [List.getElem?_set_self hbound] at hj
      exact .inl (Option.some.inj hj).symm
    · rw [List.getElem?_set_ne heq] at hj
      exact .inr ⟨j, Ne.symm heq, hj⟩
  · rintro (rfl | ⟨j, hj, hother⟩)
    · exact ⟨i, List.getElem?_set_self hbound⟩
    · exact ⟨j, (List.getElem?_set_ne (Ne.symm hj)).trans hother⟩

end Rest

/-- A block is safe if and only if it is allowed. -/
theorem block_safe_iff (h : s.Coherent) (hsafe : s.Safe) {i : ℕ} (ht : s.runBlock i = some t) :
    t.Safe ↔ s.Allows (.block i) := by
  have hcoherent : t.Coherent := h.next (e := .block i) ht
  obtain ⟨origin, needs, run, rest, hthread, rfl⟩ := run_block_cases ht
  have hkeeps := (shape_block (h.shapes _ (List.mem_of_getElem? hthread))).1
  have hnull : (run s.memory).isNull = s.memory.isNull := hkeeps.nulls s.memory
  have hforwards {j : ℕ} {u : Thread} (hu : s.threads[j]? = some u) :=
    h.forwards_null_iff hsafe hkeeps rest (List.mem_of_getElem? hu)
  rw [hcoherent.safe_iff]
  dsimp only
  rw [hnull]
  constructor
  · rintro ⟨hlive, -⟩ hcleared u hu j hj other hother hstarves
    cases hthread.symm.trans hu
    obtain ⟨q, hq, hq'⟩ := (hforwards hother).mpr ⟨hcleared, hstarves⟩
    have hmem : other ∈ s.threads.set i ⟨origin, rest s.memory⟩ :=
      (mem_set_thread hthread).mpr (.inr ⟨j, hj, hother⟩)
    cases (hlive other hmem q hq).symm.trans hq'
  · intro hallowed
    refine ⟨fun u hu q hq ↦ ?_, fun hdeleted u hu hlock ↦ ?_⟩
    · rcases (mem_set_thread hthread).mp hu with rfl | ⟨j, hj, hother⟩
      · exact h.rest_forwards_live hthread hq
      · by_contra hcleared
        obtain ⟨htaken, hstarves⟩ := (hforwards hother).mp ⟨q, hq, by simpa using hcleared⟩
        exact hallowed htaken _ hthread j hj u hother hstarves
    · rcases (mem_set_thread hthread).mp hu with rfl | ⟨j, -, hother⟩
      · exact h.rest_lock_live hsafe hthread hdeleted hlock
      · cases (hsafe.locks u (List.mem_of_getElem? hother) .signal hlock).symm.trans hdeleted

/-- A step of the destroy is safe if and only if it is allowed. -/
theorem destroy_safe_iff (h : s.Coherent) (hsafe : s.Safe) (ht : s.destroy = some t) :
    t.Safe ↔ s.Allows .destroy := by
  have hcoherent : t.Coherent := h.next (e := .destroy) ht
  have hnulls := h.progress.nulls
  have hlocks := h.progress.locks
  have hthreads := (destroy_cases ht).1
  rw [hcoherent.safe_iff, hthreads]
  unfold Allows
  -- what holds of the threads before holds after steps that change neither pair, handles nor lock
  have hsame (hpair : t.memory = s.memory) (hsignal : t.locks .signal = s.locks .signal) :
      (∀ u ∈ s.threads, ∀ q, u.rest.forwards t.memory.pp = some q → t.memory.isNull q = false) ∧
        (t.locks .signal = false → ∀ u ∈ s.threads, u.rest.lock ≠ some .signal) := by
    rw [hpair, hsignal]
    exact (h.safe_iff.mp hsafe)
  unfold destroy at ht
  cases hstep : s.step <;> rw [hstep] at ht hnulls hlocks <;> dsimp only at ht ⊢
  case finished => cases ht
  case unlist | freeRings | deleteDataLock =>
    cases ht
    exact iff_of_true (hsame rfl rfl) trivial
  case deleteComDevice | deleteCompanionDevice =>
    obtain ⟨-, rfl⟩ := delete_device_eq ht
    exact iff_of_true (hsame rfl rfl) trivial
  case clearActive =>
    cases ht
    refine iff_of_true ⟨fun u _ q _ ↦ ?_, fun hdeleted ↦ ?_⟩ trivial
    · exact (hnulls q).trans (by cases q <;> rfl)
    · cases (hlocks .signal).symm.trans hdeleted
  case nullSignalQueues =>
    cases ht
    have hnone (q : QueueField) : s.memory.isNull q = false :=
      (hnulls q).trans (by cases q <;> rfl)
    constructor
    · rintro ⟨hforwards, -⟩ u hu q hq
      exact (Bool.or_eq_false_iff.mp (hforwards u hu q hq)).2
    · intro hallowed
      refine ⟨fun u hu q hq ↦ Bool.or_eq_false_iff.mpr ⟨hnone q, hallowed u hu q hq⟩, ?_⟩
      intro hdeleted
      cases (hlocks .signal).symm.trans hdeleted
  case nullDataQueues =>
    cases ht
    have hwait (q : QueueField) : s.memory.isNull q = q.isWait :=
      (hnulls q).trans (by cases q <;> rfl)
    constructor
    · rintro ⟨hforwards, -⟩ u hu q hq
      have hcleared := hforwards u hu q hq
      simp only [hwait, Bool.or_not_self] at hcleared
      cases hcleared
    · intro hallowed
      refine ⟨fun u hu q hq ↦ ?_, fun hdeleted ↦ ?_⟩
      · have hlive := hsafe.forwards u hu q hq
        rw [hwait, hallowed u hu q hq] at hlive
        cases hlive
      · cases (hlocks .signal).symm.trans hdeleted
  case deleteSignalLock =>
    cases ht
    constructor
    · rintro ⟨-, hsignal⟩
      refine hsignal ?_
      dsimp only
      rw [Function.update_self]
    · exact fun hallowed ↦ ⟨hsafe.forwards, fun _ ↦ hallowed⟩
  case release =>
    cases ht
    have hgone (side : Side) : s.devices side = false := by
      rw [h.progress.devices, hstep]
      cases side <;> rfl
    refine iff_of_true ⟨fun u hu q hq ↦ ?_, (h.safe_iff.mp hsafe).2⟩ trivial
    rcases horigin : u.origin with side | side
    · rw [h.returned side (hgone side) u hu horigin] at hq
      cases hq
    · rw [(closing_needs (h.closing hu horigin)).1] at hq
      cases hq

/-- While a pair that is in use is destroyed, no callback is ever about to forward a request to a
`NULL` handle, to acquire a deleted lock or to use a freed ring, if and only if every step meets the
condition `Allows`. -/
theorem teardown_safe_iff (pp : PortPair) (handles : Side → ℕ) (events : List TeardownEvent) :
    Transition.EveryStep next (fun _ _ t ↦ t.Safe) (inUse pp handles) events ↔
      Transition.EveryStep next (fun s e _ ↦ s.Allows e) (inUse pp handles) events := by
  have hstart : (inUse pp handles).Safe := ⟨nofun, nofun, nofun⟩
  refine Transition.everyStep_iff (I := fun s ↦ s.Coherent ∧ s.Safe) ?_ ?_
    ⟨in_use_coherent pp handles, hstart⟩
  · rintro s e t ⟨h, -⟩ ht hsafe
    exact ⟨h.next ht, hsafe⟩
  · rintro s e t ⟨h, hsafe⟩ ht
    cases e with
    | destroy => exact destroy_safe_iff h hsafe ht
    | start wdf request => exact iff_of_true (hsafe.start ht) trivial
    | block i => exact block_safe_iff h hsafe ht

/-- The watcher's wait is past its `Active` check when `GcomPortPairDestroy` clears the handles of
the wait queues: the handler is about to forward its request to `NULL`. -/
theorem wait_forwarded_to_null :
    ¬∀ (pp : PortPair) (handles : Side → ℕ) (events : List TeardownEvent) (s : Teardown),
      Transition.run next (inUse pp handles) events = some s → s.Safe := by
  intro h
  have hsafe := h (.initial 5) (fun _ ↦ 1)
    [.start .ok (.compIoctl ⟨0, 0, 56⟩ .waitSignalChange), .block 0, .destroy, .destroy, .destroy]
    _ rfl
  have hnull := hsafe.forwards _ (List.mem_singleton_self _) .signalWait rfl
  cases hnull

end Teardown

end GhostCom
