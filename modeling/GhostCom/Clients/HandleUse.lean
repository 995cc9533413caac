import Mathlib.Algebra.Group.Nat.Defs
import GhostCom.Clients.Workers

/-!
# Uses of the companion handle

`NativePort` copies the companion handle into its streams, its signal watcher and, through the
streams, into every writer thread. Here all of these run beside the JS thread, which creates
streams, writes, shuts down, closes the port and, when the garbage collector says so, drops the
streams. `misused` records whether a `ReadFile`, `WriteFile`, `DeviceIoControl` or `CancelIoEx` was
issued with the companion handle value after `NativePort::close` had closed it.
-/

namespace GhostCom

open Transition (run EveryStep)

namespace HandleUse

/-- A `PortStreamNative`: whether its handle is the companion handle (and not the null handle of a
closed port), its shutdown flag, its read thread unless joined, and whether it has been dropped. -/
structure Stream where
  companion : Bool
  shutdown : Bool
  reader : Option ReadThread
  dropped : Bool

/-- The signal watcher of a port, with the handle it was started with. -/
structure Watcher where
  companion : Bool
  shutdown : Bool
  point : WatchPoint

/-- A writer thread in `do_write`: the bytes still to be written, and whether it waits for a
`WriteFile`. It has ended when none are left and it waits for nothing. -/
structure Writer where
  companion : Bool
  remaining : ℕ
  waiting : Bool

/-- The steps by which `shutdown` and `stop` end a thread. -/
inductive Stage where
  | store
  | cancel
  | join

/-- What the JS thread is doing: nothing, `PortStreamNative::shutdown` of a stream (`drop` calls it
too), `SignalWatcher::stop` (`close` calls it first), or the `CloseHandle` of `close`. -/
inductive Js where
  | idle
  | stream (i : ℕ) (stage : Stage) (drop : Bool)
  | watcher (stage : Stage) (close : Bool)
  | closeHandle

/-- `handleOpen` says whether the companion handle is open, `held` whether `NativePort` still has
its value. -/
structure State where
  handleOpen : Bool
  held : Bool
  streams : List Stream
  watcher : Option Watcher
  writers : List Writer
  js : Js
  misused : Bool

/-- A port that has just been opened. -/
def start : State where
  handleOpen := true
  held := true
  streams := []
  watcher := none
  writers := []
  js := .idle
  misused := false

/-- The calls of the JS thread. `close` is also the drop of the `NativePort`. -/
inductive Call where
  | createStream
  | onData (i : ℕ)
  | pauseReading (i : ℕ) (value : Bool)
  | write (i : ℕ) (length : ℕ)
  | shutdown (i : ℕ)
  | dropStream (i : ℕ)
  | onSignalChange
  | signals
  | shutdownSignals
  | close

/-- The steps of a writer thread: its event cannot be created, `WriteFile` is refused, its request
is issued, is completed with some of the bytes, or fails. -/
inductive WriterStep where
  | noEvent
  | refused
  | issued
  | written (count : ℕ)
  | failed

/-- What can happen: a call of the JS thread, its next step, a step of a worker, or the completion
of a request of the read thread or the watcher. -/
inductive Event where
  | call (c : Call)
  | js
  | reader (i : ℕ) (outcome : CallOutcome)
  | readDone (i : ℕ)
  | watcher (outcome : CallOutcome)
  | waitDone
  | writer (k : ℕ) (step : WriterStep)

namespace State

/-- An I/O call with a handle that is or is not the companion handle value. -/
def io (s : State) (companion : Bool) : State :=
  { s with misused := s.misused || (companion && !s.handleOpen) }

/-- Replace one stream. -/
def setStream (s : State) (i : ℕ) (st : Stream) : State :=
  { s with streams := s.streams.set i st }

end State

/-- `CancelIoEx` completes the requests outstanding on the same handle; those of writer threads fail
in a step of theirs. -/
def cancelIo (s : State) (companion : Bool) : State :=
  { s.io companion with
    streams := s.streams.map fun st ↦
      if st.companion = companion then { st with reader := st.reader.map ReadThread.cancelIo }
      else st
    watcher := s.watcher.map fun w ↦
      if w.companion = companion then { w with point := w.point.cancelIo } else w }

/-- A live stream. -/
def State.stream? (s : State) (i : ℕ) : Option Stream :=
  (s.streams[i]?).filter fun st ↦ !st.dropped

/-- Begin a call of the JS thread. -/
def begin (s : State) : Call → Option State
  | .createStream => some { s with streams := s.streams ++ [⟨s.held, false, none, false⟩] }
  | .onData i => (s.stream? i).bind fun st ↦
      if st.reader.isNone && !st.shutdown then
        some (s.setStream i { st with reader := some (.spawned false) })
      else none
  | .pauseReading i value => (s.stream? i).map fun st ↦
      s.setStream i { st with reader := st.reader.map fun w ↦ { w with paused := value } }
  | .write i length => (s.stream? i).map fun st ↦
      { s with writers := s.writers ++ [⟨st.companion, length, false⟩] }
  | .shutdown i => (s.stream? i).map fun _ ↦ { s with js := .stream i .store false }
  | .dropStream i => (s.stream? i).map fun _ ↦ { s with js := .stream i .store true }
  | .onSignalChange =>
      some { s with watcher := s.watcher.or (some ⟨s.held, false, .create⟩) }
  | .signals => some (s.io s.held)
  | .shutdownSignals =>
      some (if s.watcher.isSome then { s with js := .watcher .store false } else s)
  | .close =>
      some { s with js := if s.watcher.isSome then .watcher .store true else .closeHandle }

/-- The next step of the JS thread's current call. -/
def jsNext (s : State) : Option State :=
  match s.js with
  | .idle => none
  | .stream i stage drop => (s.stream? i).bind fun st ↦
      match stage with
      | .store =>
          some { s.setStream i { st with shutdown := true } with js := .stream i .cancel drop }
      | .cancel => some { cancelIo s st.companion with js := .stream i .join drop }
      | .join =>
          if st.reader.all fun w ↦ readThread.isDone w then
            some { s.setStream i { st with reader := none, dropped := drop } with js := .idle }
          else none
  | .watcher stage close => s.watcher.bind fun w ↦
      match stage with
      | .store =>
          some { s with watcher := some { w with shutdown := true }, js := .watcher .cancel close }
      | .cancel => some { cancelIo s w.companion with js := .watcher .join close }
      | .join =>
          -- the watcher is dropped here, which stops it once more
          if watchThread.isDone w.point then
            some { s.io w.companion with
              watcher := none, js := if close then .closeHandle else .idle }
          else none
  | .closeHandle =>
      some (if s.held then { s with handleOpen := false, held := false, js := .idle }
        else { s with js := .idle })

/-- A step of the read thread of a stream. -/
def readerNext (s : State) (i : ℕ) (outcome : CallOutcome) : Option State :=
  (s.streams[i]?).bind fun st ↦ st.reader.bind fun w ↦
    (readThreadStep st.shutdown w outcome).map fun w' ↦
      (if w.point = .readFile then s.io st.companion else s).setStream i
        { st with reader := some w' }

/-- The request of a read thread is completed with data. -/
def readDone (s : State) (i : ℕ) : Option State :=
  (s.streams[i]?).bind fun st ↦ st.reader.bind fun w ↦
    if w.point = .waiting then
      some (s.setStream i { st with reader := some { w with point := .deliver } })
    else none

/-- A step of the watcher. -/
def watcherNext (s : State) (outcome : CallOutcome) : Option State :=
  s.watcher.bind fun w ↦ (watchThreadStep w.shutdown w.point outcome).map fun point ↦
    { (if w.point = .ioctl then s.io w.companion else s) with
      watcher := some { w with point := point } }

/-- The request of the watcher is completed. -/
def waitDone (s : State) : Option State :=
  s.watcher.bind fun w ↦
    if w.point = .waiting then some { s with watcher := some { w with point := .completed } }
    else none

/-- A step of a writer thread, and whether it issues `WriteFile`. A rest that does not fit 32 bits
makes the thread panic. -/
def Writer.next (w : Writer) : WriterStep → Option (Writer × Bool)
  | .noEvent =>
      if !w.waiting && w.remaining > 0 then some ({ w with remaining := 0 }, false) else none
  | .refused =>
      if !w.waiting && w.remaining > 0 then
        some ({ w with remaining := 0 }, w.remaining < 2 ^ 32)
      else none
  | .issued =>
      if !w.waiting && w.remaining > 0 then
        if w.remaining < 2 ^ 32 then some ({ w with waiting := true }, true)
        else some ({ w with remaining := 0 }, false)
      else none
  | .written count =>
      if w.waiting && 0 < count && count ≤ w.remaining then
        some ({ w with remaining := w.remaining - count, waiting := false }, false)
      else none
  | .failed => if w.waiting then some ({ w with remaining := 0, waiting := false }, false) else none

/-- A step of a writer thread of the port. -/
def writerNext (s : State) (k : ℕ) (step : WriterStep) : Option State :=
  (s.writers[k]?).bind fun w ↦ (w.next step).map fun after ↦
    { (if after.2 then s.io w.companion else s) with writers := s.writers.set k after.1 }

/-- One event. -/
def next (s : State) : Event → Option State
  | .call c => match s.js with
      | .idle => begin s c
      | _ => none
  | .js => jsNext s
  | .reader i outcome => readerNext s i outcome
  | .readDone i => readDone s i
  | .watcher outcome => watcherNext s outcome
  | .waitDone => waitDone s
  | .writer k step => writerNext s k step

/-- The writer may still issue a `WriteFile`: it is about to, or it waits for a request that may be
completed with a part of its bytes. -/
def Writer.MayWrite (w : Writer) : Prop :=
  (w.waiting = false ∧ 0 < w.remaining ∧ w.remaining < 2 ^ 32) ∨
    (w.waiting = true ∧ 1 < w.remaining)

/-- Every stream with the companion handle has been dropped, and no writer thread with the companion
handle may still write. -/
structure Released (s : State) : Prop where
  streams : ∀ st ∈ s.streams, st.companion = true → st.dropped = true
  writers : ∀ w ∈ s.writers, w.companion = true → ¬ w.MayWrite

/-- Once the handle is closed, its value is not used any more, in any continuation. -/
def Safe (s : State) : Prop :=
  s.handleOpen = false → ∀ es t, run next s es = some t → t.misused = false

/-- The event closes the companion handle. -/
def Closes (s : State) (e : Event) : Prop := e = .js ∧ s.js = .closeHandle ∧ s.held = true

/-- A dropped stream has joined its read thread, and once the handle is closed every stream that has
its value is dropped. -/
structure StreamOk (handleOpen : Bool) (st : Stream) : Prop where
  joined : st.dropped = true → st.reader = none
  released : handleOpen = false → st.companion = true → st.dropped = true

/-- What runs keep that close the handle only when it is released. -/
structure Sound (s : State) : Prop where
  streams : ∀ st ∈ s.streams, StreamOk s.handleOpen st
  writers : s.handleOpen = false → ∀ w ∈ s.writers, w.companion = true → ¬ w.MayWrite
  watcher : s.handleOpen = false → ∀ w, s.watcher = some w → w.companion = false
  closing : s.js = .closeHandle → s.watcher = none
  held : s.held = s.handleOpen
  clean : s.misused = false

theorem start_sound : Sound start := by
  constructor <;> simp [start]

/-- An I/O call with a handle that is not the closed one changes nothing. -/
theorem io_eq {s : State} {companion : Bool} (hclean : s.misused = false)
    (hcompanion : s.handleOpen = false → companion = false) : s.io companion = s := by
  have hmisused : (s.misused || (companion && !s.handleOpen)) = s.misused := by
    rw [hclean, Bool.false_or]
    cases hopen : s.handleOpen with
    | true => simp
    | false => rw [hcompanion hopen]; rfl
  unfold State.io
  rw [hmisused]

/-- A live stream is one that has not been dropped. -/
theorem stream?_eq_some {s : State} {i : ℕ} {st : Stream} (h : s.stream? i = some st) :
    s.streams[i]? = some st ∧ st.dropped = false := by
  obtain ⟨hget, hlive⟩ := Option.filter_eq_some_iff.mp h
  exact ⟨hget, by simpa using hlive⟩

namespace Sound

variable {s : State}

/-- With the handle closed, a live stream does not have its value. -/
theorem live_companion (h : Sound s) {i : ℕ} {st : Stream} (hst : s.streams[i]? = some st)
    (hlive : st.dropped = false) (hclosed : s.handleOpen = false) : st.companion = false := by
  have hok := (h.streams st (List.mem_of_getElem? hst)).released hclosed
  cases hcompanion : st.companion with
  | false => rfl
  | true =>
      rw [hlive] at hok
      exact absurd (hok hcompanion) Bool.false_ne_true

/-- A stream with a read thread is live. -/
theorem live_of_reader (h : Sound s) {i : ℕ} {st : Stream} {w : ReadThread}
    (hst : s.streams[i]? = some st) (hw : st.reader = some w) : st.dropped = false := by
  have hok := (h.streams st (List.mem_of_getElem? hst)).joined
  cases hdropped : st.dropped with
  | false => rfl
  | true =>
      rw [hw] at hok
      cases hok hdropped

/-- The JS thread turns to something other than closing the handle. -/
theorem setJs (h : Sound s) {js : Js} (hjs : js = .closeHandle → s.watcher = none) :
    Sound { s with js := js } :=
  ⟨h.streams, h.writers, h.watcher, hjs, h.held, h.clean⟩

/-- One stream is replaced. -/
theorem setStream (h : Sound s) {st : Stream} (hst : StreamOk s.handleOpen st) (i : ℕ) :
    Sound (s.setStream i st) := by
  refine ⟨?_, h.writers, h.watcher, h.closing, h.held, h.clean⟩
  intro other hother
  cases List.mem_or_eq_of_mem_set hother with
  | inl hold => exact h.streams other hold
  | inr hnew =>
      rw [hnew]
      exact hst

/-- A live stream is replaced by one with the same handle. -/
theorem setLive (h : Sound s) {i : ℕ} {st st' : Stream} (hget : s.streams[i]? = some st)
    (hlive : st.dropped = false) (hcompanion : st'.companion = st.companion)
    (hdropped : st'.dropped = st.dropped) : Sound (s.setStream i st') := by
  have hok := h.streams st (List.mem_of_getElem? hget)
  apply h.setStream
  constructor
  · intro h'
    rw [hdropped, hlive] at h'
    cases h'
  · intro hclosed h'
    rw [hcompanion] at h'
    rw [hdropped]
    exact hok.released hclosed h'

/-- The watcher is replaced by one with the same handle. -/
theorem setWatcher (h : Sound s) {w w' : Watcher} (hw : s.watcher = some w)
    (hcompanion : w'.companion = w.companion) : Sound { s with watcher := some w' } := by
  refine ⟨h.streams, h.writers, ?_, ?_, h.held, h.clean⟩
  · intro hclosed other hother
    cases hother
    rw [hcompanion]
    exact h.watcher hclosed w hw
  · intro hjs
    have hnone := h.closing hjs
    rw [hw] at hnone
    cases hnone

/-- `CancelIoEx` with a handle that is not the closed one. -/
theorem cancelIo (h : Sound s) {companion : Bool}
    (hcompanion : s.handleOpen = false → companion = false) :
    Sound (cancelIo s companion) := by
  unfold HandleUse.cancelIo
  rw [io_eq h.clean hcompanion]
  refine ⟨?_, h.writers, ?_, ?_, h.held, h.clean⟩
  · intro st hst
    obtain ⟨old, hold, rfl⟩ := List.mem_map.mp hst
    have hok := h.streams old hold
    split
    · refine ⟨fun hdropped ↦ ?_, hok.released⟩
      show old.reader.map ReadThread.cancelIo = none
      rw [hok.joined hdropped]
      rfl
    · exact hok
  · intro hclosed w hw
    obtain ⟨old, hold, rfl⟩ := Option.map_eq_some_iff.mp hw
    have hold := h.watcher hclosed old hold
    split
    · exact hold
    · exact hold
  · intro hjs
    show s.watcher.map _ = none
    rw [h.closing hjs]
    rfl

/-- A call of the JS thread. -/
theorem begin (h : Sound s) {c : Call} {t : State} (ht : begin s c = some t)
    (hidle : s.js = .idle) : Sound t := by
  have hnotClosing {js : Js} (hjs : js ≠ .closeHandle) : Sound { s with js := js } :=
    h.setJs fun heq ↦ absurd heq hjs
  cases c with
  | createStream =>
      cases ht
      refine ⟨?_, h.writers, h.watcher, h.closing, h.held, h.clean⟩
      intro st hst
      cases List.mem_append.mp hst with
      | inl hold => exact h.streams st hold
      | inr hnew =>
          rw [List.mem_singleton.mp hnew]
          -- a stream made after the close does not get the companion handle
          refine ⟨fun _ ↦ rfl, fun hclosed hcompanion ↦ ?_⟩
          have hheld : s.held = true := hcompanion
          rw [h.held, hclosed] at hheld
          cases hheld
  | onData i =>
      obtain ⟨st, hst, ht⟩ := Option.bind_eq_some_iff.mp ht
      obtain ⟨hget, hlive⟩ := stream?_eq_some hst
      obtain ⟨-, ht⟩ := Option.ite_none_right_eq_some.mp ht
      cases ht
      exact h.setLive hget hlive rfl rfl
  | pauseReading i value =>
      obtain ⟨st, hst, rfl⟩ := Option.map_eq_some_iff.mp ht
      obtain ⟨hget, hlive⟩ := stream?_eq_some hst
      exact h.setLive hget hlive rfl rfl
  | write i length =>
      obtain ⟨st, hst, rfl⟩ := Option.map_eq_some_iff.mp ht
      obtain ⟨hget, hlive⟩ := stream?_eq_some hst
      refine ⟨h.streams, ?_, h.watcher, h.closing, h.held, h.clean⟩
      intro hclosed w hw hcompanion
      cases List.mem_append.mp hw with
      | inl hold => exact h.writers hclosed w hold hcompanion
      | inr hnew =>
          -- the writer has the value that its stream has, and no live stream has a closed one
          rw [List.mem_singleton.mp hnew] at hcompanion
          rw [h.live_companion hget hlive hclosed] at hcompanion
          cases hcompanion
  | shutdown i =>
      obtain ⟨st, -, rfl⟩ := Option.map_eq_some_iff.mp ht
      exact hnotClosing nofun
  | dropStream i =>
      obtain ⟨st, -, rfl⟩ := Option.map_eq_some_iff.mp ht
      exact hnotClosing nofun
  | onSignalChange =>
      cases ht
      cases hwatcher : s.watcher with
      | some w => exact h.setWatcher hwatcher rfl
      | none =>
          refine ⟨h.streams, h.writers, ?_, ?_, h.held, h.clean⟩
          · intro hclosed w hw
            cases hw
            show s.held = false
            rw [h.held, hclosed]
          · intro hjs
            rw [hidle] at hjs
            cases hjs
  | signals =>
      cases ht
      rw [io_eq h.clean fun hclosed ↦ h.held.trans hclosed]
      exact h
  | shutdownSignals =>
      cases ht
      split
      · exact hnotClosing nofun
      · exact h
  | close =>
      cases ht
      apply h.setJs
      intro hjs
      split at hjs
      · cases hjs
      · next hnone => simpa using hnone

/-- A step of the JS thread that does not close a handle still in use. -/
theorem jsNext (h : Sound s) {t : State} (ht : jsNext s = some t)
    (hreleased : s.js = .closeHandle → s.held = true → Released s) : Sound t := by
  unfold HandleUse.jsNext at ht
  cases hjs : s.js with
  | idle =>
      rw [hjs] at ht
      cases ht
  | stream i stage drop =>
      rw [hjs] at ht
      obtain ⟨st, hst, ht⟩ := Option.bind_eq_some_iff.mp ht
      obtain ⟨hget, hlive⟩ := stream?_eq_some hst
      cases stage with
      | store =>
          cases ht
          have hstored : Sound (s.setStream i { st with shutdown := true }) :=
            h.setLive hget hlive rfl rfl
          exact hstored.setJs nofun
      | cancel =>
          cases ht
          exact (h.cancelIo (h.live_companion hget hlive)).setJs nofun
      | join =>
          obtain ⟨-, ht⟩ := Option.ite_none_right_eq_some.mp ht
          cases ht
          refine (h.setStream ⟨fun _ ↦ rfl, fun hclosed hcompanion ↦ ?_⟩ i).setJs nofun
          have hfalse := h.live_companion hget hlive hclosed
          rw [show st.companion = true from hcompanion] at hfalse
          cases hfalse
  | watcher stage close =>
      rw [hjs] at ht
      obtain ⟨w, hw, ht⟩ := Option.bind_eq_some_iff.mp ht
      have hcompanion (hclosed : s.handleOpen = false) := h.watcher hclosed w hw
      cases stage with
      | store =>
          cases ht
          have hstored : Sound { s with watcher := some { w with shutdown := true } } :=
            h.setWatcher hw rfl
          exact hstored.setJs nofun
      | cancel =>
          cases ht
          exact (h.cancelIo hcompanion).setJs nofun
      | join =>
          obtain ⟨-, ht⟩ := Option.ite_none_right_eq_some.mp ht
          cases ht
          rw [io_eq h.clean hcompanion]
          exact ⟨h.streams, h.writers, nofun, fun _ ↦ rfl, h.held, h.clean⟩
  | closeHandle =>
      rw [hjs] at ht
      cases ht
      -- `close` has joined the watcher before it comes here
      have hnone := h.closing hjs
      split
      · next hheld =>
          have hreleased := hreleased hjs hheld
          refine ⟨?_, fun _ ↦ hreleased.writers, ?_, nofun, rfl, h.clean⟩
          · intro st hst
            exact ⟨(h.streams st hst).joined, fun _ ↦ hreleased.streams st hst⟩
          · intro _ w hw
            rw [show s.watcher = some w from hw] at hnone
            cases hnone
      · exact h.setJs nofun

/-- A step of a read thread: a stream that has one is live. -/
theorem readerNext (h : Sound s) {i : ℕ} {outcome : CallOutcome} {t : State}
    (ht : readerNext s i outcome = some t) : Sound t := by
  obtain ⟨st, hst, ht⟩ := Option.bind_eq_some_iff.mp ht
  obtain ⟨w, hw, ht⟩ := Option.bind_eq_some_iff.mp ht
  obtain ⟨w', -, rfl⟩ := Option.map_eq_some_iff.mp ht
  have hlive := h.live_of_reader hst hw
  rw [io_eq h.clean (h.live_companion hst hlive), ite_self]
  exact h.setLive hst hlive rfl rfl

theorem readDone (h : Sound s) {i : ℕ} {t : State} (ht : readDone s i = some t) : Sound t := by
  obtain ⟨st, hst, ht⟩ := Option.bind_eq_some_iff.mp ht
  obtain ⟨w, hw, ht⟩ := Option.bind_eq_some_iff.mp ht
  obtain ⟨-, ht⟩ := Option.ite_none_right_eq_some.mp ht
  cases ht
  exact h.setLive hst (h.live_of_reader hst hw) rfl rfl

/-- A step of the watcher. -/
theorem watcherNext (h : Sound s) {outcome : CallOutcome} {t : State}
    (ht : watcherNext s outcome = some t) : Sound t := by
  obtain ⟨w, hw, ht⟩ := Option.bind_eq_some_iff.mp ht
  obtain ⟨point, -, rfl⟩ := Option.map_eq_some_iff.mp ht
  rw [io_eq h.clean fun hclosed ↦ h.watcher hclosed w hw, ite_self]
  exact h.setWatcher hw rfl

theorem waitDone (h : Sound s) {t : State} (ht : waitDone s = some t) : Sound t := by
  obtain ⟨w, hw, ht⟩ := Option.bind_eq_some_iff.mp ht
  obtain ⟨-, ht⟩ := Option.ite_none_right_eq_some.mp ht
  cases ht
  exact h.setWatcher hw rfl

end Sound

/-- A writer that has ended or whose rest is too long may not write. -/
theorem Writer.not_mayWrite_of_ended {w : Writer} (hwaiting : w.waiting = false)
    (hremaining : w.remaining = 0) : ¬ w.MayWrite := by
  intro h
  cases h with
  | inl h => exact absurd h.2.1 (by omega)
  | inr h =>
      rw [hwaiting] at h
      cases h.1

/-- A writer that may not write issues no `WriteFile`, and may not write after its step either. -/
theorem Writer.next_of_not_mayWrite {w w' : Writer} {step : WriterStep} {issues : Bool}
    (h : ¬ w.MayWrite) (hstep : w.next step = some (w', issues)) :
    issues = false ∧ ¬ w'.MayWrite := by
  have htest (hwaiting : w.waiting = false) (hpos : 0 < w.remaining) : ¬ w.remaining < 2 ^ 32 :=
    fun hlt ↦ h (.inl ⟨hwaiting, hpos, hlt⟩)
  cases step with
  | noEvent =>
      obtain ⟨hready, heq⟩ := Option.ite_none_right_eq_some.mp hstep
      cases heq
      have hready : w.waiting = false ∧ 0 < w.remaining := by simpa using hready
      exact ⟨rfl, not_mayWrite_of_ended hready.1 rfl⟩
  | refused =>
      obtain ⟨hready, heq⟩ := Option.ite_none_right_eq_some.mp hstep
      cases heq
      have hready : w.waiting = false ∧ 0 < w.remaining := by simpa using hready
      exact ⟨by simpa using htest hready.1 hready.2, not_mayWrite_of_ended hready.1 rfl⟩
  | issued =>
      obtain ⟨hready, heq⟩ := Option.ite_none_right_eq_some.mp hstep
      have hready : w.waiting = false ∧ 0 < w.remaining := by simpa using hready
      rw [if_neg (htest hready.1 hready.2)] at heq
      cases heq
      exact ⟨rfl, not_mayWrite_of_ended hready.1 rfl⟩
  | written count =>
      obtain ⟨hready, heq⟩ := Option.ite_none_right_eq_some.mp hstep
      cases heq
      have hready : (w.waiting = true ∧ 0 < count) ∧ count ≤ w.remaining := by simpa using hready
      refine ⟨rfl, not_mayWrite_of_ended rfl ?_⟩
      -- one byte is left, so a completion with a part of it is a completion with all
      have hone : ¬ 1 < w.remaining := fun hlt ↦ h (.inr ⟨hready.1.1, hlt⟩)
      show w.remaining - count = 0
      omega
  | failed =>
      obtain ⟨hready, heq⟩ := Option.ite_none_right_eq_some.mp hstep
      cases heq
      exact ⟨rfl, not_mayWrite_of_ended rfl rfl⟩

/-- A writer keeps its handle. -/
theorem Writer.next_companion {w w' : Writer} {step : WriterStep} {issues : Bool}
    (hstep : w.next step = some (w', issues)) : w'.companion = w.companion := by
  cases step with
  | issued =>
      obtain ⟨-, heq⟩ := Option.ite_none_right_eq_some.mp hstep
      split at heq
      · cases heq
        rfl
      · cases heq
        rfl
  | noEvent | refused | written count | failed =>
      obtain ⟨-, heq⟩ := Option.ite_none_right_eq_some.mp hstep
      cases heq
      rfl

/-- A step of a writer thread. -/
theorem Sound.writerNext {s : State} (h : Sound s) {k : ℕ} {step : WriterStep} {t : State}
    (ht : writerNext s k step = some t) : Sound t := by
  obtain ⟨w, hw, ht⟩ := Option.bind_eq_some_iff.mp ht
  obtain ⟨⟨w', issues⟩, hstep, rfl⟩ := Option.map_eq_some_iff.mp ht
  have hmem := List.mem_of_getElem? hw
  have hio : (if issues = true then s.io w.companion else s) = s := by
    split
    · next hissues =>
        apply io_eq h.clean
        intro hclosed
        cases hcompanion : w.companion with
        | false => rfl
        | true =>
            have hnot := h.writers hclosed w hmem hcompanion
            rw [(Writer.next_of_not_mayWrite hnot hstep).1] at hissues
            cases hissues
    · rfl
  dsimp only
  rw [hio]
  refine ⟨h.streams, ?_, h.watcher, h.closing, h.held, h.clean⟩
  intro hclosed other hother hcompanion
  cases List.mem_or_eq_of_mem_set hother with
  | inl hold => exact h.writers hclosed other hold hcompanion
  | inr hnew =>
      rw [hnew] at hcompanion ⊢
      rw [Writer.next_companion hstep] at hcompanion
      exact (Writer.next_of_not_mayWrite (h.writers hclosed w hmem hcompanion) hstep).2

/-- The JS thread calls when it does nothing else. -/
theorem call_eq_some {s t : State} {c : Call} (ht : next s (.call c) = some t) :
    s.js = .idle ∧ begin s c = some t := by
  unfold next at ht
  cases hjs : s.js with
  | idle =>
      rw [hjs] at ht
      exact ⟨rfl, ht⟩
  | _ =>
      rw [hjs] at ht
      cases ht

/-- Every event keeps a port sound that does not close a handle still in use. -/
theorem Sound.next {s t : State} (h : Sound s) {e : Event} (ht : next s e = some t)
    (hreleased : Closes s e → Released s) : Sound t := by
  cases e with
  | call c =>
      obtain ⟨hidle, hbegin⟩ := call_eq_some ht
      exact h.begin hbegin hidle
  | js => exact h.jsNext ht fun hjs hheld ↦ hreleased ⟨rfl, hjs, hheld⟩
  | reader i outcome => exact h.readerNext ht
  | readDone i => exact h.readDone ht
  | watcher outcome => exact h.watcherNext ht
  | waitDone => exact h.waitDone ht
  | writer k step => exact h.writerNext ht

/-- No call reopens or closes the handle. -/
theorem begin_handleOpen {s t : State} {c : Call} (ht : begin s c = some t) :
    t.handleOpen = s.handleOpen := by
  cases c with
  | createStream | onSignalChange | signals | close =>
      cases ht
      rfl
  | pauseReading | write | shutdown | dropStream =>
      obtain ⟨st, -, rfl⟩ := Option.map_eq_some_iff.mp ht
      rfl
  | onData i =>
      obtain ⟨st, -, ht⟩ := Option.bind_eq_some_iff.mp ht
      obtain ⟨-, ht⟩ := Option.ite_none_right_eq_some.mp ht
      cases ht
      rfl
  | shutdownSignals =>
      cases ht
      split <;> rfl

/-- The JS thread closes the handle in the last step of `close`. -/
theorem jsNext_handleOpen {s t : State} (ht : jsNext s = some t) (hcloses : ¬ Closes s .js) :
    t.handleOpen = s.handleOpen := by
  unfold jsNext at ht
  cases hjs : s.js with
  | idle =>
      rw [hjs] at ht
      cases ht
  | stream i stage drop =>
      rw [hjs] at ht
      obtain ⟨st, -, ht⟩ := Option.bind_eq_some_iff.mp ht
      cases stage with
      | store | cancel =>
          cases ht
          rfl
      | join =>
          obtain ⟨-, ht⟩ := Option.ite_none_right_eq_some.mp ht
          cases ht
          rfl
  | watcher stage close =>
      rw [hjs] at ht
      obtain ⟨w, -, ht⟩ := Option.bind_eq_some_iff.mp ht
      cases stage with
      | store | cancel =>
          cases ht
          rfl
      | join =>
          obtain ⟨-, ht⟩ := Option.ite_none_right_eq_some.mp ht
          cases ht
          rfl
  | closeHandle =>
      rw [hjs] at ht
      cases ht
      split
      · next hheld => exact absurd ⟨rfl, hjs, hheld⟩ hcloses
      · rfl

/-- No step but the last one of `close` closes the handle, and none reopens it. -/
theorem handleOpen_next {s t : State} {e : Event} (ht : next s e = some t)
    (hcloses : ¬ Closes s e) : t.handleOpen = s.handleOpen := by
  cases e with
  | call c => exact begin_handleOpen (call_eq_some ht).2
  | js => exact jsNext_handleOpen ht hcloses
  | reader i outcome =>
      obtain ⟨st, -, ht⟩ := Option.bind_eq_some_iff.mp ht
      obtain ⟨w, -, ht⟩ := Option.bind_eq_some_iff.mp ht
      obtain ⟨w', -, rfl⟩ := Option.map_eq_some_iff.mp ht
      show (if w.point = .readFile then s.io st.companion else s).handleOpen = _
      split <;> rfl
  | readDone i =>
      obtain ⟨st, -, ht⟩ := Option.bind_eq_some_iff.mp ht
      obtain ⟨w, -, ht⟩ := Option.bind_eq_some_iff.mp ht
      obtain ⟨-, ht⟩ := Option.ite_none_right_eq_some.mp ht
      cases ht
      rfl
  | watcher outcome =>
      obtain ⟨w, -, ht⟩ := Option.bind_eq_some_iff.mp ht
      obtain ⟨point, -, rfl⟩ := Option.map_eq_some_iff.mp ht
      show (if w.point = .ioctl then s.io w.companion else s).handleOpen = _
      split <;> rfl
  | waitDone =>
      obtain ⟨w, -, ht⟩ := Option.bind_eq_some_iff.mp ht
      obtain ⟨-, ht⟩ := Option.ite_none_right_eq_some.mp ht
      cases ht
      rfl
  | writer k step =>
      obtain ⟨w, -, ht⟩ := Option.bind_eq_some_iff.mp ht
      obtain ⟨after, -, rfl⟩ := Option.map_eq_some_iff.mp ht
      show (if after.2 = true then s.io w.companion else s).handleOpen = _
      split <;> rfl

/-- A closed handle is not closed again. -/
theorem Sound.not_closes {s : State} (h : Sound s) (hclosed : s.handleOpen = false) (e : Event) :
    ¬ Closes s e := by
  intro hcloses
  have hheld := hcloses.2.2
  rw [h.held, hclosed] at hheld
  cases hheld

/-- With everything released when the handle was closed, its value is not used again. -/
theorem Sound.safe {s : State} (h : Sound s) : Safe s := by
  intro hclosed es
  induction es generalizing s with
  | nil =>
      intro t ht
      cases ht
      exact h.clean
  | cons e es ih =>
      intro t ht
      obtain ⟨u, hu, hrest⟩ := Transition.run_cons_eq_some.mp ht
      have hcloses := h.not_closes hclosed e
      have hsound := h.next hu fun h' ↦ absurd h' hcloses
      exact ih hsound ((handleOpen_next hu hcloses).trans hclosed) t hrest

/-- A live stream with the value of a closed handle is dropped some day, and its `shutdown` then
cancels I/O on the closed handle. -/
theorem misused_of_stream {s : State} (hclosed : s.handleOpen = false) (hidle : s.js = .idle)
    {st : Stream} (hst : st ∈ s.streams) (hcompanion : st.companion = true)
    (hlive : st.dropped = false) : ∃ es t, run next s es = some t ∧ t.misused = true := by
  obtain ⟨i, hi⟩ := List.getElem?_of_mem hst
  have hstream : s.stream? i = some st := by
    unfold State.stream?
    rw [hi]
    simp [hlive]
  -- `Drop` runs `shutdown` again: the flag is stored, and then `CancelIoEx` is called
  let stored : Stream := { st with shutdown := true }
  have hstored : (s.setStream i stored).stream? i = some stored := by
    have hlength : i < s.streams.length := (List.getElem?_eq_some_iff.mp hi).1
    show ((s.streams.set i stored)[i]?).filter _ = some stored
    rw [List.getElem?_set_self hlength]
    simp [stored, hlive]
  let s₁ : State := { s with js := .stream i .store true }
  let s₂ : State := { s.setStream i stored with js := .stream i .cancel true }
  let s₃ : State := { cancelIo s₂ st.companion with js := .stream i .join true }
  have hdrop : next s (.call (.dropStream i)) = some s₁ := by
    unfold next
    rw [hidle]
    show (s.stream? i).map _ = some s₁
    rw [hstream]
    rfl
  have hstore : next s₁ .js = some s₂ := by
    show (s.stream? i).bind _ = some s₂
    rw [hstream]
    rfl
  have hcancel : next s₂ .js = some s₃ := by
    show ((s.setStream i stored).stream? i).bind _ = some s₃
    rw [hstored]
    rfl
  refine ⟨[.call (.dropStream i), .js, .js], s₃, ?_, ?_⟩
  · exact Transition.run_cons_eq_some.mpr ⟨s₁, hdrop,
      Transition.run_cons_eq_some.mpr ⟨s₂, hstore,
        Transition.run_cons_eq_some.mpr ⟨s₃, hcancel, rfl⟩⟩⟩
  · show (s.misused || (st.companion && !s.handleOpen)) = true
    rw [hcompanion, hclosed]
    exact Bool.or_true _

/-- A writer thread about to write uses the closed handle. -/
theorem misused_of_ready {s : State} (hclosed : s.handleOpen = false) {k : ℕ} {w : Writer}
    (hk : s.writers[k]? = some w) (hcompanion : w.companion = true)
    (hready : w.waiting = false ∧ 0 < w.remaining ∧ w.remaining < 2 ^ 32) :
    ∃ t, next s (.writer k .issued) = some t ∧ t.misused = true := by
  have hstep : w.next .issued = some ({ w with waiting := true }, true) := by
    have htest : (!w.waiting && decide (w.remaining > 0)) = true := by
      simp [hready.1, hready.2.1]
    exact (if_pos htest).trans (if_pos hready.2.2)
  refine ⟨{ s.io w.companion with writers := s.writers.set k { w with waiting := true } }, ?_, ?_⟩
  · show (s.writers[k]?).bind _ = _
    rw [hk]
    show (w.next .issued).map _ = _
    rw [hstep]
    rfl
  · show (s.misused || (w.companion && !s.handleOpen)) = true
    rw [hcompanion, hclosed]
    exact Bool.or_true _

/-- A writer thread that may write comes to a `WriteFile` on the closed handle. -/
theorem misused_of_writer {s : State} (hclosed : s.handleOpen = false) {w : Writer}
    (hw : w ∈ s.writers) (hcompanion : w.companion = true) (hmay : w.MayWrite) :
    ∃ es t, run next s es = some t ∧ t.misused = true := by
  obtain ⟨k, hk⟩ := List.getElem?_of_mem hw
  cases hmay with
  | inl hready =>
      obtain ⟨t, ht, hmisused⟩ := misused_of_ready hclosed hk hcompanion hready
      exact ⟨[.writer k .issued], t, Transition.run_cons_eq_some.mpr ⟨t, ht, rfl⟩, hmisused⟩
  | inr hwaiting =>
      -- its request is completed with all but one byte, so it issues another
      let left : Writer :=
        { w with remaining := w.remaining - (w.remaining - 1), waiting := false }
      let s₁ : State := { s with writers := s.writers.set k left }
      have hwritten : next s (.writer k (.written (w.remaining - 1))) = some s₁ := by
        have hstep : w.next (.written (w.remaining - 1)) = some (left, false) := by
          have hpart : (w.waiting && decide (0 < w.remaining - 1) &&
              decide (w.remaining - 1 ≤ w.remaining)) = true := by
            simp [hwaiting.1]
            omega
          exact if_pos hpart
        show (s.writers[k]?).bind _ = some s₁
        rw [hk]
        show (w.next _).map _ = some s₁
        rw [hstep]
        rfl
      have hleft : s₁.writers[k]? = some left := by
        have hlength : k < s.writers.length := (List.getElem?_eq_some_iff.mp hk).1
        exact List.getElem?_set_self hlength
      have hone : left.remaining = 1 := by
        show w.remaining - (w.remaining - 1) = 1
        omega
      obtain ⟨t, ht, hmisused⟩ := misused_of_ready (s := s₁) hclosed hleft hcompanion
        ⟨rfl, by omega, by omega⟩
      exact ⟨[.writer k (.written (w.remaining - 1)), .writer k .issued], t,
        Transition.run_cons_eq_some.mpr ⟨s₁, hwritten,
          Transition.run_cons_eq_some.mpr ⟨t, ht, rfl⟩⟩, hmisused⟩

/-- A handle closed while it is still in use is used again. -/
theorem released_of_safe {s t : State} {e : Event} (ht : next s e = some t)
    (hcloses : Closes s e) (hsafe : Safe t) : Released s := by
  obtain ⟨rfl, hjs, hheld⟩ := hcloses
  have heq : t = { s with handleOpen := false, held := false, js := .idle } := by
    change jsNext s = some t at ht
    unfold jsNext at ht
    rw [hjs] at ht
    change some (if s.held = true then _ else _) = some t at ht
    rw [if_pos hheld] at ht
    exact (Option.some.inj ht).symm
  have hnever (hmisused : ∃ es u, run next t es = some u ∧ u.misused = true) : False := by
    obtain ⟨es, u, hrun, hu⟩ := hmisused
    rw [hsafe (by rw [heq]) es u hrun] at hu
    cases hu
  constructor
  · intro st hst hcompanion
    cases hdropped : st.dropped with
    | true => rfl
    | false =>
        have hmem : st ∈ t.streams := by
          rw [heq]
          exact hst
        exact (hnever (misused_of_stream (by rw [heq]) (by rw [heq]) hmem hcompanion
          hdropped)).elim
  · intro w hw hcompanion hmay
    have hmem : w ∈ t.writers := by
      rw [heq]
      exact hw
    exact hnever (misused_of_writer (by rw [heq]) hmem hcompanion hmay)

/-- In a run, no I/O is issued on the closed companion handle, neither in it nor in a continuation,
exactly when `close` closes the handle only after every stream that has it was dropped and no writer
thread that has it may still write. -/
theorem closed_handle_unused_iff (es : List Event) :
    EveryStep next (fun _ _ t ↦ Safe t ∧ t.misused = false) start es ↔
      EveryStep next (fun s e _ ↦ Closes s e → Released s) start es := by
  refine Transition.everyStep_iff (I := Sound) ?_ ?_ start_sound
  · intro s e t h ht hsafe
    exact h.next ht fun hcloses ↦ released_of_safe ht hcloses hsafe.1
  · intro s e t h ht
    constructor
    · intro hsafe hcloses
      exact released_of_safe ht hcloses hsafe.1
    · intro hreleased
      have hsound := h.next ht hreleased
      exact ⟨hsound.safe, hsound.clean⟩

/-- The order of `VirtualPort.destroy`: the stream is shut down, the port is closed, and the
collector drops the stream, which calls `shutdown` again. -/
theorem drop_cancels_on_closed_handle :
    ∃ t, run next start [.call .createStream, .call (.onData 0), .call (.shutdown 0), .js,
      .reader 0 .ok, .reader 0 .ok, .js, .js, .call .shutdownSignals, .call .close, .js,
      .call (.dropStream 0), .js, .js] = some t ∧ t.misused = true :=
  ⟨_, rfl, rfl⟩

end HandleUse

end GhostCom
