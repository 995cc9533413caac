import GhostCom.Library.OneShotCancel

/-!
# The worker threads of a port

`PortStreamNative::read_thread_main` and `SignalWatcher::thread_main`, one point of the program a
step, and the threads that stop them: `PortStreamNative::shutdown` and `SignalWatcher::stop` store
the shutdown flag, call `CancelIoEx` and join. Between its test of the flag and its next request a
worker has nothing outstanding that could be cancelled, and the driver completes nothing by itself.
-/

namespace GhostCom

open OneShotCancel (Worker Heeds)
open Transition (run EveryStep)

/-- The outcome of a call a worker makes: it succeeds at once, its request is pended, or it
fails. -/
inductive CallOutcome where
  | ok
  | pending
  | fails
deriving DecidableEq

/-! ## The read thread -/

/-- The points of `read_thread_main`: creating the event, the test of the flag at the head of the
loop, the test of `paused`, the test of the flag and the sleep while paused, resetting the event,
`ReadFile`, waiting for the request, the request cancelled, the test of the flag after an error, the
data callback, and the end. -/
inductive ReadPoint where
  | create
  | testFlag
  | testPaused
  | pausedFlag
  | sleep
  | reset
  | readFile
  | waiting
  | cancelled
  | errorFlag
  | deliver
  | done
deriving DecidableEq

/-- The read thread and its `paused` flag, which only the JS thread stores. -/
structure ReadThread where
  point : ReadPoint
  paused : Bool
deriving DecidableEq

/-- One step of `read_thread_main`. A `ReadFile` that fails leaves the loop whatever the flag. -/
def readThreadStep (shutdown : Bool) (w : ReadThread) (outcome : CallOutcome) :
    Option ReadThread :=
  let goto (point : ReadPoint) : Option ReadThread := some { w with point := point }
  match w.point, outcome with
  | .create, .ok => goto .testFlag
  | .create, .fails => goto .done
  | .testFlag, _ => goto (if shutdown then .done else .testPaused)
  | .testPaused, _ => goto (if w.paused then .pausedFlag else .reset)
  | .pausedFlag, _ => goto (if shutdown then .done else .sleep)
  | .sleep, _ => goto .testPaused
  | .reset, .ok => goto .readFile
  | .reset, .fails => goto .done
  | .readFile, .ok => goto .deliver
  | .readFile, .pending => goto .waiting
  | .readFile, .fails => goto .done
  | .waiting, .fails => goto .errorFlag
  | .cancelled, _ => goto .errorFlag
  | .errorFlag, _ => goto (if shutdown then .done else .testFlag)
  | .deliver, _ => goto .testFlag
  | _, _ => none

/-- What the JS thread may do to the read thread before it shuts it down: pause or resume it, or
cancel its request when it stops the signal watcher, which uses the same handle. -/
inductive ReadAdjustment where
  | paused (value : Bool)
  | cancelIo

/-- `CancelIoEx` as the read thread sees it. -/
def ReadThread.cancelIo (w : ReadThread) : ReadThread :=
  if w.point = .waiting then { w with point := .cancelled } else w

/-- The read thread as a worker. -/
def readThread : Worker ReadThread CallOutcome ReadAdjustment where
  step := readThreadStep
  adjust w
    | .paused value => { w with paused := value }
    | .cancelIo => w.cancelIo
  isWaiting w := w.point == .waiting
  cancel := ReadThread.cancelIo
  isDone w := w.point == .done

/-- The read thread when `on_data` has spawned it. -/
def ReadThread.spawned (paused : Bool) : ReadThread := ⟨.create, paused⟩

/-- Past its last test of the flag before `ReadFile`: about to reset the event or to read, or about
to find that it is not paused. -/
def ReadThread.Committed (w : ReadThread) : Prop :=
  w.point = .reset ∨ w.point = .readFile ∨
    (w.point = .testPaused ∨ w.point = .sleep) ∧ w.paused = false

/-! ## The signal watcher -/

/-- The points of `thread_main`: creating the event, the test of the flag at the head of the loop,
resetting the event and issuing `WAIT_SIGNAL_CHANGE` in `device_ioctl_overlapped`, waiting for the
request, the request completed or cancelled, the tests of the flag after a failed IOCTL and after an
error, and the end. -/
inductive WatchPoint where
  | create
  | testFlag
  | reset
  | ioctl
  | waiting
  | completed
  | cancelled
  | failedFlag
  | errorFlag
  | done
deriving DecidableEq

/-- One step of `thread_main`. -/
def watchThreadStep (shutdown : Bool) (w : WatchPoint) (outcome : CallOutcome) :
    Option WatchPoint :=
  match w, outcome with
  | .create, .ok => some .testFlag
  | .create, .fails => some .done
  | .testFlag, _ => some (if shutdown then .done else .reset)
  | .reset, .ok => some .ioctl
  | .reset, .fails => some .failedFlag
  | .ioctl, .ok => some .completed
  | .ioctl, .pending => some .waiting
  | .ioctl, .fails => some .failedFlag
  | .failedFlag, _ => some (if shutdown then .done else .testFlag)
  | .waiting, .fails => some .errorFlag
  | .completed, .ok => some .testFlag
  | .completed, .fails => some .errorFlag
  | .cancelled, _ => some .errorFlag
  | .errorFlag, _ => some (if shutdown then .done else .testFlag)
  | _, _ => none

/-- `CancelIoEx` as the watcher sees it. -/
def WatchPoint.cancelIo (w : WatchPoint) : WatchPoint :=
  if w = .waiting then .cancelled else w

/-- The signal watcher as a worker. Before it is stopped, its request is cancelled whenever a stream
on the same handle is shut down. -/
def watchThread : Worker WatchPoint CallOutcome Unit where
  step := watchThreadStep
  adjust w _ := w.cancelIo
  isWaiting w := w == .waiting
  cancel := WatchPoint.cancelIo
  isDone w := w == .done

/-- Past its last test of the flag before the IOCTL: about to reset the event or to issue it. -/
def WatchPoint.Committed (w : WatchPoint) : Prop := w = .reset ∨ w = .ioctl

/-! ## Which cancellations are heeded -/

/-- With the flag set the read thread comes to `ReadFile` only from a committed point, and from each
of these it can. -/
theorem read_thread_heeds : Heeds readThread ReadThread.Committed where
  step := by
    intro w k w' hcommitted hwaiting hstep
    obtain ⟨point, paused⟩ := w
    cases point with
    | reset => exact absurd (.inl rfl) hcommitted
    | readFile => exact absurd (.inr (.inl rfl)) hcommitted
    | waiting => cases hwaiting
    | done => cases hstep
    | testFlag | pausedFlag | cancelled | errorFlag | deliver =>
        cases hstep
        exact ⟨by simp [ReadThread.Committed], rfl⟩
    | create =>
        cases k with
        | pending => cases hstep
        | ok | fails =>
            cases hstep
            exact ⟨by simp [ReadThread.Committed], rfl⟩
    | testPaused | sleep =>
        -- an uncommitted thread at these points is paused, and stays so while it is stopped
        cases paused with
        | true =>
            cases hstep
            exact ⟨by simp [ReadThread.Committed], rfl⟩
        | false => exact absurd (by simp [ReadThread.Committed]) hcommitted
  woken := by
    intro w hwaiting
    obtain ⟨point, paused⟩ := w
    have hpoint : point = .waiting := by simpa [readThread] using hwaiting
    subst hpoint
    exact ⟨by simp [readThread, ReadThread.cancelIo, ReadThread.Committed], rfl⟩
  unaffected := by
    intro w hwaiting
    have hpoint : w.point ≠ .waiting := by simpa [readThread] using hwaiting
    exact if_neg hpoint
  not_waiting := by
    intro w hcommitted
    obtain ⟨point, paused⟩ := w
    cases point with
    | waiting => simp [ReadThread.Committed] at hcommitted
    | _ => rfl
  proceeds := by
    intro w hcommitted
    obtain ⟨point, paused⟩ := w
    cases point with
    | reset => exact ⟨[.ok], .pending, _, _, rfl, rfl, rfl⟩
    | readFile => exact ⟨[], .pending, _, _, rfl, rfl, rfl⟩
    | testPaused =>
        have hpaused : paused = false := by simpa [ReadThread.Committed] using hcommitted
        subst hpaused
        exact ⟨[.ok, .ok], .pending, _, _, rfl, rfl, rfl⟩
    | sleep =>
        have hpaused : paused = false := by simpa [ReadThread.Committed] using hcommitted
        subst hpaused
        exact ⟨[.ok, .ok, .ok], .pending, _, _, rfl, rfl, rfl⟩
    | _ => simp [ReadThread.Committed] at hcommitted

/-- With the flag set the watcher comes to its IOCTL only from a committed point, and from each of
these it can. -/
theorem watch_thread_heeds : Heeds watchThread WatchPoint.Committed where
  step := by
    intro w k w' hcommitted hwaiting hstep
    cases w with
    | reset => exact absurd (.inl rfl) hcommitted
    | ioctl => exact absurd (.inr rfl) hcommitted
    | waiting => cases hwaiting
    | done => cases hstep
    | testFlag | failedFlag | cancelled | errorFlag =>
        cases hstep
        exact ⟨by simp [WatchPoint.Committed], rfl⟩
    | create | completed =>
        cases k with
        | pending => cases hstep
        | ok | fails =>
            cases hstep
            exact ⟨by simp [WatchPoint.Committed], rfl⟩
  woken := by
    intro w hwaiting
    have hpoint : w = .waiting := by simpa [watchThread] using hwaiting
    subst hpoint
    exact ⟨by simp [watchThread, WatchPoint.cancelIo, WatchPoint.Committed], rfl⟩
  unaffected := by
    intro w hwaiting
    have hpoint : w ≠ .waiting := by simpa [watchThread] using hwaiting
    exact if_neg hpoint
  not_waiting := by
    intro w hcommitted
    cases hcommitted with
    | inl hreset => rw [hreset]; rfl
    | inr hioctl => rw [hioctl]; rfl
  proceeds := by
    intro w hcommitted
    cases hcommitted with
    | inl hreset =>
        rw [hreset]
        exact ⟨[.ok], .pending, _, _, rfl, rfl, rfl⟩
    | inr hioctl =>
        rw [hioctl]
        exact ⟨[], .pending, _, _, rfl, rfl, rfl⟩

/-- Every interleaving in which `shutdown` or `stop` cancels while its worker is at no point between
a test of the flag and the next request stops a worker that waits for no request issued after the
cancellation; and in every interleaving in which it cancels while the worker is at such a point,
there is a continuation in which it joins a worker that waits for one. -/
theorem shutdown_misses_no_worker_iff (paused : Bool)
    (reads : List (OneShotCancel.Event CallOutcome ReadAdjustment))
    (waits : List (OneShotCancel.Event CallOutcome Unit)) :
    (EveryStep (OneShotCancel.next readThread) (fun _ _ t ↦ t.Safe readThread)
          (OneShotCancel.start (ReadThread.spawned paused)) reads ↔
        EveryStep (OneShotCancel.next readThread)
          (fun s e _ ↦ e = .cancel → ¬ s.worker.Committed)
          (OneShotCancel.start (ReadThread.spawned paused)) reads) ∧
      (EveryStep (OneShotCancel.next watchThread) (fun _ _ t ↦ t.Safe watchThread)
          (OneShotCancel.start .create) waits ↔
        EveryStep (OneShotCancel.next watchThread)
          (fun s e _ ↦ e = .cancel → ¬ s.worker.Committed)
          (OneShotCancel.start .create) waits) :=
  ⟨OneShotCancel.safe_iff read_thread_heeds (ReadThread.spawned paused) reads,
    OneShotCancel.safe_iff watch_thread_heeds .create waits⟩

/-- Either thread can be missed: it tests the flag, the stopping thread stores the flag and cancels,
and then the thread issues its request. -/
theorem shutdown_misses_worker :
    (∃ es s, run (OneShotCancel.next readThread)
        (OneShotCancel.start (ReadThread.spawned false)) es = some s ∧ s.Missed readThread) ∧
      ∃ es s, run (OneShotCancel.next watchThread)
        (OneShotCancel.start .create) es = some s ∧ s.Missed watchThread := by
  constructor
  · exact ⟨[.work .ok, .work .ok, .work .ok, .work .ok, .store, .cancel, .work .pending],
      _, rfl, rfl, rfl, rfl⟩
  · exact ⟨[.work .ok, .work .ok, .work .ok, .store, .cancel, .work .pending],
      _, rfl, rfl, rfl, rfl⟩

end GhostCom
