import GhostCom.Library.Transition
import GhostCom.PortTable.CreateFailure
import GhostCom.PortTable.Table

/-!
# Unload against a create in progress

`GcomEvtSelfManagedIoCleanup` runs in the thread that removes the FDO, while the control queue may
still be in the middle of `GcomHandleCreatePort`. The two routines are split at their sections under
`PortTableLock` and at the steps in which the creating thread uses the pair; any interleaving of the
steps is a run. `create_alone` and `cleanup_alone` say that the steps of one routine without the
other are the routine.

The table of a race holds what it held before, until the cleanup's scan, and the entry of the
creating thread. From this follows which schedules end well: the scan has to come before the pair is
stored if the create fails, and after it if the create succeeds, and in that case the thread has to
be done with the pair before the cleanup is.
-/

namespace GhostCom

namespace Unload

open Transition (run)

/-! ## The creating thread -/

/-- Where `GcomHandleCreatePort` stands once its buffers are checked, with the locals of
`GcomPortPairCreate`. The points named after `fail_cleanup` and `fail_alloc` are those labels; the
latter has a section under the lock and a last free. -/
inductive CreatePoint where
  | entered (requestedPortNumber : ULONG)
  | reserved (slotIndex : ℕ) (portNumber : ULONG)
  | allocationFailed (slotIndex : ℕ)
  | allocated (slotIndex pp : ℕ) (portNumber : ULONG)
  | initialised (slotIndex pp : ℕ) (portNumber : ULONG)
  | published (slotIndex pp : ℕ) (portNumber : ULONG)
  | comCreated (slotIndex pp : ℕ)
  | created (slotIndex pp : ℕ)
  | failCleanup (slotIndex pp : ℕ) (st : ErrorStatus)
  | failAlloc (slotIndex pp : ℕ) (st : ErrorStatus)
  | failSentinel (slotIndex pp : ℕ) (st : ErrorStatus)
  | failFree (pp : ℕ) (st : ErrorStatus)
  | failed (st : ErrorStatus)
  | responded (slotIndex pp : ℕ) (reply : ControlOutput)
deriving DecidableEq

/-- The locks and rings that `fail_alloc` gives back. -/
def freeParts (m : Machine) (pp : ℕ) : Machine :=
  let record := m.pairs pp
  let m := m.wdfLockDelete record.dataLock
  let m := m.wdfLockDelete record.signalLock
  let m := m.exFreePool record.companionToComBuffer
  m.exFreePool record.comToCompanionBuffer

/-- The section of `fail_alloc` that clears a slot which still holds the sentinel. The test is made
outside of the lock; nobody else changes such a slot. -/
def clearSentinel (m : Machine) (slotIndex : ℕ) : Machine :=
  if m.table.slots[slotIndex]? = some (some .reserved) then
    { m with table := m.table.clear slotIndex }
  else m

/-- One step of the creating thread. -/
def createStep (o : CreateOutcomes) (m : Machine) : CreatePoint → Option (Machine × CreatePoint)
  | .entered requestedPortNumber =>
      match m.table.firstFree with
      | none => some (m, .failed insufficientResources)
      | some slotIndex =>
        match choosePortNumber m o.others requestedPortNumber with
        | .error st => some (m, .failed st)
        | .ok portNumber =>
            some ({ m with table := m.table.reserve slotIndex }, .reserved slotIndex portNumber)
  | .reserved slotIndex portNumber =>
      if !o.pair then some (m, .allocationFailed slotIndex)
      else
        let pp := m.pool.next
        let m := { m with pool := m.pool.alloc }
        some (m.setPair pp fun _ ↦ .initial portNumber, .allocated slotIndex pp portNumber)
  | .allocationFailed slotIndex =>
      some ({ m with table := m.table.clear slotIndex }, .failed insufficientResources)
  | .allocated slotIndex pp portNumber =>
      match initPair m o pp with
      | (m, .error st) => some (m, .failAlloc slotIndex pp st)
      | (m, .ok ()) => some (m, .initialised slotIndex pp portNumber)
  | .initialised slotIndex pp portNumber =>
      some ({ m with table := m.table.publish slotIndex pp }, .published slotIndex pp portNumber)
  | .published slotIndex pp portNumber =>
      match gcomComPortCreate m o pp portNumber with
      | (m, .error st) => some (m, .failCleanup slotIndex pp st)
      | (m, .ok ()) => some (m, .comCreated slotIndex pp)
  | .comCreated slotIndex pp =>
      match gcomCompanionCreate m o pp with
      | (m, .error st) => some (gcomComPortDestroy m o.destroy pp, .failCleanup slotIndex pp st)
      | (m, .ok ()) => some (m, .created slotIndex pp)
  | .created slotIndex pp =>
      some (m, .responded slotIndex pp
        (.created (m.pairs pp).portNumber (m.pairs pp).companionIndex))
  | .failCleanup slotIndex pp st =>
      some ({ m with table := m.table.clear slotIndex }, .failAlloc slotIndex pp st)
  | .failAlloc slotIndex pp st => some (freeParts m pp, .failSentinel slotIndex pp st)
  | .failSentinel slotIndex pp st => some (clearSentinel m slotIndex, .failFree pp st)
  | .failFree pp st => some (m.exFreePool (some pp), .failed st)
  | .failed _ | .responded .. => none

namespace CreatePoint

/-- The pair that the local `pp` points to. -/
def pair : CreatePoint → Option ℕ
  | .allocated _ pp _ | .initialised _ pp _ | .published _ pp _ | .comCreated _ pp
  | .created _ pp | .failCleanup _ pp _ | .failAlloc _ pp _ | .failSentinel _ pp _
  | .failFree pp _ | .responded _ pp _ => some pp
  | _ => none

/-- The pair whose memory the next step uses. Storing the pointer and clearing the slot do not. -/
def touched : CreatePoint → Option ℕ
  | .allocated _ pp _ | .published _ pp _ | .comCreated _ pp | .created _ pp
  | .failAlloc _ pp _ | .failFree pp _ => some pp
  | _ => none

/-- The pair that the next step frees. -/
def freed : CreatePoint → Option ℕ
  | .failFree pp _ => some pp
  | _ => none

/-- The thread has stored its pair in the table and not removed it. -/
def listed : CreatePoint → Bool
  | .published .. | .comCreated .. | .created .. | .failCleanup .. | .responded .. => true
  | _ => false

/-- The create has failed. -/
def hasFailed : CreatePoint → Bool
  | .failed _ => true
  | _ => false

/-- The create has succeeded. -/
def hasResponded : CreatePoint → Bool
  | .responded .. => true
  | _ => false

/-- The thread has finished. -/
def finished (c : CreatePoint) : Bool := c.hasFailed || c.hasResponded

end CreatePoint

/-! ## The cleanup -/

/-- Where `GcomEvtSelfManagedIoCleanup` stands: before its scan, before the next pair of its second
loop, within `GcomPortPairDestroy` before and after the section under the lock, or at its end. -/
inductive CleanupPoint where
  | entered
  | destroying (toDestroy : List ℕ)
  | deactivated (pp : ℕ) (toDestroy : List ℕ)
  | delisted (pp : ℕ) (toDestroy : List ℕ)
  | finished
deriving DecidableEq

/-- One step of the cleanup. -/
def cleanupStep (o : ℕ → DestroyOutcomes) (m : Machine) :
    CleanupPoint → Option (Machine × CleanupPoint)
  | .entered =>
      let (m, toDestroy) := collectPairs m (List.range gcomMaxPorts)
      some (m, .destroying toDestroy)
  | .destroying [] => some ({ m with controlDevice := false }, .finished)
  | .destroying (pp :: rest) => some (deactivate (deactivate m pp) pp, .deactivated pp rest)
  | .deactivated pp rest => some (removeFromTable m pp, .delisted pp rest)
  | .delisted pp rest =>
      let m := markChildMissing m (o pp) pp
      let m := gcomComPortDestroy m (o pp).key pp
      let m := gcomCompanionDestroy m pp
      some (releasePair m pp, .destroying rest)
  | .finished => none

namespace CleanupPoint

/-- The pairs that have been collected and not been destroyed yet. -/
def pending : CleanupPoint → List ℕ
  | .destroying toDestroy => toDestroy
  | .deactivated pp toDestroy | .delisted pp toDestroy => pp :: toDestroy
  | _ => []

/-- The pair whose destruction the next step ends. -/
def destroyed : CleanupPoint → Option ℕ
  | .delisted pp _ => some pp
  | _ => none

end CleanupPoint

/-! ## Each routine without the other -/

section Alone

variable (m : Machine) (o : CreateOutcomes)

/-- The steps of the creating thread from one point to another. -/
def Creates (m : Machine) (c : CreatePoint) (m' : Machine) (c' : CreatePoint) : Prop :=
  ∃ n, run (fun s (_ : Unit) ↦ createStep o s.1 s.2) (m, c) (List.replicate n ()) = some (m', c')

variable {m o}

theorem Creates.refl (c : CreatePoint) : Creates o m c m c := ⟨0, rfl⟩

/-- A step before other steps. -/
theorem Creates.step {m' m'' : Machine} {c c' c'' : CreatePoint}
    (hstep : createStep o m c = some (m', c')) (h : Creates o m' c' m'' c'') :
    Creates o m c m'' c'' := by
  obtain ⟨n, hn⟩ := h
  exact ⟨n + 1, Transition.run_cons_eq_some.mpr ⟨(m', c'), hstep, hn⟩⟩

/-- The label `fail_alloc`. -/
theorem creates_fail_alloc (slotIndex pp : ℕ) (st : ErrorStatus) :
    Creates o m (.failAlloc slotIndex pp st) (failAlloc m slotIndex pp) (.failed st) :=
  .step rfl (.step rfl (.step rfl (.refl _)))

/-- The label `fail_cleanup`. -/
theorem creates_fail_cleanup (slotIndex pp : ℕ) (st : ErrorStatus) :
    Creates o m (.failCleanup slotIndex pp st) (failCleanup m slotIndex pp) (.failed st) :=
  .step rfl (creates_fail_alloc slotIndex pp st)

/-- What the end of a create makes of the result of `GcomPortPairCreate`. -/
def Ended (m : Machine) : Except ErrorStatus ℕ → CreatePoint → Prop
  | .error st, c => c = .failed st
  | .ok pp, c => ∃ slotIndex,
      c = .responded slotIndex pp (.created (m.pairs pp).portNumber (m.pairs pp).companionIndex)

/-- From the stored pair on. -/
theorem creates_devices (slotIndex pp : ℕ) (portNumber : ULONG) :
    ∃ c, Creates o m (.published slotIndex pp portNumber)
        (createDevices m o slotIndex pp portNumber).1 c ∧
      Ended (createDevices m o slotIndex pp portNumber).1
        (createDevices m o slotIndex pp portNumber).2 c := by
  unfold createDevices
  split
  · next m' st hcom =>
      refine ⟨_, .step ?_ (creates_fail_cleanup slotIndex pp st), rfl⟩
      rw [createStep, hcom]
  next m' hcom =>
  have hpublished : createStep o m (.published slotIndex pp portNumber) =
      some (m', .comCreated slotIndex pp) := by
    rw [createStep, hcom]
  split
  · next m'' st hcompanion =>
      refine ⟨_, .step hpublished (.step ?_ (creates_fail_cleanup slotIndex pp st)), rfl⟩
      rw [createStep, hcompanion]
  · next m'' hcompanion =>
      have hcreated : createStep o m' (.comCreated slotIndex pp) =
          some (m'', .created slotIndex pp) := by
        rw [createStep, hcompanion]
      have hlast : Creates o m'' (.created slotIndex pp) m'' _ := .step rfl (.refl _)
      exact ⟨_, .step hpublished (.step hcreated hlast), slotIndex, rfl⟩

/-- The creating thread alone does what `GcomPortPairCreate` does. -/
theorem create_alone (requestedPortNumber : ULONG) :
    ∃ c, Creates o m (.entered requestedPortNumber)
        (gcomPortPairCreate m o requestedPortNumber).1 c ∧
      Ended (gcomPortPairCreate m o requestedPortNumber).1
        (gcomPortPairCreate m o requestedPortNumber).2 c := by
  unfold gcomPortPairCreate
  split
  · next hfree =>
      refine ⟨_, .step ?_ (.refl _), rfl⟩
      rw [createStep, hfree]
  next slotIndex hfree =>
  split
  · next st hchoose =>
      refine ⟨_, .step ?_ (.refl _), rfl⟩
      rw [createStep, hfree]
      dsimp only
      rw [hchoose]
  next portNumber hchoose =>
  have hentered : createStep o m (.entered requestedPortNumber) =
      some ({ m with table := m.table.reserve slotIndex }, .reserved slotIndex portNumber) := by
    rw [createStep, hfree]
    dsimp only
    rw [hchoose]
  split
  · next hpair =>
      have hrefused : createStep o { m with table := m.table.reserve slotIndex }
          (.reserved slotIndex portNumber) =
            some ({ m with table := m.table.reserve slotIndex }, .allocationFailed slotIndex) := by
        rw [createStep, if_pos hpair]
      exact ⟨_, .step hentered (.step hrefused (.step rfl (.refl _))), rfl⟩
  next hpair =>
  have hreserved : createStep o { m with table := m.table.reserve slotIndex }
      (.reserved slotIndex portNumber) = some
        ({ m with table := m.table.reserve slotIndex, pool := m.pool.alloc }.setPair m.pool.next
          fun _ ↦ .initial portNumber, .allocated slotIndex m.pool.next portNumber) := by
    rw [createStep, if_neg hpair]
  dsimp only
  split
  · next m' st hinit =>
      refine ⟨_, .step hentered (.step hreserved (.step ?_ (creates_fail_alloc slotIndex _ st))),
        rfl⟩
      rw [createStep, hinit]
  · next m' hinit =>
      obtain ⟨c, hcreates, hended⟩ := creates_devices (o := o)
        (m := { m' with table := m'.table.publish slotIndex m.pool.next }) slotIndex m.pool.next
        portNumber
      have hpublish : Creates o m' (.initialised slotIndex m.pool.next portNumber) _ c :=
        .step rfl hcreates
      refine ⟨c, .step hentered (.step hreserved (.step ?_ hpublish)), hended⟩
      rw [createStep, hinit]

/-- The second loop of the cleanup. -/
theorem cleanup_destroys (d : ℕ → DestroyOutcomes) (toDestroy : List ℕ) :
    ∃ n, run (fun s (_ : Unit) ↦ cleanupStep d s.1 s.2) (m, .destroying toDestroy)
      (List.replicate n ()) =
        some ({ destroyPairs m d toDestroy with controlDevice := false }, .finished) := by
  induction toDestroy generalizing m with
  | nil => exact ⟨1, rfl⟩
  | cons pp rest ih =>
      obtain ⟨n, hn⟩ := @ih (gcomPortPairDestroy (deactivate m pp) (d pp) pp)
      refine ⟨n + 3, Transition.run_cons_eq_some.mpr
        ⟨(deactivate (deactivate m pp) pp, .deactivated pp rest), rfl, ?_⟩⟩
      refine Transition.run_cons_eq_some.mpr
        ⟨(removeFromTable (deactivate (deactivate m pp) pp) pp, .delisted pp rest), rfl, ?_⟩
      exact Transition.run_cons_eq_some.mpr
        ⟨(gcomPortPairDestroy (deactivate m pp) (d pp) pp, .destroying rest), rfl, hn⟩

/-- The scan of the cleanup is one step. -/
theorem scan_step (m : Machine) (d : ℕ → DestroyOutcomes) :
    cleanupStep d m .entered = some ((collectPairs m (List.range gcomMaxPorts)).1,
      .destroying (collectPairs m (List.range gcomMaxPorts)).2) := by
  rw [cleanupStep]

/-- The cleanup alone does what `GcomEvtSelfManagedIoCleanup` does. -/
theorem cleanup_alone (d : ℕ → DestroyOutcomes) :
    ∃ n, run (fun s (_ : Unit) ↦ cleanupStep d s.1 s.2) (m, .entered) (List.replicate n ()) =
      some (gcomEvtSelfManagedIoCleanup m d, .finished) := by
  have hscan := scan_step m d
  unfold gcomEvtSelfManagedIoCleanup
  generalize collectPairs m (List.range gcomMaxPorts) = result at hscan
  obtain ⟨n, hn⟩ := cleanup_destroys (m := result.1) d result.2
  exact ⟨n + 1, Transition.run_cons_eq_some.mpr ⟨_, hscan, hn⟩⟩

end Alone

end Unload

end GhostCom
