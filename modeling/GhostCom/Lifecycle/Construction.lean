import Mathlib.Data.Finset.Basic
import GhostCom.Driver.Control
import GhostCom.Library.RefCount
import GhostCom.Library.Transition

/-!
# A pair under construction

`GcomPortPairCreate` step by step, interleaved with the callbacks of the COM device, which become
possible when `GcomComPortCreate` has called `WdfControlFinishInitializing`. The labels at the end
of a failing create release the locks, the rings and the pair without a look at `RefCount`.
`released_unheld_iff` is the exact condition under which nothing is released while a file object
holds the pair.
-/

namespace GhostCom

open Transition (EveryStep)

/-- What `GcomPortPairCreate` allocates for a pair. -/
inductive Resource where
  | pair
  | comToCompanion
  | companionToCom
  | signalLock
  | dataLock
deriving DecidableEq, Repr

/-- The next step of `GcomPortPairCreate` once the pair is allocated. `comPortCreate` reaches to
the end of `WdfControlFinishInitializing`, `companionCreate` covers the rest of `GcomComPortCreate`
and `GcomCompanionCreate`; `deleteDataLock` is the label `fail_alloc`. -/
inductive CreatePc where
  | initComToCompanion
  | initCompanionToCom
  | createSignalLock
  | createDataLock
  | comPortCreate
  | companionCreate
  | comPortDestroy
  | failCleanup
  | deleteDataLock
  | deleteSignalLock
  | freeCompanionToCom
  | freeComToCompanion
  | freePair
  | returned
  | failed
deriving DecidableEq, Repr

/-- A create in progress: its next step, the pair, the resources that are allocated, whether the COM
device takes requests, and the number of its file objects that hold the pair. -/
structure Construction where
  pc : CreatePc
  pp : PortPair
  live : Finset Resource
  comDevice : Bool
  comHandles : ℕ

/-- A step of the create with its outcome, or a callback of the COM device. -/
inductive ConstructionEvent where
  | create (ok : Bool)
  | comFileCreate (wdf : Wdf) (id : RequestId)
  | comRequest (wdf : Wdf) (request : ComRequest)
  | comFileClose (wdf : Wdf)

namespace Construction

/-- The pair has been allocated and initialised. -/
def start (portNumber : ULONG) : Construction :=
  ⟨.initComToCompanion, .initial portNumber, {.pair}, false, 0⟩

/-- Allocate a resource, or go to `fail_alloc`. -/
def acquire (s : Construction) (ok : Bool) (r : Resource) (pc : CreatePc) : Construction :=
  if ok then { s with pc := pc, live := insert r s.live } else { s with pc := .deleteDataLock }

/-- Release a resource if it is allocated. -/
def release (s : Construction) (r : Resource) (pc : CreatePc) : Construction :=
  { s with pc := pc, live := s.live.erase r }

/-- The next step of `GcomPortPairCreate`. -/
def createStep (s : Construction) (ok : Bool) : Option Construction :=
  match s.pc with
  | .initComToCompanion => some (s.acquire ok .comToCompanion .initCompanionToCom)
  | .initCompanionToCom => some (s.acquire ok .companionToCom .createSignalLock)
  | .createSignalLock => some (s.acquire ok .signalLock .createDataLock)
  | .createDataLock => some (s.acquire ok .dataLock .comPortCreate)
  | .comPortCreate =>
      some (if ok then { s with pc := .companionCreate, comDevice := true }
        else { s with pc := .failCleanup })
  | .companionCreate => some { s with pc := if ok then .returned else .comPortDestroy }
  | .comPortDestroy => some { s with pc := .failCleanup, comDevice := false }
  | .failCleanup => some { s with pc := .deleteDataLock }
  | .deleteDataLock => some (s.release .dataLock .deleteSignalLock)
  | .deleteSignalLock => some (s.release .signalLock .freeCompanionToCom)
  | .freeCompanionToCom => some (s.release .companionToCom .freeComToCompanion)
  | .freeComToCompanion => some (s.release .comToCompanion .freePair)
  | .freePair => some (s.release .pair .failed)
  | .returned | .failed => none

/-- One step. Files are created and requests served while the COM device takes requests; a file
that is open can be closed at any time. -/
def next (s : Construction) : ConstructionEvent → Option Construction
  | .create ok => s.createStep ok
  | .comFileCreate wdf id =>
      if s.comDevice then
        let result := gcomComEvtFileCreate wdf s.pp id
        some { s with pp := result.pp, comHandles := s.comHandles + result.accepted.toNat }
      else none
  | .comRequest wdf request =>
      if s.comDevice && s.comHandles ≠ 0 then some { s with pp := (request.serve wdf s.pp).1 }
      else none
  | .comFileClose wdf =>
      if s.comHandles = 0 then none
      else
        let result := gcomComEvtFileClose wdf s.pp
        some { s with
          pp := result.pp
          comHandles := s.comHandles - 1
          live := if result.freed then s.live.erase .pair else s.live }

/-- What the step releases is held by no file object. -/
def ReleasesUnheld (s t : Construction) : Prop :=
  ∀ r ∈ s.live, r ∉ t.live → t.comHandles = 0

/-- If the step is the one at `fail_alloc`, the creation reference is the only one. -/
def FailsUnheld (s : Construction) : ConstructionEvent → Prop
  | .create _ => s.pc = .deleteDataLock → s.pp.refCount = 1
  | _ => True

/-- The reference count of the pair and its open flag agree with the file objects that hold it; the
creation reference is still counted. -/
structure Held (pp : PortPair) (handles : ℕ) : Prop where
  exclusive : handles ≤ 1
  flag : pp.control.comSideOpen = if handles = 0 then 0 else 1
  counted : RefCount.Consistent pp.control.refCount (handles + 1) 0

namespace Held

variable {pp pp' : PortPair} {handles : ℕ}

theorem initial (portNumber : ULONG) : Held (.initial portNumber) 0 where
  exclusive := Nat.zero_le _
  flag := rfl
  counted := RefCount.consistent_one (by omega)

/-- What leaves the control fields alone keeps the count. -/
theorem of_control (h : Held pp handles) (hcontrol : pp'.control = pp.control) :
    Held pp' handles := by
  refine ⟨h.exclusive, ?_, ?_⟩
  · rw [hcontrol]
    exact h.flag
  · rw [hcontrol]
    exact h.counted

/-- An open keeps the count, whether it is accepted or not. -/
theorem file_create (h : Held pp handles) (wdf : Wdf) (id : RequestId) :
    Held (gcomComEvtFileCreate wdf pp id).pp
      (handles + (gcomComEvtFileCreate wdf pp id).accepted.toNat) := by
  rcases com_file_create_cases wdf pp id with
    ⟨effects, -, heq⟩ | ⟨pp', effects, -, hopen, hcontrol, heq⟩
  · rw [heq]
    exact h
  · have hzero : handles = 0 := by
      by_contra hne
      have hflag := h.flag
      rw [if_neg hne] at hflag
      exact absurd (hopen.symm.trans hflag) (by decide)
    subst hzero
    rw [heq]
    refine ⟨Nat.le_refl _, ?_, ?_⟩
    · rw [hcontrol]
      rfl
    · rw [hcontrol]
      exact h.counted.acquire Nat.one_pos (by omega)

/-- A close keeps the count and does not free the pair, which the creation reference holds. -/
theorem file_close (h : Held pp handles) (wdf : Wdf) (hopen : handles ≠ 0) :
    Held (gcomComEvtFileClose wdf pp).pp (handles - 1) ∧
      (gcomComEvtFileClose wdf pp).freed = false := by
  have hle := h.exclusive
  obtain ⟨hcontrol, hfreed⟩ := com_file_close_control wdf pp
  have hlast : ¬pp.control.refCount - 1 = 0 := by
    rw [h.counted.last_iff (by omega)]
    omega
  have hreleased := h.counted.release (by omega)
  rw [beq_false_of_ne hlast] at hreleased hfreed
  refine ⟨⟨by omega, ?_, ?_⟩, hfreed⟩
  · rw [hcontrol, if_pos (by omega)]
  · rw [hcontrol, show handles - 1 + 1 = handles + 1 - 1 by omega]
    exact hreleased

/-- The creation reference is the only one exactly when no file object holds the pair. -/
theorem refCount_eq_one_iff (h : Held pp handles) : pp.refCount = 1 ↔ handles = 0 := by
  have hcount : pp.refCount.toNat = handles + 1 := h.counted.count_eq
  rw [← BitVec.toNat_inj, hcount, Word.toNat_one (by omega)]
  omega

end Held

/-- The COM device has been created and not deleted. -/
def deviceUp : CreatePc → Prop
  | .companionCreate | .comPortDestroy | .returned => True
  | _ => False

/-- The data lock has been deleted by the failing create. -/
def releasing : CreatePc → Prop
  | .deleteSignalLock | .freeCompanionToCom | .freeComToCompanion | .freePair | .failed => True
  | _ => False

/-- Where the create stands: requests are taken only while the device is up, and without the data
lock, which is created last and deleted first, there is neither device nor file object. -/
structure Staged (s : Construction) : Prop where
  device : s.comDevice = true → deviceUp s.pc
  locked : s.pc = .comPortCreate → Resource.dataLock ∈ s.live
  released : releasing s.pc → Resource.dataLock ∉ s.live
  alone : Resource.dataLock ∉ s.live → s.comDevice = false ∧ s.comHandles = 0

/-- The invariant of a create in progress. -/
structure Building (s : Construction) : Prop where
  held : Held s.pp s.comHandles
  staged : s.Staged

theorem start_building (portNumber : ULONG) : (start portNumber).Building where
  held := .initial portNumber
  staged := ⟨nofun, nofun, nofun, fun _ ↦ ⟨rfl, rfl⟩⟩

/-- Without a data lock to delete, or without file objects, a step that moves on along the failing
path keeps its place. -/
theorem Staged.of_failing {s : Construction} (h : s.Staged) {pc : CreatePc} (hup : ¬deviceUp s.pc)
    (hnew : pc ≠ .comPortCreate) (hreleasing : releasing pc → Resource.dataLock ∉ s.live) :
    Staged { s with pc := pc } where
  device hdevice := absurd (h.device hdevice) hup
  locked heq := absurd heq hnew
  released := hreleasing
  alone := h.alone

/-- Releasing a resource when no file object holds the pair. -/
theorem Staged.release {s : Construction} (h : s.Staged) {r : Resource} {pc : CreatePc}
    (hup : ¬deviceUp s.pc) (hnot : pc ≠ .comPortCreate)
    (hhandles : s.comHandles = 0) (hgone : r = .dataLock ∨ Resource.dataLock ∉ s.live) :
    Staged (s.release r pc) where
  device hdevice := absurd (h.device hdevice) hup
  locked heq := absurd heq hnot
  released _ hmem := by
    rcases hgone with rfl | hgone
    · exact Finset.notMem_erase _ _ hmem
    · exact hgone (Finset.mem_of_mem_erase hmem)
  alone _ := ⟨Bool.eq_false_iff.mpr fun hdevice ↦ hup (h.device hdevice), hhandles⟩

/-- Allocating a resource. -/
theorem Staged.acquire {s : Construction} (h : s.Staged) {ok : Bool} {r : Resource} {pc : CreatePc}
    (hup : ¬deviceUp s.pc) (hpc : ¬releasing pc) (hlock : pc = .comPortCreate → r = .dataLock) :
    Staged (s.acquire ok r pc) := by
  unfold Construction.acquire
  cases ok with
  | false => exact h.of_failing hup nofun nofun
  | true =>
      refine ⟨fun hdevice ↦ absurd (h.device hdevice) hup, fun heq ↦ ?_,
        fun hnew ↦ absurd hnew hpc, fun hnot ↦ ?_⟩
      · rw [← hlock heq]
        exact Finset.mem_insert_self _ _
      · exact h.alone fun hmem ↦ hnot (Finset.mem_insert_of_mem hmem)

/-- A step of the create that finds no file object at `fail_alloc` keeps its place. -/
theorem Staged.create_step {s t : Construction} {ok : Bool} (h : s.Staged)
    (hstep : s.createStep ok = some t) (hguard : s.pc = .deleteDataLock → s.comHandles = 0) :
    t.Staged := by
  have hup (hpc : ¬deviceUp s.pc) : s.comDevice = false :=
    Bool.eq_false_iff.mpr fun hdevice ↦ hpc (h.device hdevice)
  have hlate (hpc : releasing s.pc) : s.comHandles = 0 ∧ Resource.dataLock ∉ s.live :=
    ⟨(h.alone (h.released hpc)).2, h.released hpc⟩
  unfold createStep at hstep
  cases hpc : s.pc <;> rw [hpc] at hstep <;> cases hstep
  case initComToCompanion | initCompanionToCom | createSignalLock =>
    exact h.acquire (by rw [hpc]; exact id) id nofun
  case createDataLock => exact h.acquire (by rw [hpc]; exact id) id fun _ ↦ rfl
  case comPortCreate =>
    cases ok with
    | true => exact ⟨fun _ ↦ trivial, nofun, nofun, fun hnot ↦ absurd (h.locked hpc) hnot⟩
    | false => exact h.of_failing (by rw [hpc]; exact id) nofun nofun
  case companionCreate =>
    cases ok with
    | true => exact ⟨fun _ ↦ trivial, nofun, nofun, h.alone⟩
    | false => exact ⟨fun _ ↦ trivial, nofun, nofun, h.alone⟩
  case comPortDestroy => exact ⟨nofun, nofun, nofun, fun hnot ↦ ⟨rfl, (h.alone hnot).2⟩⟩
  case failCleanup => exact h.of_failing (by rw [hpc]; exact id) nofun nofun
  case deleteDataLock =>
    exact h.release (by rw [hpc]; exact id) nofun (hguard hpc) (.inl rfl)
  case deleteSignalLock | freeCompanionToCom | freeComToCompanion | freePair =>
    -- the lock is gone, so no file object has the pair any more
    have hgone := hlate (by rw [hpc]; trivial)
    exact h.release (by rw [hpc]; exact id) nofun hgone.1 (.inr hgone.2)

/-- No step of the create touches the pair or its file objects. -/
theorem create_step_frame {s t : Construction} {ok : Bool} (hstep : s.createStep ok = some t) :
    t.pp = s.pp ∧ t.comHandles = s.comHandles := by
  unfold createStep at hstep
  split at hstep <;> cases hstep
  all_goals first
    | exact ⟨rfl, rfl⟩
    | cases ok <;> exact ⟨rfl, rfl⟩

/-- A callback that leaves the resources alone and opens files only on a device that is up keeps
the create's place. -/
theorem Staged.callback {s : Construction} (h : s.Staged) (pp : PortPair) {handles : ℕ}
    (hhandles : s.comDevice = true ∨ handles ≤ s.comHandles) :
    Staged { s with pp := pp, comHandles := handles } where
  device := h.device
  locked := h.locked
  released := h.released
  alone hnot := by
    obtain ⟨hdown, hnone⟩ := h.alone hnot
    refine ⟨hdown, ?_⟩
    rcases hhandles with hup | hle
    · exact absurd hup (by rw [hdown]; exact Bool.false_ne_true)
    · show handles = 0
      omega

/-- Every step keeps the invariant, if a create that is at `fail_alloc` finds no file object. -/
theorem Building.step {s t : Construction} {e : ConstructionEvent} (h : s.Building)
    (hnext : s.next e = some t) (hguard : s.FailsUnheld e) : t.Building := by
  unfold next at hnext
  cases e with
  | create ok =>
      dsimp only at hnext
      obtain ⟨hpp, hhandles⟩ := create_step_frame hnext
      refine ⟨?_, h.staged.create_step hnext fun hpc ↦ ?_⟩
      · rw [hpp, hhandles]
        exact h.held
      · exact h.held.refCount_eq_one_iff.mp (hguard hpc)
  | comFileCreate wdf id =>
      dsimp only at hnext
      split at hnext
      · next hup =>
          cases hnext
          exact ⟨h.held.file_create wdf id, h.staged.callback _ (.inl hup)⟩
      · cases hnext
  | comRequest wdf request =>
      dsimp only at hnext
      split at hnext
      · cases hnext
        exact ⟨h.held.of_control (serve_control ..), h.staged.callback _ (.inr (Nat.le_refl _))⟩
      · cases hnext
  | comFileClose wdf =>
      dsimp only at hnext
      split at hnext
      · cases hnext
      next hopen =>
      cases hnext
      obtain ⟨hheld, hfreed⟩ := h.held.file_close wdf hopen
      rw [hfreed]
      exact ⟨hheld, h.staged.callback _ (.inr (Nat.sub_le _ _))⟩

/-- A callback releases nothing. -/
theorem callback_releases_nothing {s t : Construction} {e : ConstructionEvent} (h : s.Building)
    (hnext : s.next e = some t) (hcallback : ∀ ok, e ≠ .create ok) : t.live = s.live := by
  unfold next at hnext
  cases e with
  | create ok => exact absurd rfl (hcallback ok)
  | comFileCreate wdf id =>
      dsimp only at hnext
      split at hnext <;> cases hnext
      rfl
  | comRequest wdf request =>
      dsimp only at hnext
      split at hnext <;> cases hnext
      rfl
  | comFileClose wdf =>
      dsimp only at hnext
      split at hnext
      · cases hnext
      next hopen =>
      cases hnext
      rw [(h.held.file_close wdf hopen).2]
      rfl

/-- A step of the create that releases something is one of those from `fail_alloc` on. -/
theorem releasing_of_release {s t : Construction} {ok : Bool} {r : Resource}
    (hstep : s.createStep ok = some t) (hmem : r ∈ s.live) (hnot : r ∉ t.live) :
    s.pc = .deleteDataLock ∨ releasing s.pc := by
  have hkept (hlive : s.live ⊆ t.live) : False := hnot (hlive hmem)
  have hacquire (r' : Resource) (pc : CreatePc) : s.live ⊆ (s.acquire ok r' pc).live := by
    unfold acquire
    cases ok with
    | false => exact Finset.Subset.refl _
    | true => exact Finset.subset_insert _ _
  unfold createStep at hstep
  cases hpc : s.pc <;> rw [hpc] at hstep <;> cases hstep
  case initComToCompanion | initCompanionToCom | createSignalLock | createDataLock =>
    exact (hkept (hacquire _ _)).elim
  case comPortCreate => cases ok <;> exact (hkept (Finset.Subset.refl _)).elim
  case companionCreate | comPortDestroy | failCleanup =>
    exact (hkept (Finset.Subset.refl _)).elim
  case deleteDataLock => exact .inl rfl
  case deleteSignalLock | freeCompanionToCom | freeComToCompanion | freePair =>
    exact .inr trivial

/-- On a single step the two conditions agree. -/
theorem Building.releases_iff {s t : Construction} {e : ConstructionEvent} (h : s.Building)
    (hnext : s.next e = some t) : s.ReleasesUnheld t ↔ s.FailsUnheld e := by
  cases e with
  | create ok =>
      obtain ⟨-, hhandles⟩ := create_step_frame hnext
      constructor
      · intro hunheld hpc
        refine h.held.refCount_eq_one_iff.mpr ?_
        by_cases hlock : Resource.dataLock ∈ s.live
        · have ht : t = s.release .dataLock .deleteSignalLock := by
            simp only [next, createStep, hpc] at hnext
            exact (Option.some.inj hnext).symm
          have hgone : Resource.dataLock ∉ t.live := by
            rw [ht]
            exact Finset.notMem_erase _ _
          rw [← hhandles]
          exact hunheld _ hlock hgone
        · exact (h.staged.alone hlock).2
      · intro hguard r hmem hnot
        rw [hhandles]
        rcases releasing_of_release hnext hmem hnot with hpc | hlate
        · exact h.held.refCount_eq_one_iff.mp (hguard hpc)
        · exact (h.staged.alone (h.staged.released hlate)).2
  | comFileCreate | comRequest | comFileClose =>
      refine ⟨fun _ ↦ trivial, fun _ r hmem hnot ↦ ?_⟩
      rw [callback_releases_nothing h hnext nofun] at hnot
      exact absurd hmem hnot

end Construction

/-- In every interleaving of a create with the callbacks of the COM device, nothing is released
while a file object holds the pair exactly when `RefCount` is back to one whenever the failing
create is at `fail_alloc`. -/
theorem released_unheld_iff (portNumber : ULONG) (es : List ConstructionEvent) :
    EveryStep Construction.next (fun s _ t ↦ s.ReleasesUnheld t) (.start portNumber) es ↔
      EveryStep Construction.next (fun s e _ ↦ s.FailsUnheld e) (.start portNumber) es :=
  Transition.everyStep_iff (I := Construction.Building)
    (fun _ _ _ h hnext hunheld ↦ h.step hnext ((h.releases_iff hnext).mp hunheld))
    (fun _ _ _ h hnext ↦ h.releases_iff hnext) (Construction.start_building portNumber)

/-- An application opens the COM port before the companion device turns out not to be creatable,
and keeps it open until the create is at `fail_alloc`. -/
def openDuringCreate : List ConstructionEvent :=
  [.create true, .create true, .create true, .create true, .create true, .comFileCreate .ok 0,
    .create false, .create true, .create true]

/-- The rest of the create then releases both locks, both rings and the pair, which the application
still holds. -/
theorem pair_freed_while_open :
    (Transition.run Construction.next (.start 5)
        (openDuringCreate ++ List.replicate 5 (.create true))).map
        (fun t ↦ (t.pc, decide (t.live = ∅), t.comHandles)) = some (.failed, true, 1) ∧
      ¬EveryStep Construction.next (fun s _ t ↦ s.ReleasesUnheld t) (.start 5)
        (openDuringCreate ++ List.replicate 5 (.create true)) := by
  refine ⟨rfl, fun h ↦ ?_⟩
  have hlock := h.at_prefix rfl rfl .dataLock
  exact absurd (hlock (by decide) (by decide)) (by decide)

end GhostCom
