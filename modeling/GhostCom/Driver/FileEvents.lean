import GhostCom.Driver.Signals

/-!
# File objects

The file create and close callbacks of both sides and the reference count of the pair. A file
object whose creation was accepted holds the pair in its context and one reference on it. What the
callbacks do to the flags and the count is summed up by one lemma each, on the `PairControl` of the
pair.
-/

namespace GhostCom

/-- `GcomPortPairAddRef`. -/
def gcomPortPairAddRef (pp : PortPair) : PortPair :=
  { pp with refCount := pp.refCount + 1 }

/-- `GcomPortPairRelease`: the pair after the decrement, and whether it is freed. -/
def gcomPortPairRelease (pp : PortPair) : PortPair × Bool :=
  let newCount := pp.refCount - 1
  ({ pp with refCount := newCount }, newCount == 0)

/-- The outcome of a file create callback: the pair, whether the file object now holds it, and the
effects. -/
structure FileCreate where
  pp : PortPair
  accepted : Bool
  effects : List Effect

/-- `GcomComEvtFileCreate`. -/
def gcomComEvtFileCreate (wdf : Wdf) (pp : PortPair) (id : RequestId) : FileCreate :=
  if !pp.active then ⟨pp, false, [.completed id .deviceNotConnected 0 .none]⟩
  else if pp.comSideOpen ≠ 0 then ⟨pp, false, [.completed id .sharingViolation 0 .none]⟩
  else
    let pp := gcomPortPairAddRef { pp with comSideOpen := 1 }
    let (pp, effects) := gcomSignalChanged wdf pp changedComOpen
    ⟨pp, true, effects ++ [.completed id .success 0 .none]⟩

/-- `GcomCompEvtFileCreate`. -/
def gcomCompEvtFileCreate (pp : PortPair) (id : RequestId) : FileCreate :=
  if !pp.active then ⟨pp, false, [.completed id .deviceNotConnected 0 .none]⟩
  else if pp.companionSideOpen ≠ 0 then ⟨pp, false, [.completed id .sharingViolation 0 .none]⟩
  else
    let pp := gcomPortPairAddRef { pp with companionSideOpen := 1 }
    ⟨pp, true, [.completed id .success 0 .none]⟩

/-- The outcome of a file close callback: the pair, whether it is freed, and the effects. -/
structure FileClose where
  pp : PortPair
  freed : Bool
  effects : List Effect

/-- `GcomComEvtFileClose` of a file object that holds the pair. -/
def gcomComEvtFileClose (wdf : Wdf) (pp : PortPair) : FileClose :=
  let pp := { pp with comSideOpen := 0 }
  let (pp, effects) := if pp.active then gcomSignalChanged wdf pp changedComClose else (pp, [])
  let (pp, freed) := gcomPortPairRelease pp
  ⟨pp, freed, effects⟩

/-- `GcomCompEvtFileClose` of a file object that holds the pair. -/
def gcomCompEvtFileClose (pp : PortPair) : FileClose :=
  let pp := if pp.active then { pp with companionSideOpen := 0 } else pp
  let (pp, freed) := gcomPortPairRelease pp
  ⟨pp, freed, []⟩

/-- What `GcomPortPairDestroy` does to the pair itself: `Active` is cleared, the queue handles are
cleared and their requests cancelled with the devices, and the creation reference is dropped. -/
def portPairTeardown (pp : PortPair) : PortPair × Bool :=
  gcomPortPairRelease { pp with
    active := false
    comReadQueue := []
    comWriteQueue := []
    compReadQueue := []
    compWriteQueue := []
    signalWaitQueue := []
    waitMaskQueue := [] }

/-- The fields of a pair that say which pair it is, who has it open and who holds it. -/
structure PairControl where
  portNumber : ULONG
  companionIndex : ULONG
  active : Bool
  comSideOpen : LONG
  companionSideOpen : LONG
  refCount : LONG
deriving DecidableEq, Repr

/-- The control fields of a pair. -/
def PortPair.control (pp : PortPair) : PairControl where
  portNumber := pp.portNumber
  companionIndex := pp.companionIndex
  active := pp.active
  comSideOpen := pp.comSideOpen
  companionSideOpen := pp.companionSideOpen
  refCount := pp.refCount

/-- A signal change leaves the control fields alone. -/
theorem signal_changed_control (wdf : Wdf) (pp : PortPair) (changedBits : ULONG) :
    (gcomSignalChanged wdf pp changedBits).1.control = pp.control := by
  unfold gcomSignalChanged
  split <;> rfl

/-- An open of the COM side is refused, or it sets `ComSideOpen` and takes a reference. -/
theorem com_file_create_cases (wdf : Wdf) (pp : PortPair) (id : RequestId) :
    (∃ effects, (pp.active = false ∨ pp.comSideOpen ≠ 0) ∧
      gcomComEvtFileCreate wdf pp id = ⟨pp, false, effects⟩) ∨
    (∃ pp' effects, pp.active = true ∧ pp.comSideOpen = 0 ∧
      pp'.control = { pp.control with comSideOpen := 1, refCount := pp.control.refCount + 1 } ∧
      gcomComEvtFileCreate wdf pp id = ⟨pp', true, effects⟩) := by
  unfold gcomComEvtFileCreate
  by_cases hactive : pp.active = true
  · rw [if_neg (by simp [hactive])]
    by_cases hopen : pp.comSideOpen = 0
    · rw [if_neg (by simp [hopen])]
      exact .inr ⟨_, _, hactive, hopen, signal_changed_control .., rfl⟩
    · rw [if_pos hopen]
      exact .inl ⟨_, .inr hopen, rfl⟩
  · rw [if_pos (by simpa using hactive)]
    exact .inl ⟨_, .inl (by simpa using hactive), rfl⟩

/-- An open of the companion side is refused, or it sets `CompanionSideOpen` and takes a
reference. -/
theorem comp_file_create_cases (pp : PortPair) (id : RequestId) :
    (∃ effects, (pp.active = false ∨ pp.companionSideOpen ≠ 0) ∧
      gcomCompEvtFileCreate pp id = ⟨pp, false, effects⟩) ∨
    (∃ pp' effects, pp.active = true ∧ pp.companionSideOpen = 0 ∧
      pp'.control =
        { pp.control with companionSideOpen := 1, refCount := pp.control.refCount + 1 } ∧
      gcomCompEvtFileCreate pp id = ⟨pp', true, effects⟩) := by
  unfold gcomCompEvtFileCreate
  by_cases hactive : pp.active = true
  · rw [if_neg (by simp [hactive])]
    by_cases hopen : pp.companionSideOpen = 0
    · rw [if_neg (by simp [hopen])]
      exact .inr ⟨_, _, hactive, hopen, rfl, rfl⟩
    · rw [if_pos hopen]
      exact .inl ⟨_, .inr hopen, rfl⟩
  · rw [if_pos (by simpa using hactive)]
    exact .inl ⟨_, .inl (by simpa using hactive), rfl⟩

/-- A release drops one reference and frees the pair when that was the last. -/
theorem release_control (pp : PortPair) :
    (gcomPortPairRelease pp).1.control =
        { pp.control with refCount := pp.control.refCount - 1 } ∧
      (gcomPortPairRelease pp).2 = (pp.control.refCount - 1 == 0) :=
  ⟨rfl, rfl⟩

/-- A close of the COM side clears `ComSideOpen` and drops its reference. -/
theorem com_file_close_control (wdf : Wdf) (pp : PortPair) :
    (gcomComEvtFileClose wdf pp).pp.control =
        { pp.control with comSideOpen := 0, refCount := pp.control.refCount - 1 } ∧
      (gcomComEvtFileClose wdf pp).freed = (pp.control.refCount - 1 == 0) := by
  have hcontrol := signal_changed_control wdf { pp with comSideOpen := 0 } changedComClose
  unfold gcomComEvtFileClose
  by_cases hactive : pp.active = true
  · simp only [if_pos hactive]
    rw [(release_control _).1, (release_control _).2, hcontrol]
    exact ⟨rfl, rfl⟩
  · simp only [if_neg hactive]
    exact ⟨rfl, rfl⟩

/-- A close of the companion side clears `CompanionSideOpen` if the pair is active, and drops its
reference. -/
theorem comp_file_close_control (pp : PortPair) :
    (gcomCompEvtFileClose pp).pp.control =
        { pp.control with
          companionSideOpen := if pp.active then 0 else pp.companionSideOpen
          refCount := pp.control.refCount - 1 } ∧
      (gcomCompEvtFileClose pp).freed = (pp.control.refCount - 1 == 0) := by
  unfold gcomCompEvtFileClose
  by_cases hactive : pp.active = true
  · simp only [if_pos hactive]
    exact ⟨rfl, rfl⟩
  · simp only [if_neg hactive]
    exact ⟨rfl, rfl⟩

/-- The teardown clears `Active` and drops the creation reference. -/
theorem teardown_control (pp : PortPair) :
    (portPairTeardown pp).1.control =
        { pp.control with active := false, refCount := pp.control.refCount - 1 } ∧
      (portPairTeardown pp).2 = (pp.control.refCount - 1 == 0) :=
  ⟨rfl, rfl⟩

end GhostCom
