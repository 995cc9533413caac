import GhostCom.Driver.FileEvents
import GhostCom.Library.RefCount
import GhostCom.Library.Transition

/-!
# Opens, closes and the destruction of a pair

A pair from its creation on: file objects of both sides are created and closed in any order, and
`GcomPortPairDestroy` runs at most once. Its devices are gone afterwards, so that no file object is
created any more, while file objects that are open are closed at any later time.
`reference_counting_sound` says that the flags, the reference count and the freeing of the pair
agree with the file objects that are open, in every order of these callbacks.
-/

namespace GhostCom

/-- A pair with the number of file objects open on each side, whether `GcomPortPairDestroy` has run
and how often the pair has been freed. -/
structure PairLife where
  pp : PortPair
  comHandles : ℕ
  companionHandles : ℕ
  destroyed : Bool
  frees : ℕ

/-- The callbacks of a pair's life; each runs as a whole. -/
inductive LifeEvent where
  | comFileCreate (wdf : Wdf) (id : RequestId)
  | comFileClose (wdf : Wdf)
  | compFileCreate (id : RequestId)
  | compFileClose
  | destroy

namespace PairLife

/-- A pair that `GcomPortPairCreate` has returned. -/
def created (portNumber : ULONG) : PairLife := ⟨.initial portNumber, 0, 0, false, 0⟩

/-- One callback. Files are created while the devices exist and closed once they are open. -/
def next (s : PairLife) : LifeEvent → Option PairLife
  | .comFileCreate wdf id =>
      if s.destroyed then none
      else
        let result := gcomComEvtFileCreate wdf s.pp id
        some { s with
          pp := result.pp
          comHandles := s.comHandles + result.accepted.toNat }
  | .comFileClose wdf =>
      if s.comHandles = 0 then none
      else
        let result := gcomComEvtFileClose wdf s.pp
        some { s with
          pp := result.pp
          comHandles := s.comHandles - 1
          frees := s.frees + result.freed.toNat }
  | .compFileCreate id =>
      if s.destroyed then none
      else
        let result := gcomCompEvtFileCreate s.pp id
        some { s with
          pp := result.pp
          companionHandles := s.companionHandles + result.accepted.toNat }
  | .compFileClose =>
      if s.companionHandles = 0 then none
      else
        let result := gcomCompEvtFileClose s.pp
        some { s with
          pp := result.pp
          companionHandles := s.companionHandles - 1
          frees := s.frees + result.freed.toNat }
  | .destroy =>
      if s.destroyed then none
      else
        let (pp, freed) := portPairTeardown s.pp
        some { s with
          pp := pp
          destroyed := true
          frees := s.frees + freed.toNat }

/-- The references on the pair: one for each open file object and, until `GcomPortPairDestroy` has
released it, the creation reference. -/
def references (s : PairLife) : ℕ :=
  s.comHandles + s.companionHandles + if s.destroyed then 0 else 1

/-- The bookkeeping of the pair agrees with the file objects that are open. -/
structure Sound (s : PairLife) : Prop where
  comExclusive : s.comHandles ≤ 1
  companionExclusive : s.companionHandles ≤ 1
  comFlag : s.pp.active = true → s.pp.comSideOpen = if s.comHandles = 0 then 0 else 1
  companionFlag :
    s.pp.active = true → s.pp.companionSideOpen = if s.companionHandles = 0 then 0 else 1
  counted : RefCount.Consistent s.pp.refCount s.references s.frees
  untouched : s.frees ≠ 0 → ∀ e, s.next e = none

/-- The invariant of a pair's life: the control fields against the open file objects. -/
structure Counted (s : PairLife) : Prop where
  active : s.pp.control.active = !s.destroyed
  comExclusive : s.comHandles ≤ 1
  companionExclusive : s.companionHandles ≤ 1
  comFlag : s.destroyed = false →
    s.pp.control.comSideOpen = if s.comHandles = 0 then 0 else 1
  companionFlag : s.destroyed = false →
    s.pp.control.companionSideOpen = if s.companionHandles = 0 then 0 else 1
  counted : RefCount.Consistent s.pp.control.refCount s.references s.frees

theorem created_counted (portNumber : ULONG) : (created portNumber).Counted where
  active := rfl
  comExclusive := Nat.zero_le _
  companionExclusive := Nat.zero_le _
  comFlag _ := rfl
  companionFlag _ := rfl
  counted := RefCount.consistent_one (by omega)

/-- A callback that can still run finds the pair allocated: some reference is left. -/
theorem references_pos_of_next {s t : PairLife} {e : LifeEvent} (h : s.next e = some t) :
    0 < s.references := by
  unfold references
  have hlive (hnot : ¬s.destroyed = true) :
      0 < s.comHandles + s.companionHandles + if s.destroyed then 0 else 1 := by
    rw [if_neg hnot]
    exact Nat.succ_pos _
  unfold next at h
  cases e <;> dsimp only at h <;> split at h
  case comFileCreate.isFalse hnot => exact hlive hnot
  case comFileClose.isFalse hopen => omega
  case compFileCreate.isFalse hnot => exact hlive hnot
  case compFileClose.isFalse hopen => omega
  case destroy.isFalse hnot => exact hlive hnot
  all_goals cases h

/-- The bookkeeping that `Counted` keeps is sound. -/
theorem Counted.sound {s : PairLife} (h : s.Counted) : s.Sound where
  comExclusive := h.comExclusive
  companionExclusive := h.companionExclusive
  comFlag hactive := by
    have hnot : s.destroyed = false := by simpa [PortPair.control, hactive] using h.active
    exact h.comFlag hnot
  companionFlag hactive := by
    have hnot : s.destroyed = false := by simpa [PortPair.control, hactive] using h.active
    exact h.companionFlag hnot
  counted := h.counted
  untouched hfreed e := by
    cases hnext : s.next e with
    | none => rfl
    | some t => exact absurd (h.counted.frees_eq_zero (references_pos_of_next hnext)) hfreed

section Steps

variable {s : PairLife} (h : s.Counted) {pp : PortPair}

include h

/-- An accepted open of the COM side: no other file object was open there. -/
theorem Counted.com_opened (hlive : s.destroyed = false) (hopen : s.pp.control.comSideOpen = 0)
    (hcontrol : pp.control =
      { s.pp.control with comSideOpen := 1, refCount := s.pp.control.refCount + 1 }) :
    Counted { s with pp := pp, comHandles := s.comHandles + 1 } := by
  have hzero : s.comHandles = 0 := by
    by_contra hne
    have hflag := h.comFlag hlive
    rw [hopen, if_neg hne] at hflag
    exact absurd hflag (by decide)
  have hle := h.companionExclusive
  refine ⟨?_, ?_, hle, ?_, ?_, ?_⟩
  · rw [hcontrol]
    exact h.active
  · show s.comHandles + 1 ≤ 1
    omega
  · intro _
    rw [hcontrol]
    exact (if_neg (Nat.succ_ne_zero _)).symm
  · intro hd
    rw [hcontrol]
    exact h.companionFlag hd
  · have href : PairLife.references { s with pp := pp, comHandles := s.comHandles + 1 } =
        s.references + 1 := by
      simp only [references]
      omega
    rw [hcontrol, href]
    exact h.counted.acquire (by simp [references, hlive]) (by simp [references, hlive]; omega)

/-- An accepted open of the companion side: no other file object was open there. -/
theorem Counted.comp_opened (hlive : s.destroyed = false)
    (hopen : s.pp.control.companionSideOpen = 0)
    (hcontrol : pp.control =
      { s.pp.control with companionSideOpen := 1, refCount := s.pp.control.refCount + 1 }) :
    Counted { s with pp := pp, companionHandles := s.companionHandles + 1 } := by
  have hzero : s.companionHandles = 0 := by
    by_contra hne
    have hflag := h.companionFlag hlive
    rw [hopen, if_neg hne] at hflag
    exact absurd hflag (by decide)
  have hle := h.comExclusive
  refine ⟨?_, hle, ?_, ?_, ?_, ?_⟩
  · rw [hcontrol]
    exact h.active
  · show s.companionHandles + 1 ≤ 1
    omega
  · intro hd
    rw [hcontrol]
    exact h.comFlag hd
  · intro _
    rw [hcontrol]
    exact (if_neg (Nat.succ_ne_zero _)).symm
  · have href : PairLife.references
        { s with pp := pp, companionHandles := s.companionHandles + 1 } = s.references + 1 := by
      simp only [references]
      omega
    rw [hcontrol, href]
    exact h.counted.acquire (by simp [references, hlive]) (by simp [references, hlive]; omega)

/-- A close of the COM side. -/
theorem Counted.com_closed {freed : Bool} (hopen : s.comHandles ≠ 0)
    (hcontrol : pp.control =
      { s.pp.control with comSideOpen := 0, refCount := s.pp.control.refCount - 1 })
    (hfreed : freed = (s.pp.control.refCount - 1 == 0)) :
    Counted { s with
      pp := pp
      comHandles := s.comHandles - 1
      frees := s.frees + freed.toNat } := by
  have hle := h.comExclusive
  refine ⟨?_, ?_, h.companionExclusive, ?_, ?_, ?_⟩
  · rw [hcontrol]
    exact h.active
  · show s.comHandles - 1 ≤ 1
    omega
  · intro _
    rw [hcontrol]
    show (0 : LONG) = if s.comHandles - 1 = 0 then 0 else 1
    rw [if_pos (by omega)]
  · intro hd
    rw [hcontrol]
    exact h.companionFlag hd
  · have href : PairLife.references { s with
        pp := pp
        comHandles := s.comHandles - 1
        frees := s.frees + freed.toNat } = s.references - 1 := by
      simp only [references]
      omega
    rw [hcontrol, href, hfreed]
    refine h.counted.release ?_
    simp only [references]
    omega

/-- A close of the companion side; `CompanionSideOpen` is cleared while the pair is active. -/
theorem Counted.comp_closed {freed : Bool} (hopen : s.companionHandles ≠ 0)
    (hcontrol : pp.control =
      { s.pp.control with
        companionSideOpen := if s.pp.control.active then 0 else s.pp.control.companionSideOpen
        refCount := s.pp.control.refCount - 1 })
    (hfreed : freed = (s.pp.control.refCount - 1 == 0)) :
    Counted { s with
      pp := pp
      companionHandles := s.companionHandles - 1
      frees := s.frees + freed.toNat } := by
  have hle := h.companionExclusive
  refine ⟨?_, h.comExclusive, ?_, ?_, ?_, ?_⟩
  · rw [hcontrol]
    exact h.active
  · show s.companionHandles - 1 ≤ 1
    omega
  · intro hd
    rw [hcontrol]
    exact h.comFlag hd
  · intro hd
    -- the flag is cleared only while the pair is active, that is, not destroyed
    have hon : s.pp.control.active = true := by rw [h.active, show s.destroyed = false from hd]; rfl
    rw [hcontrol]
    show (if s.pp.control.active then (0 : LONG) else _) =
      if s.companionHandles - 1 = 0 then 0 else 1
    rw [if_pos hon, if_pos (by omega)]
  · have href : PairLife.references { s with
        pp := pp
        companionHandles := s.companionHandles - 1
        frees := s.frees + freed.toNat } = s.references - 1 := by
      simp only [references]
      omega
    rw [hcontrol, href, hfreed]
    refine h.counted.release ?_
    simp only [references]
    omega

/-- The destruction of the pair. -/
theorem Counted.torn_down {freed : Bool} (hlive : s.destroyed = false)
    (hcontrol : pp.control =
      { s.pp.control with active := false, refCount := s.pp.control.refCount - 1 })
    (hfreed : freed = (s.pp.control.refCount - 1 == 0)) :
    Counted { s with pp := pp, destroyed := true, frees := s.frees + freed.toNat } := by
  refine ⟨?_, h.comExclusive, h.companionExclusive, nofun, nofun, ?_⟩
  · rw [hcontrol]
    rfl
  · have href : PairLife.references { s with
        pp := pp
        destroyed := true
        frees := s.frees + freed.toNat } = s.references - 1 := by
      simp only [references, hlive]
      rfl
    rw [hcontrol, href, hfreed]
    refine h.counted.release ?_
    simp only [references, hlive]
    exact Nat.succ_pos _

/-- Every callback keeps the bookkeeping. -/
theorem Counted.next {t : PairLife} {e : LifeEvent} (hnext : s.next e = some t) : t.Counted := by
  unfold PairLife.next at hnext
  cases e with
  | comFileCreate wdf id =>
      dsimp only at hnext
      split at hnext
      · cases hnext
      next hnot =>
      have hlive : s.destroyed = false := by simpa using hnot
      rcases com_file_create_cases wdf s.pp id with
        ⟨effects, -, heq⟩ | ⟨pp', effects, -, hopen, hcontrol, heq⟩
      · rw [heq] at hnext
        cases hnext
        exact h
      · rw [heq] at hnext
        cases hnext
        exact h.com_opened hlive hopen hcontrol
  | comFileClose wdf =>
      dsimp only at hnext
      split at hnext
      · cases hnext
      next hopen =>
      obtain ⟨hcontrol, hfreed⟩ := com_file_close_control wdf s.pp
      cases hnext
      exact h.com_closed hopen hcontrol hfreed
  | compFileCreate id =>
      dsimp only at hnext
      split at hnext
      · cases hnext
      next hnot =>
      have hlive : s.destroyed = false := by simpa using hnot
      rcases comp_file_create_cases s.pp id with
        ⟨effects, -, heq⟩ | ⟨pp', effects, -, hopen, hcontrol, heq⟩
      · rw [heq] at hnext
        cases hnext
        exact h
      · rw [heq] at hnext
        cases hnext
        exact h.comp_opened hlive hopen hcontrol
  | compFileClose =>
      dsimp only at hnext
      split at hnext
      · cases hnext
      next hopen =>
      obtain ⟨hcontrol, hfreed⟩ := comp_file_close_control s.pp
      cases hnext
      exact h.comp_closed hopen hcontrol hfreed
  | destroy =>
      dsimp only at hnext
      split at hnext
      · cases hnext
      next hnot =>
      obtain ⟨hcontrol, hfreed⟩ := teardown_control s.pp
      cases hnext
      exact h.torn_down (by simpa using hnot) hcontrol hfreed

end Steps

end PairLife

open PairLife in
/-- In every order of opens, closes and at most one destruction, at most one file object a side is
open, the flags of an active pair say which, `RefCount` counts the references, and the pair is freed
once, when the last reference is dropped, with no callback able to run afterwards. -/
theorem reference_counting_sound (portNumber : ULONG) (es : List LifeEvent) (s : PairLife)
    (hrun : Transition.run PairLife.next (PairLife.created portNumber) es = some s) : s.Sound :=
  (Transition.run_invariant (I := PairLife.Counted) (fun _ _ _ h hnext ↦ h.next hnext)
    (created_counted portNumber) hrun).sound

/-- A COM file object outlives the destruction; its close frees the pair. -/
theorem freed_by_late_close :
    ∃ s, Transition.run PairLife.next (PairLife.created 5)
        [.comFileCreate .ok 0, .comFileCreate .ok 1, .destroy, .comFileClose .ok] = some s ∧
      s.Sound ∧ s.frees = 1 :=
  ⟨_, rfl, reference_counting_sound 5
    [.comFileCreate .ok 0, .comFileCreate .ok 1, .destroy, .comFileClose .ok] _ rfl, rfl⟩

end GhostCom
