import GhostCom.Library.Transition
import GhostCom.Signals.View

/-!
# Signal changes between waits

Runs in which COM-side callbacks and the companion's `WAIT_SIGNAL_CHANGE` requests execute one at a
time. `unseen` is the union of the bits announced since the last delivery. `GcomSignalChanged`
clears the bits of its snapshot whether or not it delivered it, so `signals_kept_iff` finds that no
change is lost exactly when every announcement meets a pended wait.
-/

namespace GhostCom

open Transition (EveryStep)

/-- A pair with its watcher: whether a COM-side file object is open, and the bits announced since
the last delivery. -/
structure SignalRun where
  pair : PortPair
  nextRequest : RequestId
  comOpen : Bool
  unseen : ULONG

/-- What can happen: COM-side callbacks and the watcher's wait. -/
inductive SignalEvent where
  | comOpen (wdf : Wdf)
  | comClose (wdf : Wdf)
  | comIoctl (inputLength outputLength : ℕ) (ioctl : ComIoctl) (wdf : Wdf)
  | wait (wdf : Wdf)

/-- The bits announced and not delivered after the entries. -/
def unseenAfter : ULONG → List SignalEntry → ULONG
  | unseen, [] => unseen
  | unseen, .called changedBits :: entries => unseenAfter (unseen ||| changedBits) entries
  | _, .delivered _ :: entries => unseenAfter 0 entries

/-- Every delivery carries the bits announced since the one before. -/
def Faithful : ULONG → List SignalEntry → Prop
  | _, [] => True
  | unseen, .called changedBits :: entries => Faithful (unseen ||| changedBits) entries
  | unseen, .delivered changedMask :: entries => changedMask = unseen ∧ Faithful 0 entries

namespace SignalEvent

/-- The outcomes of the WDF calls of the event's callback. -/
def wdf : SignalEvent → Wdf
  | .comOpen wdf | .comClose wdf | .comIoctl _ _ _ wdf | .wait wdf => wdf

/-- The bits the event announces. -/
def changedBits (s : SignalRun) : SignalEvent → Option ULONG
  | .comOpen _ => s.pair.openBits
  | .comClose _ => some changedComClose
  | .comIoctl inputLength outputLength ioctl wdf =>
      ioctl.changedBits wdf ⟨s.nextRequest, inputLength, outputLength⟩
  | .wait _ => none

/-- The callback of the event. The watcher's wait has a buffer for the whole state. -/
def call (s : SignalRun) : SignalEvent → PortPair × List Effect
  | .comOpen wdf =>
      let result := gcomComEvtFileCreate wdf s.pair s.nextRequest
      (result.pp, result.effects)
  | .comClose wdf =>
      let result := gcomComEvtFileClose wdf s.pair
      (result.pp, result.effects)
  | .comIoctl inputLength outputLength ioctl wdf =>
      gcomComEvtIoctl wdf s.pair ⟨s.nextRequest, inputLength, outputLength⟩ ioctl
  | .wait wdf =>
      gcomCompEvtIoctl wdf s.pair ⟨s.nextRequest, 0, sizeofSignalState⟩ .waitSignalChange

/-- COM-side requests need an open file object, and the watcher has one wait outstanding. -/
def enabled (s : SignalRun) : SignalEvent → Bool
  | .comOpen _ => true
  | .comClose _ => s.comOpen
  | .comIoctl _ _ _ _ => s.comOpen
  | .wait _ => s.pair.signalWaitQueue.isEmpty

/-- Is a COM-side file object open after the event? -/
def comOpenAfter (s : SignalRun) : SignalEvent → Bool
  | .comOpen wdf => s.comOpen || (gcomComEvtFileCreate wdf s.pair s.nextRequest).accepted
  | .comClose _ => false
  | _ => s.comOpen

end SignalEvent

namespace SignalRun

/-- A new pair. -/
def initial (portNumber : ULONG) : SignalRun := ⟨.initial portNumber, 0, false, 0⟩

/-- One event. -/
def step (s : SignalRun) (e : SignalEvent) : SignalRun where
  pair := (e.call s).1
  nextRequest := s.nextRequest + 1
  comOpen := e.comOpenAfter s
  unseen := unseenAfter s.unseen (signalEntries (e.call s).2)

/-- The transition system of the events that are enabled. -/
def next (s : SignalRun) (e : SignalEvent) : Option SignalRun :=
  if e.enabled s then some (s.step e) else none

/-- A wait that arrives now, with bits unseen and no other wait pended, is completed with them. -/
def ServesWait (s : SignalRun) : Prop :=
  s.pair.signalWaitQueue = [] → s.unseen ≠ 0 →
    signalEntries ((SignalEvent.wait .ok).call s).2 = [.delivered s.unseen]

/-- No change is lost by a step: what it delivers is what was announced since the last delivery,
and a wait that arrives after it is completed if anything is unseen. -/
def Keeps (s : SignalRun) (e : SignalEvent) (t : SignalRun) : Prop :=
  Faithful s.unseen (signalEntries (e.call s).2) ∧ t.ServesWait

/-- If the event announces bits, the watcher's wait is pended and can be completed. -/
def MeetsWait (s : SignalRun) (e : SignalEvent) : Prop :=
  e.changedBits s ≠ none → ∃ waitReq ∈ s.pair.signalWaitQueue, waitReq.Deliverable e.wdf = true

/-- What a run in which no change is lost keeps: the mask is clear between callbacks. -/
structure Current (s : SignalRun) : Prop where
  active : s.pair.active = true
  clear : s.pair.signalState.changedMask = 0
  single : s.pair.signalWaitQueue.length ≤ 1
  seen : s.unseen = 0

theorem initial_current (portNumber : ULONG) : (initial portNumber).Current :=
  ⟨rfl, rfl, Nat.zero_le _, rfl⟩

/-- A wait is pended, or refused by the framework; either way nothing is announced. -/
theorem wait_call (s : SignalRun) (wdf : Wdf) (h : s.pair.active = true) :
    signalEntries ((SignalEvent.wait wdf).call s).2 = [] ∧
      ((SignalEvent.wait wdf).call s).1.active = true ∧
      ((SignalEvent.wait wdf).call s).1.signalState = s.pair.signalState ∧
      (((SignalEvent.wait wdf).call s).1.signalWaitQueue = s.pair.signalWaitQueue ∨
        ((SignalEvent.wait wdf).call s).1.signalWaitQueue =
          s.pair.signalWaitQueue ++ [⟨s.nextRequest, sizeofSignalState⟩]) := by
  have hcall : (SignalEvent.wait wdf).call s =
      waitSignalChange wdf s.pair ⟨s.nextRequest, 0, sizeofSignalState⟩ := by
    show gcomCompEvtIoctl wdf s.pair _ .waitSignalChange = _
    rw [gcomCompEvtIoctl, if_neg (by simp [h])]
  rw [hcall]
  unfold waitSignalChange
  split
  · exact ⟨rfl, h, rfl, .inr rfl⟩
  · exact ⟨signal_entries_complete _ _, h, rfl, .inl rfl⟩

/-- Every COM-side callback announces its bits and nothing else. -/
theorem event_announces (s : SignalRun) (e : SignalEvent) (h : s.pair.active = true)
    (he : ∀ wdf, e ≠ .wait wdf) : Announces e.wdf s.pair (e.changedBits s) (e.call s) := by
  cases e with
  | comOpen wdf => exact com_file_create_announces wdf s.pair s.nextRequest h
  | comClose wdf => exact com_file_close_announces wdf s.pair h
  | comIoctl inputLength outputLength ioctl wdf => exact com_ioctl_announces ioctl h
  | wait wdf => exact absurd rfl (he wdf)

/-- Announced bits are never empty. -/
theorem changed_bits_ne_zero {s : SignalRun} {e : SignalEvent} {changedBits : ULONG}
    (h : e.changedBits s = some changedBits) : changedBits ≠ 0 := by
  have hreadable {wdf : Wdf} {req : IoctlRequest} {size : ℕ} {bits : ULONG} (hbits : bits ≠ 0)
      (h : readable wdf req size bits = some changedBits) : changedBits ≠ 0 := by
    unfold readable at h
    split at h
    · cases h
      exact hbits
    · cases h
  cases e with
  | comOpen wdf =>
      dsimp only [SignalEvent.changedBits, PortPair.openBits] at h
      split at h
      · cases h
      · cases h
        decide
  | comClose wdf =>
      cases h
      decide
  | comIoctl inputLength outputLength ioctl wdf =>
      cases ioctl with
      | setBaudRate | setLineControl | setHandflow | setChars | setWaitMask | setModemControl =>
          exact hreadable (by decide) h
      | setDtr | clrDtr | setRts | clrRts | setBreakOn | setBreakOff =>
          cases h
          decide
      | _ => cases h
  | wait wdf => cases h

/-- In a state without unseen bits every arriving wait may stay pended. -/
theorem serves_of_seen {s : SignalRun} (h : s.unseen = 0) : s.ServesWait :=
  fun _ hne ↦ absurd h hne

/-- An announcement that no wait takes loses its bits. -/
theorem not_serves_of_undelivered {s : SignalRun} (hactive : s.pair.active = true)
    (hwaits : s.pair.signalWaitQueue = []) (hunseen : s.unseen ≠ 0) : ¬ s.ServesWait := by
  intro h
  have hserved := h hwaits hunseen
  rw [(wait_call s .ok hactive).1] at hserved
  cases hserved

/-- The view after an announcement: the mask is clear and no wait is pended. -/
theorem announce_view {s : SignalRun} (h : s.Current) {e : SignalEvent}
    (he : ∀ wdf, e ≠ .wait wdf) {changedBits : ULONG} (hbits : e.changedBits s = some changedBits) :
    (s.step e).pair.active = true ∧ (s.step e).pair.signalState.changedMask = 0 ∧
      (s.step e).pair.signalWaitQueue = [] := by
  have hann := event_announces s e h.active he
  have hview := hann.view
  rw [hbits] at hview
  refine ⟨hann.active.trans h.active, ?_, congrArg SignalView.waits hview⟩
  have hmask := congrArg SignalView.changedMask hview
  exact hmask.trans (by simp [SignalView.change])

/-- What the waits see of an announcement from a current state. -/
theorem announce_entries {s : SignalRun} (h : s.Current) {e : SignalEvent}
    (he : ∀ wdf, e ≠ .wait wdf) {changedBits : ULONG} (hbits : e.changedBits s = some changedBits) :
    signalEntries (e.call s).2 = .called changedBits ::
      (s.pair.signalWaitQueue.filter (·.Deliverable e.wdf)).map fun _ ↦ .delivered changedBits := by
  have hentries := (event_announces s e h.active he).entries
  rw [hbits] at hentries
  rw [hentries]
  simp [SignalView.entries, SignalView.snapshotMask, PortPair.signalView, h.clear]

/-- An announcement that meets a wait is delivered whole. -/
theorem Current.announce_met {s : SignalRun} (h : s.Current) {e : SignalEvent}
    (he : ∀ wdf, e ≠ .wait wdf) {changedBits : ULONG} (hbits : e.changedBits s = some changedBits)
    (hmeets : s.MeetsWait e) : s.Keeps e (s.step e) ∧ (s.step e).Current := by
  obtain ⟨waitReq, hmem, hdeliver⟩ := hmeets (by simp [hbits])
  have hsingle : s.pair.signalWaitQueue = [waitReq] := waits_singleton h.single hmem
  have hentries := announce_entries h he hbits
  rw [hsingle, List.filter_cons, if_pos hdeliver] at hentries
  obtain ⟨hactive, hclear, hwaits⟩ := announce_view h he hbits
  have hunseen : (s.step e).unseen = 0 := by
    show unseenAfter s.unseen (signalEntries (e.call s).2) = 0
    rw [hentries]
    rfl
  refine ⟨⟨?_, serves_of_seen hunseen⟩, hactive, hclear, by rw [hwaits]; exact Nat.zero_le _,
    hunseen⟩
  rw [hentries, h.seen]
  exact ⟨by simp, trivial⟩

/-- An announcement that meets no wait is lost. -/
theorem Current.announce_missed {s : SignalRun} (h : s.Current) {e : SignalEvent}
    (he : ∀ wdf, e ≠ .wait wdf) {changedBits : ULONG} (hbits : e.changedBits s = some changedBits)
    (hmeets : ¬ s.MeetsWait e) : ¬ s.Keeps e (s.step e) := by
  have hnone : s.pair.signalWaitQueue.filter (·.Deliverable e.wdf) = [] := by
    rw [List.filter_eq_nil_iff]
    intro waitReq hmem hdeliver
    exact hmeets fun _ ↦ ⟨waitReq, hmem, hdeliver⟩
  have hentries := announce_entries h he hbits
  rw [hnone] at hentries
  obtain ⟨hactive, _, hwaits⟩ := announce_view h he hbits
  have hunseen : (s.step e).unseen = changedBits := by
    show unseenAfter s.unseen (signalEntries (e.call s).2) = changedBits
    rw [hentries, h.seen]
    exact BitVec.zero_or
  rintro ⟨_, hserves⟩
  exact not_serves_of_undelivered hactive hwaits
    (hunseen ▸ changed_bits_ne_zero hbits) hserves

/-- A callback that announces nothing loses nothing. -/
theorem Current.quiet {s : SignalRun} (h : s.Current) {e : SignalEvent} (hen : e.enabled s = true)
    (hbits : e.changedBits s = none) : s.Keeps e (s.step e) ∧ (s.step e).Current := by
  have hcurrent : signalEntries (e.call s).2 = [] ∧ (e.call s).1.active = true ∧
      (e.call s).1.signalState.changedMask = 0 ∧ (e.call s).1.signalWaitQueue.length ≤ 1 := by
    by_cases he : ∃ wdf, e = .wait wdf
    · obtain ⟨wdf, rfl⟩ := he
      have hempty : s.pair.signalWaitQueue = [] := List.isEmpty_iff.mp hen
      obtain ⟨hentries, hactive, hstate, hwaits⟩ := wait_call s wdf h.active
      refine ⟨hentries, hactive, hstate ▸ h.clear, ?_⟩
      rcases hwaits with hwaits | hwaits <;> simp [hwaits, hempty]
    · have hann := event_announces s e h.active fun wdf hwdf ↦ he ⟨wdf, hwdf⟩
      rw [hbits] at hann
      refine ⟨hann.entries, hann.active.trans h.active, ?_, ?_⟩
      · exact (congrArg SignalView.changedMask hann.view).trans h.clear
      · have hwaits := congrArg SignalView.waits hann.view
        exact (congrArg List.length hwaits).trans_le h.single
  obtain ⟨hentries, hactive, hclear, hwaits⟩ := hcurrent
  have hunseen : (s.step e).unseen = 0 := by
    show unseenAfter s.unseen (signalEntries (e.call s).2) = 0
    rw [hentries]
    exact h.seen
  refine ⟨⟨?_, serves_of_seen hunseen⟩, hactive, hclear, hwaits, hunseen⟩
  rw [hentries]
  trivial

/-- From a current state a step loses nothing exactly when its announcement meets a wait, and then
leads to a current state. -/
theorem Current.keeps_iff {s : SignalRun} (h : s.Current) {e : SignalEvent}
    (hen : e.enabled s = true) :
    (s.Keeps e (s.step e) ↔ s.MeetsWait e) ∧ (s.MeetsWait e → (s.step e).Current) := by
  cases hbits : e.changedBits s with
  | none =>
      obtain ⟨hkeeps, hcurrent⟩ := h.quiet hen hbits
      exact ⟨⟨fun _ hne ↦ absurd hbits hne, fun _ ↦ hkeeps⟩, fun _ ↦ hcurrent⟩
  | some changedBits =>
      have he (wdf : Wdf) : e ≠ .wait wdf := by
        rintro rfl
        cases hbits
      refine ⟨⟨fun hkeeps ↦ ?_, fun hmeets ↦ (h.announce_met he hbits hmeets).1⟩,
        fun hmeets ↦ (h.announce_met he hbits hmeets).2⟩
      by_contra hmeets
      exact h.announce_missed he hbits hmeets hkeeps

end SignalRun

/-- In a run of COM-side callbacks and waits no signal change is lost exactly when the watcher's
wait is pended, and its buffer can be mapped, at every announcement. -/
theorem signals_kept_iff (portNumber : ULONG) (events : List SignalEvent) :
    EveryStep SignalRun.next SignalRun.Keeps (.initial portNumber) events ↔
      EveryStep SignalRun.next (fun s e _ ↦ s.MeetsWait e) (.initial portNumber) events := by
  have hnext {s t : SignalRun} {e : SignalEvent} (ht : s.next e = some t) :
      e.enabled s = true ∧ s.step e = t := by
    unfold SignalRun.next at ht
    split at ht
    · next hen => exact ⟨hen, Option.some.inj ht⟩
    · cases ht
  refine Transition.everyStep_iff (I := SignalRun.Current) ?_ ?_ (SignalRun.initial_current _)
  · intro s e t hs ht hkeeps
    obtain ⟨hen, rfl⟩ := hnext ht
    obtain ⟨hiff, hcurrent⟩ := hs.keeps_iff hen
    exact hcurrent (hiff.mp hkeeps)
  · intro s e t hs ht
    obtain ⟨hen, rfl⟩ := hnext ht
    exact (hs.keeps_iff hen).1

/-- The watcher waits, the COM port is opened, and DTR is raised before the watcher waits again. -/
def losingRun : List SignalEvent := [.wait .ok, .comOpen .ok, .comIoctl 0 0 .setDtr .ok]

/-- A change announced while the watcher is between two waits is lost: the next wait stays
pended. -/
theorem dtr_change_lost : ¬ EveryStep SignalRun.next SignalRun.Keeps (.initial 10) losingRun := by
  intro h
  let waiting := (SignalRun.initial 10).step (.wait .ok)
  let opened := waiting.step (.comOpen .ok)
  let raised := opened.step (.comIoctl 0 0 .setDtr .ok)
  have hraised : raised.ServesWait :=
    ((h waiting rfl).2 opened rfl).2 raised rfl |>.1.2
  exact SignalRun.not_serves_of_undelivered rfl rfl (by decide) hraised

end GhostCom
