import GhostCom.Signals.Delivery
import GhostCom.Signals.Settings
import GhostCom.Wire.SignalState

/-!
# A `VirtualPort` and its signal state

One `VirtualPort` over the pair it was created for: the constructor, which starts the watcher and
then loads the state eagerly; the watcher's thread; the callback of `onSignalChange` on the JS
thread; and `setSignals`. The callbacks of the driver run one at a time. Of `destroy` only what it
means for `setSignals` and for the watcher is modelled.

`setSignals` fills in a line that it is not given from the state it has received last;
`PortSignals.cached_lines_run` says which one that is. `partial_set_signals_iff` is the exact
condition under which the line is the companion's own.
-/

namespace GhostCom

open Transition (EveryStep run written)

/-- The snapshot that an effect hands to a wait. -/
def Effect.snapshot : Effect → Option SignalState
  | .completed _ .success _ (.snapshot state) => some state
  | _ => none

/-- The snapshots handed to waits, oldest first. -/
def snapshots (out : List Effect) : List SignalState := out.filterMap Effect.snapshot

/-- The state that a `GET_SIGNALS` returns. -/
def Effect.signals : Effect → Option SignalState
  | .completed _ .success _ (.signals state) => some state
  | _ => none

/-- The lines of a state as an application reads them: DTR and RTS. -/
def SignalState.lines (state : SignalState) : Bool × Bool :=
  (state.dtrState != 0, state.rtsState != 0)

/-- The interface `CompanionSignals` of `types.ts`. -/
structure CompanionSignals where
  dtr : Option Bool
  rts : Option Bool
deriving DecidableEq, Repr

/-- How far a port is: the companion device is open, the watcher has been started, the constructor
has returned, or `destroy` has been called. -/
inductive PortPhase where
  | opened
  | watching
  | ready
  | destroyed
deriving DecidableEq, Repr

/-- A port and its driver: the snapshots that the watcher has received and not handed over, those
that the JS thread has not processed, and `#signalState`. -/
structure PortSignals where
  driver : SignalRun
  completed : List SignalState
  queue : List SignalState
  signalState : Option ClientSignalState
  phase : PortPhase

/-- The steps of the driver's COM side and of the watcher's waits, of the constructor, of the
watcher and of the JS thread. Padding bytes are those of the buffer the state comes in. -/
inductive PortSignalsEvent where
  | driver (e : SignalEvent)
  | onSignalChange
  | getSignals (pad : SignalStatePadding) (wdf : Wdf)
  | handOver
  | process (pad : SignalStatePadding)
  | setSignals (signals : CompanionSignals) (wdf : Wdf)
  | destroy

namespace PortSignals

/-- A port whose companion device has been opened, on a new pair. -/
def initial (portNumber : ULONG) : PortSignals where
  driver := .initial portNumber
  completed := []
  queue := []
  signalState := none
  phase := .opened

/-- The pair of the port. -/
abbrev pair (s : PortSignals) : PortPair := s.driver.pair

/-- `isComOpen`. -/
def isComOpen (s : PortSignals) : Bool := s.signalState.any (·.dtr)

/-- `this.#signalState?.dtr ?? false`. -/
def cachedDtr (s : PortSignals) : Bool := (s.signalState.map (·.dtr)).getD false

/-- `this.#signalState?.rts ?? false`. -/
def cachedRts (s : PortSignals) : Bool := (s.signalState.map (·.rts)).getD false

/-- An IOCTL of the addon on the companion device. -/
def ioctl (s : PortSignals) (inputLength outputLength : ℕ) (ioctl : CompIoctl) (wdf : Wdf) :
    PortPair × List Effect :=
  gcomCompEvtIoctl wdf s.pair ⟨s.driver.nextRequest, inputLength, outputLength⟩ ioctl

/-- The port after an IOCTL. -/
def afterIoctl (s : PortSignals) (pair : PortPair) : PortSignals :=
  { s with driver := { s.driver with pair := pair, nextRequest := s.driver.nextRequest + 1 } }

/-- The watcher waits between its start and its shutdown, once it has handed over what it got. -/
def waits (s : PortSignals) : Bool :=
  (s.phase = .watching || s.phase = .ready) && s.completed.isEmpty

/-- One step. -/
def next (s : PortSignals) : PortSignalsEvent → Option PortSignals
  | .driver (.wait wdf) =>
      if s.waits then
        (s.driver.next (.wait wdf)).map fun driver ↦ { s with driver := driver }
      else none
  | .driver e =>
      (s.driver.next e).map fun driver ↦
        { s with driver := driver, completed := s.completed ++ snapshots (e.call s.driver).2 }
  | .onSignalChange =>
      if s.phase = .opened then some { s with phase := .watching } else none
  | .getSignals pad wdf =>
      if s.phase = .watching then
        let result := s.ioctl 0 sizeofSignalState .getSignals wdf
        let state := (result.2.findSome? Effect.signals).map fun state ↦
          receiveSignalState (state.bytes pad)
        -- a failure is caught and leaves the state as it was
        some { s.afterIoctl result.1 with
          signalState := state.orElse fun _ ↦ s.signalState
          phase := .ready }
      else none
  | .handOver =>
      match s.completed with
      | snapshot :: completed =>
          some { s with completed := completed, queue := s.queue ++ [snapshot] }
      | [] => none
  | .process pad =>
      -- the JS thread runs no callback before the constructor has returned
      match s.phase, s.queue with
      | .ready, snapshot :: queue | .destroyed, snapshot :: queue =>
          some { s with
            queue := queue
            signalState := some (receiveSignalState (snapshot.bytes pad)) }
      | _, _ => none
  | .setSignals signals wdf =>
      match s.phase with
      | .ready =>
          some (s.afterIoctl (s.ioctl 8 0
            (.setSignals (boolean (signals.dtr.getD s.cachedDtr))
              (boolean (signals.rts.getD s.cachedRts))) wdf).1)
      | .destroyed => some s
      | _ => none
  | .destroy =>
      match s.phase with
      | .ready | .destroyed => some { s with phase := .destroyed }
      | _ => none

/-- `isComOpen` is the cached line. -/
theorem is_com_open_eq (s : PortSignals) : s.isComOpen = s.cachedDtr := by
  unfold isComOpen cachedDtr
  cases s.signalState <;> rfl

/-- A `GET_SIGNALS` that the port issues now succeeds. -/
def Loads (s : PortSignals) (wdf : Wdf) : Prop :=
  s.pair.active = true ∧
    retrieveBuffer wdf s.driver.nextRequest sizeofSignalState sizeofSignalState = .ok ()

theorem complete_signals (req : IoctlRequest) (st : NTSTATUS) :
    (complete req st).signals = none := by
  cases st <;> rfl

/-- The eager load caches the companion's own lines, or it fails and changes nothing. -/
theorem get_signals_cases {s t : PortSignals} {pad : SignalStatePadding} {wdf : Wdf}
    (ht : s.next (.getSignals pad wdf) = some t) :
    s.phase = .watching ∧
      (∃ state, t = { s.afterIoctl s.pair with signalState := state, phase := .ready }) ∧
      ((s.Loads wdf ∧ t.cachedDtr = s.pair.compDtr ∧ t.cachedRts = s.pair.compRts) ∨
        (¬s.Loads wdf ∧ t.signalState = s.signalState)) := by
  simp only [next] at ht
  split at ht
  next hwatching =>
    have hpair : (s.ioctl 0 sizeofSignalState .getSignals wdf).1 = s.pair := by
      unfold ioctl gcomCompEvtIoctl getRequest
      split
      · rfl
      · dsimp only
        split <;> rfl
    rw [hpair] at ht
    cases ht
    refine ⟨hwatching, ⟨_, rfl⟩, ?_⟩
    by_cases hloads : s.Loads wdf
    · have hstate : (s.ioctl 0 sizeofSignalState .getSignals wdf).2.findSome? Effect.signals =
          some { s.pair.signalState with
            dtrState := boolean s.pair.compDtr
            rtsState := boolean s.pair.compRts } := by
        obtain ⟨hactive, hbuf⟩ := hloads
        simp only [ioctl, gcomCompEvtIoctl, hactive, Bool.not_true, Bool.false_eq_true, if_false,
          getRequest, hbuf]
        rfl
      have hshows := receive_shows { s.pair.signalState with
        dtrState := boolean s.pair.compDtr
        rtsState := boolean s.pair.compRts } pad
      unfold cachedDtr cachedRts
      dsimp only
      rw [hstate]
      exact .inl
        ⟨hloads, hshows.dtr.trans (boolean_ne_zero _), hshows.rts.trans (boolean_ne_zero _)⟩
    · have hnone : (s.ioctl 0 sizeofSignalState .getSignals wdf).2.findSome? Effect.signals =
          none := by
        unfold ioctl gcomCompEvtIoctl
        split
        · rfl
        next hactive =>
          cases hbuf : retrieveBuffer wdf s.driver.nextRequest sizeofSignalState
            sizeofSignalState with
          | ok => exact absurd ⟨by simpa using hactive, hbuf⟩ hloads
          | error st =>
              simp only [getRequest, hbuf, List.findSome?_singleton]
              exact complete_signals _ _
      refine .inr ⟨hloads, ?_⟩
      dsimp only
      rw [hnone]
      rfl
  next => cases ht

/-! ## The lines of the state -/

/-- The lines that `setSignals` fills in. -/
def cachedLines (s : PortSignals) : Bool × Bool := (s.cachedDtr, s.cachedRts)

/-- The lines of the state that a step loads with `GET_SIGNALS`. -/
def loadedLines (s : PortSignals) : PortSignalsEvent → Option (Bool × Bool)
  | .getSignals _ wdf =>
      ((s.ioctl 0 sizeofSignalState .getSignals wdf).2.findSome? Effect.signals).map
        SignalState.lines
  | _ => none

/-- The lines of the snapshot that a step processes. -/
def processedLines (s : PortSignals) : PortSignalsEvent → Option (Bool × Bool)
  | .process _ => s.queue.head?.map SignalState.lines
  | _ => none

/-- The constructor has returned. -/
def Constructed (s : PortSignals) : Prop := s.phase = .ready ∨ s.phase = .destroyed

/-- What a step does to the lines of `#signalState`: nothing, or it loads them, which is the end of
the constructor, or it processes a snapshot, which it does only after the constructor. -/
inductive LinesMove (s : PortSignals) (e : PortSignalsEvent) (t : PortSignals) : Prop where
  | kept (hphase : s.Constructed → t.Constructed) (hlines : t.cachedLines = s.cachedLines)
      (hloaded : s.loadedLines e = none) (hprocessed : s.processedLines e = none)
  | loaded (hbefore : ¬s.Constructed) (hafter : t.Constructed)
      (hlines : t.cachedLines = (s.loadedLines e).getD s.cachedLines)
      (hprocessed : s.processedLines e = none)
  | processed (hafter : t.Constructed) (hloaded : s.loadedLines e = none)
      (hlines : s.processedLines e = some t.cachedLines)

/-- What is received has the lines of the state that was sent. -/
theorem received_lines {s : PortSignals} {state : SignalState} {pad : SignalStatePadding}
    (h : s.signalState = some (receiveSignalState (state.bytes pad))) :
    s.cachedLines = state.lines := by
  rw [cachedLines, cachedDtr, cachedRts, h]
  exact Prod.ext (receive_shows state pad).dtr (receive_shows state pad).rts

/-- Every step is such a move. -/
theorem lines_move {s t : PortSignals} {e : PortSignalsEvent} (ht : s.next e = some t) :
    s.LinesMove e t := by
  cases e with
  | driver e =>
      have hkept : t.phase = s.phase ∧ t.signalState = s.signalState := by
        cases e with
        | wait wdf =>
            simp only [next] at ht
            split at ht
            · obtain ⟨driver, -, rfl⟩ := Option.map_eq_some_iff.mp ht
              exact ⟨rfl, rfl⟩
            · cases ht
        | comOpen | comClose | comIoctl =>
            simp only [next] at ht
            obtain ⟨driver, -, rfl⟩ := Option.map_eq_some_iff.mp ht
            exact ⟨rfl, rfl⟩
      refine .kept (fun h ↦ ?_) ?_ rfl rfl
      · rwa [Constructed, hkept.1]
      · rw [cachedLines, cachedDtr, cachedRts, hkept.2]
        rfl
  | onSignalChange =>
      simp only [next] at ht
      split at ht
      next hopened =>
        cases ht
        refine .kept (fun h ↦ ?_) rfl rfl rfl
        rw [Constructed, hopened] at h
        simp at h
      next => cases ht
  | getSignals pad wdf =>
      simp only [next] at ht
      split at ht
      next hwatching =>
        cases ht
        refine .loaded (by simp [Constructed, hwatching]) (.inl rfl) ?_ rfl
        cases hstate : (s.ioctl 0 sizeofSignalState .getSignals wdf).2.findSome? Effect.signals with
        | none => simp [loadedLines, hstate, cachedLines, cachedDtr, cachedRts]
        | some state =>
            rw [loadedLines, hstate]
            exact received_lines rfl
      next => cases ht
  | handOver =>
      simp only [next] at ht
      split at ht
      · cases ht
        exact .kept id rfl rfl rfl
      · cases ht
  | process pad =>
      simp only [next] at ht
      split at ht
      case h_3 => cases ht
      all_goals
        next snapshot queue hphase hqueue =>
        cases ht
        refine .processed ?_ rfl ?_
        · simp [Constructed, hphase]
        · rw [processedLines, hqueue]
          exact congrArg some (received_lines rfl).symm
  | setSignals signals wdf =>
      simp only [next] at ht
      split at ht
      · cases ht
        exact .kept id rfl rfl rfl
      · cases ht
        exact .kept id rfl rfl rfl
      · cases ht
  | destroy =>
      simp only [next] at ht
      split at ht
      · cases ht
        exact .kept (fun _ ↦ .inr rfl) rfl rfl rfl
      · cases ht
        exact .kept (fun _ ↦ .inr rfl) rfl rfl rfl
      · cases ht

/-- After a run the lines are those of the last snapshot that was processed or, as long as there was
none, those that were loaded; nothing is loaded after the constructor. -/
theorem cached_lines_from {s t : PortSignals} {events : List PortSignalsEvent}
    (hrun : run next s events = some t) :
    t.cachedLines = (written next loadedLines s events ++
        written next processedLines s events).getLast?.getD s.cachedLines ∧
      (s.Constructed → written next loadedLines s events = []) := by
  induction events generalizing s with
  | nil =>
      cases hrun
      exact ⟨rfl, fun _ ↦ rfl⟩
  | cons e events ih =>
      obtain ⟨u, hu, hrest⟩ := Transition.run_cons_eq_some.mp hrun
      obtain ⟨hlast, hnone⟩ := ih hrest
      rw [Transition.written_cons hu, Transition.written_cons hu]
      cases lines_move hu with
      | kept hphase hlines hloaded hprocessed =>
          rw [hloaded, hprocessed, ← hlines]
          exact ⟨hlast, fun h ↦ hnone (hphase h)⟩
      | loaded hbefore hafter hlines hprocessed =>
          rw [hnone hafter] at hlast ⊢
          refine ⟨?_, fun h ↦ absurd h hbefore⟩
          rw [hlast, hlines, hprocessed]
          cases s.loadedLines e <;> simp [List.getLast?_cons]
      | processed hafter hloaded hlines =>
          rw [hnone hafter] at hlast ⊢
          rw [hlast, hloaded, hlines]
          exact ⟨by simp [List.getLast?_cons], fun _ ↦ rfl⟩

/-- The lines of `#signalState` after a run: those of the last snapshot that was processed; before
the first one, those that `GET_SIGNALS` returned; and neither line before that. -/
theorem cached_lines_run {portNumber : ULONG} {events : List PortSignalsEvent} {t : PortSignals}
    (hrun : run next (.initial portNumber) events = some t) :
    t.cachedLines = (written next loadedLines (.initial portNumber) events ++
      written next processedLines (.initial portNumber) events).getLast?.getD (false, false) :=
  (cached_lines_from hrun).1

/-! ## Partial calls of `setSignals` -/

/-- What the COM side reads with `GET_MODEMSTATUS`. -/
def modemStatus (pp : PortPair) : ULONG :=
  flagBits [(pp.compDtr, serialDsrState ||| serialDcdState), (pp.compRts, serialCtsState)]

/-- A `setSignals` with one line leaves the other line alone, and what the COM side sees of it. -/
def KeepsOtherLine (s : PortSignals) (e : PortSignalsEvent) (t : PortSignals) : Prop :=
  match e with
  | .setSignals ⟨some _, none⟩ _ =>
      t.pair.compRts = s.pair.compRts ∧
        modemStatus t.pair &&& serialCtsState = modemStatus s.pair &&& serialCtsState
  | .setSignals ⟨none, some _⟩ _ =>
      t.pair.compDtr = s.pair.compDtr ∧
        modemStatus t.pair &&& (serialDsrState ||| serialDcdState) =
          modemStatus s.pair &&& (serialDsrState ||| serialDcdState)
  | _ => True

/-- A `SET_SIGNALS` that the port issues now reaches the driver and is accepted. -/
def Stores (s : PortSignals) (wdf : Wdf) : Prop :=
  s.phase = .ready ∧ s.pair.active = true ∧
    retrieveBuffer wdf s.driver.nextRequest 8 8 = .ok ()

/-- If the step is a `setSignals` with one line that is accepted, the other line is in the driver as
in `#signalState`. -/
def KnowsOtherLine (s : PortSignals) : PortSignalsEvent → Prop
  | .setSignals ⟨some _, none⟩ wdf => s.Stores wdf → s.cachedRts = s.pair.compRts
  | .setSignals ⟨none, some _⟩ wdf => s.Stores wdf → s.cachedDtr = s.pair.compDtr
  | _ => True

/-- `GET_MODEMSTATUS` returns the modem status. -/
theorem modem_status_returned (wdf : Wdf) {pp : PortPair} (req : IoctlRequest)
    (hactive : pp.active = true) :
    gcomComEvtIoctl wdf pp req .getModemStatus =
      getRequest wdf pp req 4 (.ulong (modemStatus pp)) := by
  rw [gcomComEvtIoctl, if_neg (by simp [hactive])]
  rfl

/-- CTS is the companion's RTS. -/
theorem modem_status_cts {pp pp' : PortPair} (h : pp'.compRts = pp.compRts) :
    modemStatus pp' &&& serialCtsState = modemStatus pp &&& serialCtsState := by
  unfold modemStatus
  rw [h]
  cases pp.compDtr <;> cases pp'.compDtr <;> cases pp.compRts <;> rfl

/-- DSR and DCD are the companion's DTR. -/
theorem modem_status_dsr {pp pp' : PortPair} (h : pp'.compDtr = pp.compDtr) :
    modemStatus pp' &&& (serialDsrState ||| serialDcdState) =
      modemStatus pp &&& (serialDsrState ||| serialDcdState) := by
  unfold modemStatus
  rw [h]
  cases pp.compRts <;> cases pp'.compRts <;> cases pp.compDtr <;> rfl

/-- A `setSignals` stores the lines it is given and those in `#signalState`, or it changes
nothing. -/
theorem set_signals_cases {s t : PortSignals} {signals : CompanionSignals} {wdf : Wdf}
    (ht : s.next (.setSignals signals wdf) = some t) :
    (s.Stores wdf ∧ t.pair.compDtr = signals.dtr.getD s.cachedDtr ∧
        t.pair.compRts = signals.rts.getD s.cachedRts) ∨
      (¬s.Stores wdf ∧ t.pair = s.pair) := by
  simp only [next] at ht
  split at ht
  next hready =>
    cases ht
    by_cases hstores : s.Stores wdf
    · refine .inl ⟨hstores, ?_⟩
      obtain ⟨-, hactive, hbuf⟩ := hstores
      have hpair : (s.ioctl 8 0 (.setSignals (boolean (signals.dtr.getD s.cachedDtr))
          (boolean (signals.rts.getD s.cachedRts))) wdf).1.settings =
          { s.pair.settings with
            compDtr := signals.dtr.getD s.cachedDtr
            compRts := signals.rts.getD s.cachedRts } := by
        simp only [ioctl, gcomCompEvtIoctl, hactive, Bool.not_true, Bool.false_eq_true, if_false,
          setRequest, hbuf, set_signals_settings, isTrue_boolean]
      exact ⟨congrArg Settings.compDtr hpair, congrArg Settings.compRts hpair⟩
    · refine .inr ⟨hstores, ?_⟩
      show (gcomCompEvtIoctl wdf s.pair _ _).1 = s.pair
      unfold gcomCompEvtIoctl
      split
      · rfl
      next hactive =>
        cases hbuf : retrieveBuffer wdf s.driver.nextRequest 8 8 with
        | ok => exact absurd ⟨hready, by simpa using hactive, hbuf⟩ hstores
        | error st => simp only [setRequest, hbuf]
  next hdestroyed =>
    cases ht
    refine .inr ⟨fun hstores ↦ ?_, rfl⟩
    rw [hstores.1] at hdestroyed
    cases hdestroyed
  next => cases ht

/-- A step leaves the other line alone exactly when it knows the other line. -/
theorem keeps_other_line_iff {s t : PortSignals} {e : PortSignalsEvent} (ht : s.next e = some t) :
    s.KeepsOtherLine e t ↔ s.KnowsOtherLine e := by
  cases e with
  | setSignals signals wdf =>
      have hcases := set_signals_cases ht
      obtain ⟨dtr, rts⟩ := signals
      cases dtr with
      | none =>
          cases rts with
          | none => exact Iff.rfl
          | some rts =>
              refine Iff.trans (and_iff_left_of_imp modem_status_dsr) ?_
              obtain ⟨hstores, hdtr, -⟩ | ⟨hrefused, hpair⟩ := hcases
              · rw [hdtr]
                exact ⟨fun h _ ↦ h, fun h ↦ h hstores⟩
              · exact iff_of_true (congrArg PortPair.compDtr hpair) fun h ↦ absurd h hrefused
      | some dtr =>
          cases rts with
          | some rts => exact Iff.rfl
          | none =>
              refine Iff.trans (and_iff_left_of_imp modem_status_cts) ?_
              obtain ⟨hstores, -, hrts⟩ | ⟨hrefused, hpair⟩ := hcases
              · rw [hrts]
                exact ⟨fun h _ ↦ h, fun h ↦ h hstores⟩
              · exact iff_of_true (congrArg PortPair.compRts hpair) fun h ↦ absurd h hrefused
  | _ => exact Iff.rfl

end PortSignals

/-- Along a run, every `setSignals` with one line leaves the other line alone exactly when each that
is accepted finds the other line in `#signalState` as it is in the driver. What it finds there is
said by `PortSignals.cached_lines_run`. -/
theorem partial_set_signals_iff (portNumber : ULONG) (events : List PortSignalsEvent) :
    EveryStep PortSignals.next PortSignals.KeepsOtherLine (.initial portNumber) events ↔
      EveryStep PortSignals.next (fun s e _ ↦ s.KnowsOtherLine e) (.initial portNumber) events := by
  refine Transition.everyStep_iff (I := fun _ ↦ True) (fun _ _ _ _ _ _ ↦ trivial) ?_ trivial
  exact fun _ _ _ _ ht ↦ PortSignals.keeps_other_line_iff ht

/-- On a new port, `setSignals({ dtr: false })` followed by `setSignals({ rts: false })` leaves DTR
asserted: the second call fills it in from the state that was loaded before the first. -/
theorem second_call_restores_dtr :
    ¬∀ portNumber events,
      EveryStep PortSignals.next PortSignals.KeepsOtherLine (.initial portNumber) events := by
  intro h
  let prior : List PortSignalsEvent :=
    [.onSignalChange, .getSignals ⟨0, 0⟩ .ok, .setSignals ⟨some false, none⟩ .ok]
  have hall := h 10 (prior ++ [.setSignals ⟨none, some false⟩ .ok])
  have hkeeps := EveryStep.at_prefix hall rfl rfl
  exact Bool.noConfusion hkeeps.1

end GhostCom
