import GhostCom.DataPath.Callbacks
import GhostCom.Library.Register

/-!
# Serial settings

The fields that the COM side's requests and `SET_SIGNALS` set, as registers of a history of
successful events. Which event writes which field is said once for each field; `call_settings` says
that a callback writes exactly that if it succeeds and nothing if it fails.
-/

namespace GhostCom

open Register (latest)

/-! ## Who writes what -/

namespace PairEvent

/-- The writes of `BaudRate`. -/
def baudRate : PairEvent → Option ULONG
  | .comIoctl _ _ (.setBaudRate baudRate) _ => some baudRate
  | _ => none

/-- The writes of stop bits, parity and data bits. -/
def lineControl : PairEvent → Option SerialLineControl
  | .comIoctl _ _ (.setLineControl lc) _ => some lc
  | _ => none

/-- The writes of the timeouts. -/
def timeouts : PairEvent → Option SerialTimeouts
  | .comIoctl _ _ (.setTimeouts timeouts) _ => some timeouts
  | .data (.setTimeouts _ timeouts _) => some timeouts
  | _ => none

/-- The writes of the handshake fields. -/
def handflow : PairEvent → Option SerialHandflow
  | .comIoctl _ _ (.setHandflow hf) _ => some hf
  | _ => none

/-- The writes of the special characters. -/
def chars : PairEvent → Option SerialChars
  | .comIoctl _ _ (.setChars ch) _ => some ch
  | _ => none

/-- The writes of the wait mask. -/
def waitMask : PairEvent → Option ULONG
  | .comIoctl _ _ (.setWaitMask mask) _ => some mask
  | _ => none

/-- The writes of the COM side's DTR. -/
def dtr : PairEvent → Option Bool
  | .comIoctl _ _ .setDtr _ => some true
  | .comIoctl _ _ .clrDtr _ => some false
  | .comIoctl _ _ (.setModemControl mcr) _ => some (isTrue (mcr &&& serialMcrDtr))
  | _ => none

/-- The writes of the COM side's RTS. -/
def rts : PairEvent → Option Bool
  | .comIoctl _ _ .setRts _ => some true
  | .comIoctl _ _ .clrRts _ => some false
  | .comIoctl _ _ (.setModemControl mcr) _ => some (isTrue (mcr &&& serialMcrRts))
  | _ => none

/-- The writes of the break state. -/
def breakOn : PairEvent → Option Bool
  | .comIoctl _ _ .setBreakOn _ => some true
  | .comIoctl _ _ .setBreakOff _ => some false
  | _ => none

/-- The writes of the companion's DTR. -/
def compDtr : PairEvent → Option Bool
  | .compIoctl _ _ (.setSignals dtrState _) _ => some (isTrue dtrState)
  | _ => none

/-- The writes of the companion's RTS. -/
def compRts : PairEvent → Option Bool
  | .compIoctl _ _ (.setSignals _ rtsState) _ => some (isTrue rtsState)
  | _ => none

/-- The operations that announce a change when they succeed. -/
def notifies : PairEvent → Bool
  | .comIoctl _ _ ioctl _ =>
      match ioctl with
      | .setBaudRate _ | .setLineControl _ | .setDtr | .clrDtr | .setRts | .clrRts | .setBreakOn
      | .setBreakOff | .setHandflow _ | .setChars _ | .setWaitMask _ | .setModemControl _ => true
      | _ => false
  | .comOpen _ | .comClose _ => true
  | _ => false

end PairEvent

/-- The effect completes the request with success. -/
def Effect.succeeds (id : RequestId) : Effect → Bool
  | .completed id' .success _ _ => id' = id
  | _ => false

/-- The callback completes its own request with success. A close has no request that could fail; it
counts while the pair is there. -/
def PairEvent.succeeds (id : RequestId) (pp : PortPair) : PairEvent → Bool
  | .comClose _ => pp.active
  | e => (e.call id pp).2.any (Effect.succeeds id)

/-! ## Settings -/

/-- The settings of a pair. -/
structure Settings where
  signalState : SignalState
  timeouts : SerialTimeouts
  compDtr : Bool
  compRts : Bool
deriving DecidableEq, Repr

/-- The settings of a pair. -/
def PortPair.settings (pp : PortPair) : Settings where
  signalState := pp.signalState
  timeouts := pp.timeouts
  compDtr := pp.compDtr
  compRts := pp.compRts

/-- The settings that a history of successful events leaves: every field has what was written last,
or the default of a new pair. -/
def settingsOf (history : List PairEvent) : Settings where
  signalState :=
    { sequenceNumber := BitVec.ofNat 32 (history.countP PairEvent.notifies)
      changedMask := 0
      baudRate := latest PairEvent.baudRate 9600 history
      stopBits := (latest PairEvent.lineControl ⟨0, 0, 8⟩ history).stopBits
      parity := (latest PairEvent.lineControl ⟨0, 0, 8⟩ history).parity
      dataBits := (latest PairEvent.lineControl ⟨0, 0, 8⟩ history).wordLength
      dtrState := boolean (latest PairEvent.dtr false history)
      rtsState := boolean (latest PairEvent.rts false history)
      breakState := boolean (latest PairEvent.breakOn false history)
      controlHandShake := (latest PairEvent.handflow ⟨0, 0, 0, 0⟩ history).controlHandShake
      flowReplace := (latest PairEvent.handflow ⟨0, 0, 0, 0⟩ history).flowReplace
      xonLimit := (latest PairEvent.handflow ⟨0, 0, 0, 0⟩ history).xonLimit
      xoffLimit := (latest PairEvent.handflow ⟨0, 0, 0, 0⟩ history).xoffLimit
      eofChar := (latest PairEvent.chars ⟨0, 0, 0, 0, 0, 0⟩ history).eofChar
      errorChar := (latest PairEvent.chars ⟨0, 0, 0, 0, 0, 0⟩ history).errorChar
      breakChar := (latest PairEvent.chars ⟨0, 0, 0, 0, 0, 0⟩ history).breakChar
      eventChar := (latest PairEvent.chars ⟨0, 0, 0, 0, 0, 0⟩ history).eventChar
      xonChar := (latest PairEvent.chars ⟨0, 0, 0, 0, 0, 0⟩ history).xonChar
      xoffChar := (latest PairEvent.chars ⟨0, 0, 0, 0, 0, 0⟩ history).xoffChar
      waitMask := latest PairEvent.waitMask 0 history }
  timeouts := latest PairEvent.timeouts ⟨0, 0, 0, 0, 0⟩ history
  compDtr := latest PairEvent.compDtr true history
  compRts := latest PairEvent.compRts true history

/-- What an event that succeeds does to the settings. -/
def PairEvent.applyTo (e : PairEvent) (s : Settings) : Settings where
  signalState :=
    let state := s.signalState
    { sequenceNumber := if e.notifies then state.sequenceNumber + 1 else state.sequenceNumber
      changedMask := state.changedMask
      baudRate := e.baudRate.getD state.baudRate
      stopBits := (e.lineControl.map (·.stopBits)).getD state.stopBits
      parity := (e.lineControl.map (·.parity)).getD state.parity
      dataBits := (e.lineControl.map (·.wordLength)).getD state.dataBits
      dtrState := (e.dtr.map boolean).getD state.dtrState
      rtsState := (e.rts.map boolean).getD state.rtsState
      breakState := (e.breakOn.map boolean).getD state.breakState
      controlHandShake := (e.handflow.map (·.controlHandShake)).getD state.controlHandShake
      flowReplace := (e.handflow.map (·.flowReplace)).getD state.flowReplace
      xonLimit := (e.handflow.map (·.xonLimit)).getD state.xonLimit
      xoffLimit := (e.handflow.map (·.xoffLimit)).getD state.xoffLimit
      eofChar := (e.chars.map (·.eofChar)).getD state.eofChar
      errorChar := (e.chars.map (·.errorChar)).getD state.errorChar
      breakChar := (e.chars.map (·.breakChar)).getD state.breakChar
      eventChar := (e.chars.map (·.eventChar)).getD state.eventChar
      xonChar := (e.chars.map (·.xonChar)).getD state.xonChar
      xoffChar := (e.chars.map (·.xoffChar)).getD state.xoffChar
      waitMask := e.waitMask.getD state.waitMask }
  timeouts := e.timeouts.getD s.timeouts
  compDtr := e.compDtr.getD s.compDtr
  compRts := e.compRts.getD s.compRts

/-- What a COM-side query is to return after a history. -/
def comAnswer (history : List PairEvent) : ComIoctl → Option Output
  | .getBaudRate => some (.baudRate (latest PairEvent.baudRate 9600 history))
  | .getLineControl => some (.lineControl (latest PairEvent.lineControl ⟨0, 0, 8⟩ history))
  | .getTimeouts => some (.timeouts (latest PairEvent.timeouts ⟨0, 0, 0, 0, 0⟩ history))
  | .getHandflow => some (.handflow (latest PairEvent.handflow ⟨0, 0, 0, 0⟩ history))
  | .getChars => some (.chars (latest PairEvent.chars ⟨0, 0, 0, 0, 0, 0⟩ history))
  | .getWaitMask => some (.ulong (latest PairEvent.waitMask 0 history))
  | .getDtrRts =>
      some (.ulong (flagBits [(latest PairEvent.dtr false history, serialDtrState),
        (latest PairEvent.rts false history, serialRtsState)]))
  | .getModemControl =>
      some (.ulong (flagBits [(latest PairEvent.dtr false history, serialMcrDtr),
        (latest PairEvent.rts false history, serialMcrRts)]))
  | .getModemStatus =>
      some (.ulong (flagBits
        [(latest PairEvent.compDtr true history, serialDsrState ||| serialDcdState),
          (latest PairEvent.compRts true history, serialCtsState)]))
  | _ => none

/-- What `GET_SIGNALS` is to return: the COM side's fields, with the companion's own lines. -/
def signalsAnswer (history : List PairEvent) : Output :=
  .signals
    { (settingsOf history).signalState with
      dtrState := boolean (latest PairEvent.compDtr true history)
      rtsState := boolean (latest PairEvent.compRts true history) }

/-- A pair with the history of the events that have succeeded. -/
structure SettingsRun where
  path : DataPath
  history : List PairEvent

namespace SettingsRun

/-- A new pair. -/
def start (portNumber : ULONG) : SettingsRun := ⟨.initial portNumber, []⟩

/-- One event. -/
def step (s : SettingsRun) (e : PairEvent) : SettingsRun where
  path := s.path.pairStep e
  history :=
    if e.succeeds s.path.nextRequest s.path.pair then s.history ++ [e] else s.history

/-- A run of events. -/
def run (s : SettingsRun) (events : List PairEvent) : SettingsRun := events.foldl step s

end SettingsRun

/-! ## What callbacks write -/

/-- A history that is one event longer. -/
theorem settings_of_concat (history : List PairEvent) (e : PairEvent) :
    settingsOf (history ++ [e]) = e.applyTo (settingsOf history) := by
  have hcount : BitVec.ofNat 32 ((history ++ [e]).countP PairEvent.notifies) =
      if e.notifies then BitVec.ofNat 32 (history.countP PairEvent.notifies) + 1
      else BitVec.ofNat 32 (history.countP PairEvent.notifies) := by
    rw [List.countP_append, List.countP_singleton]
    split
    · exact BitVec.ofNat_add ..
    · rfl
  simp only [settingsOf, PairEvent.applyTo, Register.latest_concat, hcount, Settings.mk.injEq,
    SignalState.mk.injEq, true_and, and_true]
  refine ⟨?_, ?_, ?_, ?_, ?_, ?_, ?_, ?_, ?_, ?_, ?_, ?_, ?_, ?_, ?_, ?_⟩
  all_goals exact Register.apply_getD _ _ _

variable {wdf : Wdf} {pp : PortPair} {id : RequestId} {req : IoctlRequest} {e : PairEvent}

@[simp] theorem settings_withLane (d : Direction) (lane : Lane) :
    (pp.withLane d lane).settings = pp.settings := by
  cases d <;> rfl

@[simp] theorem check_wait_mask_settings (wdf : Wdf) (pp : PortPair) (events : ULONG) :
    (gcomCheckWaitMask wdf pp events).1.settings = pp.settings := by
  obtain ⟨waits, h⟩ := check_wait_mask_pair wdf pp events
  rw [h]
  rfl

/-- A signal change counts, and clears the mask it has delivered. -/
theorem signal_changed_settings (wdf : Wdf) (pp : PortPair) (changedBits : ULONG)
    (hactive : pp.active = true) :
    (gcomSignalChanged wdf pp changedBits).1.settings =
      { pp.settings with
        signalState :=
          { pp.signalState with
            sequenceNumber := pp.signalState.sequenceNumber + 1
            changedMask := 0 } } := by
  have hclear (mask : ULONG) : mask &&& ~~~mask = 0 := BitVec.and_not_self mask
  unfold gcomSignalChanged
  rw [if_neg (by simp [hactive])]
  simp only [PortPair.settings, signalUpdate, signalClear, hclear]

/-- The event has succeeded and written its fields, or it has failed and written none. -/
def Serves (e : PairEvent) (id : RequestId) (pp : PortPair) (result : PortPair × List Effect) :
    Prop :=
  result.1.settings =
    if result.2.any (Effect.succeeds id) then e.applyTo pp.settings else pp.settings

/-- An event that writes nothing, whether it succeeds or not. -/
theorem serves_quiet {result : PortPair × List Effect} (he : e.applyTo pp.settings = pp.settings)
    (h : result.1.settings = pp.settings) : Serves e id pp result := by
  rw [Serves, he, ite_self]
  exact h

/-- A completion with an error is no success. -/
theorem not_succeeds_error (st : ErrorStatus) (information : ℕ) (output : Output) :
    (Effect.completed id st information output).succeeds id = false := by
  obtain ⟨st, hst⟩ := st
  cases st with
  | success => exact absurd rfl hst
  | _ => rfl

/-- A request that is refused writes nothing. -/
theorem serves_refused (st : ErrorStatus) (information : ℕ) (output : Output) :
    Serves e id pp (pp, [.completed id st information output]) := by
  rw [Serves, List.any_cons, not_succeeds_error, List.any_nil]
  rfl

/-- A request whose callback ends with its completion has succeeded. -/
theorem any_succeeds (out : List Effect) (information : ℕ) (output : Output) :
    (out ++ [Effect.completed id .success information output]).any (Effect.succeeds id) = true := by
  have h : (Effect.completed id .success information output).succeeds id = true :=
    decide_eq_true rfl
  rw [List.any_append, List.any_cons, h, Bool.true_or, Bool.or_true]

/-- A code with an input structure writes what its body does, if the input can be read. -/
theorem set_request_serves {size : ℕ} {body : PortPair × List Effect}
    (h : body.1.settings = e.applyTo pp.settings) :
    Serves e req.id pp (setRequest wdf pp req size body) := by
  unfold setRequest Serves
  cases retrieveBuffer wdf req.id size req.inputLength with
  | ok =>
      show body.1.settings = if _ then _ else _
      rw [complete, any_succeeds, if_pos rfl, h]
  | error st => exact serves_refused st _ _

/-- A change that is announced, when nothing was left unannounced. -/
theorem notify_settings {state : SignalState} {changedBits : ULONG} (hactive : pp.active = true)
    (hmask : pp.signalState.changedMask = 0) :
    (notify wdf pp state changedBits).1.settings =
      { pp.settings with
        signalState :=
          { state with
            sequenceNumber := state.sequenceNumber + 1
            changedMask := pp.signalState.changedMask } } := by
  have h := signal_changed_settings wdf { pp with signalState := state } changedBits hactive
  rw [notify, h, hmask]
  rfl

/-- A code without input announces its change and succeeds. -/
theorem notify_request_serves {state : SignalState} {changedBits : ULONG}
    (h : (notify wdf pp state changedBits).1.settings = e.applyTo pp.settings) :
    Serves e req.id pp (notifyRequest wdf pp req state changedBits) := by
  rw [Serves, notifyRequest, complete, any_succeeds, if_pos rfl]
  exact h

/-- A purge writes no setting. -/
theorem purge_settings (pp : PortPair) (flags : ULONG) :
    (purge pp flags).1.settings = pp.settings := by
  have hqueue (pp : PortPair) (d : Direction) : (purgeQueue pp d).1.settings = pp.settings := by
    cases d <;> exact settings_withLane ..
  have hflush (pp : PortPair) (tx rx : Bool) : (flushRings pp tx rx).settings = pp.settings := by
    unfold flushRings flushRing
    cases tx <;> cases rx <;> simp
  unfold purge
  dsimp only
  rw [hflush]
  split <;> split <;> simp [hqueue]

/-- The byte of `IMMEDIATE_CHAR` writes no setting. -/
theorem immediate_char_settings (wdf : Wdf) (pp : PortPair) (req : IoctlRequest) (ch : UCHAR) :
    (immediateChar wdf pp req ch).1.settings = pp.settings := by
  unfold immediateChar
  exact settings_withLane ..

/-- A wait that is pended, or refused, writes no setting. -/
theorem wait_on_mask_settings (wdf : Wdf) (pp : PortPair) (req : IoctlRequest) :
    (waitOnMask wdf pp req).1.settings = pp.settings := by
  unfold waitOnMask
  split <;> rfl

/-- A query writes nothing. -/
theorem get_request_settings (size : ℕ) (output : Output) :
    (getRequest wdf pp req size output).1.settings = pp.settings := by
  unfold getRequest
  split <;> rfl

/-- An IOCTL of the COM side writes the fields it names if it succeeds, and nothing if it fails. -/
theorem com_ioctl_serves (inputLength outputLength : ℕ) (ioctl : ComIoctl)
    (hmask : pp.signalState.changedMask = 0) :
    Serves (.comIoctl inputLength outputLength ioctl wdf) id pp
      (gcomComEvtIoctl wdf pp ⟨id, inputLength, outputLength⟩ ioctl) := by
  unfold gcomComEvtIoctl
  split
  · exact serves_refused ⟨.deviceNotConnected, by decide⟩ _ _
  next hactive =>
  replace hactive : pp.active = true := by simpa using hactive
  cases ioctl with
  | setBaudRate | setLineControl | setHandflow | setChars | setModemControl =>
      exact set_request_serves (notify_settings hactive hmask)
  | setDtr | clrDtr | setRts | clrRts | setBreakOff =>
      exact notify_request_serves (notify_settings hactive hmask)
  | setBreakOn =>
      show Serves _ _ _ (setBreakOn wdf pp _)
      rw [Serves, setBreakOn, complete, any_succeeds, if_pos rfl]
      exact (check_wait_mask_settings ..).trans (notify_settings hactive hmask)
  | setTimeouts timeouts => exact set_request_serves rfl
  | setWaitMask mask =>
      -- the purge of the waits is no change of the settings
      have hpurged : ({ pp with waitMaskQueue := [] } : PortPair).active = true := hactive
      exact set_request_serves (notify_settings hpurged hmask)
  | getBaudRate | getLineControl | getTimeouts | getHandflow | getChars | getWaitMask
  | getModemStatus | getCommStatus | getProperties | getDtrRts | getStats | configSize
  | getModemControl => exact serves_quiet rfl (get_request_settings ..)
  | setQueueSize | clearStats | noOp | unknown => exact serves_quiet rfl rfl
  | waitOnMask => exact serves_quiet rfl (wait_on_mask_settings ..)
  | purge flags => exact set_request_serves (purge_settings ..)
  | immediateChar ch => exact set_request_serves (immediate_char_settings ..)

/-- `SET_SIGNALS` stores the companion's lines and raises comm events. -/
theorem set_signals_settings (wdf : Wdf) (pp : PortPair) (dtrState rtsState : ULONG) :
    (setSignals wdf pp dtrState rtsState).1.settings =
      { pp.settings with compDtr := isTrue dtrState, compRts := isTrue rtsState } := by
  unfold setSignals
  dsimp only
  split
  · exact check_wait_mask_settings ..
  · rfl

/-- An IOCTL of the companion side writes its lines if it is a `SET_SIGNALS` that succeeds. -/
theorem comp_ioctl_serves {inputLength outputLength : ℕ} (ioctl : CompIoctl) :
    Serves (.compIoctl inputLength outputLength ioctl wdf) id pp
      (gcomCompEvtIoctl wdf pp ⟨id, inputLength, outputLength⟩ ioctl) := by
  unfold gcomCompEvtIoctl
  split
  · exact serves_refused ⟨.deviceNotConnected, by decide⟩ _ _
  cases ioctl with
  | setSignals dtrState rtsState => exact set_request_serves (set_signals_settings ..)
  | getSignals => exact serves_quiet rfl (get_request_settings ..)
  | unknown => exact serves_quiet rfl rfl
  | waitSignalChange =>
      refine serves_quiet rfl ?_
      show (waitSignalChange wdf pp _).1.settings = _
      unfold waitSignalChange
      split <;> rfl

/-- The data path writes no setting but the timeouts. -/
theorem data_serves (e : DataEvent) (hmask : pp.signalState.changedMask = 0) :
    Serves (.data e) id pp (e.call id pp) := by
  cases e with
  | setTimeouts inputLength timeouts wdf =>
      exact com_ioctl_serves inputLength 0 (.setTimeouts timeouts) hmask
  | cancel request =>
      refine serves_quiet rfl ?_
      show (pp.cancel request).1.settings = _
      simp [PortPair.cancel]
  | comRead length wdf =>
      refine serves_quiet rfl ?_
      show (gcomComEvtRead wdf pp _).1.settings = _
      unfold gcomComEvtRead
      split
      · rfl
      · exact settings_withLane ..
  | compRead length wdf =>
      refine serves_quiet rfl ?_
      show (gcomCompEvtRead wdf pp _).1.settings = _
      unfold gcomCompEvtRead
      split
      · rfl
      · exact settings_withLane ..
  | comWrite data fits wdf =>
      refine serves_quiet rfl ?_
      show (gcomComEvtWrite wdf pp _).1.settings = _
      unfold gcomComEvtWrite
      split
      · rfl
      dsimp only
      split
      · exact (check_wait_mask_settings ..).trans (settings_withLane ..)
      · exact settings_withLane ..
  | compWrite data fits wdf =>
      refine serves_quiet rfl ?_
      show (gcomCompEvtWrite wdf pp _).1.settings = _
      unfold gcomCompEvtWrite
      split
      · rfl
      dsimp only
      split
      · exact (check_wait_mask_settings ..).trans (settings_withLane ..)
      · exact settings_withLane ..

/-- An open of the COM side is announced if it is accepted. -/
theorem com_open_serves (hmask : pp.signalState.changedMask = 0) :
    Serves (.comOpen wdf) id pp
      ((gcomComEvtFileCreate wdf pp id).pp, (gcomComEvtFileCreate wdf pp id).effects) := by
  unfold gcomComEvtFileCreate
  split
  · exact serves_refused ⟨.deviceNotConnected, by decide⟩ _ _
  next hactive =>
  split
  · exact serves_refused ⟨.sharingViolation, by decide⟩ _ _
  replace hactive : pp.active = true := by simpa using hactive
  have hopened : (gcomPortPairAddRef { pp with comSideOpen := 1 }).active = true := hactive
  rw [Serves, any_succeeds, if_pos rfl]
  refine (signal_changed_settings wdf _ changedComOpen hopened).trans ?_
  rw [← hmask]
  rfl

/-- A close of the COM side is announced while the pair is there. -/
theorem com_close_settings (hmask : pp.signalState.changedMask = 0) :
    (gcomComEvtFileClose wdf pp).pp.settings =
      if pp.active then (PairEvent.comClose wdf).applyTo pp.settings else pp.settings := by
  unfold gcomComEvtFileClose
  dsimp only
  by_cases hactive : pp.active = true
  · rw [if_pos hactive, if_pos hactive]
    refine (signal_changed_settings wdf { pp with comSideOpen := 0 } changedComClose
      hactive).trans ?_
    rw [← hmask]
    rfl
  · rw [if_neg hactive, if_neg hactive]
    rfl

theorem comp_open_settings : (gcomCompEvtFileCreate pp id).pp.settings = pp.settings := by
  unfold gcomCompEvtFileCreate
  split
  · rfl
  · split <;> rfl

theorem comp_close_settings : (gcomCompEvtFileClose pp).pp.settings = pp.settings := by
  unfold gcomCompEvtFileClose
  dsimp only
  split <;> rfl

/-- A callback writes the fields its event names if it succeeds, and nothing if it fails. -/
theorem call_settings (e : PairEvent) (hmask : pp.signalState.changedMask = 0) :
    (e.call id pp).1.settings =
      if e.succeeds id pp then e.applyTo pp.settings else pp.settings := by
  cases e with
  | data e => exact data_serves e hmask
  | comIoctl inputLength outputLength ioctl wdf => exact com_ioctl_serves _ _ ioctl hmask
  | compIoctl inputLength outputLength ioctl wdf => exact comp_ioctl_serves ioctl
  | comOpen wdf => exact com_open_serves hmask
  | comClose wdf => exact com_close_settings hmask
  | compOpen => exact serves_quiet rfl comp_open_settings
  | compClose =>
      have hserves : Serves .compClose id pp
          ((gcomCompEvtFileClose pp).pp, (gcomCompEvtFileClose pp).effects) :=
        serves_quiet rfl comp_close_settings
      exact hserves
  | cancelWait request => exact serves_quiet rfl rfl
  | teardown => exact serves_quiet rfl rfl

/-! ## What queries return -/

/-- A query that succeeds returns its output. -/
theorem get_request_output {size information : ℕ} {output output' : Output}
    (h : .completed id .success information output' ∈ (getRequest wdf pp req size output).2) :
    output' = output := by
  unfold getRequest at h
  split at h
  · cases List.mem_singleton.mp h
    rfl
  · next st _ =>
      obtain ⟨st, hst⟩ := st
      cases List.mem_singleton.mp h
      exact absurd rfl hst

/-- A query of the COM side that succeeds returns what the history says. -/
theorem com_query_answer {history : List PairEvent} (hpp : pp.settings = settingsOf history)
    {ioctl : ComIoctl} {expected output : Output} {information : ℕ}
    (hexpected : comAnswer history ioctl = some expected)
    (h : .completed id .success information output ∈ (gcomComEvtIoctl wdf pp req ioctl).2) :
    output = expected := by
  have hstate : pp.signalState = (settingsOf history).signalState :=
    congrArg Settings.signalState hpp
  have htimeouts : pp.timeouts = (settingsOf history).timeouts := congrArg Settings.timeouts hpp
  have hcompDtr : pp.compDtr = (settingsOf history).compDtr := congrArg Settings.compDtr hpp
  have hcompRts : pp.compRts = (settingsOf history).compRts := congrArg Settings.compRts hpp
  unfold gcomComEvtIoctl at h
  split at h
  · cases List.mem_singleton.mp h
  cases ioctl <;> cases hexpected
  all_goals
    refine (get_request_output h).trans ?_
    simp only [hstate, htimeouts, hcompDtr, hcompRts, settingsOf, isTrue_boolean]

/-- `GET_SIGNALS` returns what the history says, if it succeeds. -/
theorem signals_query_answer {history : List PairEvent} (hpp : pp.settings = settingsOf history)
    {output : Output} {information : ℕ}
    (h : .completed id .success information output ∈ (gcomCompEvtIoctl wdf pp req .getSignals).2) :
    output = signalsAnswer history := by
  unfold gcomCompEvtIoctl at h
  split at h
  · cases List.mem_singleton.mp h
  refine (get_request_output h).trans ?_
  show Output.signals { pp.settings.signalState with
    dtrState := boolean pp.settings.compDtr
    rtsState := boolean pp.settings.compRts } = _
  rw [hpp]
  rfl

/-! ## Runs -/

namespace SettingsRun

/-- The settings of the pair are those the history leaves. -/
def Current (s : SettingsRun) : Prop := s.path.pair.settings = settingsOf s.history

theorem start_current (portNumber : ULONG) : (start portNumber).Current := rfl

/-- One event keeps them so. -/
theorem Current.step {s : SettingsRun} (h : s.Current) (e : PairEvent) : (s.step e).Current := by
  have hmask : s.path.pair.signalState.changedMask = 0 :=
    congrArg (·.signalState.changedMask) h
  show (e.call s.path.nextRequest s.path.pair).1.settings = settingsOf (if _ then _ else _)
  rw [call_settings e hmask]
  split
  · rw [settings_of_concat, ← h]
  · exact h

/-- And so does a run. -/
theorem Current.run {s : SettingsRun} (h : s.Current) (events : List PairEvent) :
    (s.run events).Current := by
  induction events generalizing s with
  | nil => exact h
  | cons e events ih => exact ih (h.step e)

end SettingsRun

/-- Settings are read as they were written. After any events, every query that succeeds returns what
the latest successful request has written, or the default of a new pair; the sequence number is the
number of the successful operations that announce a change, modulo `2 ^ 32`; and an event that fails
changes no setting. -/
theorem settings_read_your_writes (portNumber : ULONG) (events : List PairEvent) :
    let s := (SettingsRun.start portNumber).run events
    (∀ inputLength outputLength wdf ioctl expected, comAnswer s.history ioctl = some expected →
        ∀ information output, .completed s.path.nextRequest .success information output ∈
            (gcomComEvtIoctl wdf s.path.pair ⟨s.path.nextRequest, inputLength, outputLength⟩
              ioctl).2 →
          output = expected) ∧
      (∀ inputLength outputLength wdf information output,
        .completed s.path.nextRequest .success information output ∈
            (gcomCompEvtIoctl wdf s.path.pair ⟨s.path.nextRequest, inputLength, outputLength⟩
              .getSignals).2 →
          output = signalsAnswer s.history) ∧
      s.path.pair.signalState.sequenceNumber =
        BitVec.ofNat 32 (s.history.countP PairEvent.notifies) ∧
      ∀ e : PairEvent, e.succeeds s.path.nextRequest s.path.pair = false →
        (e.call s.path.nextRequest s.path.pair).1.settings = s.path.pair.settings := by
  intro s
  have hcurrent : s.Current := (SettingsRun.start_current portNumber).run events
  refine ⟨?_, ?_, congrArg (·.signalState.sequenceNumber) hcurrent, ?_⟩
  · intro _ _ _ _ _ hexpected _ _ h
    exact com_query_answer hcurrent hexpected h
  · intro _ _ _ _ _ h
    exact signals_query_answer hcurrent h
  · intro e hfails
    have hmask : s.path.pair.signalState.changedMask = 0 :=
      congrArg (·.signalState.changedMask) hcurrent
    rw [call_settings e hmask, hfails]
    rfl

end GhostCom
