import GhostCom.PortTable.Children

/-!
# Shadow devices

The devices in the Ports class that the framework makes for the child descriptions, at any time
after they have been reported and with `GcomEvtChildListCreateDevice`, and the `PortName` values in
their registry keys, which the driver writes when it makes a device and when it is first asked for
its identifiers. The key of a device is found by its identifiers and outlives it. The class
installer of the Ports class is not part of the driver: it is a parameter, and `TakesOver` is what
the driver relies on.
-/

namespace GhostCom

/-- `GCOM_PDO_CTX`. -/
structure PdoContext where
  portNumber : ULONG
  portNameWritten : Bool
deriving DecidableEq, Repr

/-- A device for a child description: its identifiers and texts, whether it has the preprocess
callback and the interface of a COM port, its capabilities and its context. -/
structure Pdo extends PdoContext where
  deviceId : List Char
  hardwareIds : List (List Char)
  compatibleIds : List (List Char)
  instanceId : List Char
  deviceText : List Char
  location : List Char
  preprocessed : Bool
  comPortInterface : Bool
  address : ULONG
  uiNumber : ULONG
deriving DecidableEq, Repr

/-- What the registry key of a device is found by. -/
abbrev DeviceKey := List Char × List Char

/-- The key of a device. -/
def Pdo.key (pdo : Pdo) : DeviceKey := (pdo.deviceId, pdo.instanceId)

/-- The `PortName` values in the keys of devices. -/
abbrev PortNames := DeviceKey → Option (List Char)

/-- Set the value of a key. -/
def PortNames.set (names : PortNames) (key : DeviceKey) (name : List Char) : PortNames :=
  Function.update names key (some name)

/-- The outcomes of making a device. -/
structure PdoOutcomes where
  assignDeviceId : Outcome
  addHardwareId : Outcome
  addCompatibleId : Outcome
  assignInstanceId : Outcome
  addDeviceText : Outcome
  assignSddl : Outcome
  assignPreprocess : Outcome
  deviceCreate : Outcome
  createInterface : Outcome
  openKey : Bool
  setPortName : Bool

/-- `GCOM\COMPort`, which the function assigns three times. -/
def comPortId : List Char := "GCOM\\COMPort".toList

/-- `GcomEvtChildListCreateDevice`. -/
def gcomEvtChildListCreateDevice (names : PortNames) (o : PdoOutcomes) (portNumber : ULONG) :
    Except ErrorStatus (Pdo × PortNames) := do
  let deviceId := comPortId
  o.assignDeviceId
  let hwId := comPortId
  o.addHardwareId
  let compatId := comPortId
  let instBuf := rtlStringCbPrintf 16 (numberedName [] portNumber.toNat)
  o.assignInstanceId
  let descBuf := rtlStringCbPrintf 80
    (numberedName "GhostCOM Virtual Serial Port (COM".toList portNumber.toNat ++ [')'])
  o.addDeviceText
  o.assignSddl
  o.deviceCreate
  let pdo : Pdo :=
    { portNumber
      portNameWritten := false
      deviceId
      hardwareIds := [hwId]
      compatibleIds := if o.addCompatibleId.isOk then [compatId] else []
      instanceId := instBuf
      deviceText := descBuf
      location := "GhostCOM".toList
      preprocessed := o.assignPreprocess.isOk
      comPortInterface := o.createInterface.isOk
      address := portNumber
      uiNumber := portNumber }
  let portNameBuf := rtlStringCbPrintf 16 (numberedName "COM".toList portNumber.toNat)
  pure (pdo, if o.openKey && o.setPortName then names.set pdo.key portNameBuf else names)

/-- The outcomes of a query: whether the key of the device can be opened and written. -/
structure QueryIdOutcomes where
  openKey : Bool
  setValue : Bool

/-- The part of `GcomPdoPnpPreprocessIrp` for `IRP_MN_QUERY_ID`: the name is written if it has not
been, and if it fits the buffer. -/
def gcomPdoPnpPreprocessIrp (pdo : Pdo) (names : PortNames) (o : QueryIdOutcomes) :
    Pdo × PortNames :=
  let text := numberedName "COM".toList pdo.portNumber.toNat
  if !pdo.portNameWritten && o.openKey && decide (text.length < 16) && o.setValue then
    ({ pdo with portNameWritten := true }, names.set pdo.key (rtlStringCbPrintf 16 text))
  else (pdo, names)

/-- The class installer: given the name that it would choose, what it makes of the values when it
installs the device with a key. -/
abbrev ClassInstaller := List Char → DeviceKey → PortNames → PortNames

/-- The class installer takes over a name that is there, and changes the value of no other device.
-/
structure ClassInstaller.TakesOver (install : ClassInstaller) : Prop where
  kept : ∀ choice key names, names key ≠ none → install choice key names key = names key
  others : ∀ choice key names other, other ≠ key → install choice key names other = names other

/-- The bus: the driver's global state, the devices that there are for child descriptions, and the
values in the keys of such devices. -/
structure Bus extends Machine where
  pdos : ULONG → Option Pdo
  portNames : PortNames

/-- What happens on the bus: something happens to the driver; the framework makes a device; a device
is asked for its identifiers; a device is removed; the class installer installs a device, for which
it would choose a name. -/
inductive BusEvent where
  | control (event : ControlEvent)
  | createDevice (n : ULONG) (o : PdoOutcomes)
  | queryId (n : ULONG) (o : QueryIdOutcomes)
  | removeDevice (n : ULONG)
  | installPort (n : ULONG) (choice : List Char)

namespace Bus

/-- No device has ever been made. -/
def initial : Bus where
  toMachine := .initial
  pdos _ := none
  portNames _ := none

/-- The framework makes a device for a child description that has none. -/
def createDevice (s : Bus) (n : ULONG) (o : PdoOutcomes) : Bus :=
  if n ∈ s.children ∧ s.pdos n = none then
    match gcomEvtChildListCreateDevice s.portNames o n with
    | .error _ => s
    | .ok (pdo, names) => { s with pdos := Function.update s.pdos n (some pdo), portNames := names }
  else s

/-- A device that has the callback is asked for its identifiers. -/
def queryId (s : Bus) (n : ULONG) (o : QueryIdOutcomes) : Bus :=
  match s.pdos n with
  | none => s
  | some pdo =>
      if pdo.preprocessed then
        let (pdo, names) := gcomPdoPnpPreprocessIrp pdo s.portNames o
        { s with pdos := Function.update s.pdos n (some pdo), portNames := names }
      else s

variable (install : ClassInstaller)

/-- The class installer installs a device. -/
def installPort (s : Bus) (n : ULONG) (choice : List Char) : Bus :=
  match s.pdos n with
  | none => s
  | some pdo => { s with portNames := install choice pdo.key s.portNames }

/-- The state after an event. -/
def next (s : Bus) : BusEvent → Bus
  | .control event => { s with toMachine := s.toMachine.serve event }
  | .createDevice n o => s.createDevice n o
  | .queryId n o => s.queryId n o
  | .removeDevice n => { s with pdos := Function.update s.pdos n none }
  | .installPort n choice => s.installPort install n choice

/-- The driver writes the name of the device for a number: it makes the device, or the device is
asked for its identifiers and its flag is not set. -/
def Writes (s : Bus) (n : ULONG) : BusEvent → Prop
  | .createDevice n' o =>
      n' = n ∧ n ∈ s.children ∧ s.pdos n = none ∧
        (gcomEvtChildListCreateDevice s.portNames o n).isOk = true ∧
        o.openKey = true ∧ o.setPortName = true
  | .queryId n' o =>
      n' = n ∧ ∃ pdo, s.pdos n = some pdo ∧ pdo.preprocessed = true ∧
        pdo.portNameWritten = false ∧ o.openKey = true ∧ o.setValue = true
  | _ => False

/-- The driver writes the name of the device for a number in one of the events. -/
def HasWritten (n : ULONG) : Bus → List BusEvent → Prop
  | _, [] => False
  | s, event :: rest => s.Writes n event ∨ HasWritten n (s.next install event) rest

end Bus

/-! ## Names -/

/-- A device is for a port number. -/
structure Pdo.IsFor (pdo : Pdo) (n : ULONG) : Prop where
  portNumber : pdo.portNumber = n
  deviceId : pdo.deviceId = comPortId
  instanceId : pdo.instanceId = numberedName [] n.toNat
  deviceText : pdo.deviceText =
    "GhostCOM Virtual Serial Port (".toList ++ (serialCommValue n).2 ++ [')']

/-- The key of the devices for a number. -/
def deviceKey (n : ULONG) : DeviceKey := (comPortId, numberedName [] n.toNat)

theorem Pdo.IsFor.key_eq {pdo : Pdo} {n : ULONG} (h : pdo.IsFor n) : pdo.key = deviceKey n :=
  Prod.ext h.deviceId h.instanceId

/-- Devices for different numbers have different keys. -/
theorem device_key_inj {n n' : ULONG} (h : deviceKey n = deviceKey n') : n = n' := by
  have hnil : EndsUndigited [] := rfl
  exact BitVec.eq_of_toNat_eq (numbered_name_inj hnil hnil (congrArg Prod.snd h)).2

theorem port_name_eq (n : ULONG) : (serialCommValue n).2 = numberedName "COM".toList n.toNat :=
  printf_numbered (by decide) n

/-- The device text names the port as `SERIALCOMM` does. -/
theorem device_text_eq (n : ULONG) :
    rtlStringCbPrintf 80
        (numberedName "GhostCOM Virtual Serial Port (COM".toList n.toNat ++ [')']) =
      "GhostCOM Virtual Serial Port (".toList ++ (serialCommValue n).2 ++ [')'] := by
  have hnumber : (numberedName "GhostCOM Virtual Serial Port (COM".toList n.toNat).length < 79 :=
    numbered_fits (by decide) n
  have hfits : (numberedName "GhostCOM Virtual Serial Port (COM".toList n.toNat ++ [')']).length <
      80 := by
    rw [List.length_append]
    exact Nat.add_lt_add_right hnumber 1
  have hstem : "GhostCOM Virtual Serial Port (COM".toList =
      "GhostCOM Virtual Serial Port (".toList ++ "COM".toList := by decide
  rw [printf_fits hfits, port_name_eq, numberedName, numberedName, hstem, List.append_assoc _ _
    (Nat.toDigits ..)]

/-- What follows an outcome that is a success. -/
theorem of_bind_ok {α : Type} {outcome : Outcome} {next : Unit → Except ErrorStatus α} {a : α}
    (h : (outcome >>= next) = .ok a) : next () = .ok a := by
  cases outcome with
  | error st => cases h
  | ok => exact h

/-- The device that is made for a child description, and the values afterwards. -/
theorem create_device_spec {names names' : PortNames} {o : PdoOutcomes} {n : ULONG} {pdo : Pdo}
    (h : gcomEvtChildListCreateDevice names o n = .ok (pdo, names')) :
    pdo.IsFor n ∧ pdo.portNameWritten = false ∧
      names' = if o.openKey && o.setPortName then names.set (deviceKey n) (serialCommValue n).2
        else names := by
  have hmade := of_bind_ok (of_bind_ok (of_bind_ok (of_bind_ok (of_bind_ok (of_bind_ok h)))))
  cases hmade
  have hinstance : rtlStringCbPrintf 16 (numberedName [] n.toNat) = numberedName [] n.toNat :=
    printf_numbered (by decide) n
  have hkey : deviceKey n = (comPortId, rtlStringCbPrintf 16 (numberedName [] n.toNat)) :=
    congrArg (Prod.mk comPortId) hinstance.symm
  refine ⟨⟨rfl, rfl, hinstance, device_text_eq n⟩, rfl, ?_⟩
  rw [hkey]
  rfl

/-- A query writes the name if the flag is not set and the key can be opened and written, and
changes nothing otherwise. -/
theorem query_id_spec {pdo : Pdo} {n : ULONG} (h : pdo.IsFor n) (names : PortNames)
    (o : QueryIdOutcomes) :
    gcomPdoPnpPreprocessIrp pdo names o =
      if !pdo.portNameWritten && o.openKey && o.setValue then
        ({ pdo with portNameWritten := true }, names.set (deviceKey n) (serialCommValue n).2)
      else (pdo, names) := by
  have hfits : (numberedName "COM".toList n.toNat).length < 16 :=
    numbered_fits (by decide) n
  unfold gcomPdoPnpPreprocessIrp
  rw [h.portNumber, h.key_eq]
  simp only [hfits, decide_true, Bool.and_true]
  rfl

/-- Every device is for its number; for every number for which `written` holds, the value in the key
is the name of the port; and it holds for every device whose flag is set. -/
structure Bus.NamesPorts (written : ULONG → Prop) (s : Bus) : Prop where
  isFor : ∀ n pdo, s.pdos n = some pdo → pdo.IsFor n
  flagged : ∀ n pdo, s.pdos n = some pdo → pdo.portNameWritten = true → written n
  named : ∀ n, written n → s.portNames (deviceKey n) = some (serialCommValue n).2

namespace Bus.NamesPorts

variable {s : Bus} {written : ULONG → Prop}

/-- A device may be put in place of the one for its number. -/
theorem put (h : s.NamesPorts written) {n : ULONG} {pdo : Pdo} (hfor : pdo.IsFor n)
    (hflag : pdo.portNameWritten = true → written n) :
    NamesPorts written { s with pdos := Function.update s.pdos n (some pdo) } := by
  have hcases {n' : ULONG} {pdo' : Pdo}
      (hpdo' : Function.update s.pdos n (some pdo) n' = some pdo') :
      (n' = n ∧ pdo' = pdo) ∨ s.pdos n' = some pdo' := by
    by_cases heq : n' = n
    · subst heq
      rw [Function.update_self] at hpdo'
      exact .inl ⟨rfl, (Option.some.inj hpdo').symm⟩
    · exact .inr ((Function.update_of_ne heq _ _).symm.trans hpdo')
  refine ⟨fun n' pdo' hpdo' ↦ ?_, fun n' pdo' hpdo' hset ↦ ?_, h.named⟩
  · rcases hcases hpdo' with ⟨rfl, rfl⟩ | hold
    · exact hfor
    · exact h.isFor n' pdo' hold
  · rcases hcases hpdo' with ⟨rfl, rfl⟩ | hold
    · exact hflag hset
    · exact h.flagged n' pdo' hold hset

/-- The name of a port is written to the key of its device. -/
theorem write (h : s.NamesPorts written) (n : ULONG) :
    NamesPorts (fun n' ↦ written n' ∨ n = n')
      { s with portNames := s.portNames.set (deviceKey n) (serialCommValue n).2 } := by
  refine ⟨h.isFor, fun n' pdo hpdo hset ↦ .inl (h.flagged n' pdo hpdo hset), fun n' hwritten ↦ ?_⟩
  show Function.update _ _ _ _ = _
  by_cases heq : n = n'
  · subst heq
    exact Function.update_self ..
  · rw [Function.update_of_ne fun hkey ↦ heq (device_key_inj hkey).symm]
    exact h.named n' (hwritten.resolve_right heq)

theorem congr (h : s.NamesPorts written) {written' : ULONG → Prop}
    (hiff : ∀ n, written' n ↔ written n) : s.NamesPorts written' :=
  ⟨h.isFor, fun n pdo hpdo hset ↦ (hiff n).mpr (h.flagged n pdo hpdo hset),
    fun n hn ↦ h.named n ((hiff n).mp hn)⟩

theorem create_device (h : s.NamesPorts written) (n : ULONG) (o : PdoOutcomes) :
    NamesPorts (fun n' ↦ written n' ∨ s.Writes n' (.createDevice n o)) (s.createDevice n o) := by
  unfold createDevice
  split
  case isFalse hrefused =>
    refine h.congr fun n' ↦ or_iff_left ?_
    rintro ⟨rfl, hchild, hnone, -⟩
    exact hrefused ⟨hchild, hnone⟩
  case isTrue hmissing =>
    cases hmade : gcomEvtChildListCreateDevice s.portNames o n with
    | error st =>
        refine h.congr fun n' ↦ or_iff_left ?_
        rintro ⟨rfl, -, -, hok, -⟩
        rw [hmade] at hok
        cases hok
    | ok made =>
        obtain ⟨pdo, names⟩ := made
        obtain ⟨hfor, hflag, rfl⟩ := create_device_spec hmade
        have hput := h.put hfor fun hset ↦ by
          rw [hflag] at hset
          cases hset
        have hwrites (n' : ULONG) : s.Writes n' (.createDevice n o) ↔
            n = n' ∧ (o.openKey && o.setPortName) = true := by
          rw [Bool.and_eq_true]
          constructor
          · rintro ⟨rfl, -, -, -, hkey⟩
            exact ⟨rfl, hkey⟩
          · rintro ⟨rfl, hkey⟩
            exact ⟨rfl, hmissing.1, hmissing.2, by rw [hmade]; rfl, hkey⟩
        cases hkey : o.openKey && o.setPortName with
        | true => exact (hput.write n).congr fun n' ↦ by simp [hwrites, hkey]
        | false => exact hput.congr fun n' ↦ by simp [hwrites, hkey]

theorem query_id (h : s.NamesPorts written) (n : ULONG) (o : QueryIdOutcomes) :
    NamesPorts (fun n' ↦ written n' ∨ s.Writes n' (.queryId n o)) (s.queryId n o) := by
  cases hpdo : s.pdos n with
  | none =>
      rw [queryId, hpdo]
      refine h.congr fun n' ↦ or_iff_left ?_
      rintro ⟨rfl, pdo, hsome, -⟩
      rw [hpdo] at hsome
      cases hsome
  | some pdo =>
      have hfor := h.isFor n pdo hpdo
      have hwrites (n' : ULONG) : s.Writes n' (.queryId n o) ↔ n = n' ∧
          pdo.preprocessed = true ∧ (!pdo.portNameWritten && o.openKey && o.setValue) = true := by
        simp only [Bool.and_eq_true, Bool.not_eq_true', and_assoc]
        constructor
        · rintro ⟨rfl, pdo', hpdo', hrest⟩
          obtain rfl := Option.some.inj (hpdo.symm.trans hpdo')
          exact ⟨rfl, hrest⟩
        · rintro ⟨rfl, hrest⟩
          exact ⟨rfl, pdo, hpdo, hrest⟩
      rw [queryId, hpdo]
      dsimp only
      cases hpreprocessed : pdo.preprocessed with
      | false => exact h.congr fun n' ↦ by simp [hwrites, hpreprocessed]
      | true =>
          rw [if_pos rfl, query_id_spec hfor]
          cases hkey : !pdo.portNameWritten && o.openKey && o.setValue with
          | true =>
              -- the number has been written before the flag of its device is set
              have hset : ({ pdo with portNameWritten := true } : Pdo).IsFor n :=
                ⟨hfor.portNumber, hfor.deviceId, hfor.instanceId, hfor.deviceText⟩
              refine ((h.write n).put hset fun _ ↦ .inr rfl).congr ?_
              exact fun n' ↦ by simp [hwrites, hpreprocessed, hkey]
          | false =>
              refine (h.put hfor (h.flagged n pdo hpdo)).congr ?_
              exact fun n' ↦ by simp [hwrites, hpreprocessed, hkey]

theorem install_port (h : s.NamesPorts written) {install : ClassInstaller}
    (hinstall : install.TakesOver) (n : ULONG) (choice : List Char) :
    (s.installPort install n choice).NamesPorts written := by
  unfold installPort
  split
  · exact h
  next pdo hpdo =>
  refine ⟨h.isFor, h.flagged, fun n' hn' ↦ ?_⟩
  show install choice pdo.key s.portNames (deviceKey n') = _
  rw [(h.isFor n pdo hpdo).key_eq]
  by_cases heq : n' = n
  · subst heq
    rw [hinstall.kept, h.named n' hn']
    rw [h.named n' hn']
    exact Option.some_ne_none _
  · rw [hinstall.others _ _ _ _ fun hkey ↦ heq (device_key_inj hkey)]
    exact h.named n' hn'

theorem remove_device (h : s.NamesPorts written) (n : ULONG) :
    NamesPorts written { s with pdos := Function.update s.pdos n none } := by
  have hold (n' : ULONG) (pdo : Pdo) (hpdo : Function.update s.pdos n none n' = some pdo) :
      s.pdos n' = some pdo := by
    by_cases heq : n' = n
    · subst heq
      rw [Function.update_self] at hpdo
      cases hpdo
    · exact (Function.update_of_ne heq _ _).symm.trans hpdo
  exact ⟨fun n' pdo hpdo ↦ h.isFor n' pdo (hold n' pdo hpdo),
    fun n' pdo hpdo ↦ h.flagged n' pdo (hold n' pdo hpdo), h.named⟩

/-- After an event the numbers that have been written are also those that the event writes. -/
theorem next (h : s.NamesPorts written) {install : ClassInstaller} (hinstall : install.TakesOver)
    (event : BusEvent) :
    NamesPorts (fun n ↦ written n ∨ s.Writes n event) (s.next install event) := by
  cases event with
  | control event =>
      have hsame : (s.next install (.control event)).NamesPorts written :=
        ⟨h.isFor, h.flagged, h.named⟩
      exact hsame.congr fun _ ↦ or_iff_left id
  | createDevice n o => exact h.create_device n o
  | queryId n o => exact h.query_id n o
  | removeDevice n => exact (h.remove_device n).congr fun _ ↦ or_iff_left id
  | installPort n choice => exact (h.install_port hinstall n choice).congr fun _ ↦ or_iff_left id

theorem run (h : s.NamesPorts written) {install : ClassInstaller} (hinstall : install.TakesOver)
    (events : List BusEvent) :
    NamesPorts (fun n ↦ written n ∨ HasWritten install n s events)
      (events.foldl (Bus.next install) s) := by
  induction events generalizing s written with
  | nil => exact h.congr fun _ ↦ or_iff_left id
  | cons event rest ih => exact (ih (h.next hinstall event)).congr fun _ ↦ or_assoc.symm

end Bus.NamesPorts

/-! ## Runs -/

/-- What happens to the driver in an event. -/
def BusEvent.control? : BusEvent → Option ControlEvent
  | .control event => some event
  | _ => none

/-- Nothing that happens to devices changes the driver's global state. -/
theorem bus_machine (install : ClassInstaller) (s : Bus) (events : List BusEvent) :
    (events.foldl (Bus.next install) s).toMachine =
      (events.filterMap BusEvent.control?).foldl Machine.serve s.toMachine := by
  have hnext (s : Bus) (event : BusEvent) :
      (s.next install event).toMachine = event.control?.elim s.toMachine s.toMachine.serve := by
    cases event with
    | control event => rfl
    | removeDevice n => rfl
    | createDevice n o =>
        show (s.createDevice n o).toMachine = _
        unfold Bus.createDevice
        split
        · split <;> rfl
        · rfl
    | queryId n o =>
        show (s.queryId n o).toMachine = _
        unfold Bus.queryId
        split
        · rfl
        · split <;> rfl
    | installPort n choice =>
        show (s.installPort install n choice).toMachine = _
        unfold Bus.installPort
        split <;> rfl
  induction events generalizing s with
  | nil => rfl
  | cons event rest ih =>
      rw [List.foldl_cons, ih, hnext]
      cases heq : event.control? with
      | none => rw [List.filterMap_cons_none heq, Option.elim_none]
      | some control => rw [List.filterMap_cons_some heq, Option.elim_some, List.foldl_cons]

/-- Shadow devices name their ports. However control requests and cleanups, the framework making and
removing devices, queries and the class installer follow each other, no two devices share a registry
key, the flag of a device is only set once its name has been written, and once the driver has
written the name of a device, when it made one or was asked for its identifiers, the name in the key
is the one in `SERIALCOMM` and in the text of the device. Its path leads to the COM device of the
pair with the number of the device, and nowhere if the table has none. -/
theorem shadow_devices_name_ports (install : ClassInstaller) (hinstall : install.TakesOver)
    (upcase : Upcase) (events : List BusEvent) :
    let s := events.foldl (Bus.next install) .initial
    ∀ n pdo, s.pdos n = some pdo → pdo.portNumber = n ∧
      (∀ n' pdo', s.pdos n' = some pdo' → pdo'.key = pdo.key → n' = n) ∧
      (pdo.portNameWritten = true → Bus.HasWritten install n .initial events) ∧
      (Bus.HasWritten install n .initial events → ∃ name, s.portNames pdo.key = some name ∧
        name = (serialCommValue n).2 ∧
        pdo.deviceText = "GhostCOM Virtual Serial Port (".toList ++ name ++ [')'] ∧
        ∀ target, s.Opens upcase (comPath name) target ↔
          ∃ pp, s.Listed pp ∧ (s.pairs pp).portNumber = n ∧
            target = .device (.gcomSerial n) ∧ s.context (.gcomSerial n) = pp) := by
  intro s n pdo hpdo
  have hnames : s.NamesPorts fun n ↦ Bus.HasWritten install n .initial events := by
    have hinitial : Bus.initial.NamesPorts fun _ ↦ False :=
      ⟨fun _ _ hpdo ↦ (Option.some_ne_none _ hpdo.symm).elim,
        fun _ _ hpdo ↦ (Option.some_ne_none _ hpdo.symm).elim, fun _ hfalse ↦ hfalse.elim⟩
    exact (hinitial.run hinstall events).congr fun _ ↦ by rw [false_or]
  have hfor := hnames.isFor n pdo hpdo
  have hmachine : s.toMachine =
      (events.filterMap BusEvent.control?).foldl Machine.serve .initial :=
    bus_machine install .initial events
  refine ⟨hfor.portNumber, fun n' pdo' hpdo' hkey ↦ ?_, hnames.flagged n pdo hpdo,
    fun hwritten ↦ ?_⟩
  · rw [(hnames.isFor n' pdo' hpdo').key_eq, hfor.key_eq] at hkey
    exact device_key_inj hkey
  refine ⟨(serialCommValue n).2, ?_, rfl, hfor.deviceText, fun target ↦ ?_⟩
  · rw [hfor.key_eq]
    exact hnames.named n hwritten
  have hvisible := run_visible (events.filterMap BusEvent.control?)
  dsimp only at hvisible
  rw [← hmachine] at hvisible
  rw [com_path_eq, hvisible.opens_numbered_iff]
  constructor
  · rintro ⟨pp, hpp, rfl, rfl⟩
    exact ⟨pp, hpp, rfl, rfl, hvisible.leads pp hpp .com⟩
  · rintro ⟨pp, hpp, hnumber, htarget, -⟩
    exact ⟨pp, hpp, hnumber, htarget⟩

/-- A class installer that writes the name it would choose to a key that has none. -/
def writesIfUnset : ClassInstaller := fun choice key names ↦
  if names key = none then names.set key choice else names

/-- The class installer would choose `COM7` for the device for port 5. -/
def fifthInstalled : List BusEvent :=
  [.control (.request .ok ⟨0, 4, 8⟩ (.createPort 5 .allSucceed)),
    .createDevice 5 ⟨.ok (), .ok (), .ok (), .ok (), .ok (), .ok (), .ok (), .ok (), .ok (), true,
      true⟩,
    .installPort 5 "COM7".toList]

theorem fifth_shadow_device_named : ∃ pdo,
    (fifthInstalled.foldl (Bus.next writesIfUnset) .initial).pdos 5 = some pdo ∧
      (fifthInstalled.foldl (Bus.next writesIfUnset) .initial).portNames pdo.key =
        some "COM5".toList := by
  have hinstall : writesIfUnset.TakesOver := by
    refine ⟨fun choice key names hset ↦ ?_, fun choice key names other hother ↦ ?_⟩
    · rw [writesIfUnset, if_neg hset]
    · unfold writesIfUnset
      split
      · exact Function.update_of_ne hother _ _
      · rfl
  have hwritten : Bus.HasWritten writesIfUnset 5 .initial fifthInstalled := by
    refine .inr (.inl ⟨rfl, ?_, rfl, rfl, rfl, rfl⟩)
    decide +kernel
  have hmade : ((fifthInstalled.foldl (Bus.next writesIfUnset) .initial).pdos 5).isSome = true := by
    decide +kernel
  obtain ⟨pdo, hpdo⟩ := Option.isSome_iff_exists.mp hmade
  obtain ⟨-, -, -, hnamed⟩ := shadow_devices_name_ports writesIfUnset hinstall default
    fifthInstalled 5 pdo hpdo
  obtain ⟨name, hname, rfl, -⟩ := hnamed hwritten
  exact ⟨pdo, hpdo, hname⟩

end GhostCom
