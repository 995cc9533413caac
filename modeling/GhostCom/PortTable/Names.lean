import GhostCom.Library.NumberedName
import GhostCom.PortTable.Visible

/-!
# Names as text

The texts that the driver builds from port numbers for devices, links and `SERIALCOMM` values, the
paths that applications open, and how the system leads a path over a link to a device. No buffer is
too small for its text and no two texts are the same up to case, so a number does stand for its
names, and a path that leads anywhere leads to one of the pairs in the table.
-/

namespace GhostCom

/-- How the system compares names: by their characters in upper case, of which only those of ASCII
matter here. -/
structure Upcase where
  fold : Char → Char
  ascii : ∀ c : Char, c.toNat < 128 → fold c = c.toUpper

instance : Inhabited Upcase := ⟨⟨Char.toUpper, fun _ _ ↦ rfl⟩⟩

/-- `RtlStringCbPrintfW` into a buffer of so many characters: what does not fit in front of the
terminator is cut off. -/
def rtlStringCbPrintf (capacity : ℕ) (text : List Char) : List Char := text.take (capacity - 1)

/-- The texts of the device names. -/
def DeviceName.text : DeviceName → List Char
  | .gcomSerial n => rtlStringCbPrintf 64 (numberedName "\\Device\\GCOMSerial".toList n.toNat)
  | .gcom n => rtlStringCbPrintf 64 (numberedName "\\Device\\GCOM".toList n.toNat)

/-- The texts of the link names. -/
def LinkName.text : LinkName → List Char
  | .com n => rtlStringCbPrintf 64 (numberedName "\\DosDevices\\COM".toList n.toNat)
  | .gcom n => rtlStringCbPrintf 64 (numberedName "\\DosDevices\\GCOM".toList n.toNat)

/-- `ControlDeviceNameBuf` and `ControlSymLinkBuf`. -/
def controlDeviceNameBuf : List Char := "\\Device\\GCOMControl".toList
def controlSymLinkBuf : List Char := "\\DosDevices\\GCOMControl".toList

/-- The value in `SERIALCOMM` of a port number: its name and its data. -/
def serialCommValue (n : ULONG) : List Char × List Char :=
  (rtlStringCbPrintf 64 (numberedName "\\Device\\GCOMSerial".toList n.toNat),
    rtlStringCbPrintf 16 (numberedName "COM".toList n.toNat))

/-- What the names of Win32 devices begin with. -/
def win32Devices : List Char := "\\\\.\\".toList

/-- The path that `open_port` opens. -/
def openPortPath (companionIndex : ULONG) : List Char :=
  win32Devices ++ numberedName "GCOM".toList companionIndex.toNat

/-- `CONTROL_DEVICE_PATH`. -/
def controlDevicePath : List Char := "\\\\.\\GCOMControl".toList

/-- The path of a COM port by the name that it has in `SERIALCOMM`. -/
def comPath (portName : List Char) : List Char := win32Devices ++ portName

/-- The name of the link that a Win32 device path is looked up under. -/
def dosDevice : List Char → Option (List Char)
  | '\\' :: '\\' :: '.' :: '\\' :: rest => some ("\\DosDevices\\".toList ++ rest)
  | _ => none

/-- What opening a path can open. -/
inductive OpenTarget where
  | control
  | device (name : DeviceName)
deriving DecidableEq, Repr

namespace Machine

variable (m : Machine)

/-- The links by their texts and those of the devices they are for. -/
def LinksTo (link device : List Char) : Prop :=
  m.controlDevice = true ∧ link = controlSymLinkBuf ∧ device = controlDeviceNameBuf ∨
    ∃ l ∈ m.devices.links, link = l.1.text ∧ device = l.2.text

/-- The devices by their texts. -/
def Named (text : List Char) : OpenTarget → Prop
  | .control => m.controlDevice = true ∧ text = controlDeviceNameBuf
  | .device name => name ∈ m.devices.objects ∧ text = name.text

/-- Opening a path looks up the link and then the device that the link names. Ways around the links,
such as over `GLOBALROOT`, are left out. -/
def Opens (upcase : Upcase) (path : List Char) (target : OpenTarget) : Prop :=
  ∃ name link linked device, dosDevice path = some name ∧ SameName upcase.fold name link ∧
    m.LinksTo link linked ∧ SameName upcase.fold linked device ∧ m.Named device target

end Machine

/-! ## Texts -/

/-- A text that is shorter than its buffer is not cut off. -/
theorem printf_fits {capacity : ℕ} {text : List Char} (h : text.length < capacity) :
    rtlStringCbPrintf capacity text = text :=
  List.take_of_length_le (by omega)

/-- A number after a stem that leaves room for ten digits is shorter than its buffer. -/
theorem numbered_fits {capacity : ℕ} {stem : List Char} (h : stem.length + 10 < capacity)
    (n : ULONG) : (numberedName stem n.toNat).length < capacity := by
  have hsmall : n.toNat < 10 ^ 10 := Nat.lt_trans n.isLt (by decide)
  exact Nat.lt_of_le_of_lt (length_numbered_name_le (by decide) hsmall) h

theorem printf_numbered {capacity : ℕ} {stem : List Char} (h : stem.length + 10 < capacity)
    (n : ULONG) : rtlStringCbPrintf capacity (numberedName stem n.toNat) =
      numberedName stem n.toNat :=
  printf_fits (numbered_fits h n)

/-- The stems of the texts. -/
def Side.deviceStem : Side → List Char
  | .com => "\\Device\\GCOMSerial".toList
  | .companion => "\\Device\\GCOM".toList

def Side.dosStem : Side → List Char
  | .com => "COM".toList
  | .companion => "GCOM".toList

theorem device_text (side : Side) (n : ULONG) :
    (side.deviceName n).text = numberedName side.deviceStem n.toNat := by
  cases side <;> exact printf_numbered (by decide) n

theorem link_text (side : Side) (n : ULONG) :
    (side.linkName n).text = "\\DosDevices\\".toList ++ numberedName side.dosStem n.toNat := by
  have happend (stem : List Char) : "\\DosDevices\\".toList ++ numberedName stem n.toNat =
      numberedName ("\\DosDevices\\".toList ++ stem) n.toNat := (List.append_assoc ..).symm
  rw [happend]
  cases side <;> exact printf_numbered (by decide) n

namespace Upcase

variable (upcase : Upcase)

/-- Digits have no case. -/
theorem digit {c : Char} (h : c.isDigit = true) : upcase.fold c = c := by
  have hrange : 48 ≤ c.toNat ∧ c.toNat ≤ 57 := by
    simpa [Char.isDigit, UInt32.le_iff_toNat_le] using h
  rw [upcase.ascii c (by omega)]
  refine dif_neg fun hlower ↦ ?_
  have hle : 97 ≤ c.toNat := UInt32.le_iff_toNat_le.mp hlower.1
  omega

/-- The upper case of a text in ASCII. -/
theorem map_ascii {text : List Char} (h : text.all (·.toNat < 128) = true) :
    text.map upcase.fold = text.map Char.toUpper :=
  List.map_congr_left fun c hc ↦ upcase.ascii c (by simpa using List.all_eq_true.mp h c hc)

/-- Numbered names on stems that differ between the sides are the same only for one side and one
number. -/
theorem same_sides {stem : Side → List Char}
    (hascii : ∀ side, (stem side).all (·.toNat < 128) = true)
    (hends : ∀ side, EndsUndigited ((stem side).map Char.toUpper))
    (hne : (stem .com).map Char.toUpper ≠ (stem .companion).map Char.toUpper) {side side' : Side}
    {a b : ULONG} (h : SameName upcase.fold (numberedName (stem side) a.toNat)
      (numberedName (stem side') b.toNat)) : side = side' ∧ a = b := by
  have hupper (side : Side) := upcase.map_ascii (hascii side)
  obtain ⟨hstem, hnumber⟩ := (same_numbered_iff (fun _ ↦ upcase.digit)
    (by rw [hupper]; exact hends side) (by rw [hupper]; exact hends side')).mp h
  refine ⟨?_, BitVec.eq_of_toNat_eq hnumber⟩
  unfold SameName at hstem
  rw [hupper, hupper] at hstem
  cases side <;> cases side'
  · rfl
  · exact absurd hstem hne
  · exact absurd hstem.symm hne
  · rfl

/-- A numbered name is not the same as a text in ASCII that does not end in a digit. -/
theorem not_same_text {stem text : List Char} (hascii : text.all (·.toNat < 128) = true)
    (hends : EndsUndigited (text.map Char.toUpper)) (n : ULONG) :
    ¬SameName upcase.fold (numberedName stem n.toNat) text :=
  not_same_numbered (fun _ ↦ upcase.digit) (by rwa [upcase.map_ascii hascii])

/-- The device names are told apart by their texts. -/
theorem device_eq {side side' : Side} {a b : ULONG}
    (h : SameName upcase.fold (side.deviceName a).text (side'.deviceName b).text) :
    side = side' ∧ a = b := by
  rw [device_text, device_text] at h
  exact upcase.same_sides (fun side ↦ by cases side <;> rfl) (fun side ↦ by cases side <;> rfl)
    (by decide) h

theorem device_ne_control (side : Side) (n : ULONG) :
    ¬SameName upcase.fold (side.deviceName n).text controlDeviceNameBuf := by
  rw [device_text]
  exact upcase.not_same_text (by rfl) (by rfl) n

/-- So are the names of the links. -/
theorem dos_name_eq {side side' : Side} {a b : ULONG}
    (h : SameName upcase.fold (numberedName side.dosStem a.toNat)
      (numberedName side'.dosStem b.toNat)) : side = side' ∧ a = b :=
  upcase.same_sides (fun side ↦ by cases side <;> rfl) (fun side ↦ by cases side <;> rfl)
    (by decide) h

end Upcase

/-! ## Paths -/

/-- A name of the system is one of a side and a number. -/
theorem DeviceName.eq_side (d : DeviceName) :
    ∃ (side : Side) (n : ULONG), d = side.deviceName n := by
  cases d with
  | gcomSerial n => exact ⟨.com, n, rfl⟩
  | gcom n => exact ⟨.companion, n, rfl⟩

theorem mem_device_links_iff {l : LinkName × DeviceName} {n : ULONG} :
    l ∈ deviceLinks n ↔ ∃ side : Side, l = (side.linkName n, side.deviceName n) := by
  unfold deviceLinks
  rw [Finset.mem_insert, Finset.mem_singleton]
  constructor
  · rintro (rfl | rfl)
    · exact ⟨.com, rfl⟩
    · exact ⟨.companion, rfl⟩
  · rintro ⟨side, rfl⟩
    cases side with
    | com => exact .inl rfl
    | companion => exact .inr rfl

/-- A Win32 device path is looked up by what follows the prefix. -/
theorem dos_device_iff {path name : List Char} : dosDevice path = some name ↔
    ∃ rest, path = win32Devices ++ rest ∧ name = "\\DosDevices\\".toList ++ rest := by
  constructor
  · intro h
    unfold dosDevice at h
    split at h
    · next rest => exact ⟨rest, rfl, (Option.some.inj h).symm⟩
    · cases h
  · rintro ⟨rest, rfl, rfl⟩
    rfl

/-- A path opens the control device if it has the name of its link. -/
theorem opens_control_iff {m : Machine} {upcase : Upcase} {path : List Char} :
    m.Opens upcase path .control ↔ m.controlDevice = true ∧ ∃ rest, path = win32Devices ++ rest ∧
      SameName upcase.fold rest "GCOMControl".toList := by
  have hcontrol (rest : List Char) :
      SameName upcase.fold ("\\DosDevices\\".toList ++ rest) controlSymLinkBuf ↔
        SameName upcase.fold rest "GCOMControl".toList := same_name_append_iff
  constructor
  · rintro ⟨name, link, linked, device, hname, hlink, hlinks, hlinked, hon, rfl⟩
    obtain ⟨rest, rfl, rfl⟩ := dos_device_iff.mp hname
    rcases hlinks with ⟨-, rfl, -⟩ | ⟨l, hl, rfl, rfl⟩
    · exact ⟨hon, rest, rfl, (hcontrol rest).mp hlink⟩
    · obtain ⟨side, n, heq⟩ := l.2.eq_side
      rw [heq] at hlinked
      exact absurd hlinked (upcase.device_ne_control side n)
  · rintro ⟨hon, rest, rfl, hsame⟩
    exact ⟨_, controlSymLinkBuf, controlDeviceNameBuf, controlDeviceNameBuf,
      dos_device_iff.mpr ⟨rest, rfl, rfl⟩, (hcontrol rest).mpr hsame, .inl ⟨hon, rfl, rfl⟩, rfl,
      hon, rfl⟩

namespace Machine.VisibleBy

variable {m : Machine} {sets deletes : Prop} {owners : ℕ → Prop} {upcase : Upcase}
  {path : List Char}

/-- A path opens the device of a pair if it has the name of its link. -/
theorem opens_device_iff (h : m.VisibleBy sets deletes owners) {d : DeviceName} :
    m.Opens upcase path (.device d) ↔ ∃ rest pp, ∃ side : Side, path = win32Devices ++ rest ∧
      owners pp ∧ d = side.deviceName (m.pairs pp).portNumber ∧
        SameName upcase.fold rest (numberedName side.dosStem (m.pairs pp).portNumber.toNat) := by
  constructor
  · rintro ⟨name, link, linked, device, hname, hlink, hlinks, hlinked, -, rfl⟩
    obtain ⟨rest, rfl, rfl⟩ := dos_device_iff.mp hname
    obtain ⟨side, n, rfl⟩ := d.eq_side
    rcases hlinks with ⟨-, -, rfl⟩ | ⟨l, hl, rfl, rfl⟩
    · -- the control device is none of a pair's
      exact absurd hlinked.symm (upcase.device_ne_control side n)
    obtain ⟨pp, hpp, hmem⟩ := (h.links.mem_iff l).mp hl
    obtain ⟨side', rfl⟩ := mem_device_links_iff.mp hmem
    obtain ⟨rfl, rfl⟩ := upcase.device_eq hlinked
    rw [link_text, same_name_append_iff] at hlink
    exact ⟨rest, pp, side', rfl, hpp, rfl, hlink⟩
  · rintro ⟨rest, pp, side, rfl, hpp, rfl, hsame⟩
    let n := (m.pairs pp).portNumber
    refine ⟨_, (side.linkName n).text, (side.deviceName n).text, (side.deviceName n).text,
      dos_device_iff.mpr ⟨rest, rfl, rfl⟩, ?_, ?_, rfl, h.device_mem hpp side, rfl⟩
    · rw [link_text, same_name_append_iff]
      exact hsame
    · refine .inr ⟨(side.linkName n, side.deviceName n), ?_, rfl, rfl⟩
      exact (h.links.mem_iff _).mpr ⟨pp, hpp, side_link_mem ..⟩

/-- A path opens at most one device. -/
theorem opens_unique (h : m.VisibleBy sets deletes owners) {target target' : OpenTarget}
    (hopens : m.Opens upcase path target) (hopens' : m.Opens upcase path target') :
    target = target' := by
  -- the part of the path after the prefix is a name of one link only
  have hcontrol {d : DeviceName} (hdevice : m.Opens upcase path (.device d))
      (hcontrol : m.Opens upcase path .control) : False := by
    obtain ⟨rest, pp, side, hpath, -, -, hsame⟩ := h.opens_device_iff.mp hdevice
    obtain ⟨-, rest', hpath', hsame'⟩ := opens_control_iff.mp hcontrol
    obtain rfl := List.append_cancel_left (hpath.symm.trans hpath')
    exact upcase.not_same_text (by rfl) (by rfl) _ (hsame.symm.trans hsame')
  cases target with
  | control =>
      cases target' with
      | control => rfl
      | device d => exact (hcontrol hopens' hopens).elim
  | device d =>
      cases target' with
      | control => exact (hcontrol hopens hopens').elim
      | device d' =>
          obtain ⟨rest, pp, side, hpath, -, rfl, hsame⟩ := h.opens_device_iff.mp hopens
          obtain ⟨rest', pp', side', hpath', -, rfl, hsame'⟩ := h.opens_device_iff.mp hopens'
          obtain rfl := List.append_cancel_left (hpath.symm.trans hpath')
          obtain ⟨rfl, heq⟩ := upcase.dos_name_eq (hsame.symm.trans hsame')
          rw [heq]

/-- The path with a side and a number opens the device of the pair with the number. -/
theorem opens_numbered_iff (h : m.VisibleBy sets deletes owners) {side : Side} {n : ULONG}
    {target : OpenTarget} :
    m.Opens upcase (win32Devices ++ numberedName side.dosStem n.toNat) target ↔
      ∃ pp, owners pp ∧ (m.pairs pp).portNumber = n ∧ target = .device (side.deviceName n) := by
  constructor
  · intro hopens
    cases target with
    | control =>
        obtain ⟨-, rest, hpath, hsame⟩ := opens_control_iff.mp hopens
        obtain rfl := List.append_cancel_left hpath
        exact absurd hsame (upcase.not_same_text (by rfl) (by rfl) n)
    | device d =>
        obtain ⟨rest, pp, side', hpath, hpp, rfl, hsame⟩ := h.opens_device_iff.mp hopens
        obtain rfl := List.append_cancel_left hpath
        obtain ⟨rfl, heq⟩ := upcase.dos_name_eq hsame
        exact ⟨pp, hpp, heq.symm, by rw [heq]⟩
  · rintro ⟨pp, hpp, rfl, rfl⟩
    exact h.opens_device_iff.mpr ⟨_, pp, side, rfl, hpp, rfl, rfl⟩

/-- The paths of a pair open its devices. -/
theorem opens_pair (h : m.VisibleBy sets deletes owners) {pp : ℕ} (hpp : owners pp)
    (side : Side) : m.Opens upcase
      (win32Devices ++ numberedName side.dosStem (m.pairs pp).portNumber.toNat)
      (.device (side.deviceName (m.pairs pp).portNumber)) :=
  h.opens_numbered_iff.mpr ⟨pp, hpp, rfl, rfl⟩

end Machine.VisibleBy

/-- The name of a COM port as `SERIALCOMM` has it is not cut off. -/
theorem com_path_eq (n : ULONG) : comPath (serialCommValue n).2 =
    win32Devices ++ numberedName Side.com.dosStem n.toNat :=
  congrArg (win32Devices ++ ·) (printf_numbered (by decide) n)

/-- Paths lead to the pairs in the table. After control requests and cleanups in any order, also
ones that fail halfway, the path that `open_port` opens and the one of the COM port lead, for every
pair in the table, to its companion device and to its COM device, whose context is the pair. No path
leads to two devices, none leads over a link to a device that is not one of a pair in the table, and
the control device can be opened as long as it is there. -/
theorem paths_lead_to_pairs (upcase : Upcase) (events : List ControlEvent) :
    let m := events.foldl Machine.serve .initial
    (∀ pp, m.Listed pp →
      m.Opens upcase (openPortPath (m.pairs pp).companionIndex)
        (.device (.gcom (m.pairs pp).companionIndex)) ∧
      m.context (.gcom (m.pairs pp).companionIndex) = pp ∧
      m.Opens upcase (comPath (serialCommValue (m.pairs pp).portNumber).2)
        (.device (.gcomSerial (m.pairs pp).portNumber)) ∧
      m.context (.gcomSerial (m.pairs pp).portNumber) = pp) ∧
    (∀ path target target', m.Opens upcase path target → m.Opens upcase path target' →
      target = target') ∧
    (∀ path name, m.Opens upcase path (.device name) →
      ∃ pp, m.Listed pp ∧ m.context name = pp ∧
        (name = .gcom (m.pairs pp).companionIndex ∨
          name = .gcomSerial (m.pairs pp).portNumber)) ∧
    (m.Opens upcase controlDevicePath .control ↔ m.controlDevice = true) := by
  intro m
  have h := run_visible events
  have hindex (pp : ℕ) (hpp : m.Listed pp) :
      (m.pairs pp).companionIndex = (m.pairs pp).portNumber :=
    ((Consistent.served events).table.real pp hpp).2
  refine ⟨fun pp hpp ↦ ?_, fun path target target' ↦ h.opens_unique,
    fun path name hopens ↦ ?_, ?_⟩
  · rw [hindex pp hpp, com_path_eq]
    exact ⟨h.opens_pair hpp .companion, h.leads pp hpp .companion, h.opens_pair hpp .com,
      h.leads pp hpp .com⟩
  · obtain ⟨rest, pp, side, -, hpp, rfl, -⟩ := h.opens_device_iff.mp hopens
    refine ⟨pp, hpp, h.leads pp hpp side, ?_⟩
    cases side with
    | com => exact .inr rfl
    | companion =>
        rw [hindex pp hpp]
        exact .inl rfl
  · rw [opens_control_iff]
    exact and_iff_left ⟨_, rfl, rfl⟩

/-- `SERIALCOMM` lists the ports. After control requests and cleanups in any order, every pair in
the table has its value if the values can be set, and every value, if the values can be deleted, has
as its name the device that the path of its data opens, which is the COM device of a pair in the
table. -/
theorem serial_comm_lists_ports (upcase : Upcase) (events : List ControlEvent) :
    let m := events.foldl Machine.serve .initial
    ((∀ event ∈ events, event.SetsValues) →
      ∀ pp, m.Listed pp → (m.pairs pp).portNumber ∈ m.serialComm) ∧
    ((∀ event ∈ events, event.DeletesValues) → ∀ n ∈ m.serialComm, ∃ pp name, m.Listed pp ∧
      (m.pairs pp).portNumber = n ∧ name.text = (serialCommValue n).1 ∧
      m.Opens upcase (comPath (serialCommValue n).2) (.device name) ∧ m.context name = pp) := by
  intro m
  have h := run_visible events
  refine ⟨h.value, fun hdeletes n hn ↦ ?_⟩
  obtain ⟨pp, hpp, rfl⟩ := h.stale hdeletes n hn
  rw [com_path_eq]
  exact ⟨pp, .gcomSerial _, hpp, rfl, rfl, h.opens_pair hpp .com, h.leads pp hpp .com⟩

end GhostCom
