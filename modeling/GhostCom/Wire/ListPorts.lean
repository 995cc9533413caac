import GhostCom.PortTable.Control
import GhostCom.Wire.SignalState

/-!
# The list of ports on its way to the addon

`GcomHandleListPorts` with the buffer it writes, and `list_ports` with the buffer it reads. The
handler bounds what it writes by the length of the buffer; the addon believes the count in the
header.
-/

namespace GhostCom

open RecordLayout

/-! ## The handler -/

/-- The output buffer of a request, whose length is a `ULONG`. -/
structure OutputBuffer where
  bytes : List UCHAR
  fits : bytes.length < 2 ^ 32

/-- `sizeof(GCOM_LIST_PORTS_HEADER)`. -/
def sizeofListPortsHeader : ℕ := 4

/-- `sizeof(GCOM_PORT_INFO)`. -/
def sizeofPortInfo : ℕ := 16

/-- The members of `GCOM_PORT_INFO` under `#pragma pack(push, 1)`: `PortNumber`, `CompanionIndex`,
`ComSideOpen` and `CompanionSideOpen`. -/
def gcomPortInfoMembers : List Field :=
  pack 1 [word32, word32, word32, word32]

/-- Assign a value to the member of `entries[count]` with the given position. -/
def assignMember (buffer : List UCHAR) (count : ULONG) (member : ℕ) (value : ULONG) : List UCHAR :=
  let entry := sizeofListPortsHeader + count.toNat * sizeofPortInfo
  store buffer (entry + (offsets gcomPortInfoMembers).getD member 0) (toBytes 4 value.toNat)

/-- The assignments to `entries[count]` for a pair. -/
def assignEntry (m : Machine) (pp : ℕ) (buffer : List UCHAR) (count : ULONG) : List UCHAR :=
  let pair := m.pairs pp
  let buffer := assignMember buffer count 0 pair.portNumber
  let buffer := assignMember buffer count 1 pair.companionIndex
  let buffer := assignMember buffer count 2 (if isTrue pair.comSideOpen then 1 else 0)
  assignMember buffer count 3 (if isTrue pair.companionSideOpen then 1 else 0)

/-- The loop over the slots that are left, with the buffer and `count`. -/
def listLoop (m : Machine) (maxEntries : ULONG) :
    List (Option PortEntry) → List UCHAR → ULONG → List UCHAR × ULONG
  | [], buffer, count => (buffer, count)
  | slot :: slots, buffer, count =>
      if count < maxEntries then
        match slot with
        | some (.pair pp) =>
            if (m.pairs pp).active then
              listLoop m maxEntries slots (assignEntry m pp buffer count) (count + 1)
            else listLoop m maxEntries slots buffer count
        | _ => listLoop m maxEntries slots buffer count
      else (buffer, count)

/-- What a request is completed with: the contents of the output buffer, and how many of its bytes
count. -/
structure BufferReply where
  buffer : List UCHAR
  information : ℕ
deriving DecidableEq, Repr

/-- `GcomHandleListPorts` on an output buffer that could be retrieved. -/
def listPortsReply (m : Machine) (outputBuf : OutputBuffer) : BufferReply :=
  let maxEntries : ULONG :=
    BitVec.ofNat 32 ((outputBuf.bytes.length - sizeofListPortsHeader) / sizeofPortInfo)
  let (buffer, count) := listLoop m maxEntries m.table.slots outputBuf.bytes 0
  { buffer := store buffer 0 (toBytes 4 count.toNat)
    information := sizeofListPortsHeader + count.toNat * sizeofPortInfo }

/-- `GcomHandleListPorts`. -/
def gcomHandleListPortsBuffer (m : Machine) (wdf : Wdf) (id : RequestId)
    (outputBuf : OutputBuffer) : Except ErrorStatus BufferReply :=
  match controlBuffer wdf id sizeofListPortsHeader outputBuf.bytes.length bufferTooSmall with
  | .error st => .error st
  | .ok () => .ok (listPortsReply m outputBuf)

/-! ## The addon -/

/-- The fields of `GcomPortInfo` under `#[repr(C)]`: `port_number`, `companion_index`,
`com_side_open` and `companion_side_open`. -/
def gcomPortInfoFields : List Field :=
  [word32, word32, word32, word32]

/-- The addon's `PortInfoJs`. -/
structure PortInfoJs where
  portNumber : BitVec 32
  companionIndex : BitVec 32
  comSideOpen : Bool
  companionSideOpen : Bool
deriving DecidableEq, Repr

/-- The entry with the given index in the addon's buffer. -/
def readEntry (buffer : List UCHAR) (i : ℕ) : PortInfoJs :=
  let entry := buffer.drop (sizeofListPortsHeader + i * sizeofPortInfo)
  let field (k : ℕ) : BitVec 32 := BitVec.ofNat 32 ((parse gcomPortInfoFields entry).getD k 0)
  { portNumber := field 0
    companionIndex := field 1
    comSideOpen := field 2 != 0
    companionSideOpen := field 3 != 0 }

/-- The ports that `list_ports` returns, and where it has read its buffer: offsets and lengths. -/
structure PortsRead where
  ports : List PortInfoJs
  reads : List (ℕ × ℕ)
deriving DecidableEq, Repr

/-- `list_ports` after its request has returned. -/
def readPorts (buffer : List UCHAR) (bytesReturned : BitVec 32) : PortsRead :=
  if bytesReturned.toNat < sizeofListPortsHeader then ⟨[], []⟩
  else
    let count := readAt buffer 4 0
    { ports := (List.range count).map (readEntry buffer)
      reads := (0, sizeofListPortsHeader) :: (List.range count).map fun i ↦
        (sizeofListPortsHeader + i * sizeofPortInfo, sizeofPortInfo) }

/-- The size of the buffer of `list_ports`, which has room for 64 entries. -/
def listPortsBufferSize : ℕ := sizeofListPortsHeader + 64 * sizeofPortInfo

/-- The buffer of `list_ports` before its request. -/
def listPortsBuffer : OutputBuffer where
  bytes := List.replicate listPortsBufferSize 0
  fits := by
    rw [List.length_replicate]
    decide

theorem length_list_ports_buffer : listPortsBuffer.bytes.length = listPortsBufferSize :=
  List.length_replicate

/-- The end of a buffered request: the bytes that count are copied to the buffer of the caller. -/
def copyBack (reply : BufferReply) (buffer : List UCHAR) : List UCHAR :=
  reply.buffer.take reply.information ++ buffer.drop reply.information

/-- `list_ports`, when its request is completed with the reply. -/
def listPorts (reply : BufferReply) : PortsRead :=
  readPorts (copyBack reply listPortsBuffer.bytes)
    (BitVec.ofNat 32 reply.information)

/-! ## What the handler writes -/

/-- The pairs that a list shows, in slot order: valid entries whose pair is active. -/
def activePairs (m : Machine) (slots : List (Option PortEntry)) : List ℕ :=
  slots.filterMap fun
    | some (.pair pp) => if (m.pairs pp).active then some pp else none
    | _ => none

/-- The description of a pair. -/
def infoOf (m : Machine) (pp : ℕ) : PortInfo where
  portNumber := (m.pairs pp).portNumber
  companionIndex := (m.pairs pp).companionIndex
  comSideOpen := boolean (isTrue (m.pairs pp).comSideOpen)
  companionSideOpen := boolean (isTrue (m.pairs pp).companionSideOpen)

/-- The values of the members of a description. -/
def PortInfo.values (info : PortInfo) : List ℕ :=
  [info.portNumber.toNat, info.companionIndex.toNat, info.comSideOpen.toNat,
    info.companionSideOpen.toNat]

/-- The bytes of a description. -/
def PortInfo.bytes (info : PortInfo) : List UCHAR :=
  image 0 (gcomPortInfoMembers.zip info.values)

theorem PortInfo.bytes_eq (info : PortInfo) :
    info.bytes = toBytes 4 info.portNumber.toNat ++ (toBytes 4 info.companionIndex.toNat
      ++ (toBytes 4 info.comSideOpen.toNat ++ toBytes 4 info.companionSideOpen.toNat)) := by
  show _ ++ (_ ++ (_ ++ (_ ++ []))) = _
  rw [List.append_nil]
  rfl

@[simp] theorem PortInfo.length_bytes (info : PortInfo) : info.bytes.length = sizeofPortInfo := by
  rw [info.bytes_eq]
  simp only [List.length_append, length_toBytes, sizeofPortInfo]

variable {m : Machine} {pp : ℕ} {buffer : List UCHAR} {count : ULONG}

/-- The four assignments to an entry store the bytes of the description. -/
theorem assign_entry_eq
    (h : sizeofListPortsHeader + count.toNat * sizeofPortInfo + sizeofPortInfo ≤ buffer.length) :
    assignEntry m pp buffer count
      = store buffer (sizeofListPortsHeader + count.toNat * sizeofPortInfo) (infoOf m pp).bytes := by
  generalize hentry : sizeofListPortsHeader + count.toNat * sizeofPortInfo = entry at h
  rw [sizeofPortInfo] at h
  rw [PortInfo.bytes_eq, assignEntry]
  simp only [assignMember, hentry]
  show store (store (store (store buffer (entry + 0) _) (entry + 4) _) (entry + 8) _) (entry + 12) _
    = _
  rw [Nat.add_zero, store_append (o := entry) (by rw [length_toBytes]) (by omega),
    store_append (o := entry) (by simp only [List.length_append, length_toBytes]) (by omega),
    store_append (o := entry) (by simp only [List.length_append, length_toBytes]) (by omega),
    List.append_assoc, List.append_assoc]
  rfl

/-- What a buffer holds behind the header: the given descriptions, and then what it held before. -/
def Filled (original buffer : List UCHAR) (infos : List PortInfo) : Prop :=
  buffer = store original sizeofListPortsHeader (infos.flatMap PortInfo.bytes)

theorem length_flatMap_bytes (infos : List PortInfo) :
    (infos.flatMap PortInfo.bytes).length = infos.length * sizeofPortInfo := by
  induction infos with
  | nil => rfl
  | cons info infos ih =>
      rw [List.flatMap_cons, List.length_append, ih, PortInfo.length_bytes, List.length_cons,
        Nat.succ_mul, Nat.add_comm]

/-- A buffer with room for one description more is filled with one more. -/
theorem Filled.snoc {original : List UCHAR} {infos : List PortInfo}
    (h : Filled original buffer infos) (hcount : count.toNat = infos.length)
    (hroom : sizeofListPortsHeader + (infos.length + 1) * sizeofPortInfo ≤ original.length) :
    Filled original (assignEntry m pp buffer count) (infos ++ [infoOf m pp]) := by
  have hlength := length_flatMap_bytes infos
  rw [Nat.succ_mul] at hroom
  have hbuffer : buffer.length = original.length := by
    rw [h]
    exact length_store (by omega)
  rw [Filled, assign_entry_eq (by rw [hcount]; omega), h, hcount,
    store_append (by rw [hlength]) (by omega), List.flatMap_append, List.flatMap_singleton]

/-- A slot that the loop skips shows no pair. -/
theorem active_pairs_skip {slot : Option PortEntry} {slots : List (Option PortEntry)}
    (h : ∀ pp, slot = some (.pair pp) → (m.pairs pp).active = false) :
    activePairs m (slot :: slots) = activePairs m slots := by
  match slot with
  | none => rfl
  | some .reserved => rfl
  | some (.pair pp) =>
      refine List.filterMap_cons_none ?_
      simp [h pp rfl]

/-- A slot that the loop describes shows its pair. -/
theorem active_pairs_keep {slots : List (Option PortEntry)} (h : (m.pairs pp).active = true) :
    activePairs m (some (.pair pp) :: slots) = pp :: activePairs m slots := by
  refine List.filterMap_cons_some ?_
  simp [h]

/-- Without room the loop ends. -/
theorem list_loop_full {maxEntries : ULONG} {slot : Option PortEntry}
    {slots : List (Option PortEntry)} (hlt : ¬count < maxEntries) :
    listLoop m maxEntries (slot :: slots) buffer count = (buffer, count) := by
  match slot with
  | none => exact if_neg hlt
  | some .reserved => exact if_neg hlt
  | some (.pair pp) => exact if_neg hlt

/-- While there is room, the loop skips a slot without an active pair. -/
theorem list_loop_skip {maxEntries : ULONG} {slot : Option PortEntry}
    {slots : List (Option PortEntry)} (hlt : count < maxEntries)
    (h : ∀ pp, slot = some (.pair pp) → (m.pairs pp).active = false) :
    listLoop m maxEntries (slot :: slots) buffer count
      = listLoop m maxEntries slots buffer count := by
  match slot with
  | none => exact if_pos hlt
  | some .reserved => exact if_pos hlt
  | some (.pair pp) =>
      rw [listLoop, if_pos hlt]
      simp [h pp rfl]

/-- While there is room, the loop describes an active pair. -/
theorem list_loop_keep {maxEntries : ULONG} {slots : List (Option PortEntry)}
    (hlt : count < maxEntries) (h : (m.pairs pp).active = true) :
    listLoop m maxEntries (some (.pair pp) :: slots) buffer count
      = listLoop m maxEntries slots (assignEntry m pp buffer count) (count + 1) := by
  rw [listLoop, if_pos hlt]
  simp [h]

/-- The loop appends the descriptions of the active pairs of the slots, as many as there is room
for. -/
theorem list_loop_spec {maxEntries : ULONG} {original : List UCHAR}
    (hroom : sizeofListPortsHeader + maxEntries.toNat * sizeofPortInfo ≤ original.length)
    (slots : List (Option PortEntry)) {infos : List PortInfo} (hcount : count.toNat = infos.length)
    (hle : infos.length ≤ maxEntries.toNat) (h : Filled original buffer infos) :
    ∃ all, all = infos
        ++ ((activePairs m slots).map (infoOf m)).take (maxEntries.toNat - infos.length)
      ∧ Filled original (listLoop m maxEntries slots buffer count).1 all
      ∧ (listLoop m maxEntries slots buffer count).2.toNat = all.length := by
  induction slots generalizing buffer count infos with
  | nil =>
      refine ⟨infos, ?_, h, hcount⟩
      show infos = infos ++ List.take _ []
      rw [List.take_nil, List.append_nil]
  | cons slot slots ih =>
      by_cases hlt : count < maxEntries
      · have hlt' : infos.length < maxEntries.toNat := hcount ▸ hlt
        by_cases hslot : ∃ pp, slot = some (.pair pp) ∧ (m.pairs pp).active = true
        · obtain ⟨pp, rfl, hactive⟩ := hslot
          have hmax := maxEntries.isLt
          have hnext : (count + 1).toNat = (infos ++ [infoOf m pp]).length := by
            rw [Word.toNat_add_one (by omega), hcount, List.length_append, List.length_singleton]
          have hfilled : Filled original (assignEntry m pp buffer count) (infos ++ [infoOf m pp]) :=
            h.snoc hcount (le_trans (Nat.add_le_add_left (Nat.mul_le_mul_right _ hlt') _) hroom)
          obtain ⟨all, hall, hspec⟩ := ih hnext (by rwa [List.length_append]) hfilled
          refine ⟨all, ?_, by rwa [list_loop_keep hlt hactive]⟩
          -- the description is the first of those there is room for
          have hsucc : maxEntries.toNat - infos.length
              = maxEntries.toNat - (infos ++ [infoOf m pp]).length + 1 := by
            rw [List.length_append, List.length_singleton]
            omega
          rw [hall, active_pairs_keep hactive, List.map_cons, hsucc, List.take_succ_cons,
            List.append_assoc, List.singleton_append]
        · have hskip : ∀ pp, slot = some (.pair pp) → (m.pairs pp).active = false := fun pp heq ↦
            Bool.eq_false_iff.mpr fun hactive ↦ hslot ⟨pp, heq, hactive⟩
          rw [list_loop_skip hlt hskip, active_pairs_skip hskip]
          exact ih hcount hle h
      · have hfull : maxEntries.toNat - infos.length = 0 := by
          have : ¬count.toNat < maxEntries.toNat := hlt
          omega
        refine ⟨infos, ?_, ?_⟩
        · rw [hfull, List.take_zero, List.append_nil]
        · rw [list_loop_full hlt]
          exact ⟨h, hcount⟩

/-- The descriptions that a list request with an output buffer of the given length is to return. -/
def listed (m : Machine) (length : ℕ) : List PortInfo :=
  ((activePairs m m.table.slots).take ((length - sizeofListPortsHeader) / sizeofPortInfo)).map
    (infoOf m)

/-- The contents of the output buffer of a list request: the header, the descriptions, and behind
them what was there before. -/
def listImage (infos : List PortInfo) : List UCHAR :=
  toBytes 4 infos.length ++ infos.flatMap PortInfo.bytes

theorem length_list_image (infos : List PortInfo) :
    (listImage infos).length = sizeofListPortsHeader + infos.length * sizeofPortInfo := by
  rw [listImage, List.length_append, length_toBytes, length_flatMap_bytes, sizeofListPortsHeader]

/-- What the handler writes and reports. -/
theorem list_ports_reply_eq (outputBuf : OutputBuffer)
    (hroom : sizeofListPortsHeader ≤ outputBuf.bytes.length) :
    listPortsReply m outputBuf =
      { buffer := store outputBuf.bytes 0 (listImage (listed m outputBuf.bytes.length))
        information := (listImage (listed m outputBuf.bytes.length)).length } := by
  have hlt := outputBuf.fits
  let capacity := (outputBuf.bytes.length - sizeofListPortsHeader) / sizeofPortInfo
  have hcapacity : (BitVec.ofNat 32 capacity).toNat = capacity := by
    have hdiv := Nat.div_le_self (outputBuf.bytes.length - sizeofListPortsHeader) sizeofPortInfo
    exact BitVec.toNat_ofNat .. ▸ Nat.mod_eq_of_lt (by omega)
  have hfits : capacity * sizeofPortInfo ≤ outputBuf.bytes.length - sizeofListPortsHeader :=
    Nat.div_mul_le_self ..
  -- nothing is filled in yet
  have hempty : Filled outputBuf.bytes outputBuf.bytes [] := by
    show _ = outputBuf.bytes.take _ ++ [] ++ outputBuf.bytes.drop (_ + 0)
    rw [List.append_nil, Nat.add_zero, List.take_append_drop]
  obtain ⟨all, hall, hfilled, hcount⟩ := list_loop_spec (m := m)
    (show _ + (BitVec.ofNat 32 capacity).toNat * _ ≤ _ by rw [hcapacity]; omega) m.table.slots
    (show (0 : ULONG).toNat = ([] : List PortInfo).length from rfl) (Nat.zero_le _) hempty
  have hlisted : all = listed m outputBuf.bytes.length := by
    rw [hall, hcapacity, listed, List.map_take]
    rfl
  subst hlisted
  show BufferReply.mk (store _ 0 (toBytes 4 _)) (_ + _ * _) = _
  have hheader (v : ℕ) : (toBytes 4 v).length = sizeofListPortsHeader := length_toBytes 4 v
  rw [hcount, length_list_image, hfilled, store_before (hheader _) hroom]
  rfl

/-- Then no more than the buffer has is reported. -/
theorem length_list_image_le {length : ℕ} (hroom : sizeofListPortsHeader ≤ length) :
    (listImage (listed m length)).length ≤ length := by
  have hfits := Nat.div_mul_le_self (length - sizeofListPortsHeader) sizeofPortInfo
  have htake : (listed m length).length ≤ (length - sizeofListPortsHeader) / sizeofPortInfo := by
    rw [listed, List.length_map]
    exact List.length_take_le ..
  have := Nat.mul_le_mul_right sizeofPortInfo htake
  rw [length_list_image]
  omega

/-! ## Reading entries -/

theorem PortInfo.values_fit (info : PortInfo) :
    ∀ fv ∈ gcomPortInfoMembers.zip info.values, Fits fv := by
  intro fv hfv
  have h32 : ∀ x : BitVec 32, x.toNat < 256 ^ 4 := fun x ↦ x.isLt
  simp only [gcomPortInfoMembers, pack, List.map_cons, List.map_nil, PortInfo.values,
    List.zip_cons_cons, List.zip_nil_right, List.mem_cons, List.not_mem_nil, or_false] at hfv
  rcases hfv with rfl | rfl | rfl | rfl
  all_goals exact ⟨Nat.one_pos, h32 _⟩

/-- At the offsets of the members stand the values of a description, whatever follows it. -/
theorem parse_info_bytes (info : PortInfo) (back : List UCHAR) :
    parse gcomPortInfoMembers (info.bytes ++ back) = info.values := by
  have himage := parse_image_append 0 info.values_fit back
  rwa [List.map_fst_zip (by rfl), List.map_snd_zip (by rfl)] at himage

/-- The addon reads a description where the driver writes it. -/
theorem parse_fields_eq (bytes : List UCHAR) :
    parse gcomPortInfoFields bytes = parse gcomPortInfoMembers bytes :=
  parse_congr (by decide) (by decide) bytes

/-- Behind the header the descriptions follow each other. -/
theorem drop_list_image {infos : List PortInfo} {i : ℕ} (hi : i < infos.length)
    (back : List UCHAR) :
    ∃ rest, (listImage infos ++ back).drop (sizeofListPortsHeader + i * sizeofPortInfo)
      = infos[i].bytes ++ rest := by
  have hsplit : infos = infos.take i ++ infos[i] :: infos.drop (i + 1) := by
    rw [List.getElem_cons_drop, List.take_append_drop]
  let front := toBytes 4 infos.length ++ (infos.take i).flatMap PortInfo.bytes
  have hfront : front.length = sizeofListPortsHeader + i * sizeofPortInfo := by
    rw [List.length_append, length_toBytes, length_flatMap_bytes,
      List.length_take_of_le (Nat.le_of_lt hi), sizeofListPortsHeader]
  have himage : listImage infos ++ back
      = front ++ (infos[i].bytes ++ ((infos.drop (i + 1)).flatMap PortInfo.bytes ++ back)) := by
    have hflat : infos.flatMap PortInfo.bytes = (infos.take i).flatMap PortInfo.bytes
        ++ (infos[i].bytes ++ (infos.drop (i + 1)).flatMap PortInfo.bytes) := by
      rw [← List.flatMap_cons, ← List.flatMap_append, ← hsplit]
    simp only [listImage, hflat, front, List.append_assoc]
  rw [himage, List.drop_left' hfront]
  exact ⟨_, rfl⟩

/-- The number of descriptions fits the header. -/
theorem read_count {infos : List PortInfo} (hlt : infos.length < 2 ^ 32) (back : List UCHAR) :
    readAt (listImage infos ++ back) 4 0 = infos.length := by
  have h : readAt ([] ++ toBytes 4 infos.length ++ (infos.flatMap PortInfo.bytes ++ back)) 4 0
      = infos.length := readAt_append rfl hlt
  rwa [List.nil_append, ← List.append_assoc] at h

/-- What the addon makes of a pair. -/
def portOf (m : Machine) (pp : ℕ) : PortInfoJs where
  portNumber := (m.pairs pp).portNumber
  companionIndex := (m.pairs pp).companionIndex
  comSideOpen := isTrue (m.pairs pp).comSideOpen
  companionSideOpen := isTrue (m.pairs pp).companionSideOpen

theorem read_entry_eq {pps : List ℕ} {i : ℕ} (hi : i < (pps.map (infoOf m)).length)
    (back : List UCHAR) :
    readEntry (listImage (pps.map (infoOf m)) ++ back) i
      = portOf m (pps.get ⟨i, List.length_map (infoOf m) ▸ hi⟩) := by
  obtain ⟨rest, hrest⟩ := drop_list_image hi back
  rw [readEntry, hrest, parse_fields_eq, parse_info_bytes]
  simp only [PortInfo.values, List.getD_cons_zero, List.getD_cons_succ, BitVec.ofNat_toNat,
    BitVec.setWidth_eq, List.getElem_map, infoOf, boolean_ne_zero]
  rfl

/-! ## Writer and reader agree -/

/-- The contents of an output buffer and the reported number of bytes are as they have to be: the
header has the number of entries, the entries are the descriptions of the first active pairs in slot
order, as many as there are and fit, and header and entries are reported. -/
structure Lists (m : Machine) (length : ℕ) (reply : BufferReply) : Prop where
  length_eq : reply.buffer.length = length
  count : readAt reply.buffer 4 0 =
    min ((length - sizeofListPortsHeader) / sizeofPortInfo) (activePairs m m.table.slots).length
  entries : ∀ i pp, i < readAt reply.buffer 4 0 → (activePairs m m.table.slots)[i]? = some pp →
    parse gcomPortInfoMembers (reply.buffer.drop (sizeofListPortsHeader + i * sizeofPortInfo))
      = (infoOf m pp).values
  information : reply.information
    = sizeofListPortsHeader + readAt reply.buffer 4 0 * sizeofPortInfo
  bounded : reply.information ≤ length

/-- A store at the beginning of a buffer. -/
theorem store_zero (bs w : List UCHAR) : store bs 0 w = w ++ bs.drop w.length := by
  rw [store, List.take_zero, List.nil_append, Nat.zero_add]

/-- There are no more active pairs than slots. -/
theorem length_active_pairs (m : Machine) :
    (activePairs m m.table.slots).length ≤ gcomMaxPorts :=
  le_trans (List.length_filterMap_le ..) (Nat.le_of_eq m.table.size)

theorem length_listed (m : Machine) (length : ℕ) : (listed m length).length =
    min ((length - sizeofListPortsHeader) / sizeofPortInfo)
      (activePairs m m.table.slots).length := by
  rw [listed, List.length_map, List.length_take]

theorem length_listed_lt (m : Machine) (length : ℕ) : (listed m length).length < 2 ^ 32 := by
  have hmax : gcomMaxPorts < 2 ^ 32 := by decide
  rw [length_listed]
  exact lt_of_le_of_lt (le_trans (Nat.min_le_right ..) (length_active_pairs m)) hmax

theorem listed_getElem {length i : ℕ} (hi : i < (listed m length).length)
    (hpp : (activePairs m m.table.slots)[i]? = some pp) : (listed m length)[i] = infoOf m pp := by
  obtain ⟨hlt, hget⟩ := List.getElem?_eq_some_iff.mp hpp
  simp only [listed, List.getElem_map, List.getElem_take, hget]

/-- `GcomHandleListPorts` writes and reports what it has to. -/
theorem list_ports_lists (m : Machine) (outputBuf : OutputBuffer)
    (hroom : sizeofListPortsHeader ≤ outputBuf.bytes.length) :
    Lists m outputBuf.bytes.length (listPortsReply m outputBuf) := by
  rw [list_ports_reply_eq outputBuf hroom, store_zero]
  let infos := listed m outputBuf.bytes.length
  let back := outputBuf.bytes.drop (listImage infos).length
  have hle := length_list_image_le (m := m) hroom
  have hcount : readAt (listImage infos ++ back) 4 0 = infos.length :=
    read_count (length_listed_lt ..) back
  constructor
  case length_eq =>
    show (listImage infos ++ back).length = _
    rw [List.length_append, List.length_drop]
    exact Nat.add_sub_cancel' hle
  case count => exact hcount.trans (length_listed ..)
  case entries =>
    intro i pp hlt hpp
    have hi : i < infos.length := hcount ▸ hlt
    obtain ⟨rest, hrest⟩ := drop_list_image hi back
    show parse _ ((listImage infos ++ back).drop _) = _
    rw [hrest, parse_info_bytes, listed_getElem hi hpp]
  case information =>
    show (listImage infos).length = _ + readAt (listImage infos ++ back) 4 0 * _
    rw [hcount, length_list_image]
  case bounded => exact hle

/-- The addon returns all active pairs and reads no byte that the driver has not returned. -/
theorem list_ports_complete (m : Machine) (outputBuf : OutputBuffer)
    (hsize : outputBuf.bytes.length = listPortsBufferSize) :
    (listPorts (listPortsReply m outputBuf)).ports = (activePairs m m.table.slots).map (portOf m)
      ∧ ∀ extent ∈ (listPorts (listPortsReply m outputBuf)).reads,
        extent.1 + extent.2 ≤ (listPortsReply m outputBuf).information := by
  have hroom : sizeofListPortsHeader ≤ outputBuf.bytes.length := by
    rw [hsize]
    decide
  have hcapacity :
      (listPortsBufferSize - sizeofListPortsHeader) / sizeofPortInfo = gcomMaxPorts := by
    decide
  let infos := (activePairs m m.table.slots).map (infoOf m)
  -- the buffer has room for every pair
  have hlisted : listed m outputBuf.bytes.length = infos := by
    rw [listed, hsize, hcapacity, List.take_of_length_le (length_active_pairs m)]
  have hlt := length_listed_lt m outputBuf.bytes.length
  have hle := length_list_image_le (m := m) hroom
  rw [list_ports_reply_eq outputBuf hroom, store_zero]
  rw [hlisted] at hlt hle ⊢
  have hreturned : (BitVec.ofNat 32 (listImage infos).length).toNat = (listImage infos).length :=
    BitVec.toNat_ofNat .. ▸ Nat.mod_eq_of_lt (lt_of_le_of_lt hle outputBuf.fits)
  have hheader : ¬(BitVec.ofNat 32 (listImage infos).length).toNat < sizeofListPortsHeader := by
    rw [hreturned, length_list_image]
    omega
  have hcopied : copyBack
      ⟨listImage infos ++ outputBuf.bytes.drop (listImage infos).length, (listImage infos).length⟩
      listPortsBuffer.bytes
        = listImage infos ++ listPortsBuffer.bytes.drop (listImage infos).length := by
    rw [copyBack, List.take_left]
  rw [listPorts, hcopied, readPorts, if_neg hheader, read_count hlt]
  constructor
  · refine List.ext_getElem ?_ ?_
    · simp only [infos, List.length_map, List.length_range]
    · intro i hi hi'
      have hlt : i < infos.length := by simpa using hi
      rw [List.getElem_map, List.getElem_range, List.getElem_map, read_entry_eq hlt]
      rfl
  · intro extent hextent
    show _ ≤ (listImage infos).length
    rw [length_list_image]
    rcases List.mem_cons.mp hextent with rfl | hentry
    · exact Nat.le_add_right ..
    · obtain ⟨i, hi, rfl⟩ := List.mem_map.mp hentry
      have hmul := Nat.mul_le_mul_right sizeofPortInfo (List.mem_range.mp hi)
      rw [Nat.succ_mul] at hmul
      show _ + i * sizeofPortInfo + sizeofPortInfo ≤ _
      omega

/-- The description of a slot, as `gcomHandleListPorts` has it, is that of its active pair. -/
theorem filterMap_portInfo (m : Machine) (slots : List (Option PortEntry)) :
    slots.filterMap (portInfo m) = (activePairs m slots).map (infoOf m) := by
  rw [activePairs, List.map_filterMap]
  congr 1
  funext slot
  match slot with
  | none => rfl
  | some .reserved => rfl
  | some (.pair pp) =>
      dsimp only [portInfo]
      split <;> rfl

/-- The handler that writes bytes returns what the handler that returns descriptions does. -/
theorem list_ports_refines (m : Machine) (wdf : Wdf) (req : IoctlRequest) (outputBuf : OutputBuffer)
    (hlength : req.outputLength = outputBuf.bytes.length) :
    gcomHandleListPorts m wdf req =
      (gcomHandleListPortsBuffer m wdf req.id outputBuf).map fun _ ↦
        .ports (listed m outputBuf.bytes.length) := by
  rw [gcomHandleListPorts, gcomHandleListPortsBuffer, hlength, sizeofListPortsHeader]
  cases controlBuffer wdf req.id 4 outputBuf.bytes.length bufferTooSmall with
  | error st => rfl
  | ok =>
      show Except.ok (ControlOutput.ports _) = Except.ok (ControlOutput.ports _)
      rw [filterMap_portInfo, ← List.map_take]
      rfl

/-- Writer and reader of a list of ports agree. For every table and every output buffer with room
for the header, a handler that can map the buffer lists the active pairs in it; and with the buffer
of the addon, the addon returns exactly the active pairs from the bytes returned to it. -/
theorem list_ports_agree (m : Machine) (wdf : Wdf) (id : RequestId) (outputBuf : OutputBuffer)
    (hroom : sizeofListPortsHeader ≤ outputBuf.bytes.length) (hmapped : wdf.retrieve id = .ok ()) :
    ∃ reply, gcomHandleListPortsBuffer m wdf id outputBuf = .ok reply
      ∧ Lists m outputBuf.bytes.length reply
      ∧ (outputBuf.bytes.length = listPortsBufferSize →
          (listPorts reply).ports = (activePairs m m.table.slots).map (portOf m)
            ∧ ∀ extent ∈ (listPorts reply).reads, extent.1 + extent.2 ≤ reply.information) := by
  refine ⟨listPortsReply m outputBuf, ?_, list_ports_lists m outputBuf hroom,
    list_ports_complete m outputBuf⟩
  have hbuffer : retrieveBuffer wdf id sizeofListPortsHeader outputBuf.bytes.length = .ok () := by
    rw [retrieveBuffer, if_neg (Nat.not_lt.mpr hroom), hmapped]
  rw [gcomHandleListPortsBuffer, controlBuffer, hbuffer]

/-- A table with a pair in its second slot, whose first slot is reserved: the addon returns that
pair. -/
theorem list_ports_agree_behind_reserved :
    ∃ reply, gcomHandleListPortsBuffer
        { Machine.initial with
          table := ((PortTable.initial.reserve 0).reserve 1).publish 1 0
          pairs := fun _ ↦ { PairRecord.initial 7 with active := true, companionSideOpen := 1 } }
        .ok 0 listPortsBuffer = .ok reply
      ∧ (listPorts reply).ports = [⟨7, 7, false, true⟩] := by
  obtain ⟨reply, hreply, -, haddon⟩ := list_ports_agree _ .ok 0 listPortsBuffer
    (by rw [length_list_ports_buffer]; decide) rfl
  exact ⟨reply, hreply, (haddon length_list_ports_buffer).1⟩

end GhostCom
