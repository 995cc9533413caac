import GhostCom.Driver.Types
import GhostCom.Library.RecordLayout

/-!
# The signal state on its way to JavaScript

A `GCOM_SIGNAL_STATE` leaves the driver as the bytes of a packed C structure. The addon takes them
for a `repr(C)` structure of its own, copies that into an object, and `decodeSignalState` turns the
object into the `SignalState` an application sees.
-/

namespace GhostCom

open RecordLayout

/-! ## The C structure -/

/-- The padding members `_Pad0` and `_Pad1` of `GCOM_SIGNAL_STATE`, which the driver never sets. -/
structure SignalStatePadding where
  pad0 : UCHAR
  pad1 : BitVec 16
deriving DecidableEq, Repr

/-- A 32-bit member: `ULONG` or `LONG`, `u32` or `i32`. -/
def word32 : Field := ⟨4, 4⟩

/-- An 8-bit member: `UCHAR` or `u8`. -/
def word8 : Field := ⟨1, 1⟩

/-- An array of two bytes: `UCHAR [2]` or `[u8; 2]`. -/
def word8x2 : Field := ⟨2, 1⟩

/-- The members of `GCOM_SIGNAL_STATE` under `#pragma pack(push, 1)`. -/
def gcomSignalStateMembers : List Field :=
  pack 1
    [word32, word32,                    -- SequenceNumber, ChangedMask
     word32, word8, word8, word8, word8, -- BaudRate, StopBits, Parity, DataBits, _Pad0
     word32, word32, word32,            -- DtrState, RtsState, BreakState
     word32, word32, word32, word32,    -- ControlHandShake, FlowReplace, XonLimit, XoffLimit
     word8, word8, word8, word8,        -- EofChar, ErrorChar, BreakChar, EventChar
     word8, word8, word8x2,             -- XonChar, XoffChar, _Pad1
     word32]                            -- WaitMask

/-- The values of the members, in the order of their declaration. -/
def SignalState.values (s : SignalState) (pad : SignalStatePadding) : List ℕ :=
  [s.sequenceNumber.toNat, s.changedMask.toNat,
   s.baudRate.toNat, s.stopBits.toNat, s.parity.toNat, s.dataBits.toNat, pad.pad0.toNat,
   s.dtrState.toNat, s.rtsState.toNat, s.breakState.toNat,
   s.controlHandShake.toNat, s.flowReplace.toNat, s.xonLimit.toNat, s.xoffLimit.toNat,
   s.eofChar.toNat, s.errorChar.toNat, s.breakChar.toNat, s.eventChar.toNat,
   s.xonChar.toNat, s.xoffChar.toNat, pad.pad1.toNat,
   s.waitMask.toNat]

/-- The bytes of a `GCOM_SIGNAL_STATE` in the output buffer. -/
def SignalState.bytes (s : SignalState) (pad : SignalStatePadding) : List UCHAR :=
  image 0 (gcomSignalStateMembers.zip (s.values pad))

/-! ## The addon -/

/-- The addon's `GcomSignalState`. -/
structure GcomSignalState where
  sequenceNumber : BitVec 32
  changedMask : BitVec 32
  baudRate : BitVec 32
  stopBits : BitVec 8
  parity : BitVec 8
  dataBits : BitVec 8
  pad0 : BitVec 8
  dtrState : BitVec 32
  rtsState : BitVec 32
  breakState : BitVec 32
  controlHandshake : BitVec 32
  flowReplace : BitVec 32
  xonLimit : BitVec 32
  xoffLimit : BitVec 32
  eofChar : BitVec 8
  errorChar : BitVec 8
  breakChar : BitVec 8
  eventChar : BitVec 8
  xonChar : BitVec 8
  xoffChar : BitVec 8
  pad1 : BitVec 16
  waitMask : BitVec 32
deriving DecidableEq, Repr

/-- The fields of `GcomSignalState` under `#[repr(C)]`. -/
def gcomSignalStateFields : List Field :=
  [word32, word32,                    -- sequence_number, changed_mask
   word32, word8, word8, word8, word8, -- baud_rate, stop_bits, parity, data_bits, _pad0
   word32, word32, word32,            -- dtr_state, rts_state, break_state
   word32, word32, word32, word32,    -- control_handshake, flow_replace, xon_limit, xoff_limit
   word8, word8, word8, word8,        -- eof_char, error_char, break_char, event_char
   word8, word8, word8x2,             -- xon_char, xoff_char, _pad1
   word32]                            -- wait_mask

/-- The `GcomSignalState` that stands in a buffer. -/
def GcomSignalState.ofBytes (bytes : List UCHAR) : GcomSignalState :=
  let field (i : ℕ) : ℕ := (parse gcomSignalStateFields bytes).getD i 0
  { sequenceNumber := BitVec.ofNat 32 (field 0)
    changedMask := BitVec.ofNat 32 (field 1)
    baudRate := BitVec.ofNat 32 (field 2)
    stopBits := BitVec.ofNat 8 (field 3)
    parity := BitVec.ofNat 8 (field 4)
    dataBits := BitVec.ofNat 8 (field 5)
    pad0 := BitVec.ofNat 8 (field 6)
    dtrState := BitVec.ofNat 32 (field 7)
    rtsState := BitVec.ofNat 32 (field 8)
    breakState := BitVec.ofNat 32 (field 9)
    controlHandshake := BitVec.ofNat 32 (field 10)
    flowReplace := BitVec.ofNat 32 (field 11)
    xonLimit := BitVec.ofNat 32 (field 12)
    xoffLimit := BitVec.ofNat 32 (field 13)
    eofChar := BitVec.ofNat 8 (field 14)
    errorChar := BitVec.ofNat 8 (field 15)
    breakChar := BitVec.ofNat 8 (field 16)
    eventChar := BitVec.ofNat 8 (field 17)
    xonChar := BitVec.ofNat 8 (field 18)
    xoffChar := BitVec.ofNat 8 (field 19)
    pad1 := BitVec.ofNat 16 (field 20)
    waitMask := BitVec.ofNat 32 (field 21) }

/-- The addon's `RawSignalStateJs`; `u32` and `i32` are both 32-bit words here. -/
structure RawSignalStateJs where
  sequenceNumber : BitVec 32
  changedMask : BitVec 32
  baudRate : BitVec 32
  dataBits : BitVec 32
  stopBits : BitVec 32
  parity : BitVec 32
  dtrState : Bool
  rtsState : Bool
  breakState : Bool
  controlHandshake : BitVec 32
  flowReplace : BitVec 32
  xonLimit : BitVec 32
  xoffLimit : BitVec 32
  eofChar : BitVec 32
  errorChar : BitVec 32
  breakChar : BitVec 32
  eventChar : BitVec 32
  xonChar : BitVec 32
  xoffChar : BitVec 32
  waitMask : BitVec 32
deriving DecidableEq, Repr

/-- `RawSignalStateJs::from`. -/
def RawSignalStateJs.fromState (s : GcomSignalState) : RawSignalStateJs where
  sequenceNumber := s.sequenceNumber
  changedMask := s.changedMask
  baudRate := s.baudRate
  dataBits := s.dataBits.setWidth 32
  stopBits := s.stopBits.setWidth 32
  parity := s.parity.setWidth 32
  dtrState := s.dtrState != 0
  rtsState := s.rtsState != 0
  breakState := s.breakState != 0
  controlHandshake := s.controlHandshake
  flowReplace := s.flowReplace
  xonLimit := s.xonLimit
  xoffLimit := s.xoffLimit
  eofChar := s.eofChar.setWidth 32
  errorChar := s.errorChar.setWidth 32
  breakChar := s.breakChar.setWidth 32
  eventChar := s.eventChar.setWidth 32
  xonChar := s.xonChar.setWidth 32
  xoffChar := s.xoffChar.setWidth 32
  waitMask := s.waitMask

/-! ## JavaScript -/

/-- A JavaScript number that is an integer; all numbers here fit in 32 bits, so none is rounded. -/
abbrev JsInt := ℤ

/-- The interface `RawSignalState` of `signals.ts`. -/
structure RawSignalState where
  sequenceNumber : JsInt
  changedMask : JsInt
  baudRate : JsInt
  dataBits : JsInt
  stopBits : JsInt
  parity : JsInt
  dtrState : Bool
  rtsState : Bool
  breakState : Bool
  controlHandshake : JsInt
  flowReplace : JsInt
  xonLimit : JsInt
  xoffLimit : JsInt
  eofChar : JsInt
  errorChar : JsInt
  breakChar : JsInt
  eventChar : JsInt
  xonChar : JsInt
  xoffChar : JsInt
  waitMask : JsInt
deriving DecidableEq, Repr

/-- The object that `#[napi(object)]` makes of a `RawSignalStateJs`: a `u32` becomes its value, an
`i32` its signed value. -/
def RawSignalStateJs.toObject (s : RawSignalStateJs) : RawSignalState where
  sequenceNumber := s.sequenceNumber.toNat
  changedMask := s.changedMask.toNat
  baudRate := s.baudRate.toNat
  dataBits := s.dataBits.toNat
  stopBits := s.stopBits.toNat
  parity := s.parity.toNat
  dtrState := s.dtrState
  rtsState := s.rtsState
  breakState := s.breakState
  controlHandshake := s.controlHandshake.toNat
  flowReplace := s.flowReplace.toNat
  xonLimit := s.xonLimit.toInt
  xoffLimit := s.xoffLimit.toInt
  eofChar := s.eofChar.toNat
  errorChar := s.errorChar.toNat
  breakChar := s.breakChar.toNat
  eventChar := s.eventChar.toNat
  xonChar := s.xonChar.toNat
  xoffChar := s.xoffChar.toNat
  waitMask := s.waitMask.toNat

/-- The type `StopBits` of `types.ts`. -/
inductive StopBits where
  | one
  | oneFive
  | two
deriving DecidableEq, Repr

/-- The type `Parity` of `types.ts`. -/
inductive Parity where
  | none
  | odd
  | even
  | mark
  | space
deriving DecidableEq, Repr

/-- The Windows constants `STOP_BIT_1`, `STOP_BIT_1_5` and `STOP_BIT_2`. -/
def StopBits.constant : StopBits → UCHAR
  | .one => 0
  | .oneFive => 1
  | .two => 2

/-- The Windows constants `NO_PARITY` to `SPACE_PARITY`. -/
def Parity.constant : Parity → UCHAR
  | .none => 0
  | .odd => 1
  | .even => 2
  | .mark => 3
  | .space => 4

/-- The interface `HandFlow` of `types.ts`. -/
structure HandFlow where
  controlHandshake : JsInt
  flowReplace : JsInt
  xonLimit : JsInt
  xoffLimit : JsInt
deriving DecidableEq, Repr

/-- The interface `SpecialChars` of `types.ts`. -/
structure SpecialChars where
  eofChar : JsInt
  errorChar : JsInt
  breakChar : JsInt
  eventChar : JsInt
  xonChar : JsInt
  xoffChar : JsInt
deriving DecidableEq, Repr

/-- The interface `SignalState` of `types.ts`. -/
structure ClientSignalState where
  sequenceNumber : JsInt
  changedMask : JsInt
  baudRate : JsInt
  dataBits : JsInt
  stopBits : StopBits
  parity : Parity
  dtr : Bool
  rts : Bool
  breakState : Bool
  handflow : HandFlow
  specialChars : SpecialChars
  waitMask : JsInt
deriving DecidableEq, Repr

/-- The operator `&`, on the 32-bit integers its operands are taken for. -/
def JsInt.bitAnd (a b : JsInt) : JsInt :=
  (BitVec.ofInt 32 a &&& BitVec.ofInt 32 b).toInt

/-- `decodeStopBits`. -/
def decodeStopBits (raw : JsInt) : StopBits :=
  if raw = 0 then .one
  else if raw = 1 then .oneFive
  else if raw = 2 then .two
  else .one

/-- `decodeParity`. -/
def decodeParity (raw : JsInt) : Parity :=
  if raw = 0 then .none
  else if raw = 1 then .odd
  else if raw = 2 then .even
  else if raw = 3 then .mark
  else if raw = 4 then .space
  else .none

/-- `decodeSignalState`. -/
def decodeSignalState (raw : RawSignalState) : ClientSignalState where
  sequenceNumber := raw.sequenceNumber
  changedMask := raw.changedMask
  baudRate := raw.baudRate
  dataBits := JsInt.bitAnd raw.dataBits 0xff
  stopBits := decodeStopBits raw.stopBits
  parity := decodeParity raw.parity
  dtr := raw.dtrState
  rts := raw.rtsState
  breakState := raw.breakState
  handflow :=
    { controlHandshake := raw.controlHandshake
      flowReplace := raw.flowReplace
      xonLimit := raw.xonLimit
      xoffLimit := raw.xoffLimit }
  specialChars :=
    { eofChar := raw.eofChar
      errorChar := raw.errorChar
      breakChar := raw.breakChar
      eventChar := raw.eventChar
      xonChar := raw.xonChar
      xoffChar := raw.xoffChar }
  waitMask := raw.waitMask

/-- What an application is handed for the bytes of a snapshot. -/
def receiveSignalState (bytes : List UCHAR) : ClientSignalState :=
  decodeSignalState (RawSignalStateJs.fromState (GcomSignalState.ofBytes bytes)).toObject

/-! ## The two declarations of the structure agree -/

/-- Natural alignment moves no field of the addon's structure away from where the packed C structure
has it. -/
theorem same_offsets : offsets gcomSignalStateMembers = offsets gcomSignalStateFields := by
  decide

theorem same_sizes :
    gcomSignalStateMembers.map Field.size = gcomSignalStateFields.map Field.size := by
  decide

/-- Both structures have the size that the driver asks an output buffer to have. -/
theorem same_record_size :
    recordSize gcomSignalStateMembers = sizeofSignalState
      ∧ recordSize gcomSignalStateFields = sizeofSignalState := by
  decide

/-- Every value fits its member. -/
theorem SignalState.values_fit (s : SignalState) (pad : SignalStatePadding) :
    ∀ fv ∈ gcomSignalStateMembers.zip (s.values pad), Fits fv := by
  intro fv hfv
  have h8 : ∀ x : BitVec 8, x.toNat < 256 ^ 1 := fun x ↦ x.isLt
  have h16 : ∀ x : BitVec 16, x.toNat < 256 ^ 2 := fun x ↦ x.isLt
  have h32 : ∀ x : BitVec 32, x.toNat < 256 ^ 4 := fun x ↦ x.isLt
  simp only [gcomSignalStateMembers, pack, List.map_cons, List.map_nil, SignalState.values,
    List.zip_cons_cons, List.zip_nil_right, List.mem_cons, List.not_mem_nil, or_false] at hfv
  rcases hfv with rfl | rfl | rfl | rfl | rfl | rfl | rfl | rfl | rfl | rfl | rfl | rfl | rfl | rfl
    | rfl | rfl | rfl | rfl | rfl | rfl | rfl | rfl
  all_goals exact ⟨Nat.one_pos, by first | exact h32 _ | exact h8 _ | exact h16 _⟩

/-- The bytes fill a `GCOM_SIGNAL_STATE` exactly. -/
theorem SignalState.length_bytes (s : SignalState) (pad : SignalStatePadding) :
    (s.bytes pad).length = sizeofSignalState := by
  rw [SignalState.bytes, length_image 0 (s.values_fit pad), List.map_fst_zip (by rfl)]
  decide

/-- At the addon's offsets stand the driver's values. -/
theorem parse_bytes (s : SignalState) (pad : SignalStatePadding) :
    parse gcomSignalStateFields (s.bytes pad) = s.values pad := by
  have himage := parse_image 0 (s.values_fit pad)
  rw [List.map_fst_zip (by rfl), List.map_snd_zip (by rfl)] at himage
  rw [← parse_congr same_sizes same_offsets]
  exact himage

/-- The addon's structure is the driver's, member by member, padding included. -/
theorem GcomSignalState.ofBytes_bytes (s : SignalState) (pad : SignalStatePadding) :
    GcomSignalState.ofBytes (s.bytes pad) =
      { sequenceNumber := s.sequenceNumber
        changedMask := s.changedMask
        baudRate := s.baudRate
        stopBits := s.stopBits
        parity := s.parity
        dataBits := s.dataBits
        pad0 := pad.pad0
        dtrState := s.dtrState
        rtsState := s.rtsState
        breakState := s.breakState
        controlHandshake := s.controlHandShake
        flowReplace := s.flowReplace
        xonLimit := s.xonLimit
        xoffLimit := s.xoffLimit
        eofChar := s.eofChar
        errorChar := s.errorChar
        breakChar := s.breakChar
        eventChar := s.eventChar
        xonChar := s.xonChar
        xoffChar := s.xoffChar
        pad1 := pad.pad1
        waitMask := s.waitMask } := by
  rw [GcomSignalState.ofBytes, parse_bytes]
  simp only [SignalState.values, List.getD_cons_zero, List.getD_cons_succ, BitVec.ofNat_toNat,
    BitVec.setWidth_eq]

/-! ## The round trip -/

/-- A byte widened to 32 bits keeps its value. -/
theorem toNat_setWidth_32 (x : UCHAR) : (x.setWidth 32).toNat = x.toNat := by
  rw [BitVec.toNat_setWidth, Nat.mod_eq_of_lt (lt_trans x.isLt (by decide))]

/-- The mask `& 0xff` leaves a byte as it is. -/
theorem bitAnd_byte (x : UCHAR) : JsInt.bitAnd (x.toNat : ℤ) 0xff = (x.toNat : ℤ) := by
  have key : ∀ y : BitVec 8, JsInt.bitAnd (y.toNat : ℤ) 0xff = (y.toNat : ℤ) := by decide
  exact key x

/-- Stop bits given by a Windows constant decode to what the constant stands for. -/
theorem decodeStopBits_constant (b : StopBits) : decodeStopBits b.constant.toNat = b := by
  cases b <;> rfl

/-- A parity given by a Windows constant decodes to what the constant stands for. -/
theorem decodeParity_constant (p : Parity) : decodeParity p.constant.toNat = p := by
  cases p <;> rfl

/-- A decoded state shows every field of a driver's state: numbers by value (the limits as signed
ones), lines as non-zero tests, stop bits and parity by the Windows constants. -/
structure Shows (d : ClientSignalState) (s : SignalState) : Prop where
  sequenceNumber : d.sequenceNumber = s.sequenceNumber.toNat
  changedMask : d.changedMask = s.changedMask.toNat
  baudRate : d.baudRate = s.baudRate.toNat
  dataBits : d.dataBits = s.dataBits.toNat
  stopBits : ∀ b, s.stopBits = b.constant → d.stopBits = b
  parity : ∀ p, s.parity = p.constant → d.parity = p
  dtr : d.dtr = (s.dtrState != 0)
  rts : d.rts = (s.rtsState != 0)
  breakState : d.breakState = (s.breakState != 0)
  controlHandshake : d.handflow.controlHandshake = s.controlHandShake.toNat
  flowReplace : d.handflow.flowReplace = s.flowReplace.toNat
  xonLimit : d.handflow.xonLimit = s.xonLimit.toInt
  xoffLimit : d.handflow.xoffLimit = s.xoffLimit.toInt
  eofChar : d.specialChars.eofChar = s.eofChar.toNat
  errorChar : d.specialChars.errorChar = s.errorChar.toNat
  breakChar : d.specialChars.breakChar = s.breakChar.toNat
  eventChar : d.specialChars.eventChar = s.eventChar.toNat
  xonChar : d.specialChars.xonChar = s.xonChar.toNat
  xoffChar : d.specialChars.xoffChar = s.xoffChar.toNat
  waitMask : d.waitMask = s.waitMask.toNat

/-- What an application receives shows the driver's state, whatever the padding holds. -/
theorem receive_shows (s : SignalState) (pad : SignalStatePadding) :
    Shows (receiveSignalState (s.bytes pad)) s := by
  rw [receiveSignalState, GcomSignalState.ofBytes_bytes]
  constructor <;> try rfl
  case dataBits =>
    show JsInt.bitAnd ((s.dataBits.setWidth 32).toNat : ℤ) 0xff = s.dataBits.toNat
    rw [toNat_setWidth_32, bitAnd_byte]
  case stopBits =>
    intro b hb
    show decodeStopBits ((s.stopBits.setWidth 32).toNat : ℤ) = b
    rw [toNat_setWidth_32, hb, decodeStopBits_constant]
  case parity =>
    intro p hp
    show decodeParity ((s.parity.setWidth 32).toNat : ℤ) = p
    rw [toNat_setWidth_32, hp, decodeParity_constant]

/-- Stop bits and parity are Windows constants, and the lines are 0 or 1. -/
structure SignalState.Legal (s : SignalState) : Prop where
  stopBits : ∃ b : StopBits, s.stopBits = b.constant
  parity : ∃ p : Parity, s.parity = p.constant
  dtrState : s.dtrState = 0 ∨ s.dtrState = 1
  rtsState : s.rtsState = 0 ∨ s.rtsState = 1
  breakState : s.breakState = 0 ∨ s.breakState = 1

/-- A line that is 0 or 1 is known from its non-zero test. -/
theorem line_ext {x y : ULONG} (hx : x = 0 ∨ x = 1) (hy : y = 0 ∨ y = 1)
    (h : (x != 0) = (y != 0)) : x = y := by
  rcases hx with rfl | rfl <;> rcases hy with rfl | rfl <;> first | rfl | simp at h

/-- Two words with one value are one word. -/
theorem word_ext {w : ℕ} {x y : BitVec w} {n : ℤ} (hx : n = x.toNat) (hy : n = y.toNat) :
    x = y :=
  BitVec.eq_of_toNat_eq (Int.ofNat.inj (hx.symm.trans hy))

/-- Legal states that one decoded state shows are equal. -/
theorem Shows.eq_of_legal {d : ClientSignalState} {s s' : SignalState} (h : Shows d s)
    (h' : Shows d s') (hs : s.Legal) (hs' : s'.Legal) : s = s' := by
  have hstop : s.stopBits = s'.stopBits := by
    obtain ⟨b, hb⟩ := hs.stopBits
    obtain ⟨b', hb'⟩ := hs'.stopBits
    rw [hb, hb', ← h.stopBits b hb, ← h'.stopBits b' hb']
  have hparity : s.parity = s'.parity := by
    obtain ⟨p, hp⟩ := hs.parity
    obtain ⟨p', hp'⟩ := hs'.parity
    rw [hp, hp', ← h.parity p hp, ← h'.parity p' hp']
  have hdtr := line_ext hs.dtrState hs'.dtrState (h.dtr.symm.trans h'.dtr)
  have hrts := line_ext hs.rtsState hs'.rtsState (h.rts.symm.trans h'.rts)
  have hbreak := line_ext hs.breakState hs'.breakState (h.breakState.symm.trans h'.breakState)
  have hxon := BitVec.eq_of_toInt_eq (h.xonLimit.symm.trans h'.xonLimit)
  have hxoff := BitVec.eq_of_toInt_eq (h.xoffLimit.symm.trans h'.xoffLimit)
  have hseq := word_ext h.sequenceNumber h'.sequenceNumber
  have hchanged := word_ext h.changedMask h'.changedMask
  have hbaud := word_ext h.baudRate h'.baudRate
  have hbits := word_ext h.dataBits h'.dataBits
  have hshake := word_ext h.controlHandshake h'.controlHandshake
  have hflow := word_ext h.flowReplace h'.flowReplace
  have heof := word_ext h.eofChar h'.eofChar
  have herror := word_ext h.errorChar h'.errorChar
  have hbreakChar := word_ext h.breakChar h'.breakChar
  have hevent := word_ext h.eventChar h'.eventChar
  have hxonChar := word_ext h.xonChar h'.xonChar
  have hxoffChar := word_ext h.xoffChar h'.xoffChar
  have hmask := word_ext h.waitMask h'.waitMask
  cases s
  cases s'
  simp_all only

/-- The round trip: an application receives every field of every state the driver sends, and tells
any two legal states apart. -/
theorem signal_state_round_trip :
    (∀ (s : SignalState) (pad : SignalStatePadding), Shows (receiveSignalState (s.bytes pad)) s)
      ∧ ∀ (s s' : SignalState) (pad pad' : SignalStatePadding), s.Legal → s'.Legal → s ≠ s' →
          receiveSignalState (s.bytes pad) ≠ receiveSignalState (s'.bytes pad') := by
  refine ⟨receive_shows, ?_⟩
  intro s s' pad pad' hs hs' hne heq
  have h := receive_shows s pad
  rw [heq] at h
  exact hne (h.eq_of_legal (receive_shows s' pad') hs hs')

end GhostCom
