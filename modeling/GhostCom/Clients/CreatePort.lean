import Mathlib.Data.Rat.Floor
import GhostCom.Clients.Coherence

/-!
# createPort

`createPort` with `tryHealZombie` and the constructor of `VirtualPort`, called while no other
request is served in between. A native step that fails after the create has succeeded makes
`createPort` throw and leave the pair in the table; `all_or_nothing_iff` finds that this is the only
way in which a call that throws leaves something behind.
-/

namespace GhostCom

/-! ## The driver's states -/

/-- The states of the driver: control requests and the unload are served, and in between the
callbacks of the devices of pairs change the pairs they are about. -/
inductive Machine.Reachable : Machine → Prop
  | initial : Reachable .initial
  | serve {m} (event : ControlEvent) (h : Reachable m) : Reachable (m.serve event)
  | touch {m m' pp} (htouched : Touched m m' pp) (h : Reachable m) : Reachable m'

/-- In every state of the driver the table is as it has to be. -/
theorem Machine.Reachable.consistent {m : Machine} (h : m.Reachable) : Consistent m := by
  induction h with
  | initial => exact .served []
  | serve event _ ih =>
      cases event with
      | request wdf req request => exact ih.control wdf req request
      | cleanup o => exact ih.cleanup o
  | touch htouched _ ih => exact htouched.consistent ih

/-! ## createPort -/

/-- A number of JavaScript. -/
inductive JsNumber where
  | finite (value : ℚ)
  | nonFinite
deriving DecidableEq

namespace JsNumber

/-- The conversion to `u32` by N-API: the fraction is cut off, and the rest taken modulo
`2 ^ 32`. -/
def toU32 : JsNumber → ULONG
  | .finite value => BitVec.ofInt 32 (if 0 ≤ value then ⌊value⌋ else ⌈value⌉)
  | .nonFinite => 0

/-- `===` with a number that was a `u32`. -/
def equals (n : ULONG) : JsNumber → Bool
  | .finite value => value == n.toNat
  | .nonFinite => false

end JsNumber

/-- `CreatePortOptions`. -/
structure CreatePortOptions where
  portNumber : Option JsNumber
  healZombies : Option Bool

/-- What the native steps of a call meet: the two creates, the list and the destroy of
`tryHealZombie`, loading the addon, the open of the companion device, and the native calls of the
constructor of `VirtualPort` that can throw. -/
structure CreatePortOutcomes where
  create : NativeCall
  created : CreateOutcomes
  list : NativeCall
  destroy : NativeCall
  destroyed : DestroyOutcomes
  retry : NativeCall
  retried : CreateOutcomes
  require : Bool
  openPort : NativeCall
  createStream : Bool
  onData : Bool
  onReadError : Bool
  onSignalChange : Bool

/-- `tryHealZombie`. -/
def tryHealZombie (m : Machine) (o : CreatePortOutcomes) (portNumber : JsNumber) :
    Machine × Bool :=
  match nativeListPorts m o.list with
  | .ok (.ports ports) =>
      match ports.find? fun p ↦
        portNumber.equals p.portNumber && !isTrue p.companionSideOpen with
      | none => (m, false)
      | some stale =>
          match nativeDestroyPort m o.destroy o.destroyed stale.companionIndex with
          | (m, .ok _) => (m, true)
          | (m, .error _) => (m, false)
  | _ => (m, false)

/-- The create of `createPort`, with one retry after a collision with a zombie. -/
def createPair (m : Machine) (o : CreatePortOutcomes) (requestedPort : JsNumber)
    (healZombies : Bool) : Machine × NativeResult :=
  match nativeCreatePort m o.create o.created requestedPort.toU32 with
  | (m, .error .alreadyExists) =>
      if healZombies && !requestedPort.equals 0 then
        match tryHealZombie m o requestedPort with
        | (m, true) => nativeCreatePort m o.retry o.retried requestedPort.toU32
        | (m, false) => (m, .error .alreadyExists)
      else (m, .error .alreadyExists)
  | result => result

/-- The native calls of the constructor of `VirtualPort`. -/
def CreatePortOutcomes.constructs (o : CreatePortOutcomes) : Bool :=
  o.createStream && o.onData && o.onReadError && o.onSignalChange

/-- The rest of `createPort`: it loads the addon, opens the companion device and constructs the
port, whose handle stays open if the constructor throws. -/
def bindPort (m : Machine) (o : CreatePortOutcomes) (portNumber companionIndex : ULONG) :
    Machine × Option VirtualPort :=
  if !o.require then (m, none)
  else
    match openPort m o.openPort companionIndex with
    | (m, none) => (m, none)
    | (m, some pp) =>
        (m, if o.constructs then some ⟨portNumber, companionIndex, pp⟩ else none)

/-- `createPort`: the port, or `none` if the promise is rejected. -/
def createPort (m : Machine) (o : CreatePortOutcomes) (options : CreatePortOptions) :
    Machine × Option VirtualPort :=
  let requestedPort := options.portNumber.getD (.finite 0)
  let healZombies := options.healZombies.getD true
  match createPair m o requestedPort healZombies with
  | (m, .ok (.created portNumber companionIndex)) => bindPort m o portNumber companionIndex
  | (m, _) => (m, none)

/-! ## All or nothing -/

/-- From `m` to `m'` no pair is new in the table, and those that have left it are pairs with the
requested number whose companion side was closed. -/
structure NothingLeft (requestedPort : JsNumber) (m m' : Machine) : Prop where
  created : ∀ pp, m'.Listed pp → m.Listed pp
  healed : ∀ pp, m.Listed pp → ¬m'.Listed pp →
    (m.pairs pp).companionSideOpen = 0 ∧ requestedPort.equals (m.pairs pp).portNumber = true

/-- The steps that follow a create that has succeeded all succeed. -/
structure CreatePortOutcomes.Completes (o : CreatePortOutcomes) : Prop where
  require : o.require = true
  opened : o.openPort.opened = true
  constructs : o.constructs = true

/-- One of the creates of the call succeeds. -/
def CreatesPair (m : Machine) (o : CreatePortOutcomes) (options : CreatePortOptions) : Prop :=
  ∃ output, (createPair m o (options.portNumber.getD (.finite 0))
    (options.healZombies.getD true)).2 = .ok output

/-! ### The companion device of a new pair -/

/-- A device that is created is reached by its link. -/
theorem create_device_link {m m' : Machine} {others : LinkName → Bool} {side : Side} {n : ULONG}
    {pp : ℕ} {o : DeviceOutcomes} (h : createDevice m others side n pp o = (m', .ok ())) :
    (side.linkName n, side.deviceName n) ∈ m'.devices.links := by
  obtain ⟨m'', heq, hdevices, -⟩ := create_device_completes side pp (completes_of_ok side pp h)
  rw [heq] at h
  cases h
  rw [hdevices]
  exact ObjectNamespace.mem_link _ (Finset.mem_insert_self ..)

/-- So is the companion device of a pair whose devices are created. -/
theorem create_devices_link {m m' : Machine} {o : CreateOutcomes} {slotIndex pp qq : ℕ} {n : ULONG}
    (h : createDevices m o slotIndex pp n = (m', .ok qq)) :
    (LinkName.gcom (m.pairs pp).companionIndex, DeviceName.gcom (m.pairs pp).companionIndex) ∈
      m'.devices.links := by
  have hframe := com_port_create_frame m o pp n
  unfold createDevices at h
  split at h
  · cases h
  next m₁ hcom =>
  rw [hcom] at hframe
  have hindex : (m₁.pairs pp).companionIndex = (m.pairs pp).companionIndex :=
    congrArg PairControl.companionIndex (hframe.control pp)
  split at h
  · cases h
  · next m₂ hcompanion =>
      cases h
      rw [gcomCompanionCreate, hindex] at hcompanion
      exact create_device_link hcompanion

/-- The companion device of a new pair is reached by its link. -/
theorem create_pair_link {m m' : Machine} {o : CreateOutcomes} {requestedPortNumber : ULONG}
    {pp : ℕ} (h : gcomPortPairCreate m o requestedPortNumber = (m', .ok pp)) :
    (LinkName.gcom (m'.pairs pp).companionIndex, DeviceName.gcom (m'.pairs pp).companionIndex) ∈
      m'.devices.links := by
  have hcases := (create_cases m o requestedPortNumber).2
  rw [h] at hcases
  obtain ⟨st, hst, -⟩ | ⟨i, n, -, hchoose, hok, -, hcreated, -⟩ := hcases
  · cases hst
  cases hok
  rw [show (m'.pairs m.pool.next).companionIndex = n from
    congrArg PairControl.companionIndex hcreated]
  -- follow the create to its devices: the companion index is the number by then
  unfold gcomPortPairCreate at h
  split at h
  · cases h
  next slotIndex hfree =>
  rw [hchoose] at h
  dsimp only at h
  split at h
  · cases h
  have hinit := init_pair_frame ({ m with
      table := m.table.reserve slotIndex
      pool := m.pool.alloc }.setPair m.pool.next fun _ ↦ .initial n) o m.pool.next
  split at h
  · cases h
  next m₁ heq =>
  rw [heq] at hinit
  have hindex : (m₁.pairs m.pool.next).companionIndex = n := by
    refine (congrArg PairControl.companionIndex (hinit.control m.pool.next)).trans ?_
    simp only [Machine.setPair, Function.update_self]
    rfl
  have hlink := create_devices_link h
  dsimp only at hlink
  rw [hindex] at hlink
  exact hlink

/-- A create that succeeds adds a pair whose companion device is reached by its link. -/
theorem native_create_link {m : Machine} {call : NativeCall} {o : CreateOutcomes}
    {portNumber n i : ULONG}
    (h : (nativeCreatePort m call o portNumber).2 = .ok (.created n i)) :
    (LinkName.gcom i, DeviceName.gcom i) ∈
      (nativeCreatePort m call o portNumber).1.devices.links := by
  revert h
  unfold nativeCreatePort
  rcases device_ioctl_cases call m 4 8 (.createPort portNumber o) with heq | heq
  · rw [heq]
    exact nofun
  · rw [heq]
    unfold gcomControlIoDeviceControl gcomHandleCreatePort
    dsimp only
    split
    · exact nofun
    split
    · exact nofun
    split
    · exact nofun
    split
    · exact nofun
    · next m' pp hcreate =>
        intro h
        cases h
        exact create_pair_link hcreate

/-- The companion device of a new pair can be opened, and that leaves the table alone. -/
theorem open_port_created {m m' : Machine} {pp : ℕ} {n : ULONG} (hadded : Added m m' pp n)
    (hlink : (LinkName.gcom n, DeviceName.gcom n) ∈ m'.devices.links) (call : NativeCall) :
    ((openPort m' call n).2.isSome = call.opened) ∧ (openPort m' call n).1.table = m'.table := by
  have hactive : (m'.pairs pp).active = true := congrArg PairControl.active hadded.created
  have hclosed : (m'.pairs pp).companionSideOpen = 0 :=
    congrArg PairControl.companionSideOpen hadded.created
  unfold openPort
  cases hopened : call.opened with
  | false => exact ⟨rfl, rfl⟩
  | true =>
      rw [if_pos (by simpa using hlink)]
      dsimp only
      rw [hadded.leads]
      rcases comp_file_create_cases (m'.pairs pp).toPortPair call.id with
        ⟨_, hrefused | hopen, _⟩ | ⟨pair, effects, _, _, _, haccepted⟩
      · rw [hactive] at hrefused
        cases hrefused
      · exact absurd hclosed hopen
      · rw [haccepted]
        exact ⟨rfl, rfl⟩

/-! ### The steps of a call -/

section Steps

variable {m : Machine} {requestedPort : JsNumber}

namespace NothingLeft

theorem refl (requestedPort : JsNumber) (m : Machine) : NothingLeft requestedPort m m :=
  ⟨fun _ ↦ id, fun _ hlisted hgone ↦ absurd hlisted hgone⟩

/-- A create that fails leaves nothing. -/
theorem of_same {m' : Machine} (h : SameListed m m') : NothingLeft requestedPort m m' :=
  ⟨fun pp ↦ (h.listed pp).mp, fun pp hlisted hgone ↦ absurd ((h.listed pp).mpr hlisted) hgone⟩

/-- A create that fails after the healing leaves nothing either. -/
theorem trans_same {m' m'' : Machine} (h : NothingLeft requestedPort m m')
    (hsame : SameListed m' m'') : NothingLeft requestedPort m m'' := by
  refine ⟨fun pp hpp ↦ h.created pp ((hsame.listed pp).mp hpp), fun pp hlisted hgone ↦ ?_⟩
  exact h.healed pp hlisted (mt (hsame.listed pp).mpr hgone)

/-- A create that fails before the healing changes nothing that the healing depends on. -/
theorem same_trans {m' m'' : Machine} (hsame : SameListed m m')
    (h : NothingLeft requestedPort m' m'') : NothingLeft requestedPort m m'' := by
  refine ⟨fun pp hpp ↦ (hsame.listed pp).mp (h.created pp hpp), fun pp hlisted hgone ↦ ?_⟩
  obtain ⟨hclosed, hnumber⟩ := h.healed pp ((hsame.listed pp).mpr hlisted) hgone
  have hcontrol := hsame.control pp hlisted
  rw [show (m'.pairs pp).companionSideOpen = (m.pairs pp).companionSideOpen from
    congrArg PairControl.companionSideOpen hcontrol] at hclosed
  rw [show (m'.pairs pp).portNumber = (m.pairs pp).portNumber from
    congrArg PairControl.portNumber hcontrol] at hnumber
  exact ⟨hclosed, hnumber⟩

end NothingLeft

/-- The healing removes nothing but a zombie with the requested number. -/
theorem try_heal_zombie_spec (h : Consistent m) (o : CreatePortOutcomes)
    (requestedPort : JsNumber) :
    let result := tryHealZombie m o requestedPort
    Consistent result.1 ∧ NothingLeft requestedPort m result.1 ∧
      m.pool.next ≤ result.1.pool.next := by
  intro result
  have hkeep : Consistent m ∧ NothingLeft requestedPort m m ∧ m.pool.next ≤ m.pool.next :=
    ⟨h, .refl .., le_rfl⟩
  unfold result tryHealZombie
  rcases native_list_cases o.list m with ⟨error, hfails, -⟩ | ⟨-, hports⟩
  · rw [hfails]
    exact hkeep
  rw [hports]
  dsimp only
  split
  · exact hkeep
  next stale hstale =>
  -- the entry that is found is that of a pair of the table
  obtain ⟨pp, hlisted, hentry⟩ :=
    (TableOk.mem_ports_iff (Nat.le_refl _)).mp (List.mem_of_find?_eq_some hstale)
  rw [h.table.port_info_eq hlisted] at hentry
  cases hentry
  have hzombie := List.find?_some hstale
  have hclosed : (m.pairs pp).companionSideOpen = 0 ∧
      requestedPort.equals (m.pairs pp).portNumber = true := by
    rw [isTrue_boolean, Bool.and_eq_true] at hzombie
    exact ⟨by simpa [isTrue] using hzombie.2, hzombie.1⟩
  obtain ⟨hconsistent, ⟨error, heq⟩ | ⟨qq, hlisted', hindex, hok, hremoved⟩⟩ :=
    native_destroy_cases o.destroy h o.destroyed (m.pairs pp).companionIndex
  · rw [heq]
    exact hkeep
  · have hresult : nativeDestroyPort m o.destroy o.destroyed (m.pairs pp).companionIndex =
        ((nativeDestroyPort m o.destroy o.destroyed (m.pairs pp).companionIndex).1,
          .ok .destroyed) := Prod.ext rfl hok
    obtain rfl := h.table.index_unique hlisted' hlisted hindex
    rw [hresult]
    refine ⟨hconsistent, ⟨fun rr hrr ↦ ((hremoved.listed rr).mp hrr).2, ?_⟩, hremoved.next_le⟩
    intro rr hrr hgone
    have hsame : rr = qq := by
      by_contra hne
      exact hgone ((hremoved.listed rr).mpr ⟨hne, hrr⟩)
    exact hsame ▸ hclosed

/-- The creates of a call fail and have removed nothing but a zombie, or one of them adds a pair. -/
theorem create_pair_spec (h : Consistent m) (o : CreatePortOutcomes) (requestedPort : JsNumber)
    (healZombies : Bool) :
    let result := createPair m o requestedPort healZombies
    (∃ error, result.2 = .error error ∧ NothingLeft requestedPort m result.1) ∨
      ∃ n pp m₀, result.2 = .ok (.created n n) ∧ m.pool.next ≤ pp ∧ Added m₀ result.1 pp n ∧
        (LinkName.gcom n, DeviceName.gcom n) ∈ result.1.devices.links := by
  intro result
  have hcreate := native_create_cases o.create h o.created requestedPort.toU32
  have hlink (n i : ULONG)
      (hok : (nativeCreatePort m o.create o.created requestedPort.toU32).2 = .ok (.created n i)) :=
    native_create_link hok
  unfold result createPair
  generalize nativeCreatePort m o.create o.created requestedPort.toU32 = first at hcreate hlink
  obtain ⟨m₁, reply⟩ := first
  obtain ⟨hconsistent, ⟨error, hfails, hsame⟩ | ⟨n, hok, hadded⟩⟩ := hcreate
  · cases show reply = .error error from hfails
    have hthrows : NothingLeft requestedPort m m₁ := .of_same hsame
    cases error with
    | other => exact .inl ⟨.other, rfl, hthrows⟩
    | alreadyExists =>
        dsimp only
        split
        · -- the number is taken: heal, and create again if something was healed
          obtain ⟨hhealed, hleft, hnext⟩ := try_heal_zombie_spec hconsistent o requestedPort
          generalize tryHealZombie m₁ o requestedPort = healed at hhealed hleft hnext
          obtain ⟨m₂, _ | _⟩ := healed
          · exact .inl ⟨.alreadyExists, rfl, hleft.same_trans hsame⟩
          · have hretry := native_create_cases o.retry hhealed o.retried requestedPort.toU32
            obtain ⟨-, ⟨error, hfails, hsame'⟩ | ⟨n, hok, hadded⟩⟩ := hretry
            · exact .inl ⟨error, hfails, (hleft.same_trans hsame).trans_same hsame'⟩
            · exact .inr ⟨n, _, m₂, hok, hsame.next_le.trans hnext, hadded,
                native_create_link hok⟩
        · exact .inl ⟨.alreadyExists, rfl, hthrows⟩
  · cases show reply = .ok (.created n n) from hok
    exact .inr ⟨n, _, m, rfl, le_rfl, hadded, hlink n n rfl⟩

/-- The rest of the call returns the port exactly when all its steps succeed, and leaves the table
alone. -/
theorem bind_port_spec {m₀ : Machine} {pp : ℕ} {n : ULONG} (hadded : Added m₀ m pp n)
    (hlink : (LinkName.gcom n, DeviceName.gcom n) ∈ m.devices.links) (o : CreatePortOutcomes) :
    ((bindPort m o n n).2 = none ↔ ¬o.Completes) ∧ (bindPort m o n n).1.table = m.table := by
  obtain ⟨hopens, htable⟩ := open_port_created hadded hlink o.openPort
  unfold bindPort
  by_cases hrequire : o.require = true
  · rw [if_neg (by simp [hrequire])]
    generalize openPort m o.openPort n = opened at hopens htable
    obtain ⟨m', _ | handle⟩ := opened
    · refine ⟨iff_of_true rfl fun hcompletes ↦ ?_, htable⟩
      rw [hcompletes.opened] at hopens
      cases hopens
    · dsimp only
      by_cases hconstructs : o.constructs = true
      · rw [if_pos hconstructs]
        exact ⟨iff_of_false nofun (not_not.mpr ⟨hrequire, hopens.symm, hconstructs⟩), htable⟩
      · rw [if_neg hconstructs]
        exact ⟨iff_of_true rfl fun hcompletes ↦ hconstructs hcompletes.constructs, htable⟩
  · rw [if_pos (by simpa using hrequire)]
    exact ⟨iff_of_true rfl fun hcompletes ↦ hrequire hcompletes.require, rfl⟩

end Steps

/-! ### A call among other processes -/

section Alone

open Transition (run)

/-- A number that is a `u32` is converted to itself. -/
theorem JsNumber.to_u32_of_nat (n : ULONG) : (JsNumber.finite n.toNat).toU32 = n := by
  show BitVec.ofInt 32 (if (0 : ℚ) ≤ (n.toNat : ℚ) then ⌊(n.toNat : ℚ)⌋ else _) = n
  rw [if_pos (Nat.cast_nonneg _), Int.floor_natCast]
  rw [BitVec.ofInt_natCast, BitVec.ofNat_toNat, BitVec.setWidth_eq]

/-- It is the same as another exactly if it is. -/
theorem JsNumber.equals_of_nat (n k : ULONG) :
    (JsNumber.finite n.toNat).equals k = decide (k = n) := by
  show ((n.toNat : ℚ) == (k.toNat : ℚ)) = _
  rw [Bool.eq_iff_iff, beq_iff_eq, decide_eq_true_iff, Nat.cast_inj]
  exact ⟨fun h ↦ BitVec.eq_of_toNat_eq h.symm, fun h ↦ h ▸ rfl⟩

variable {ι : Type*} [DecidableEq ι] {s t u : Clients ι} {c : ι} {o : CreatePortOutcomes}

/-- The process is outside of `createPort` again, with the port in addition if it was returned. -/
structure Returns (s t : Clients ι) (c : ι) (result : Machine × Option VirtualPort) : Prop where
  machine : t.machine = result.1
  client : t.clients c = ⟨(s.clients c).ports ++ result.2.toList, .idle⟩

/-- Some steps of the process lead to its return. -/
def WillReturn (s u : Clients ι) (c : ι) (result : Machine × Option VirtualPort) : Prop :=
  ∃ es t, (∀ e ∈ es, ClientEvent.client e = c) ∧ run Clients.next u es = some t ∧
    Returns s t c result

theorem WillReturn.of_next {e : ClientEvent ι} {result : Machine × Option VirtualPort}
    (he : e.client = c) (ht : Clients.next u e = some t) (h : WillReturn s t c result) :
    WillReturn s u c result := by
  obtain ⟨es, v, hes, hv, hreturns⟩ := h
  refine ⟨e :: es, v, ?_, Transition.run_cons_eq_some.mpr ⟨t, ht, hv⟩, hreturns⟩
  intro f hf
  rcases List.mem_cons.mp hf with rfl | hf
  · exact he
  · exact hes f hf

/-- A process that throws after its last create has returned. -/
theorem WillReturn.thrown {m : Machine} (hmachine : u.machine = m)
    (hclient : u.clients c = ⟨(s.clients c).ports, .idle⟩) : WillReturn s u c (m, none) := by
  refine ⟨[], u, by simp, Transition.run_nil u, hmachine, ?_⟩
  rw [hclient, Option.toList_none, List.append_nil]

/-- The open of a process that has created a pair is the rest of its call. -/
theorem open_returns (hrequire : o.require = true) (hconstructs : o.constructs = true)
    {n i : ULONG} (hclient : u.clients c = ⟨(s.clients c).ports, .opening n i⟩) :
    WillReturn s u c (bindPort u.machine o n i) := by
  have hactivity : (u.clients c).activity = .opening n i := by
    rw [hclient]
  refine .of_next (e := .openPort c o.openPort) rfl (by rw [Clients.next, hactivity]) ?_
  refine ⟨[], _, by simp, Transition.run_nil _, ?_⟩
  unfold Clients.openCompanion bindPort
  rw [if_neg (by simp [hrequire])]
  generalize openPort u.machine o.openPort i = opened
  obtain ⟨m, _ | pp⟩ := opened
  · refine ⟨rfl, ?_⟩
    simp [Clients.moveTo, Clients.update, hclient]
  · refine ⟨rfl, ?_⟩
    simp [Clients.update, hclient, hconstructs]

/-- What a create does to the process. -/
theorem create_client (s : Clients ι) (c : ι) (call : NativeCall) (o : CreateOutcomes)
    (portNumber : ULONG) (healZombies : Bool) :
    let result := nativeCreatePort s.machine call o portNumber
    (s.create c call o portNumber healZombies).machine = result.1 ∧
      (s.create c call o portNumber healZombies).clients c =
        ⟨(s.clients c).ports, afterCreate healZombies portNumber result.2⟩ := by
  refine ⟨rfl, ?_⟩
  show Function.update s.clients c _ c = _
  rw [Function.update_self]

/-- After a create that is not followed by healing, the process opens the companion device, or
throws. -/
theorem created_returns (hrequire : o.require = true) (hconstructs : o.constructs = true)
    {m : Machine} {reply : NativeResult} {n : ULONG} (hmachine : u.machine = m)
    (hclient : u.clients c = ⟨(s.clients c).ports, afterCreate false n reply⟩) :
    WillReturn s u c (match (m, reply) with
      | (m, .ok (.created n i)) => bindPort m o n i
      | (m, _) => (m, none)) := by
  cases reply with
  | error error => cases error <;> exact .thrown hmachine hclient
  | ok output =>
      cases output with
      | created n i =>
          rw [← hmachine]
          exact open_returns hrequire hconstructs hclient
      | destroyed | ports | version => exact .thrown hmachine hclient

/-- The number of the list that `tryHealZombie` looks for. -/
theorem stale_entry_of_nat (n : ULONG) (ports : List PortInfo) :
    (ports.find? fun p ↦
      (JsNumber.finite n.toNat).equals p.portNumber && !isTrue p.companionSideOpen) =
      staleEntry n ports := by
  unfold staleEntry
  refine congrArg (List.find? · ports) (funext fun p ↦ ?_)
  rw [JsNumber.equals_of_nat]

/-- A process that has healed creates again. -/
theorem healed_returns (hrequire : o.require = true) (hconstructs : o.constructs = true)
    {n : ULONG} {m : Machine} {reply : NativeResult} (hmachine : u.machine = m)
    (hclient : u.clients c = ⟨(s.clients c).ports, afterHeal n reply⟩) :
    WillReturn s u c (match (match (match (m, reply) with
          | (m, .ok _) => (m, true)
          | (m, .error _) => (m, false)) with
        | (m, true) => nativeCreatePort m o.retry o.retried n
        | (m, false) => (m, .error .alreadyExists)) with
      | (m, .ok (.created n i)) => bindPort m o n i
      | (m, _) => (m, none)) := by
  cases reply with
  | error error => exact .thrown hmachine hclient
  | ok output =>
      have hretrying : (u.clients c).activity = .retrying n := by
        rw [hclient]
        rfl
      obtain ⟨hmachine', hclient'⟩ := create_client u c o.retry o.retried n false
      refine .of_next (e := .retryCreate c o.retry o.retried) rfl
        (by rw [Clients.next, hretrying]) ?_
      rw [hclient, hmachine] at hclient'
      rw [hmachine] at hmachine'
      exact created_returns hrequire hconstructs hmachine' hclient'

/-- A process that heals and creates again. -/
theorem heal_returns (hrequire : o.require = true) (hconstructs : o.constructs = true) {n : ULONG}
    (hclient : u.clients c = ⟨(s.clients c).ports, .listing n⟩) :
    WillReturn s u c (match (match tryHealZombie u.machine o (.finite n.toNat) with
        | (m, true) => nativeCreatePort m o.retry o.retried n
        | (m, false) => (m, .error .alreadyExists)) with
      | (m, .ok (.created n i)) => bindPort m o n i
      | (m, _) => (m, none)) := by
  have hlisting : (u.clients c).activity = .listing n := by
    rw [hclient]
  refine .of_next (e := .listPorts c o.list) rfl (by rw [Clients.next, hlisting]) ?_
  unfold tryHealZombie
  rcases native_list_cases o.list u.machine with ⟨error, hfails, -⟩ | ⟨-, hports⟩
  · rw [hfails]
    exact .thrown rfl (by simp [Clients.moveTo, Clients.update, hclient, afterList])
  rw [hports]
  simp only [stale_entry_of_nat, afterList]
  generalize staleEntry n _ = stale
  cases stale with
  -- without a stale entry the error of the first create is thrown
  | none => exact .thrown rfl (by simp [Clients.moveTo, Clients.update, hclient])
  | some stale =>
      have hmachine : (u.moveTo c u.machine (.healing n stale.companionIndex)).machine =
          u.machine := rfl
      have hhealing : (u.moveTo c u.machine (.healing n stale.companionIndex)).clients c =
          ⟨(s.clients c).ports, .healing n stale.companionIndex⟩ := by
        simp [Clients.moveTo, Clients.update, hclient]
      dsimp only
      generalize u.moveTo c u.machine (.healing n stale.companionIndex) = v at hmachine hhealing ⊢
      rw [← hmachine]
      have hnext : Clients.next v (.destroyStale c o.destroy o.destroyed) =
          some (v.moveTo c
            (nativeDestroyPort v.machine o.destroy o.destroyed stale.companionIndex).1
            (afterHeal n
              (nativeDestroyPort v.machine o.destroy o.destroyed stale.companionIndex).2)) := by
        rw [Clients.next, hhealing]
      refine .of_next rfl hnext ?_
      generalize nativeDestroyPort v.machine o.destroy o.destroyed stale.companionIndex = destroyed
      obtain ⟨m, reply⟩ := destroyed
      refine healed_returns hrequire hconstructs rfl ?_
      simp [Clients.moveTo, Clients.update, hhealing]

/-- A call of `createPort` is steps of its process in the system of the processes, if nobody else
takes a step in between. -/
theorem create_port_alone (hrequire : o.require = true) (hconstructs : o.constructs = true)
    (hidle : (s.clients c).activity = .idle) (n : ULONG) (healZombies : Bool) :
    WillReturn s s c (createPort s.machine o ⟨some (.finite n.toNat), some healZombies⟩) := by
  obtain ⟨hmachine, hclient⟩ := create_client s c o.create o.created n healZombies
  refine .of_next (e := .createPort c o.create o.created n healZombies) rfl
    (by rw [Clients.next, hidle]) ?_
  unfold createPort createPair
  simp only [Option.getD_some, JsNumber.to_u32_of_nat, JsNumber.equals_of_nat]
  generalize s.create c o.create o.created n healZombies = u at hmachine hclient ⊢
  generalize nativeCreatePort s.machine o.create o.created n = first at hmachine hclient ⊢
  obtain ⟨m, reply⟩ := first
  cases reply with
  | ok output =>
      exact created_returns (n := n) hrequire hconstructs hmachine
        (hclient.trans (by cases output <;> rfl))
  | error error =>
    cases error with
    | other => exact .thrown hmachine hclient
    | alreadyExists =>
      dsimp only at hmachine hclient ⊢
      -- the test for a requested number, as `createPort` and as the process writes it
      have hzero : (healZombies && !decide (0 = n)) = (healZombies && n ≠ 0) := by
        rw [← decide_not, decide_eq_decide.mpr (not_congr (eq_comm (a := (0 : ULONG))))]
      rw [hzero]
      unfold afterCreate at hclient
      by_cases hheals : (healZombies && decide (n ≠ 0)) = true
      · rw [if_pos hheals] at hclient ⊢
        rw [← hmachine]
        exact heal_returns hrequire hconstructs hclient
      · rw [if_neg hheals] at hclient ⊢
        exact .thrown hmachine hclient

end Alone

/-- Whatever the state of the driver, the options and the outcomes of the native steps, a call of
`createPort` that is rejected has left no pair of its own and has removed none but a zombie with
the requested number, exactly when no create of the call succeeds or the steps after it do. -/
theorem all_or_nothing_iff {m : Machine} (h : m.Reachable) (o : CreatePortOutcomes)
    (options : CreatePortOptions) :
    ((createPort m o options).2 = none →
        NothingLeft (options.portNumber.getD (.finite 0)) m (createPort m o options).1) ↔
      (CreatesPair m o options → o.Completes) := by
  have hspec := create_pair_spec h.consistent o (options.portNumber.getD (.finite 0))
    (options.healZombies.getD true)
  unfold createPort CreatesPair
  dsimp only
  generalize createPair m o (options.portNumber.getD (.finite 0))
    (options.healZombies.getD true) = created at hspec ⊢
  obtain ⟨m₁, reply⟩ := created
  obtain ⟨error, hfails, hleft⟩ | ⟨n, pp, m₀, hok, hnext, hadded, hlink⟩ := hspec
  · cases show reply = .error error from hfails
    refine iff_of_true (fun _ ↦ hleft) ?_
    rintro ⟨output, houtput⟩
    cases houtput
  · cases show reply = .ok (.created n n) from hok
    obtain ⟨hrejects, htable⟩ := bind_port_spec hadded hlink o
    dsimp only
    constructor
    · intro hnothing _
      by_contra hfails
      have hleft := hnothing (hrejects.mpr hfails)
      -- the pair of the create is still listed, and it is a new one
      have hlisted : (bindPort m₁ o n n).1.Listed pp := by
        unfold Machine.Listed
        rw [htable]
        exact (hadded.listed pp).mpr (.inl rfl)
      exact (h.consistent.table.fresh hnext).2.2 (hleft.created pp hlisted)
    · intro hcompletes hrejected
      exact absurd (hcompletes ⟨_, rfl⟩) (hrejects.mp hrejected)

/-- The companion device cannot be opened, and everything else succeeds. -/
def openFails : CreatePortOutcomes where
  create := ⟨true, .ok, 0⟩
  created := .allSucceed
  list := ⟨true, .ok, 0⟩
  destroy := ⟨true, .ok, 0⟩
  destroyed := ⟨true, .ok (), ⟨true, true⟩⟩
  retry := ⟨true, .ok, 0⟩
  retried := .allSucceed
  require := true
  openPort := ⟨false, .ok, 0⟩
  createStream := true
  onData := true
  onReadError := true
  onSignalChange := true

/-- The port `COM5`. -/
def com5 : CreatePortOptions := ⟨some (.finite 5), none⟩

theorem create_com5_unopened :
    ((createPort .initial openFails com5).2 = none →
        NothingLeft (.finite 5) .initial (createPort .initial openFails com5).1) ↔
      (CreatesPair .initial openFails com5 → openFails.Completes) :=
  all_or_nothing_iff .initial openFails com5

/-- The pair of a call whose open fails stays in the table. -/
theorem create_leaves_pair :
    ¬∀ (m : Machine) (o : CreatePortOutcomes) (options : CreatePortOptions), m.Reachable →
      (createPort m o options).2 = none →
        NothingLeft (options.portNumber.getD (.finite 0)) m (createPort m o options).1 := by
  intro h
  have hleft := h .initial openFails com5 .initial (by decide)
  have hlisted : (createPort .initial openFails com5).1.Listed 0 := by
    show some (PortEntry.pair 0) ∈ (createPort .initial openFails com5).1.table.slots
    decide
  cases List.eq_of_mem_replicate (hleft.created 0 hlisted)

end GhostCom
