import GhostCom.Clients.VirtualPort
import GhostCom.PortTable.Listed

/-!
# What the processes know about their pairs

The invariant that ties the processes to the driver: a pair that a process has open is in the table,
is its own and is shown as open, and so is the pair that a process is about to open. `ClientOk` says
this of one process; it is kept as long as no step of another process takes a pair of it from the
table or closes it.
-/

namespace GhostCom

/-! ## Opening and closing a companion device -/

/-- From `m` to `m'` only the pair `pp` changes, but not which pair it is. -/
structure Touched (m m' : Machine) (pp : ℕ) : Prop where
  table : m'.table = m.table
  context : m'.context = m.context
  next : m'.pool.next = m.pool.next
  controlDevice : m'.controlDevice = m.controlDevice
  others : ∀ qq ≠ pp, m'.pairs qq = m.pairs qq
  active : (m'.pairs pp).active = (m.pairs pp).active
  portNumber : (m'.pairs pp).portNumber = (m.pairs pp).portNumber
  companionIndex : (m'.pairs pp).companionIndex = (m.pairs pp).companionIndex

namespace Touched

variable {m m' : Machine} {pp : ℕ}

/-- Changing a pair. -/
theorem setPair {f : PairRecord → PairRecord}
    (hactive : (f (m.pairs pp)).active = (m.pairs pp).active)
    (hnumber : (f (m.pairs pp)).portNumber = (m.pairs pp).portNumber)
    (hindex : (f (m.pairs pp)).companionIndex = (m.pairs pp).companionIndex) :
    Touched m (m.setPair pp f) pp := by
  have hself : (m.setPair pp f).pairs pp = f (m.pairs pp) := Function.update_self ..
  refine ⟨rfl, rfl, rfl, rfl, fun qq hqq ↦ Function.update_of_ne hqq .., ?_, ?_, ?_⟩
  · rw [hself, hactive]
  · rw [hself, hnumber]
  · rw [hself, hindex]

/-- Which pair a pair is does not change. -/
theorem same (h : Touched m m' pp) (qq : ℕ) :
    (m'.pairs qq).active = (m.pairs qq).active ∧
      (m'.pairs qq).portNumber = (m.pairs qq).portNumber ∧
      (m'.pairs qq).companionIndex = (m.pairs qq).companionIndex := by
  by_cases hqq : qq = pp
  · subst hqq
    exact ⟨h.active, h.portNumber, h.companionIndex⟩
  · rw [h.others qq hqq]
    exact ⟨rfl, rfl, rfl⟩

theorem listed (h : Touched m m' pp) (qq : ℕ) : m'.Listed qq ↔ m.Listed qq := by
  unfold Machine.Listed
  rw [h.table]

theorem consistent (h : Touched m m' pp) (hm : Consistent m) : Consistent m' := by
  obtain ⟨hok, hlinked⟩ := hm
  refine ⟨?_, fun qq hqq ↦ ?_⟩
  · constructor
    · rw [h.table]
      exact hok.counted
    · rw [h.table]
      exact hok.noUnderflow
    · rw [h.table]
      exact hok.noReserved
    · intro qq hqq
      obtain ⟨hactive, hnumber, hindex⟩ := h.same qq
      rw [hactive, hnumber, hindex]
      exact hok.real qq ((h.listed qq).mp hqq)
    · intro i j qq rr hi hj heq
      rw [(h.same qq).2.1, (h.same rr).2.1] at heq
      rw [h.table] at hi hj
      exact hok.distinct i j qq rr hi hj heq
    · rw [h.table]
      exact hok.removedOnce
    · rw [h.table]
      exact hok.publishedOnce
    · rw [h.table, h.next]
      exact hok.known
    · rw [h.table, h.controlDevice]
      exact hok.cleaned
  · rw [(h.same qq).2.2, h.context]
    exact hlinked qq ((h.listed qq).mp hqq)

end Touched

/-- An open of a companion device fails and changes nothing, or the device leads to a pair that was
closed and is open now. -/
theorem open_port_cases (m : Machine) (call : NativeCall) (companionIndex : ULONG) :
    let result := openPort m call companionIndex
    let pp := m.context (.gcom companionIndex)
    result = (m, none) ∨
      result.2 = some pp ∧ Touched m result.1 pp ∧ (m.pairs pp).companionSideOpen = 0 ∧
        (result.1.pairs pp).companionSideOpen = 1 := by
  intro result pp
  unfold result openPort
  split
  case isFalse => exact .inl rfl
  dsimp only
  rcases comp_file_create_cases (m.pairs pp).toPortPair call.id with
    ⟨effects, -, hrefused⟩ | ⟨pair, effects, -, hclosed, hcontrol, haccepted⟩
  · rw [hrefused]
    refine .inl (Prod.ext ?_ rfl)
    show { m with pairs := Function.update m.pairs pp (m.pairs pp) } = m
    rw [Function.update_eq_self]
  · rw [haccepted]
    refine .inr ⟨rfl, .setPair ?_ ?_ ?_, hclosed, ?_⟩
    · exact congrArg PairControl.active hcontrol
    · exact congrArg PairControl.portNumber hcontrol
    · exact congrArg PairControl.companionIndex hcontrol
    · show (Function.update m.pairs pp _ pp).companionSideOpen = 1
      rw [Function.update_self]
      exact congrArg PairControl.companionSideOpen hcontrol

/-- A close of a handle touches its pair only. -/
theorem close_handle_touched (m : Machine) (pp : ℕ) : Touched m (closeHandle m pp) pp := by
  obtain ⟨hcontrol, -⟩ := comp_file_close_control (m.pairs pp).toPortPair
  have hpair : Touched m (m.setPair pp fun record ↦
      { record with toPortPair := (gcomCompEvtFileClose (m.pairs pp).toPortPair).pp }) pp :=
    .setPair (congrArg PairControl.active hcontrol) (congrArg PairControl.portNumber hcontrol)
      (congrArg PairControl.companionIndex hcontrol)
  unfold closeHandle
  dsimp only
  split
  · exact ⟨hpair.table, hpair.context, hpair.next, hpair.controlDevice, hpair.others, hpair.active,
      hpair.portNumber, hpair.companionIndex⟩
  · exact hpair

/-! ## The invariant -/

/-- From `m` to `m'` the pair stays in the table, under its index and open if it was. -/
structure Stays (m m' : Machine) (pp : ℕ) : Prop where
  listed : m'.Listed pp
  index : (m'.pairs pp).companionIndex = (m.pairs pp).companionIndex
  isOpen : (m.pairs pp).companionSideOpen ≠ 0 → (m'.pairs pp).companionSideOpen ≠ 0

namespace Stays

variable {m m' : Machine} {pp : ℕ}

theorem refl (h : m.Listed pp) : Stays m m pp := ⟨h, rfl, id⟩

/-- A pair stays if its control fields do. -/
theorem of_control (hlisted : m'.Listed pp)
    (hcontrol : (m'.pairs pp).control = (m.pairs pp).control) :
    Stays m m' pp := by
  refine ⟨hlisted, PortPair.companionIndex_eq hcontrol, fun hopen ↦ ?_⟩
  have hsame : (m'.pairs pp).companionSideOpen = (m.pairs pp).companionSideOpen :=
    congrArg PairControl.companionSideOpen hcontrol
  rwa [hsame]

/-- The other pairs stay when one pair is touched. -/
theorem of_touched {qq : ℕ} (h : Touched m m' qq) (hlisted : m.Listed pp) (hne : pp ≠ qq) :
    Stays m m' pp := by
  refine .of_control ((h.listed pp).mpr hlisted) ?_
  rw [h.others pp hne]

end Stays

/-- The companion index that a process is about to destroy. -/
def Activity.target : Activity → Option ULONG
  | .healing _ companionIndex | .destroying companionIndex => some companionIndex
  | _ => none

variable {ι : Type*}

/-- What holds of a process: it has obtained the pairs that its handles hold, each handle holds
another pair, and as long as it runs these are in the table and open. A pair that it is about to
destroy is none of them; a pair that it is about to open is in the table and its own. -/
structure ClientOk (m : Machine) (obtainedBy : ℕ → Option ι) (c : ι) (client : Client) : Prop where
  obtained : ∀ port ∈ client.ports, obtainedBy port.handle = some c
  distinct : (client.ports.map (·.handle)).Nodup
  held : client.activity ≠ .exited → ∀ port ∈ client.ports, m.Listed port.handle ∧
    (m.pairs port.handle).companionIndex = port.companionIndex ∧
    (m.pairs port.handle).companionSideOpen ≠ 0
  target : ∀ companionIndex, client.activity.target = some companionIndex →
    ∀ port ∈ client.ports, port.companionIndex ≠ companionIndex
  opening : ∀ portNumber companionIndex, client.activity = .opening portNumber companionIndex →
    ∃ pp, m.Listed pp ∧ (m.pairs pp).companionIndex = companionIndex ∧ obtainedBy pp = some c

namespace ClientOk

variable {m m' : Machine} {obtainedBy obtainedBy' : ℕ → Option ι} {c : ι} {client : Client}

/-- A step of another process. -/
theorem mono (h : ClientOk m obtainedBy c client)
    (hobtained : ∀ pp, obtainedBy pp = some c → obtainedBy' pp = some c)
    (hstays : client.activity ≠ .exited → ∀ pp, obtainedBy pp = some c → m.Listed pp →
      Stays m m' pp) : ClientOk m' obtainedBy' c client where
  obtained port hport := hobtained _ (h.obtained port hport)
  distinct := h.distinct
  held hlive port hport := by
    obtain ⟨hlisted, hindex, hopen⟩ := h.held hlive port hport
    have hstay := hstays hlive _ (h.obtained port hport) hlisted
    exact ⟨hstay.listed, hstay.index.trans hindex, hstay.isOpen hopen⟩
  target := h.target
  opening portNumber companionIndex hactivity := by
    obtain ⟨pp, hlisted, hindex, howner⟩ := h.opening portNumber companionIndex hactivity
    have hlive : client.activity ≠ .exited := by
      rw [hactivity]
      exact nofun
    have hstay := hstays hlive pp howner hlisted
    exact ⟨pp, hstay.listed, hstay.index.trans hindex, hobtained pp howner⟩

/-- A step of the process itself in which its handles stay as they are. -/
theorem move (h : ClientOk m obtainedBy c client) (hlive : client.activity ≠ .exited)
    (hobtained : ∀ pp, obtainedBy pp = some c → obtainedBy' pp = some c)
    (hstays : ∀ port ∈ client.ports, Stays m m' port.handle) {activity : Activity}
    (htarget : ∀ companionIndex, activity.target = some companionIndex →
      ∀ port ∈ client.ports, port.companionIndex ≠ companionIndex)
    (hopening : ∀ portNumber companionIndex, activity = .opening portNumber companionIndex →
      ∃ pp, m'.Listed pp ∧ (m'.pairs pp).companionIndex = companionIndex ∧
        obtainedBy' pp = some c) :
    ClientOk m' obtainedBy' c { client with activity := activity } where
  obtained port hport := hobtained _ (h.obtained port hport)
  distinct := h.distinct
  held _ port hport := by
    obtain ⟨-, hindex, hopen⟩ := h.held hlive port hport
    have hstay := hstays port hport
    exact ⟨hstay.listed, hstay.index.trans hindex, hstay.isOpen hopen⟩
  target := htarget
  opening := hopening

/-- The other handles hold other pairs. -/
theorem other_handle (h : ClientOk m obtainedBy c client) {i : ℕ} {port other : VirtualPort}
    (hport : client.ports[i]? = some port) (hother : other ∈ client.ports.eraseIdx i) :
    other.handle ≠ port.handle := by
  intro heq
  obtain ⟨j, hne, hj⟩ := List.mem_eraseIdx_iff_getElem?.mp hother
  refine hne ((List.getElem?_inj ?_ h.distinct).mp ?_)
  · rw [List.length_map]
    exact (List.getElem?_eq_some_iff.mp hj).1
  · rw [List.getElem?_map, List.getElem?_map, hj, hport]
    exact congrArg some heq

/-- The process closes one of its handles. -/
theorem close (h : ClientOk m obtainedBy c client) {i : ℕ} {port : VirtualPort}
    (hport : client.ports[i]? = some port) (htouched : Touched m m' port.handle)
    {activity : Activity} (hexited : activity ≠ .exited → client.activity ≠ .exited)
    (htarget : ∀ companionIndex, activity.target = some companionIndex →
      ∀ other ∈ client.ports.eraseIdx i, other.companionIndex ≠ companionIndex)
    (hopening : ∀ portNumber companionIndex, activity = .opening portNumber companionIndex →
      client.activity = .opening portNumber companionIndex) :
    ClientOk m' obtainedBy c ⟨client.ports.eraseIdx i, activity⟩ where
  obtained other hother := h.obtained other (List.mem_of_mem_eraseIdx hother)
  distinct := by
    rw [← List.eraseIdx_map]
    exact h.distinct.eraseIdx i
  held hlive other hother := by
    obtain ⟨hlisted, hindex, hopen⟩ :=
      h.held (hexited hlive) other (List.mem_of_mem_eraseIdx hother)
    have hstay := Stays.of_touched htouched hlisted (h.other_handle hport hother)
    exact ⟨hstay.listed, hstay.index.trans hindex, hstay.isOpen hopen⟩
  target := htarget
  opening portNumber companionIndex hactivity := by
    obtain ⟨pp, hlisted, hindex, howner⟩ :=
      h.opening portNumber companionIndex (hopening _ _ hactivity)
    exact ⟨pp, (htouched.listed pp).mpr hlisted, ((htouched.same pp).2.2).trans hindex, howner⟩

end ClientOk

/-! ## Native calls on the control device -/

section NativeCalls

variable {m : Machine} (call : NativeCall)

/-- A native call that does not reach the driver fails; the others are its control requests. -/
theorem device_ioctl_cases (m : Machine) (inputLength outputLength : ℕ) (request : ControlRequest) :
    let reply := gcomControlIoDeviceControl m call.wdf ⟨call.id, inputLength, outputLength⟩ request
    deviceIoctl m call inputLength outputLength request = (m, .error .other) ∨
      deviceIoctl m call inputLength outputLength request =
        (reply.1, reply.2.mapError nativeError) := by
  intro reply
  unfold deviceIoctl
  split
  · exact .inl rfl
  · exact .inr rfl

/-- A create fails and leaves the pairs of the table as they were, or it adds one. -/
theorem native_create_cases (h : Consistent m) (o : CreateOutcomes) (portNumber : ULONG) :
    let result := nativeCreatePort m call o portNumber
    Consistent result.1 ∧
      ((∃ error, result.2 = .error error ∧ SameListed m result.1) ∨
        ∃ n, result.2 = .ok (.created n n) ∧ Added m result.1 m.pool.next n) := by
  intro result
  have hcontrol := h.control call.wdf ⟨call.id, 4, 8⟩ (.createPort portNumber o)
  have hcreate := h.table.create_request call.wdf ⟨call.id, 4, 8⟩ o portNumber
  unfold result nativeCreatePort
  rcases device_ioctl_cases call m 4 8 (.createPort portNumber o) with heq | heq
  · rw [heq]
    exact ⟨h, .inl ⟨_, rfl, .refl m⟩⟩
  · rw [heq]
    refine ⟨hcontrol, ?_⟩
    rcases hcreate with ⟨st, hst, hsame⟩ | ⟨n, hok, hadded⟩
    · exact .inl ⟨nativeError st, by rw [hst]; rfl, hsame⟩
    · exact .inr ⟨n, by rw [hok]; rfl, hadded⟩

/-- A destroy fails and changes nothing, or it removes the pair with the companion index. -/
theorem native_destroy_cases (h : Consistent m) (o : DestroyOutcomes) (companionIndex : ULONG) :
    let result := nativeDestroyPort m call o companionIndex
    Consistent result.1 ∧
      ((∃ error, result = (m, .error error)) ∨
        ∃ pp, m.Listed pp ∧ (m.pairs pp).companionIndex = companionIndex ∧
          result.2 = .ok .destroyed ∧ Removed m result.1 pp) := by
  intro result
  have hcontrol := h.control call.wdf ⟨call.id, 4, 0⟩ (.destroyPort companionIndex o)
  have hdestroy := h.table.destroy_request call.wdf ⟨call.id, 4, 0⟩ o companionIndex
  unfold result nativeDestroyPort
  rcases device_ioctl_cases call m 4 0 (.destroyPort companionIndex o) with heq | heq
  · rw [heq]
    exact ⟨h, .inl ⟨_, rfl⟩⟩
  · rw [heq]
    refine ⟨hcontrol, ?_⟩
    rcases hdestroy with ⟨st, hst⟩ | ⟨pp, hnamed, hok, hremoved⟩
    · exact .inl ⟨nativeError st, by rw [hst]; rfl⟩
    · obtain ⟨hlisted, hindex⟩ := h.table.named_iff.mp hnamed
      exact .inr ⟨pp, hlisted, hindex, by rw [hok]; rfl, hremoved⟩

/-- The list of a process is served. -/
def NativeCall.Served : Prop := call.opened = true ∧ call.wdf.retrieve call.id = .ok ()

/-- A list fails, or it is served and shows the pairs of the table. -/
theorem native_list_cases (m : Machine) :
    (∃ error, nativeListPorts m call = .error error ∧
      (call.Served → m.controlDevice = false)) ∨
    call.Served ∧ nativeListPorts m call =
      .ok (.ports ((m.table.slots.filterMap (portInfo m)).take gcomMaxPorts)) := by
  unfold nativeListPorts deviceIoctl
  split
  · next hclosed =>
      refine .inl ⟨_, rfl, fun hserved ↦ ?_⟩
      rw [hserved.1] at hclosed
      cases hclosed
  next hopened =>
  unfold gcomControlIoDeviceControl
  dsimp only
  split
  · next hoff => exact .inl ⟨_, rfl, fun _ ↦ by simpa using hoff⟩
  dsimp only
  unfold gcomHandleListPorts controlBuffer retrieveBuffer
  rw [if_neg (show ¬4 + 64 * 16 < 4 by omega)]
  cases hretrieve : call.wdf.retrieve call.id with
  | error st =>
      refine .inl ⟨_, rfl, fun hserved ↦ ?_⟩
      have hok := hserved.2
      rw [hretrieve] at hok
      cases hok
  | ok =>
      refine .inr ⟨⟨by simpa using hopened, hretrieve⟩, ?_⟩
      have hroom : (4 + 64 * 16 - 4) / 16 = gcomMaxPorts := rfl
      exact congrArg (fun room ↦ Except.ok (ControlOutput.ports
        ((m.table.slots.filterMap (portInfo m)).take room))) hroom

/-- The entry of a pair of the table is that of a zombie if its companion device is closed. -/
theorem stale_iff (h : TableOk m) {portNumber : ULONG} {pp : ℕ} {entry : PortInfo}
    (hlisted : m.Listed pp) (hentry : portInfo m (some (.pair pp)) = some entry) :
    (decide (entry.portNumber = portNumber) && !isTrue entry.companionSideOpen) = true ↔
      (m.pairs pp).portNumber = portNumber ∧ (m.pairs pp).companionSideOpen = 0 := by
  rw [h.port_info_eq hlisted] at hentry
  cases hentry
  rw [isTrue_boolean]
  simp [isTrue]

/-- What `tryHealZombie` finds is an entry of the list, and that of a zombie. -/
theorem stale_entry_spec {portNumber : ULONG} {ports : List PortInfo} {stale : PortInfo}
    (h : staleEntry portNumber ports = some stale) : stale ∈ ports ∧
      (decide (stale.portNumber = portNumber) && !isTrue stale.companionSideOpen) = true := by
  have hfound := List.find?_some h
  exact ⟨List.mem_of_find?_eq_some h, hfound⟩

/-- The zombie that a process goes on to destroy is a pair with the number whose companion device is
closed. -/
theorem after_list_target (h : TableOk m) {portNumber companionIndex : ULONG}
    (htarget : (afterList portNumber (nativeListPorts m call)).target = some companionIndex) :
    call.Served ∧ ∃ pp, m.Listed pp ∧ (m.pairs pp).portNumber = portNumber ∧
      (m.pairs pp).companionIndex = companionIndex ∧ (m.pairs pp).companionSideOpen = 0 := by
  rcases native_list_cases call m with ⟨error, hfails, -⟩ | ⟨hserved, hports⟩
  · rw [hfails] at htarget
    cases htarget
  · refine ⟨hserved, ?_⟩
    rw [hports] at htarget
    unfold afterList at htarget
    dsimp only at htarget
    split at htarget
    · next stale hstale =>
        injection htarget with htarget
        obtain ⟨hmem, hzombie⟩ := stale_entry_spec hstale
        obtain ⟨pp, hlisted, hentry⟩ := (TableOk.mem_ports_iff (Nat.le_refl _)).mp hmem
        obtain ⟨hnumber, hclosed⟩ := (stale_iff h hlisted hentry).mp hzombie
        refine ⟨pp, hlisted, hnumber, ?_, hclosed⟩
        rw [h.port_info_eq hlisted] at hentry
        cases hentry
        exact htarget
    · cases htarget

/-- If there is such a pair and the list is served, the process goes on to destroy it. -/
theorem after_list_heals (h : TableOk m) (hserved : call.Served) {pp : ℕ} (hlisted : m.Listed pp)
    (hclosed : (m.pairs pp).companionSideOpen = 0) :
    (afterList (m.pairs pp).portNumber (nativeListPorts m call)).target =
      some (m.pairs pp).companionIndex := by
  rcases native_list_cases call m with ⟨error, -, hoff⟩ | ⟨-, hports⟩
  · have hnone := h.cleaned (hoff hserved) _ hlisted
    cases hnone
  · rw [hports]
    unfold afterList
    dsimp only
    have hentry := h.port_info_eq hlisted
    have hmem := (TableOk.mem_ports_iff (Nat.le_refl gcomMaxPorts)).mpr ⟨pp, hlisted, hentry⟩
    cases hstale : staleEntry (m.pairs pp).portNumber
        ((m.table.slots.filterMap (portInfo m)).take gcomMaxPorts) with
    | none =>
        have hno := List.find?_eq_none.mp hstale _ hmem
        exact absurd ((stale_iff h hlisted hentry).mpr ⟨rfl, hclosed⟩) hno
    | some stale =>
        -- the entry that is found is that of a pair with the same number, so of the same pair
        obtain ⟨hfound, hzombie⟩ := stale_entry_spec hstale
        obtain ⟨qq, hlisted', hentry'⟩ := (TableOk.mem_ports_iff (Nat.le_refl _)).mp hfound
        obtain ⟨hnumber, -⟩ := (stale_iff h hlisted' hentry').mp hzombie
        have hsame : qq = pp := h.index_unique hlisted' hlisted <|
          (h.real qq hlisted').2.trans (hnumber.trans (h.real pp hlisted).2.symm)
        subst hsame
        rw [hentry] at hentry'
        cases hentry'
        rfl

end NativeCalls

/-! ## The system -/

namespace Clients

/-- Another process that is running has obtained the pair from its create. -/
def OfAnother (s : Clients ι) (c : ι) (pp : ℕ) : Prop :=
  ∃ d, d ≠ c ∧ s.obtainedBy pp = some d ∧ (s.clients d).activity ≠ .exited

/-- No process is about to destroy a pair of another one. -/
def NoneTargeted (s : Clients ι) : Prop :=
  ∀ c pp, s.machine.Listed pp →
    (s.clients c).activity.target = some (s.machine.pairs pp).companionIndex → ¬s.OfAnother c pp

/-- The invariant of the system. -/
structure Coherent (s : Clients ι) : Prop where
  consistent : Consistent s.machine
  allocated : ∀ pp c, s.obtainedBy pp = some c → pp < s.machine.pool.next
  client : ∀ c, ClientOk s.machine s.obtainedBy c (s.clients c)

/-- At the start no process has a pair. -/
theorem start_coherent (prior : List ControlEvent) : (start prior : Clients ι).Coherent :=
  ⟨.served prior, nofun, fun _ ↦ ⟨nofun, .nil, nofun, nofun, nofun⟩⟩

variable [DecidableEq ι] {s t : Clients ι}

/-- What the steps are, by where the process is. -/
inductive Moves (s : Clients ι) : ClientEvent ι → Clients ι → Prop
  | createPort {c call o portNumber healZombies} (h : (s.clients c).activity = .idle) :
      Moves s (.createPort c call o portNumber healZombies)
        (s.create c call o portNumber healZombies)
  | listPorts {c call portNumber} (h : (s.clients c).activity = .listing portNumber) :
      Moves s (.listPorts c call)
        (s.moveTo c s.machine (afterList portNumber (nativeListPorts s.machine call)))
  | destroyStale {c call o portNumber companionIndex}
      (h : (s.clients c).activity = .healing portNumber companionIndex) :
      Moves s (.destroyStale c call o)
        (s.moveTo c (nativeDestroyPort s.machine call o companionIndex).1
          (afterHeal portNumber (nativeDestroyPort s.machine call o companionIndex).2))
  | retryCreate {c call o portNumber} (h : (s.clients c).activity = .retrying portNumber) :
      Moves s (.retryCreate c call o) (s.create c call o portNumber false)
  | openPort {c call portNumber companionIndex}
      (h : (s.clients c).activity = .opening portNumber companionIndex) :
      Moves s (.openPort c call) (s.openCompanion c call portNumber companionIndex)
  | closePort {c i port} (h : (s.clients c).activity = .idle)
      (hport : (s.clients c).ports[i]? = some port) :
      Moves s (.closePort c i) (s.close c i port (.destroying port.companionIndex))
  | destroyPort {c call o companionIndex}
      (h : (s.clients c).activity = .destroying companionIndex) :
      Moves s (.destroyPort c call o)
        (s.moveTo c (nativeDestroyPort s.machine call o companionIndex).1 .idle)
  | dropHandle {c i port} (hport : (s.clients c).ports[i]? = some port) :
      Moves s (.dropHandle c i) (s.close c i port (s.clients c).activity)
  | exit {c} : Moves s (.exit c) (s.moveTo c s.machine .exited)

theorem moves_of_next {e : ClientEvent ι} (h : next s e = some t) : Moves s e t := by
  cases e with
  | createPort c call o portNumber healZombies =>
      rw [next] at h
      split at h <;> cases h
      next hactivity => exact .createPort hactivity
  | listPorts c call =>
      rw [next] at h
      split at h <;> cases h
      next hactivity => exact .listPorts hactivity
  | destroyStale c call o =>
      rw [next] at h
      split at h <;> cases h
      next hactivity => exact .destroyStale hactivity
  | retryCreate c call o =>
      rw [next] at h
      split at h <;> cases h
      next hactivity => exact .retryCreate hactivity
  | openPort c call =>
      rw [next] at h
      split at h <;> cases h
      next hactivity => exact .openPort hactivity
  | closePort c i =>
      rw [next] at h
      split at h <;> cases h
      next hactivity hport => exact .closePort hactivity hport
  | destroyPort c call o =>
      rw [next] at h
      split at h <;> cases h
      next hactivity => exact .destroyPort hactivity
  | dropHandle c i =>
      rw [next] at h
      split at h <;> cases h
      next hport => exact .dropHandle hport
  | exit c =>
      cases h
      exact .exit

/-- A create that fails. -/
theorem create_of_error {c : ι} {call : NativeCall} {o : CreateOutcomes} {portNumber : ULONG}
    {error : NativeError}
    (h : (nativeCreatePort s.machine call o portNumber).2 = .error error) (healZombies : Bool) :
    s.create c call o portNumber healZombies =
      s.moveTo c (nativeCreatePort s.machine call o portNumber).1
        (afterCreate healZombies portNumber (.error error)) := by
  unfold create
  dsimp only
  rw [h]
  rfl

/-- A create that succeeds. -/
theorem create_of_ok {c : ι} {call : NativeCall} {o : CreateOutcomes} {portNumber n i : ULONG}
    (h : (nativeCreatePort s.machine call o portNumber).2 = .ok (.created n i))
    (healZombies : Bool) :
    s.create c call o portNumber healZombies =
      { s.moveTo c (nativeCreatePort s.machine call o portNumber).1 (.opening n i) with
        obtainedBy := Function.update s.obtainedBy s.machine.pool.next (some c) } := by
  unfold create
  dsimp only
  rw [h]
  rfl

/-- A create that fails is not followed by a destroy or an open. -/
theorem after_failed_create (healZombies : Bool) (portNumber : ULONG) (error : NativeError) :
    (afterCreate healZombies portNumber (.error error)).target = none ∧
      ∀ n i, afterCreate healZombies portNumber (.error error) ≠ .opening n i := by
  cases error with
  | alreadyExists =>
      unfold afterCreate
      dsimp only
      split <;> exact ⟨rfl, nofun⟩
  | other => exact ⟨rfl, nofun⟩

namespace Coherent

/-- A step keeps the invariant if it keeps the part of the process that takes it, and no pair of
another process that is running leaves the table or is closed. -/
theorem update (h : s.Coherent) {c : ι} {m : Machine} {client : Client} {obtainedBy : ℕ → Option ι}
    (hm : Consistent m) (hnext : s.machine.pool.next ≤ m.pool.next)
    (hkeeps : ∀ pp d, s.obtainedBy pp = some d → obtainedBy pp = some d)
    (hallocated : ∀ pp d, obtainedBy pp = some d → s.obtainedBy pp = some d ∨ pp < m.pool.next)
    (hstays : ∀ d ≠ c, (s.clients d).activity ≠ .exited → ∀ pp, s.obtainedBy pp = some d →
      s.machine.Listed pp → Stays s.machine m pp)
    (hclient : ClientOk m obtainedBy c client) :
    Coherent { s.update c m client with obtainedBy := obtainedBy } where
  consistent := hm
  allocated pp d hd :=
    (hallocated pp d hd).elim (fun hold ↦ Nat.lt_of_lt_of_le (h.allocated pp d hold) hnext) id
  client d := by
    show ClientOk m obtainedBy d (Function.update s.clients c client d)
    by_cases hd : d = c
    · subst hd
      rw [Function.update_self]
      exact hclient
    · rw [Function.update_of_ne hd]
      exact (h.client d).mono (fun pp ↦ hkeeps pp d) (hstays d hd)

omit [DecidableEq ι] in
/-- The handles of a running process hold pairs that stay, when every pair of the table stays. -/
theorem handles_stay (h : s.Coherent) {c : ι} (hlive : (s.clients c).activity ≠ .exited)
    {m : Machine} (hstays : ∀ pp, s.machine.Listed pp → Stays s.machine m pp) :
    ∀ port ∈ (s.clients c).ports, Stays s.machine m port.handle :=
  fun port hport ↦ hstays _ ((h.client c).held hlive port hport).1

/-- A create takes no pair from the table, and the new pair is obtained by the process. -/
theorem create (h : s.Coherent) {c : ι} (hlive : (s.clients c).activity ≠ .exited)
    (call : NativeCall) (o : CreateOutcomes) (portNumber : ULONG) (healZombies : Bool) :
    (s.create c call o portNumber healZombies).Coherent := by
  obtain ⟨hm, ⟨error, herror, hsame⟩ | ⟨n, hok, hadded⟩⟩ :=
    native_create_cases call h.consistent o portNumber
  · have hstays (pp : ℕ) (hpp : s.machine.Listed pp) :
        Stays s.machine (nativeCreatePort s.machine call o portNumber).1 pp :=
      .of_control ((hsame.listed pp).mpr hpp) (hsame.control pp hpp)
    obtain ⟨htarget, hopening⟩ := after_failed_create healZombies portNumber error
    rw [create_of_error herror]
    refine h.update hm hsame.next_le (fun _ _ ↦ id) (fun _ _ ↦ .inl)
      (fun _ _ _ pp _ ↦ hstays pp) ?_
    refine (h.client c).move hlive (fun _ ↦ id) (h.handles_stay hlive hstays) ?_ ?_
    · intro companionIndex htargets
      rw [htarget] at htargets
      cases htargets
    · exact fun n i hactivity ↦ absurd hactivity (hopening n i)
  · have hstays (pp : ℕ) (hpp : s.machine.Listed pp) :
        Stays s.machine (nativeCreatePort s.machine call o portNumber).1 pp :=
      .of_control ((hadded.listed pp).mpr (.inr hpp)) (hadded.control pp hpp)
    have hnew : (nativeCreatePort s.machine call o portNumber).1.Listed s.machine.pool.next :=
      (hadded.listed _).mpr (.inl rfl)
    have hkeeps (pp : ℕ) (d : ι) (hd : s.obtainedBy pp = some d) :
        Function.update s.obtainedBy s.machine.pool.next (some c) pp = some d := by
      rw [Function.update_of_ne (Nat.ne_of_lt (h.allocated pp d hd))]
      exact hd
    rw [create_of_ok hok]
    refine h.update hm hadded.next_le hkeeps (fun pp d hd ↦ ?_) (fun _ _ _ pp _ ↦ hstays pp) ?_
    · by_cases hpp : pp = s.machine.pool.next
      · subst hpp
        exact .inr (hm.table.entry_lt hnew)
      · rw [Function.update_of_ne hpp] at hd
        exact .inl hd
    · refine (h.client c).move hlive (fun pp ↦ hkeeps pp c) (h.handles_stay hlive hstays) nofun ?_
      intro _ _ hopening
      cases hopening
      exact ⟨_, hnew, PortPair.companionIndex_eq hadded.created, Function.update_self ..⟩

/-- A step that leaves the driver alone. -/
theorem sameMachine (h : s.Coherent) {c : ι} {client : Client}
    (hclient : ClientOk s.machine s.obtainedBy c client) :
    (s.update c s.machine client).Coherent :=
  h.update h.consistent (Nat.le_refl _) (fun _ _ ↦ id) (fun _ _ ↦ .inl)
    (fun _ _ _ _ _ ↦ .refl) hclient

/-- A list shows the pairs that the process has open as open, so that it is about to destroy none of
them. -/
theorem listPorts (h : s.Coherent) {c : ι} (hlive : (s.clients c).activity ≠ .exited)
    (call : NativeCall) (portNumber : ULONG) :
    (s.moveTo c s.machine (afterList portNumber (nativeListPorts s.machine call))).Coherent := by
  refine h.sameMachine ((h.client c).move hlive (fun _ ↦ id) (h.handles_stay hlive fun _ ↦ .refl)
    ?_ ?_)
  · intro companionIndex htarget port hport heq
    obtain ⟨-, pp, hlisted, -, hindex, hclosed⟩ := after_list_target call h.consistent.table htarget
    obtain ⟨hheld, hindex', hopen⟩ := (h.client c).held hlive port hport
    have hsame : port.handle = pp :=
      h.consistent.table.index_unique hheld hlisted (hindex'.trans (heq.trans hindex.symm))
    subst hsame
    exact hopen hclosed
  · intro n i hopening
    unfold afterList at hopening
    split at hopening
    · split at hopening <;> cases hopening
    · cases hopening

/-- A destroy removes no pair of another running process, if none is targeted. -/
theorem destroy (h : s.Coherent) (hnone : s.NoneTargeted) {c : ι} {companionIndex : ULONG}
    (htarget : (s.clients c).activity.target = some companionIndex) (call : NativeCall)
    (o : DestroyOutcomes) {activity : Activity} (hidle : activity.target = none)
    (hopening : ∀ n i, activity ≠ .opening n i) :
    (s.moveTo c (nativeDestroyPort s.machine call o companionIndex).1 activity).Coherent := by
  have hlive : (s.clients c).activity ≠ .exited := by
    intro hexited
    rw [hexited] at htarget
    cases htarget
  have hmove {m : Machine} (hstays : ∀ port ∈ (s.clients c).ports, Stays s.machine m port.handle) :
      ClientOk m s.obtainedBy c { s.clients c with activity := activity } := by
    refine (h.client c).move hlive (fun _ ↦ id) hstays (fun i hi ↦ ?_) fun n i hi ↦ ?_
    · rw [hidle] at hi
      cases hi
    · exact absurd hi (hopening n i)
  obtain ⟨hm, ⟨error, heq⟩ | ⟨pp, hlisted, hindex, -, hremoved⟩⟩ :=
    native_destroy_cases call h.consistent o companionIndex
  · rw [heq]
    exact h.sameMachine (hmove (h.handles_stay hlive fun _ ↦ .refl))
  · have hstays (qq : ℕ) (hqq : s.machine.Listed qq) (hne : qq ≠ pp) :
        Stays s.machine (nativeDestroyPort s.machine call o companionIndex).1 qq :=
      .of_control ((hremoved.listed qq).mpr ⟨hne, hqq⟩) (hremoved.control qq hqq hne)
    refine h.update hm hremoved.next_le (fun _ _ ↦ id) (fun _ _ ↦ .inl) ?_ (hmove ?_)
    · intro d hd hrunning qq hobtained hqq
      refine hstays qq hqq fun heq ↦ ?_
      subst heq
      exact hnone c qq hlisted (hindex ▸ htarget) ⟨d, hd, hobtained, hrunning⟩
    · intro port hport
      obtain ⟨hheld, hindex', -⟩ := (h.client c).held hlive port hport
      refine hstays _ hheld fun heq ↦ ?_
      subst heq
      exact (h.client c).target companionIndex htarget port hport (hindex'.symm.trans hindex)

/-- The companion device that a process opens leads to its pair. -/
theorem openCompanion (h : s.Coherent) {c : ι} {portNumber companionIndex : ULONG}
    (hactivity : (s.clients c).activity = .opening portNumber companionIndex) (call : NativeCall) :
    (s.openCompanion c call portNumber companionIndex).Coherent := by
  have hlive : (s.clients c).activity ≠ .exited := by
    rw [hactivity]
    exact nofun
  obtain ⟨pp, hlisted, hindex, hobtained⟩ :=
    (h.client c).opening portNumber companionIndex hactivity
  have hleads : s.machine.context (.gcom companionIndex) = pp := by
    rw [← hindex]
    exact h.consistent.linked pp hlisted
  have hcases := open_port_cases s.machine call companionIndex
  rw [hleads] at hcases
  unfold Clients.openCompanion
  rcases hcases with hfails | ⟨hopened, htouched, hclosed, hopen⟩
  · rw [hfails]
    exact h.sameMachine ((h.client c).move hlive (fun _ ↦ id) (h.handles_stay hlive fun _ ↦ .refl)
      nofun nofun)
  rcases hresult : GhostCom.openPort s.machine call companionIndex with ⟨m, handle⟩
  rw [hresult] at hopened htouched hopen
  obtain rfl : handle = some pp := hopened
  have hstays (qq : ℕ) (hqq : s.machine.Listed qq) : Stays s.machine m qq := by
    by_cases heq : qq = pp
    · subst heq
      refine ⟨(htouched.listed qq).mpr hqq, htouched.companionIndex, fun _ ↦ ?_⟩
      show (m.pairs qq).companionSideOpen ≠ 0
      rw [show (m.pairs qq).companionSideOpen = 1 from hopen]
      decide
    · exact .of_touched htouched hqq heq
  refine h.update (htouched.consistent h.consistent) (Nat.le_of_eq htouched.next.symm)
    (fun _ _ ↦ id) (fun _ _ ↦ .inl) (fun _ _ _ qq _ ↦ hstays qq) ⟨?_, ?_, ?_, nofun, nofun⟩
  · intro port hport
    rcases List.mem_append.mp hport with hold | hnew
    · exact (h.client c).obtained port hold
    · obtain rfl := List.mem_singleton.mp hnew
      exact hobtained
  · -- the pair was closed, and those of the other handles are open
    rw [List.map_append, List.nodup_append]
    refine ⟨(h.client c).distinct, List.nodup_singleton _, ?_⟩
    intro handle hold handle' hnew heq
    obtain ⟨port, hport, rfl⟩ := List.mem_map.mp hold
    obtain rfl := List.mem_singleton.mp hnew
    obtain ⟨-, -, hheld⟩ := (h.client c).held hlive port hport
    rw [heq] at hheld
    exact hheld hclosed
  · intro _ port hport
    rcases List.mem_append.mp hport with hold | hnew
    · obtain ⟨hheld, hindex', hheldOpen⟩ := (h.client c).held hlive port hold
      have hstay := hstays _ hheld
      exact ⟨hstay.listed, hstay.index.trans hindex', hstay.isOpen hheldOpen⟩
    · obtain rfl := List.mem_singleton.mp hnew
      have hstay := hstays pp hlisted
      refine ⟨hstay.listed, hstay.index.trans hindex, ?_⟩
      rw [show (m.pairs pp).companionSideOpen = 1 from hopen]
      decide

/-- A process closes a handle of its own. -/
theorem close (h : s.Coherent) {c : ι} {i : ℕ} {port : VirtualPort}
    (hport : (s.clients c).ports[i]? = some port) {activity : Activity}
    (hexited : activity ≠ .exited → (s.clients c).activity ≠ .exited)
    (htarget : ∀ companionIndex, activity.target = some companionIndex →
      ∀ other ∈ (s.clients c).ports.eraseIdx i, other.companionIndex ≠ companionIndex)
    (hopening : ∀ n k, activity = .opening n k → (s.clients c).activity = .opening n k) :
    (s.close c i port activity).Coherent := by
  have htouched := close_handle_touched s.machine port.handle
  have hobtained := (h.client c).obtained port (List.mem_of_getElem? hport)
  refine h.update (htouched.consistent h.consistent) (Nat.le_of_eq htouched.next.symm)
    (fun _ _ ↦ id) (fun _ _ ↦ .inl) ?_
    ((h.client c).close hport htouched hexited htarget hopening)
  intro d hd _ pp hother hlisted
  refine .of_touched htouched hlisted fun heq ↦ hd ?_
  subst heq
  rw [hobtained] at hother
  injection hother with hother
  exact hother.symm

/-- Every step keeps the invariant, as long as no process is about to destroy a pair of another. -/
theorem step (h : s.Coherent) (hnone : s.NoneTargeted) {e : ClientEvent ι}
    (hnext : next s e = some t) : t.Coherent := by
  cases moves_of_next hnext with
  | createPort hactivity => exact h.create (by rw [hactivity]; exact nofun) ..
  | listPorts hactivity => exact h.listPorts (by rw [hactivity]; exact nofun) ..
  | destroyStale hactivity =>
      refine h.destroy hnone (by rw [hactivity]; rfl) _ _ ?_ ?_
      · unfold afterHeal
        split <;> rfl
      · unfold afterHeal
        intro n i
        split <;> exact nofun
  | retryCreate hactivity => exact h.create (by rw [hactivity]; exact nofun) ..
  | openPort hactivity => exact h.openCompanion hactivity _
  | @closePort c i port hactivity hport =>
      have hlive : (s.clients c).activity ≠ .exited := by
        rw [hactivity]
        exact nofun
      refine h.close hport (fun _ ↦ hlive) ?_ nofun
      rintro _ ⟨⟩ other hother heq
      obtain ⟨hlisted, hindex, -⟩ := (h.client c).held hlive other (List.mem_of_mem_eraseIdx hother)
      obtain ⟨hlisted', hindex', -⟩ := (h.client c).held hlive port (List.mem_of_getElem? hport)
      exact (h.client c).other_handle hport hother <|
        h.consistent.table.index_unique hlisted hlisted' (hindex.trans (heq.trans hindex'.symm))
  | destroyPort hactivity => exact h.destroy hnone (by rw [hactivity]; rfl) _ _ rfl nofun
  | @dropHandle c i port hport =>
      refine h.close hport id (fun companionIndex htarget other hother ↦ ?_) fun _ _ ↦ id
      exact (h.client c).target companionIndex htarget other (List.mem_of_mem_eraseIdx hother)
  | @exit c =>
      have hclient := h.client c
      exact h.sameMachine ⟨hclient.obtained, hclient.distinct, fun hlive ↦ absurd rfl hlive, nofun,
        nofun⟩

end Coherent

end Clients

end GhostCom
