import GhostCom.Library.Transition
import GhostCom.PortTable.Names

/-!
# Child descriptions and shadow devices

The child descriptions that creates report and destroys report as missing, and the devices for them
in the Ports class, which `GcomEvtChildListCreateDevice` makes at some later time and to whose
registry keys the driver writes the name of the port.
-/

namespace GhostCom

open Transition (EveryStep)

/-! ## Child descriptions -/

/-- A create gets to the child description of its port. -/
def CreateOutcomes.Reaches (o : CreateOutcomes) (m : Machine) (requestedPortNumber n : ULONG) :
    Prop :=
  m.table.firstFree ≠ none ∧ choosePortNumber m o.others requestedPortNumber = .ok n ∧
    o.Initialises ∧ o.com.Completes m o.others (.gcomSerial n) (.com n)

/-- The companion device, which comes after the child description, is completed. -/
def CreateOutcomes.Finishes (o : CreateOutcomes) (m : Machine) (n : ULONG) : Prop :=
  o.companion.Completes m o.others (.gcom n) (.gcom n)

/-- The child description of a create is reported as present. -/
def CreateOutcomes.AddsChild (o : CreateOutcomes) : Prop :=
  o.childList = true ∧ o.addChild = .ok ()

/-- The child description of a destroy is reported as missing. -/
def DestroyOutcomes.RemovesChild (o : DestroyOutcomes) : Prop :=
  o.childList = true ∧ o.markMissing = .ok ()

/-- A create request gets to `GcomPortPairCreate`. -/
def Machine.ServesCreate (m : Machine) (wdf : Wdf) (req : IoctlRequest) : Prop :=
  m.controlDevice = true ∧ bufferUsable wdf req.id 4 req.inputLength = true ∧
    bufferUsable wdf req.id 8 req.outputLength = true

/-- An event reports the child descriptions as it should: a create that gets there reports its own
if and only if it does not fail afterwards, and everything that is destroyed is reported missing. -/
def ControlEvent.Reports (m : Machine) : ControlEvent → Prop
  | .request wdf req (.createPort requestedPortNumber o) => m.ServesCreate wdf req →
      ∀ n, o.Reaches m requestedPortNumber n → (o.AddsChild ↔ o.Finishes m n)
  | .request wdf req (.destroyPort companionIndex o) =>
      m.reply (.request wdf req (.destroyPort companionIndex o)) = some (.ok .destroyed) →
        o.RemovesChild
  | .cleanup o => ∀ pp, m.Listed pp → (o pp).RemovesChild
  | _ => True

/-- The child descriptions are those of the ports. -/
def Machine.ChildrenFollow (m : Machine) : Prop := m.children = m.registry.numbers

section Creates

variable {m x : Machine} {o : CreateOutcomes} {pp slotIndex : ℕ} {n : ULONG}

theorem is_ok_iff {outcome : Outcome} : outcome.isOk = true ↔ outcome = .ok () := by
  cases outcome with
  | ok => exact ⟨fun _ ↦ rfl, fun _ ↦ rfl⟩
  | error => exact ⟨nofun, nofun⟩

/-- The child descriptions when the COM port has been registered. -/
theorem register_children (m : Machine) (o : CreateOutcomes) (n : ULONG) :
    (o.AddsChild → (registerComPort m o n).children = insert n m.children) ∧
      (¬o.AddsChild → (registerComPort m o n).children = m.children) := by
  have hadds : (o.childList && o.addChild.isOk) = true ↔ o.AddsChild := by
    rw [Bool.and_eq_true, is_ok_iff]
    rfl
  exact ⟨fun h ↦ if_pos (hadds.mpr h), fun h ↦ if_neg fun hif ↦ h (hadds.mp hif)⟩

/-- The devices of a pair: the child description is reported when the COM device is completed, and
nothing takes it back. -/
theorem create_devices_children (hregistered : Unregistered m x)
    (hindex : (x.pairs pp).companionIndex = n) :
    let result := createDevices x o slotIndex pp n
    (o.com.Completes m o.others (.gcomSerial n) (.com n) →
      result.1.children = (registerComPort m o n).children ∧
        ((∃ qq, result.2 = .ok qq) ↔ o.Finishes m n)) ∧
    (¬o.com.Completes m o.others (.gcomSerial n) (.com n) →
      result.1.children = m.children ∧ ∃ st, result.2 = .error st) := by
  intro result
  rw [← completes_congr hregistered.devices]
  rcases hcom : createDevice x o.others .com n pp o.com with ⟨y, st | _⟩
  · -- no COM device is completed
    have hresult : result = (failCleanup y slotIndex pp, .error st) := create_devices_com_error hcom
    refine ⟨fun hcompletes ↦ ?_, fun _ ↦ ?_⟩
    · obtain ⟨_, hy, -⟩ := com_port_created hindex hcompletes
      rw [hcom] at hy
      cases hy
    · have hdevice := SameRegistrations.create_device x o.others .com n pp o.com
      rw [hcom] at hdevice
      rw [hresult]
      exact ⟨(Unregistered.fail_cleanup y slotIndex pp).children.trans
        (hdevice.children.trans hregistered.children), st, rfl⟩
  have hcompletes := completes_of_ok .com pp hcom
  refine ⟨fun _ ↦ ?_, fun hnot ↦ absurd hcompletes hnot⟩
  obtain ⟨y', hy, hcreate, hyindex, hdevices, -⟩ := com_port_created hindex hcompletes
  obtain rfl : y' = y := congrArg Prod.fst (hy.symm.trans hcom)
  rw [hregistered.devices] at hdevices
  have hfinishes : o.companion.Completes (registerComPort y' o n) o.others (.gcom n) (.gcom n) ↔
      o.Finishes m n := (companion_completes_iff hdevices).2
  have hchildren : (registerComPort y' o n).children = (registerComPort m o n).children := by
    have hdevice := SameRegistrations.create_device x o.others .com n pp o.com
    rw [hcom] at hdevice
    have hsame : y'.children = m.children := hdevice.children.trans hregistered.children
    simp only [registerComPort, hsame]
  have hcompanion := SameRegistrations.create_device (registerComPort y' o n) o.others .companion n
    pp o.companion
  rcases heq : createDevice (registerComPort y' o n) o.others .companion n pp o.companion with
    ⟨z, st | _⟩
  · -- the COM device is destroyed again, but its child description stays
    have hresult : result = (failCleanup (gcomComPortDestroy z o.destroy pp) slotIndex pp,
        .error st) := by
      simp only [result, createDevices, hcreate, gcomCompanionCreate, hyindex, heq]
    rw [heq] at hcompanion
    rw [hresult, ← hfinishes]
    refine ⟨?_, ⟨fun hsuccess ↦ ?_, fun hfinish ↦ ?_⟩⟩
    · refine (Unregistered.fail_cleanup _ slotIndex pp).children.trans ?_
      refine (SameRegistrations.com_port_destroy z o.destroy pp).children.trans ?_
      exact hcompanion.children.trans hchildren
    · obtain ⟨_, hok⟩ := hsuccess
      cases hok
    · obtain ⟨_, hok, -⟩ := create_device_completes .companion pp hfinish
      have hsame := heq.symm.trans hok
      cases hsame
  · have hresult : result = (z, .ok pp) := by
      simp only [result, createDevices, hcreate, gcomCompanionCreate, hyindex, heq]
    rw [heq] at hcompanion
    rw [hresult, ← hfinishes]
    exact ⟨hcompanion.children.trans hchildren, ⟨fun _ ↦ completes_of_ok .companion pp heq,
      fun _ ↦ ⟨pp, rfl⟩⟩⟩

/-- What a create does to the child descriptions, and when it succeeds. -/
theorem create_children (m : Machine) (o : CreateOutcomes) (requestedPortNumber : ULONG) :
    let result := gcomPortPairCreate m o requestedPortNumber
    (∀ n, o.Reaches m requestedPortNumber n →
      result.1.children = (registerComPort m o n).children ∧
        ((∃ pp, result.2 = .ok pp) ↔ o.Finishes m n)) ∧
    ((∀ n, ¬o.Reaches m requestedPortNumber n) →
      result.1.children = m.children ∧ ∃ st, result.2 = .error st) := by
  intro result
  cases hfree : m.table.firstFree with
  | none =>
      refine ⟨fun n hreaches ↦ absurd hfree hreaches.1, fun _ ↦ ?_⟩
      have hresult : result = (m, .error insufficientResources) := by
        simp only [result, gcomPortPairCreate, hfree]
      rw [hresult]
      exact ⟨rfl, _, rfl⟩
  | some i =>
  cases hnumber : choosePortNumber m o.others requestedPortNumber with
  | error st =>
      refine ⟨fun n hreaches ↦ ?_, fun _ ↦ ?_⟩
      · have hchoose := hnumber.symm.trans hreaches.2.1
        cases hchoose
      · have hresult : result = (m, .error st) := by
          simp only [result, gcomPortPairCreate, hfree, hnumber]
        rw [hresult]
        exact ⟨rfl, st, rfl⟩
  | ok n =>
  by_cases hpair : o.pair = true
  case neg =>
    refine ⟨fun n hreaches ↦ absurd hreaches.2.2.1.1 hpair, fun _ ↦ ?_⟩
    have hresult : result =
        ({ m with table := (m.table.reserve i).clear i }, .error insufficientResources) := by
      simp only [result, gcomPortPairCreate, hfree, hnumber, hpair, Bool.not_false, if_true]
    rw [hresult]
    exact ⟨rfl, _, rfl⟩
  obtain ⟨-, hregistered, hcontrol⟩ := with_init_spec m o i n
  have hok := init_pair_ok_iff (withPair m i n) o m.pool.next
  rcases hinit : initPair (withPair m i n) o m.pool.next with ⟨x, st | _⟩
  · -- a ring or a lock could not be had
    have hresult : result = (failAlloc x i m.pool.next, .error st) :=
      create_of_init hfree hnumber hpair hinit
    rw [withInit, hinit] at hregistered
    rw [hinit] at hok
    refine ⟨fun n hreaches ↦ ?_, fun _ ↦ ?_⟩
    · have hinitialised := hok.mpr hreaches.2.2.1.2
      cases hinitialised
    · rw [hresult]
      exact ⟨(hregistered.trans (.fail_alloc x i _)).children, st, rfl⟩
  have hresult : result = createDevices { x with table := x.table.publish i m.pool.next } o i
      m.pool.next n := create_of_init hfree hnumber hpair hinit
  rw [withInit, hinit] at hregistered hcontrol
  rw [hinit] at hok
  have hreaches (n' : ULONG) : o.Reaches m requestedPortNumber n' ↔
      n = n' ∧ o.com.Completes m o.others (.gcomSerial n') (.com n') := by
    unfold CreateOutcomes.Reaches
    rw [hfree, hnumber, Except.ok.injEq]
    constructor
    · intro h
      exact ⟨h.2.1, h.2.2.2⟩
    · intro h
      exact ⟨Option.some_ne_none i, h.1, ⟨hpair, hok.mp rfl⟩, h.2⟩
  obtain ⟨hcompletes, hincomplete⟩ :=
    @create_devices_children m { x with table := x.table.publish i m.pool.next } o m.pool.next i n
      ⟨hregistered.devices, hregistered.serialComm, hregistered.children⟩
      (congrArg PairControl.companionIndex hcontrol)
  rw [hresult]
  refine ⟨fun n' hn' ↦ ?_, fun hnone ↦ hincomplete fun h ↦ hnone n ((hreaches n).mpr ⟨rfl, h⟩)⟩
  obtain ⟨rfl, hcom⟩ := (hreaches n').mp hn'
  exact hcompletes hcom

end Creates

/-- What destroying a pair does to the child descriptions. -/
theorem destroy_children (m : Machine) (o : DestroyOutcomes) (pp : ℕ) :
    let m' := gcomPortPairDestroy m o pp
    (o.RemovesChild → m'.children = m.children.erase (m.pairs pp).portNumber) ∧
      (¬o.RemovesChild → m'.children = m.children) := by
  intro m'
  let x := removeFromTable (deactivate m pp) pp
  have hx : x.pairs pp = { m.pairs pp with active := false } ∧ x.children = m.children := by
    have hpair : (deactivate m pp).pairs pp = { m.pairs pp with active := false } :=
      Function.update_self ..
    unfold x removeFromTable
    split <;> exact ⟨hpair, rfl⟩
  have hnumber : (x.pairs pp).portNumber = (m.pairs pp).portNumber := by rw [hx.1]
  have hchildren : m'.children = (markChildMissing x o pp).children := by
    refine (Unregistered.release_pair _ pp).children.trans ?_
    refine (SameRegistrations.destroy_device _ .companion pp).children.trans ?_
    exact (SameRegistrations.com_port_destroy (markChildMissing x o pp) o.key pp).children
  have hremoves : (o.childList && o.markMissing.isOk) = true ↔ o.RemovesChild := by
    rw [Bool.and_eq_true, is_ok_iff]
    rfl
  rw [hchildren]
  constructor
  · intro h
    exact (if_pos (hremoves.mpr h)).trans (by rw [hx.2, hnumber])
  · intro h
    exact (if_neg fun hif ↦ h (hremoves.mp hif)).trans hx.2

/-- What the second loop of the cleanup does to the child descriptions. -/
theorem destroy_pairs_children {m : Machine} (o : ℕ → DestroyOutcomes) {toDestroy : List ℕ}
    (hnodup : toDestroy.Nodup) (n : ULONG) :
    n ∈ (destroyPairs m o toDestroy).children ↔
      n ∈ m.children ∧ ∀ pp ∈ toDestroy, (m.pairs pp).portNumber = n → ¬(o pp).RemovesChild := by
  induction toDestroy generalizing m with
  | nil => exact ⟨fun h ↦ ⟨h, fun pp hpp ↦ absurd hpp List.not_mem_nil⟩, And.left⟩
  | cons pp rest ih =>
      obtain ⟨hfresh, hrest⟩ := List.nodup_cons.mp hnodup
      let x := gcomPortPairDestroy (deactivate m pp) (o pp) pp
      have hstep : n ∈ x.children ↔
          n ∈ m.children ∧ ((m.pairs pp).portNumber = n → ¬(o pp).RemovesChild) := by
        have hnumber : ((deactivate m pp).pairs pp).portNumber = (m.pairs pp).portNumber :=
          congrArg (·.portNumber) (Function.update_self pp _ m.pairs)
        obtain ⟨hremoves, hkeeps⟩ := destroy_children (deactivate m pp) (o pp) pp
        rw [hnumber] at hremoves
        by_cases h : (o pp).RemovesChild
        · rw [hremoves h, Finset.mem_erase]
          constructor
          · intro hmem
            exact ⟨hmem.2, fun heq ↦ absurd heq.symm hmem.1⟩
          · intro hmem
            exact ⟨fun heq ↦ hmem.2 heq.symm h, hmem.1⟩
        · rw [hkeeps h]
          exact ⟨fun hmem ↦ ⟨hmem, fun _ ↦ h⟩, And.left⟩
      have honly : OnlyPair pp m x :=
        (OnlyPair.of_update rfl : OnlyPair pp m (deactivate m pp)).trans (destroy_only _ (o pp) pp)
      show n ∈ (destroyPairs x o rest).children ↔ _
      rw [ih hrest, hstep, List.forall_mem_cons, and_assoc]
      apply and_congr_right
      intro _
      apply and_congr_right
      intro _
      refine forall₂_congr fun qq hqq ↦ ?_
      rw [honly qq fun heq ↦ hfresh (heq ▸ hqq)]

/-- A create request that is served is a create. -/
theorem serve_create {m : Machine} {wdf : Wdf} {req : IoctlRequest} (requestedPortNumber : ULONG)
    (o : CreateOutcomes) (h : m.ServesCreate wdf req) :
    m.serve (.request wdf req (.createPort requestedPortNumber o)) =
      (gcomPortPairCreate m o requestedPortNumber).1 := by
  obtain ⟨hon, hinput, houtput⟩ := h
  have hinput' := (control_buffer_cases wdf req.id 4 req.inputLength
    invalidParameter).resolve_right (by simp [hinput])
  have houtput' := (control_buffer_cases wdf req.id 8 req.outputLength
    invalidParameter).resolve_right (by simp [houtput])
  show (gcomControlIoDeviceControl m wdf req (.createPort requestedPortNumber o)).1 = _
  simp only [gcomControlIoDeviceControl, hon, gcomHandleCreatePort, hinput'.2, houtput'.2,
    Bool.not_true, Bool.false_eq_true, if_false]
  split <;> next heq => rw [heq]

/-- One that is not served changes nothing. -/
theorem serve_create_refused {m : Machine} {wdf : Wdf} {req : IoctlRequest}
    (requestedPortNumber : ULONG) (o : CreateOutcomes) (h : ¬m.ServesCreate wdf req) :
    m.serve (.request wdf req (.createPort requestedPortNumber o)) = m := by
  show (gcomControlIoDeviceControl m wdf req (.createPort requestedPortNumber o)).1 = m
  unfold gcomControlIoDeviceControl
  split
  · rfl
  next hon =>
  dsimp only
  unfold gcomHandleCreatePort
  rcases control_buffer_cases wdf req.id 4 req.inputLength invalidParameter with
    ⟨hinput, hbuffer⟩ | ⟨-, hbuffer⟩
  · rcases control_buffer_cases wdf req.id 8 req.outputLength invalidParameter with
      ⟨houtput, -⟩ | ⟨-, hbuffer'⟩
    · exact absurd ⟨by simpa using hon, hinput, houtput⟩ h
    · rw [hbuffer, hbuffer']
  · rw [hbuffer]

/-- A destroy request is refused, or it is the destroy of a pair of the table. -/
theorem destroy_request_cases (m : Machine) (wdf : Wdf) (req : IoctlRequest) (o : DestroyOutcomes)
    (companionIndex : ULONG) :
    let result := gcomControlIoDeviceControl m wdf req (.destroyPort companionIndex o)
    (∃ st, result = (m, .error st)) ∨ ∃ i pp, m.table.At i pp ∧
      result = (gcomPortPairDestroy (deactivate { m with table := m.table.clear i } pp) o pp,
        .ok .destroyed) := by
  intro result
  unfold result gcomControlIoDeviceControl
  split
  · exact .inl ⟨_, rfl⟩
  dsimp only
  unfold gcomHandleDestroyPort
  split
  · exact .inl ⟨_, rfl⟩
  split
  · exact .inl ⟨_, rfl⟩
  · next i pp hfind => exact .inr ⟨i, pp, (find_pair hfind).1, rfl⟩

namespace TableOk

variable {m : Machine}

/-- No port has the number that a create chooses. -/
theorem number_unused (h : TableOk m) {others : LinkName → Bool} {requestedPortNumber n : ULONG}
    (hchoose : choosePortNumber m others requestedPortNumber = .ok n) :
    n ∉ m.registry.numbers := by
  rw [h.mem_registry]
  rintro ⟨pp, hpp, hnumber⟩
  exact h.number_ne (choose_unused hchoose) hpp hnumber

/-- A create keeps the child descriptions those of the ports if and only if it reports its own when
it succeeds, and only then. -/
theorem create_follows (h : TableOk m) (hfollow : m.ChildrenFollow) (o : CreateOutcomes)
    (requestedPortNumber : ULONG)
    (h' : TableOk (gcomPortPairCreate m o requestedPortNumber).1) :
    (gcomPortPairCreate m o requestedPortNumber).1.ChildrenFollow ↔
      ∀ n, o.Reaches m requestedPortNumber n → (o.AddsChild ↔ o.Finishes m n) := by
  have hpresent := (create_cases m o requestedPortNumber).1.controlDevice
  obtain ⟨hreached, hunreached⟩ := create_children m o requestedPortNumber
  by_cases hreaches : ∃ n, o.Reaches m requestedPortNumber n
  case neg =>
    have hnone : ∀ n, ¬o.Reaches m requestedPortNumber n := not_exists.mp hreaches
    obtain ⟨hchildren, st, hst⟩ := hunreached hnone
    rcases h.create_spec o requestedPortNumber with ⟨_, -, hsame⟩ | ⟨_, hok, -⟩
    · refine iff_of_true ?_ fun n hn ↦ absurd hn (hnone n)
      unfold Machine.ChildrenFollow
      rw [hchildren, h.registry_same h' hsame hpresent]
      exact hfollow
    · rw [hok] at hst
      cases hst
  obtain ⟨n, hn⟩ := hreaches
  have hunused : n ∉ m.registry.numbers := h.number_unused hn.2.1
  have hunique (P : ULONG → Prop) : (∀ n', o.Reaches m requestedPortNumber n' → P n') ↔ P n := by
    constructor
    · intro hall
      exact hall n hn
    · intro hp n' hn'
      rwa [← Except.ok.inj (hn.2.1.symm.trans hn'.2.1)]
  obtain ⟨hchildren, hsucceeds⟩ := hreached n hn
  obtain ⟨hadds, hkeeps⟩ := register_children m o n
  rw [hunique, ← hsucceeds]
  unfold Machine.ChildrenFollow
  rw [hchildren]
  rcases h.create_spec o requestedPortNumber with ⟨st, hst, hsame⟩ | ⟨n', hok, hadded⟩
  · -- the create fails
    have hfails : ¬∃ pp, (gcomPortPairCreate m o requestedPortNumber).2 = .ok pp := by
      rintro ⟨_, hok⟩
      rw [hst] at hok
      cases hok
    rw [h.registry_same h' hsame hpresent, iff_false_right hfails]
    by_cases hadd : o.AddsChild
    · rw [hadds hadd, hfollow]
      exact iff_of_false (fun heq ↦ hunused (heq ▸ Finset.mem_insert_self ..)) (not_not.mpr hadd)
    · rw [hkeeps hadd]
      exact iff_of_true hfollow hadd
  · -- the create succeeds
    obtain rfl : n' = n := by
      obtain ⟨-, ⟨_, hst, -⟩ | ⟨_, k, -, hchoose, -, -, hcontrol, -⟩⟩ :=
        create_cases m o requestedPortNumber
      · rw [hok] at hst
        cases hst
      · have hk : k = n := Except.ok.inj (hchoose.symm.trans hn.2.1)
        have hnumber := congrArg PairControl.portNumber (hadded.created.symm.trans hcontrol)
        exact hnumber.trans hk
    have hsuccess : ∃ pp, (gcomPortPairCreate m o requestedPortNumber).2 = .ok pp := ⟨_, hok⟩
    rw [h.registry_added h' hadded hpresent, iff_true_right hsuccess]
    by_cases hadd : o.AddsChild
    · rw [hadds hadd, hfollow]
      exact iff_of_true rfl hadd
    · rw [hkeeps hadd, hfollow]
      exact iff_of_false (fun heq ↦ hunused (heq ▸ Finset.mem_insert_self ..)) hadd

/-- A destroy keeps the child descriptions those of the ports if and only if it reports the one of
its port missing. -/
theorem destroy_follows (h : TableOk m) (hfollow : m.ChildrenFollow) {i pp : ℕ}
    (hslot : m.table.At i pp) (o : DestroyOutcomes) :
    (gcomPortPairDestroy (deactivate { m with table := m.table.clear i } pp) o pp).ChildrenFollow ↔
      o.RemovesChild := by
  let x := deactivate { m with table := m.table.clear i } pp
  have hlisted : m.Listed pp := List.mem_of_getElem? hslot
  have hnot : some (.pair pp) ∉ (m.table.clear i).slots :=
    fun hmem ↦ ((h.mem_clear hslot).mp hmem).1 rfl
  have hpresent := (destroy_kept x o hnot).1.controlDevice
  have hregistry : (gcomPortPairDestroy x o pp).registry = { m.registry with
      numbers := m.registry.numbers.erase (m.pairs pp).portNumber } :=
    h.registry_removed (h.destroyed hslot o) hlisted (h.destroy_spec hslot o) hpresent
  have hnumber : (x.pairs pp).portNumber = (m.pairs pp).portNumber :=
    congrArg (·.portNumber) (Function.update_self pp _ m.pairs)
  obtain ⟨hremoves, hkeeps⟩ := destroy_children x o pp
  show (gcomPortPairDestroy x o pp).children = (gcomPortPairDestroy x o pp).registry.numbers ↔ _
  rw [hregistry]
  by_cases hremove : o.RemovesChild
  · rw [hremoves hremove, hnumber, show x.children = m.registry.numbers from hfollow]
    exact iff_of_true rfl hremove
  · rw [hkeeps hremove, show x.children = m.registry.numbers from hfollow]
    refine iff_of_false (fun heq ↦ ?_) hremove
    have hmem : (m.pairs pp).portNumber ∈ m.registry.numbers :=
      h.mem_registry.mpr ⟨pp, hlisted, rfl⟩
    rw [heq] at hmem
    exact Finset.notMem_erase _ _ hmem

/-- The cleanup keeps the child descriptions those of the ports, of which there are none afterwards,
if and only if it reports all of them missing. -/
theorem cleanup_follows (h : TableOk m) (hfollow : m.ChildrenFollow) (o : ℕ → DestroyOutcomes) :
    (gcomEvtSelfManagedIoCleanup m o).ChildrenFollow ↔
      ∀ pp, m.Listed pp → (o pp).RemovesChild := by
  obtain ⟨heq, hnodup, hlisted⟩ := h.collect_pairs_listed (List.range gcomMaxPorts)
  let x := collectPairs m (List.range gcomMaxPorts)
  have hcollected (pp : ℕ) : pp ∈ x.2 ↔ m.Listed pp := by
    rw [hlisted pp]
    exact ⟨.inr, fun hpp ↦ hpp.resolve_left (h.collect_pairs_empty pp)⟩
  have hchildren (n : ULONG) : n ∈ (gcomEvtSelfManagedIoCleanup m o).children ↔
      n ∈ m.children ∧
        ∀ pp, m.Listed pp → (m.pairs pp).portNumber = n → ¬(o pp).RemovesChild := by
    show n ∈ (destroyPairs x.1 o x.2).children ↔ _
    rw [destroy_pairs_children o hnodup, show x.1 = { m with table := x.1.table } from heq]
    exact and_congr_right fun _ ↦ forall_congr' fun pp ↦ by rw [hcollected]
  have hnone : (gcomEvtSelfManagedIoCleanup m o).registry.numbers = ∅ := by
    refine Finset.eq_empty_of_forall_notMem fun n hn ↦ ?_
    obtain ⟨pp, hpp, -⟩ := (h.cleanup o).mem_registry.mp hn
    exact h.cleanup_lists_none o pp hpp
  unfold Machine.ChildrenFollow
  rw [hnone, Finset.eq_empty_iff_forall_notMem]
  constructor
  · intro hempty pp hpp
    by_contra hkept
    -- no other pair has the number
    refine hempty (m.pairs pp).portNumber ((hchildren _).mpr ⟨?_, fun qq hqq hnumber ↦ ?_⟩)
    · rw [hfollow]
      exact h.mem_registry.mpr ⟨pp, hpp, rfl⟩
    · have hsame : qq = pp := h.index_unique hqq hpp (by
        rw [(h.real qq hqq).2, (h.real pp hpp).2, hnumber])
      rwa [hsame]
  · intro hremoves n hn
    obtain ⟨hmem, hkept⟩ := (hchildren n).mp hn
    rw [hfollow] at hmem
    obtain ⟨pp, hpp, hnumber⟩ := h.mem_registry.mp hmem
    exact hkept pp hpp hnumber (hremoves pp hpp)

/-- An event keeps the child descriptions those of the ports if and only if it reports them as it
should. -/
theorem serve_follows (h : TableOk m) (hfollow : m.ChildrenFollow) (event : ControlEvent) :
    (m.serve event).ChildrenFollow ↔ event.Reports m := by
  have h' := h.serve event
  cases event with
  | cleanup o => exact h.cleanup_follows hfollow o
  | request wdf req request =>
      cases request with
      | createPort requestedPortNumber o =>
          by_cases hserves : m.ServesCreate wdf req
          · have hserve := serve_create (o := o) requestedPortNumber hserves
            rw [hserve] at h' ⊢
            rw [h.create_follows hfollow o requestedPortNumber h']
            exact ⟨fun hreports _ ↦ hreports, fun hreports ↦ hreports hserves⟩
          · rw [serve_create_refused requestedPortNumber o hserves]
            exact iff_of_true hfollow fun hserves' ↦ absurd hserves' hserves
      | destroyPort companionIndex o =>
          rcases destroy_request_cases m wdf req o companionIndex with
            ⟨st, heq⟩ | ⟨i, pp, hslot, heq⟩
          · have hserve : m.serve (.request wdf req (.destroyPort companionIndex o)) = m :=
              congrArg Prod.fst heq
            have hreply : m.reply (.request wdf req (.destroyPort companionIndex o)) =
                some (.error st) := congrArg some (congrArg Prod.snd heq)
            rw [hserve]
            refine iff_of_true hfollow fun hok ↦ ?_
            rw [hreply] at hok
            cases hok
          · have hserve : m.serve (.request wdf req (.destroyPort companionIndex o)) =
                gcomPortPairDestroy (deactivate { m with table := m.table.clear i } pp) o pp :=
              congrArg Prod.fst heq
            have hreply : m.reply (.request wdf req (.destroyPort companionIndex o)) =
                some (.ok .destroyed) := congrArg some (congrArg Prod.snd heq)
            rw [hserve, h.destroy_follows hfollow hslot o]
            exact ⟨fun hremoves _ ↦ hremoves, fun hremoves ↦ hremoves hreply⟩
      | listPorts | getVersion | unknown =>
          refine iff_of_true ?_ trivial
          show (gcomControlIoDeviceControl m wdf req _).1.ChildrenFollow
          unfold gcomControlIoDeviceControl
          split <;> exact hfollow

end TableOk

/-- The child descriptions that the bus reports follow its ports. In a run of control requests and
cleanups in any order they are those of the ports after every event if and only if every create that
gets to the description reports it exactly when the companion device is completed afterwards, and
every destroy that succeeds and every cleanup reports those of its ports missing. -/
theorem children_follow_ports_iff (events : List ControlEvent) :
    EveryStep (fun (m : Machine) event ↦ some (m.serve event)) (fun _ _ m ↦ m.ChildrenFollow)
        .initial events ↔
      EveryStep (fun (m : Machine) event ↦ some (m.serve event)) (fun m event _ ↦ event.Reports m)
        .initial events := by
  have hinitial : Machine.initial.ChildrenFollow := by
    show (∅ : Finset ULONG) = Machine.initial.registry.numbers
    decide
  refine Transition.everyStep_iff (I := fun m ↦ TableOk m ∧ m.ChildrenFollow) ?_ ?_
    ⟨.initial, hinitial⟩
  · intro m event m' h hnext hfollow
    cases hnext
    exact ⟨h.1.serve event, hfollow⟩
  · intro m event m' h hnext
    cases hnext
    exact h.1.serve_follows h.2 event

end GhostCom
