import GhostCom.PortTable.Resources

/-!
# What applications see of the pairs

The symbolic links, the pairs that the linked devices lead to, and the values in `SERIALCOMM`. A
create that fails may leave a device behind but never a link, so the links are those of the pairs in
the table after every run; the values are too, as far as they can be set and deleted.
-/

namespace GhostCom

/-- A value that is to be deleted from `SERIALCOMM` is deleted. -/
def KeyOutcomes.Deletes (o : KeyOutcomes) : Prop := o.openKey = true ∧ o.deleteValue = true

/-- The `SERIALCOMM` value that a create sets is set. -/
def ControlEvent.SetsValues : ControlEvent → Prop
  | .request _ _ (.createPort _ o) => o.createKey = true ∧ o.setValue = true
  | _ => True

/-- The `SERIALCOMM` values that an event deletes are deleted. -/
def ControlEvent.DeletesValues : ControlEvent → Prop
  | .request _ _ (.createPort _ o) => o.destroy.Deletes
  | .request _ _ (.destroyPort _ o) => o.key.Deletes
  | .cleanup o => ∀ pp, (o pp).key.Deletes
  | _ => True

/-- Every link is one of a pair's and leads to it. Every pair has its value in `SERIALCOMM` if those
can be set, and every value there is one of a pair's if those can be deleted. -/
structure Machine.VisibleBy (m : Machine) (sets deletes : Prop) (owners : ℕ → Prop) : Prop where
  device : ∀ pp, owners pp → ∀ side,
    ((m.pairs pp).sides side).device = some (side.deviceName (m.pairs pp).portNumber)
  leads : ∀ pp, owners pp → ∀ side : Side, m.context (side.deviceName (m.pairs pp).portNumber) = pp
  links : Owned m.devices.links owners fun pp ↦ deviceLinks (m.pairs pp).portNumber
  value : sets → ∀ pp, owners pp → (m.pairs pp).portNumber ∈ m.serialComm
  stale : deletes → ∀ n ∈ m.serialComm, ∃ pp, owners pp ∧ (m.pairs pp).portNumber = n

/-- The link of a side is one of the links of its number. -/
theorem side_link_mem (side : Side) (n : ULONG) :
    (side.linkName n, side.deviceName n) ∈ deviceLinks n := by
  cases side with
  | com => exact Finset.mem_insert_self ..
  | companion => exact Finset.mem_insert_of_mem (Finset.mem_singleton_self _)

/-! ## Creates -/

/-- Only the value of one number may have changed. -/
def OnlyValue (n : ULONG) (m m' : Machine) : Prop :=
  ∀ k ≠ n, k ∈ m'.serialComm ↔ k ∈ m.serialComm

namespace OnlyValue

variable {n : ULONG} {m m' m'' : Machine}

theorem of_eq (h : m'.serialComm = m.serialComm) : OnlyValue n m m' := fun _ _ ↦ by rw [h]

theorem trans (h : OnlyValue n m m') (h' : OnlyValue n m' m'') : OnlyValue n m m'' :=
  fun k hne ↦ (h' k hne).trans (h k hne)

theorem register (m : Machine) (o : CreateOutcomes) (n : ULONG) :
    OnlyValue n m (registerComPort m o n) := by
  intro k hne
  show k ∈ (if _ then insert n m.serialComm else m.serialComm) ↔ _
  split
  · rw [Finset.mem_insert]
    exact ⟨fun h ↦ h.resolve_left hne, .inr⟩
  · rfl

theorem unregister (m : Machine) (o : KeyOutcomes) (pp : ℕ) :
    OnlyValue (m.pairs pp).portNumber m (unregisterComPort m o pp) := by
  intro k hne
  show k ∈ (if _ then m.serialComm.erase _ else m.serialComm) ↔ _
  split
  · rw [Finset.mem_erase]
    exact ⟨And.right, fun h ↦ ⟨hne, h⟩⟩
  · rfl

end OnlyValue

/-- A value that is to be deleted is not there afterwards. -/
theorem unregister_deletes {m : Machine} {k : KeyOutcomes} {pp : ℕ} (h : k.Deletes) :
    (unregisterComPort m k pp).serialComm = m.serialComm.erase (m.pairs pp).portNumber := by
  show (if _ then _ else _) = _
  rw [h.1, h.2]
  rfl

/-- Neither a value nor a child description has changed. -/
structure SameRegistrations (m m' : Machine) : Prop where
  serialComm : m'.serialComm = m.serialComm
  children : m'.children = m.children

namespace SameRegistrations

variable {m m' m'' : Machine}

theorem trans (h : SameRegistrations m m') (h' : SameRegistrations m' m'') :
    SameRegistrations m m'' :=
  ⟨h'.serialComm.trans h.serialComm, h'.children.trans h.children⟩

theorem destroy_device (m : Machine) (side : Side) (pp : ℕ) :
    SameRegistrations m (destroyDevice m side pp) := by
  unfold destroyDevice
  dsimp only
  cases ((m.pairs pp).sides side).symLinkBuffer <;>
    cases ((m.pairs pp).sides side).device <;> exact ⟨rfl, rfl⟩

theorem com_port_destroy (m : Machine) (k : KeyOutcomes) (pp : ℕ) :
    SameRegistrations (unregisterComPort m k pp) (gcomComPortDestroy m k pp) :=
  destroy_device ..

theorem create_device (m : Machine) (others : LinkName → Bool) (side : Side) (n : ULONG) (pp : ℕ)
    (o : DeviceOutcomes) : SameRegistrations m (createDevice m others side n pp o).1 := by
  have hdevice (m : Machine) : SameRegistrations m (createNamedDevice m side n pp o).1 := by
    unfold createNamedDevice Machine.wdfDeviceCreate
    split
    · exact ⟨rfl, rfl⟩
    · next heq =>
        split at heq
        · cases heq
        · cases hcreate : o.deviceCreate with
          | error st =>
              rw [hcreate] at heq
              cases heq
          | ok =>
              rw [hcreate] at heq
              cases heq
              exact ⟨rfl, rfl⟩
  have hlink (m : Machine) : SameRegistrations m (createSymLink m others side n pp o).1 := by
    unfold createSymLink Machine.wdfDeviceCreateSymbolicLink
    split
    · exact ⟨rfl, rfl⟩
    dsimp only
    split
    · exact ⟨rfl, rfl⟩
    · next heq =>
        split at heq
        · cases heq
        · cases hcreate : o.createSymbolicLink with
          | error st =>
              rw [hcreate] at heq
              cases heq
          | ok =>
              rw [hcreate] at heq
              cases heq
              exact ⟨rfl, rfl⟩
  unfold createDevice
  refine andThen_spec (P := SameRegistrations m) ⟨rfl, rfl⟩ (fun _ ↦ id) fun m₁ h₁ ↦ ?_
  refine andThen_spec (P := SameRegistrations m) h₁ (fun _ ↦ id) fun m₂ h₂ ↦ ?_
  refine andThen_spec (P := SameRegistrations m) (h₂.trans (hdevice m₂)) (fun _ ↦ id)
    fun m₃ h₃ ↦ ?_
  exact andThen_spec (P := SameRegistrations m) h₃ (fun _ ↦ id) fun m₄ h₄ ↦ h₄.trans (hlink m₄)

end SameRegistrations

section Creates

variable {m m' x : Machine} {o : CreateOutcomes} {pp slotIndex : ℕ} {n : ULONG}

/-- A device that cannot be created or completed gets no link, and the pair's other device stays as
it is. -/
theorem create_device_error {others : LinkName → Bool} {side : Side} {d : DeviceOutcomes}
    {st : ErrorStatus} (h : createDevice m others side n pp d = (m', .error st)) :
    m'.devices.links = m.devices.links ∧
      ∀ other ≠ side, (m'.pairs pp).sides other = (m.pairs pp).sides other := by
  by_cases hrefused : d.Refused m (side.deviceName n)
  · obtain ⟨_, heq⟩ := create_device_refused side pp others hrefused
    rw [show m' = m from congrArg Prod.fst (h.symm.trans heq)]
    exact ⟨rfl, fun _ _ ↦ rfl⟩
  by_cases hcompletes : d.Completes m others (side.deviceName n) (side.linkName n)
  · obtain ⟨_, heq, -⟩ := create_device_completes side pp hcompletes
    rw [h] at heq
    cases heq
  · obtain ⟨y, _, heq, hdevices, hsides⟩ := create_device_leaks side pp hrefused hcompletes
    rw [show m' = y from congrArg Prod.fst (h.symm.trans heq)]
    refine ⟨?_, hsides⟩
    rw [hdevices]
    rfl

/-- Destroying the COM device again takes its link away. -/
theorem com_port_destroyed_links {y z : Machine} (k : KeyOutcomes)
    (hfree : (.gcomSerial n : DeviceName) ∉ x.devices.objects)
    (hy : y.devices = (x.devices.create (.gcomSerial n)).link (.gcomSerial n) (.com n))
    (hz : z.devices.links = y.devices.links)
    (hside : ((z.pairs pp).sides .com).device = some (.gcomSerial n)) :
    (gcomComPortDestroy z k pp).devices.links = x.devices.links := by
  have hdestroyed : (gcomComPortDestroy z k pp).devices = z.devices.delete (.gcomSerial n) :=
    destroy_device_devices (x := unregisterComPort z k pp) hside
  have hlinks : (z.devices.delete (.gcomSerial n)).links =
      (y.devices.delete (.gcomSerial n)).links := by
    show z.devices.links.filter _ = y.devices.links.filter _
    rw [hz]
  rw [hdestroyed, hlinks, hy, ObjectNamespace.delete_link, ObjectNamespace.delete_create hfree]

/-- What `createDevices` does to the links and the values: a failure leaves no link, only the value
of the pair's number is touched, it is there in the end if it can be set, and it is not new after a
failure if it can be deleted. -/
theorem create_devices_visible (hnumber : (x.pairs pp).portNumber = n)
    (hindex : (x.pairs pp).companionIndex = n) :
    let result := createDevices x o slotIndex pp n
    OnlyValue n x result.1 ∧
      (∀ q, result.2 = .ok q → o.createKey = true ∧ o.setValue = true →
        n ∈ result.1.serialComm) ∧
      ∀ st, result.2 = .error st → result.1.devices.links = x.devices.links ∧
        (o.destroy.Deletes → result.1.serialComm ⊆ x.serialComm) := by
  intro result
  rcases hcom : createDevice x o.others .com n pp o.com with ⟨y, st | _⟩
  · -- there is no COM device, and nothing has been registered
    have hresult : result = (failCleanup y slotIndex pp, .error st) := create_devices_com_error hcom
    have hcleanup := Unregistered.fail_cleanup y slotIndex pp
    have hvalues : (failCleanup y slotIndex pp).serialComm = x.serialComm := by
      have hdevice := SameRegistrations.create_device x o.others .com n pp o.com
      rw [hcom] at hdevice
      exact hcleanup.serialComm.trans hdevice.serialComm
    rw [hresult]
    refine ⟨.of_eq hvalues, ?_, ?_⟩
    · intro q hq
      cases hq
    · intro _ _
      refine ⟨?_, fun _ ↦ hvalues.subset⟩
      rw [hcleanup.devices]
      exact (create_device_error hcom).1
  have hcompletes := completes_of_ok .com pp hcom
  obtain ⟨y', hy, hcreate, hyindex, hdevices, hside⟩ := com_port_created hindex hcompletes
  obtain rfl : y' = y := congrArg Prod.fst (hy.symm.trans hcom)
  have hfree : (.gcomSerial n : DeviceName) ∉ x.devices.objects :=
    fun hmem ↦ hcompletes.1 (.inr (.inr (.inl hmem)))
  have hregistered : OnlyValue n x (registerComPort y' o n) := by
    have hdevice := SameRegistrations.create_device x o.others .com n pp o.com
    rw [hcom] at hdevice
    exact (OnlyValue.of_eq hdevice.serialComm).trans (.register y' o n)
  have hcompanionValues := (SameRegistrations.create_device (registerComPort y' o n) o.others
    .companion n pp o.companion).serialComm
  rcases hcompanion :
    createDevice (registerComPort y' o n) o.others .companion n pp o.companion with ⟨z, st | _⟩
  · -- the COM device is destroyed again
    have hresult : result = (failCleanup (gcomComPortDestroy z o.destroy pp) slotIndex pp,
        .error st) := by
      simp only [result, createDevices, hcreate, gcomCompanionCreate, hyindex, hcompanion]
    have hcleanup :=
      Unregistered.fail_cleanup (gcomComPortDestroy z o.destroy pp) slotIndex pp
    have hframe := create_device_frame (registerComPort y' o n) o.others .companion n pp o.companion
    rw [hcompanion] at hcompanionValues hframe
    have hframe' := create_device_frame x o.others .com n pp o.com
    rw [hcom] at hframe'
    have hz : (z.pairs pp).portNumber = n :=
      (congrArg PairControl.portNumber (hframe.control pp)).trans
        ((congrArg PairControl.portNumber (hframe'.control pp)).trans hnumber)
    obtain ⟨hlinks, hsides⟩ := create_device_error hcompanion
    have hdestroyed : OnlyValue n x (gcomComPortDestroy z o.destroy pp) := by
      have hunregister := OnlyValue.unregister z o.destroy pp
      rw [hz] at hunregister
      exact (hregistered.trans (.of_eq hcompanionValues)).trans
        (hunregister.trans (.of_eq (SameRegistrations.com_port_destroy z o.destroy pp).serialComm))
    rw [hresult]
    refine ⟨hdestroyed.trans (.of_eq hcleanup.serialComm), ?_, ?_⟩
    · intro q hq
      cases hq
    intro _ _
    refine ⟨?_, fun hdeletes k hk ↦ ?_⟩
    · rw [hcleanup.devices]
      refine com_port_destroyed_links o.destroy hfree hdevices hlinks ?_
      rw [hsides .com (by decide)]
      exact hside
    · rw [hcleanup.serialComm] at hk
      have hne : k ≠ n := by
        rw [(SameRegistrations.com_port_destroy z o.destroy pp).serialComm,
          unregister_deletes hdeletes, hz] at hk
        exact (Finset.mem_erase.mp hk).1
      exact (hdestroyed k hne).mp hk
  · -- both devices are there
    have hresult : result = (z, .ok pp) := by
      simp only [result, createDevices, hcreate, gcomCompanionCreate, hyindex, hcompanion]
    rw [hcompanion] at hcompanionValues
    rw [hresult]
    refine ⟨hregistered.trans (.of_eq hcompanionValues), ?_, ?_⟩
    · intro _ _ hsets
      show n ∈ z.serialComm
      rw [hcompanionValues]
      show n ∈ (if _ then _ else _)
      rw [hsets.1, hsets.2]
      exact Finset.mem_insert_self ..
    · intro _ hst
      cases hst

/-- What a create does to the links and the values. -/
structure CreateVisible (m : Machine) (o : CreateOutcomes) (requestedPortNumber : ULONG)
    (result : Machine × Except ErrorStatus ℕ) : Prop where
  values : result.1.serialComm = m.serialComm ∨
    ∃ n, choosePortNumber m o.others requestedPortNumber = .ok n ∧ OnlyValue n m result.1
  sets : ∀ n q, choosePortNumber m o.others requestedPortNumber = .ok n → result.2 = .ok q →
    o.createKey = true ∧ o.setValue = true → n ∈ result.1.serialComm
  links : ∀ st, result.2 = .error st → result.1.devices.links = m.devices.links
  deletes : ∀ st, result.2 = .error st → o.destroy.Deletes → result.1.serialComm ⊆ m.serialComm

/-- A failure before the devices are created. -/
theorem CreateVisible.early {requestedPortNumber : ULONG} {st : ErrorStatus}
    (h : Unregistered m m') : CreateVisible m o requestedPortNumber (m', .error st) where
  values := .inl h.serialComm
  sets _ _ _ hq := by cases hq
  links _ _ := congrArg ObjectNamespace.links h.devices
  deletes _ _ _ := h.serialComm.subset

theorem create_visible (m : Machine) (o : CreateOutcomes) (requestedPortNumber : ULONG) :
    CreateVisible m o requestedPortNumber (gcomPortPairCreate m o requestedPortNumber) := by
  cases hfree : m.table.firstFree with
  | none =>
      simp only [gcomPortPairCreate, hfree]
      exact .early (.refl m)
  | some i =>
  cases hnumber : choosePortNumber m o.others requestedPortNumber with
  | error st =>
      simp only [gcomPortPairCreate, hfree, hnumber]
      exact .early (.refl m)
  | ok n =>
  by_cases hpair : o.pair = true
  case neg =>
    simp only [gcomPortPairCreate, hfree, hnumber, hpair, Bool.not_false, if_true]
    exact .early ⟨rfl, rfl, rfl⟩
  obtain ⟨-, hregistered, hcontrol⟩ := with_init_spec m o i n
  rcases hinit : initPair (withPair m i n) o m.pool.next with ⟨x, st | _⟩
  · rw [create_of_init hfree hnumber hpair hinit]
    rw [withInit, hinit] at hregistered
    exact .early (hregistered.trans (.fail_alloc x i _))
  rw [create_of_init hfree hnumber hpair hinit]
  rw [withInit, hinit] at hregistered hcontrol
  obtain ⟨hvalue, hsets, hfails⟩ :=
    @create_devices_visible { x with table := x.table.publish i m.pool.next } o m.pool.next i n
      (congrArg PairControl.portNumber hcontrol) (congrArg PairControl.companionIndex hcontrol)
  refine ⟨.inr ⟨n, hnumber, ?_⟩, ?_, ?_, ?_⟩
  · exact (OnlyValue.of_eq hregistered.serialComm).trans hvalue
  · intro n' q hn' hq
    obtain rfl : n = n' := Except.ok.inj (hnumber.symm.trans hn')
    exact hsets q hq
  · intro st hst
    exact (hfails st hst).1.trans (congrArg ObjectNamespace.links hregistered.devices)
  · intro st hst hdeletes
    exact ((hfails st hst).2 hdeletes).trans hregistered.serialComm.subset

end Creates

namespace Machine.VisibleBy

variable {m m' : Machine} {sets deletes : Prop} {owners owners' : ℕ → Prop} {pp : ℕ}

/-- The device that a link leads to exists. -/
theorem device_mem (h : m.VisibleBy sets deletes owners) (hpp : owners pp) (side : Side) :
    side.deviceName (m.pairs pp).portNumber ∈ m.devices.objects := by
  refine m.devices.owned (side.linkName (m.pairs pp).portNumber, _) ?_
  exact (h.links.mem_iff _).mpr ⟨pp, hpp, side_link_mem ..⟩

/-- No two pairs have one number. -/
theorem number_inj (h : m.VisibleBy sets deletes owners) {qq : ℕ} (hpp : owners pp)
    (hqq : owners qq) (heq : (m.pairs pp).portNumber = (m.pairs qq).portNumber) : pp = qq := by
  rw [← h.leads pp hpp .com, ← h.leads qq hqq .com, heq]

/-- The same pairs, active or not, are visible, if their values stay and no other values are
added. -/
theorem same (h : m.VisibleBy sets deletes owners) (howners : ∀ qq, owners' qq ↔ owners qq)
    (hpairs : ∀ qq, owners qq → ∃ active, m'.pairs qq = { m.pairs qq with active := active })
    (hlinks : m'.devices.links = m.devices.links)
    (hcontext : ∀ name ∈ m.devices.objects, m'.context name = m.context name)
    (hvalue : ∀ qq, owners qq → (m.pairs qq).portNumber ∈ m.serialComm →
      (m.pairs qq).portNumber ∈ m'.serialComm)
    (hstale : deletes → m'.serialComm ⊆ m.serialComm) : m'.VisibleBy sets deletes owners' := by
  have hnumber (qq : ℕ) (hqq : owners qq) : (m'.pairs qq).portNumber = (m.pairs qq).portNumber := by
    obtain ⟨_, hpair⟩ := hpairs qq hqq
    rw [hpair]
  refine ⟨fun qq hqq side ↦ ?_, fun qq hqq side ↦ ?_, ?_, fun hsets qq hqq ↦ ?_,
    fun hdeletes n hn ↦ ?_⟩
  · have hold := (howners qq).mp hqq
    obtain ⟨_, hpair⟩ := hpairs qq hold
    rw [hpair]
    exact h.device qq hold side
  · have hold := (howners qq).mp hqq
    rw [hnumber qq hold]
    exact (hcontext _ (h.device_mem hold side)).trans (h.leads qq hold side)
  · rw [hlinks]
    exact h.links.congr howners fun qq hqq ↦ by rw [hnumber qq hqq]
  · have hold := (howners qq).mp hqq
    rw [hnumber qq hold]
    exact hvalue qq hold (h.value hsets qq hold)
  · obtain ⟨qq, hqq, heq⟩ := h.stale hdeletes n (hstale hdeletes hn)
    exact ⟨qq, (howners qq).mpr hqq, (hnumber qq hqq).trans heq⟩

/-- A pair that is deactivated is still visible. -/
theorem deactivate (h : m.VisibleBy sets deletes owners) (pp : ℕ) :
    (deactivate m pp).VisibleBy sets deletes owners := by
  refine h.same (fun _ ↦ .rfl) (fun qq _ ↦ ?_) rfl (fun _ _ ↦ rfl) (fun _ _ ↦ id) fun _ ↦ subset_rfl
  by_cases hqq : qq = pp
  · subst hqq
    exact ⟨false, Function.update_self ..⟩
  · exact ⟨(m.pairs qq).active, Function.update_of_ne hqq ..⟩

/-- The table is not looked at. -/
theorem setTable (h : m.VisibleBy sets deletes owners) (t : PortTable) :
    ({ m with table := t } : Machine).VisibleBy sets deletes owners :=
  h.same (fun _ ↦ .rfl) (fun qq _ ↦ ⟨(m.pairs qq).active, rfl⟩) rfl (fun _ _ ↦ rfl) (fun _ _ ↦ id)
    fun _ ↦ subset_rfl

/-- A pair that has acquired its devices is visible. -/
theorem acquired (h : m.VisibleBy sets deletes owners) {n : ULONG}
    (hacquired : PairAcquired m m' pp n) (honly : OnlyPair pp m m')
    (hcontext : ∀ name ∈ m.devices.objects, m'.context name = m.context name)
    (hnumber : (m'.pairs pp).portNumber = n) (hvalue : OnlyValue n m m')
    (hset : sets → n ∈ m'.serialComm) (howners : ∀ qq, owners' qq ↔ qq = pp ∨ owners qq)
    (hfresh : ¬owners pp) : m'.VisibleBy sets deletes owners' := by
  have hpairs (qq : ℕ) (hqq : owners qq) : m'.pairs qq = m.pairs qq :=
    honly qq fun heq ↦ hfresh (heq ▸ hqq)
  have hne (qq : ℕ) (hqq : owners qq) : (m.pairs qq).portNumber ≠ n :=
    fun heq ↦ hacquired.free .com (heq ▸ h.device_mem hqq .com)
  refine ⟨fun qq hqq side ↦ ?_, fun qq hqq side ↦ ?_, ?_, fun hsets qq hqq ↦ ?_,
    fun hdeletes k hk ↦ ?_⟩
  · rcases (howners qq).mp hqq with rfl | hold
    · rw [hnumber]
      exact hacquired.device side
    · rw [hpairs qq hold]
      exact h.device qq hold side
  · rcases (howners qq).mp hqq with rfl | hold
    · rw [hnumber]
      exact hacquired.leads side
    · rw [hpairs qq hold]
      exact (hcontext _ (h.device_mem hold side)).trans (h.leads qq hold side)
  · exact hacquired.links h.links howners hfresh hnumber hpairs
  · rcases (howners qq).mp hqq with rfl | hold
    · rw [hnumber]
      exact hset hsets
    · rw [hpairs qq hold]
      exact (hvalue _ (hne qq hold)).mpr (h.value hsets qq hold)
  · by_cases hkn : k = n
    · exact ⟨pp, (howners pp).mpr (.inl rfl), hnumber.trans hkn.symm⟩
    · obtain ⟨qq, hqq, heq⟩ := h.stale hdeletes k ((hvalue k hkn).mp hk)
      exact ⟨qq, (howners qq).mpr (.inr hqq), by rw [hpairs qq hqq, heq]⟩

/-- A pair whose devices are deleted is not visible any more. -/
theorem released (h : m.VisibleBy sets deletes owners) (hpp : owners pp)
    (hdevices : m'.devices = (m.devices.delete (.gcomSerial (m.pairs pp).portNumber)).delete
      (.gcom (m.pairs pp).portNumber))
    (honly : OnlyPair pp m m') (hcontext : m'.context = m.context)
    (hvalue : OnlyValue (m.pairs pp).portNumber m m')
    (hdeleted : deletes → (m.pairs pp).portNumber ∉ m'.serialComm)
    (howners : ∀ qq, owners' qq ↔ qq ≠ pp ∧ owners qq) : m'.VisibleBy sets deletes owners' := by
  refine ⟨fun qq hqq side ↦ ?_, fun qq hqq side ↦ ?_, ?_, fun hsets qq hqq ↦ ?_,
    fun hdeletes k hk ↦ ?_⟩
  · obtain ⟨hne, hold⟩ := (howners qq).mp hqq
    rw [honly qq hne]
    exact h.device qq hold side
  · obtain ⟨hne, hold⟩ := (howners qq).mp hqq
    rw [honly qq hne, hcontext]
    exact h.leads qq hold side
  · exact links_removed h.links hpp hdevices howners fun qq _ hne ↦ by rw [honly qq hne]
  · obtain ⟨hne, hold⟩ := (howners qq).mp hqq
    rw [honly qq hne]
    exact (hvalue _ fun heq ↦ hne (h.number_inj hold hpp heq)).mpr (h.value hsets qq hold)
  · have hkn : k ≠ (m.pairs pp).portNumber := fun heq ↦ hdeleted hdeletes (heq ▸ hk)
    obtain ⟨qq, hqq, heq⟩ := h.stale hdeletes k ((hvalue k hkn).mp hk)
    have hne : qq ≠ pp := fun h ↦ hkn (heq.symm.trans (by rw [h]))
    exact ⟨qq, (howners qq).mpr ⟨hne, hqq⟩, by rw [honly qq hne, heq]⟩

end Machine.VisibleBy

/-! ## Destroys -/

/-- The end of a destroy changes no device, no value and no child description. -/
theorem Unregistered.release_pair (m : Machine) (pp : ℕ) : Unregistered m (releasePair m pp) := by
  unfold releasePair
  dsimp only
  split <;> exact ⟨rfl, rfl, rfl⟩

/-- What destroying a pair does to what is visible of it. -/
theorem destroy_hides {m : Machine} (o : DestroyOutcomes) {pp : ℕ}
    (h : ∀ side, ((m.pairs pp).sides side).device =
      some (side.deviceName (m.pairs pp).portNumber)) :
    let m' := gcomPortPairDestroy m o pp
    m'.devices = (m.devices.delete (.gcomSerial (m.pairs pp).portNumber)).delete
        (.gcom (m.pairs pp).portNumber) ∧
      m'.context = m.context ∧ OnlyValue (m.pairs pp).portNumber m m' ∧
      (o.key.Deletes → (m.pairs pp).portNumber ∉ m'.serialComm) := by
  intro m'
  -- the state when the devices are about to be destroyed
  let x := unregisterComPort (markChildMissing (removeFromTable (deactivate m pp) pp) o pp) o.key pp
  have hremove : (removeFromTable (deactivate m pp) pp).pairs = (deactivate m pp).pairs ∧
      (removeFromTable (deactivate m pp) pp).devices = m.devices ∧
      (removeFromTable (deactivate m pp) pp).serialComm = m.serialComm := by
    unfold removeFromTable
    split <;> exact ⟨rfl, rfl, rfl⟩
  have hx : x.pairs pp = { m.pairs pp with active := false } :=
    (congrFun hremove.1 pp).trans (Function.update_self ..)
  have hcom : ((x.pairs pp).sides .com).device = some (.gcomSerial (m.pairs pp).portNumber) := by
    rw [hx]
    exact h .com
  obtain ⟨-, -, hdevices, hpair⟩ := destroy_device_frees hcom
  have hcompanion : (((destroyDevice x .com pp).pairs pp).sides .companion).device =
      some (.gcom (m.pairs pp).portNumber) := by
    rw [hpair, hx]
    exact h .companion
  obtain ⟨-, -, hdevices', -⟩ := destroy_device_frees hcompanion
  have hrelease (y : Machine) : Unregistered y (releasePair y pp) := .release_pair y pp
  have hm' : m' = releasePair (destroyDevice (destroyDevice x .com pp) .companion pp) pp := rfl
  have hvalues : m'.serialComm = x.serialComm := by
    rw [hm', (hrelease _).serialComm, (SameRegistrations.destroy_device ..).serialComm,
      (SameRegistrations.destroy_device ..).serialComm]
  -- the value is that of the pair, whose number has not changed
  let y := markChildMissing (removeFromTable (deactivate m pp) pp) o pp
  have hy : y.serialComm = m.serialComm := hremove.2.2
  have hnumber : (y.pairs pp).portNumber = (m.pairs pp).portNumber := by
    rw [show y.pairs pp = _ from hx]
  refine ⟨?_, destroy_context m o pp, ?_, fun hdeletes ↦ ?_⟩
  · rw [hm', (hrelease _).devices, hdevices', hdevices]
    rw [show x.devices = m.devices from hremove.2.1]
  · have hunregister := OnlyValue.unregister y o.key pp
    rw [hnumber] at hunregister
    exact ((OnlyValue.of_eq hy).trans hunregister).trans (.of_eq hvalues)
  · rw [hvalues, show x.serialComm = _ from unregister_deletes (m := y) hdeletes, hnumber]
    exact Finset.notMem_erase _ _

namespace TableOk

variable {m : Machine} {sets deletes : Prop}

/-- A create keeps visible what is visible, and makes its pair visible if it succeeds. -/
theorem create_keeps_visible (h : TableOk m) (hvisible : m.VisibleBy sets deletes m.Listed)
    (o : CreateOutcomes) (requestedPortNumber : ULONG)
    (hsets : sets → o.createKey = true ∧ o.setValue = true)
    (hdeletes : deletes → o.destroy.Deletes) :
    let m' := (gcomPortPairCreate m o requestedPortNumber).1
    m'.VisibleBy sets deletes m'.Listed := by
  intro m'
  have honly := create_only m o requestedPortNumber
  have hcontext := create_keeps_contexts m o requestedPortNumber
  have hfresh : ¬m.Listed m.pool.next := (h.fresh (Nat.le_refl _)).2.2
  have hcreate := create_visible m o requestedPortNumber
  obtain ⟨-, ⟨st, hst, hfailed⟩ | ⟨i, n, hfree, hchoose, hok, htable, hcreated, -⟩⟩ :=
    create_cases m o requestedPortNumber
  · refine hvisible.same (fun qq ↦ ?_)
      (fun qq hqq ↦ ⟨(m.pairs qq).active, honly qq fun heq ↦ hfresh (heq ▸ hqq)⟩)
      (hcreate.links st hst) hcontext (fun qq hqq hmem ↦ ?_)
      fun hdelete ↦ hcreate.deletes st hst (hdeletes hdelete)
    · show some _ ∈ m'.table.slots ↔ some _ ∈ m.table.slots
      rw [show m'.table.slots = m.table.slots from congrArg SlotTable.slots hfailed.restored]
    · rcases hcreate.values with hsame | ⟨n, hn, hvalue⟩
      · rw [hsame]
        exact hmem
      · -- no pair has the number that was chosen
        exact (hvalue _ (h.number_ne (choose_unused hn) hqq)).mpr hmem
  · have hvalue : OnlyValue n m m' := by
      rcases hcreate.values with hsame | ⟨n', hn', hvalue⟩
      · exact .of_eq hsame
      · rwa [Except.ok.inj (hchoose.symm.trans hn')]
    refine hvisible.acquired (create_acquires hfree hchoose hok) honly hcontext
      (congrArg PairControl.portNumber hcreated) hvalue
      (fun hset ↦ hcreate.sets n _ hchoose hok (hsets hset)) (fun qq ↦ ?_) hfresh
    show some _ ∈ m'.table.slots ↔ _
    rw [show m'.table = _ from htable]
    exact PortTable.mem_publish (SlotTable.slot_of_firstFree hfree)

/-- A destroy hides its pair. -/
theorem destroy_keeps_visible (h : TableOk m) (hvisible : m.VisibleBy sets deletes m.Listed)
    {i pp : ℕ} (hslot : m.table.At i pp) (o : DestroyOutcomes)
    (hdeletes : deletes → o.key.Deletes) :
    let m' := gcomPortPairDestroy (GhostCom.deactivate { m with table := m.table.clear i } pp) o pp
    m'.VisibleBy sets deletes m'.Listed := by
  intro m'
  have hlisted : m.Listed pp := List.mem_of_getElem? hslot
  have hcleared := (hvisible.setTable (m.table.clear i)).deactivate pp
  obtain ⟨hdevices, hcontext, hvalue, hdeleted⟩ := destroy_hides o (hcleared.device pp hlisted)
  exact hcleared.released hlisted hdevices (destroy_only _ o pp) hcontext hvalue
    (fun hd ↦ hdeleted (hdeletes hd)) (h.destroy_spec hslot o).listed

/-- The second loop of the cleanup hides every pair that has been collected. -/
theorem destroy_pairs_hide {m : Machine} (o : ℕ → DestroyOutcomes)
    (hdeletes : deletes → ∀ pp, (o pp).key.Deletes) {toDestroy : List ℕ}
    (hnodup : toDestroy.Nodup) (hvisible : m.VisibleBy sets deletes (· ∈ toDestroy)) :
    (destroyPairs m o toDestroy).VisibleBy sets deletes (· ∈ ([] : List ℕ)) := by
  induction toDestroy generalizing m with
  | nil => exact hvisible
  | cons pp rest ih =>
      obtain ⟨hfresh, hrest⟩ := List.nodup_cons.mp hnodup
      have hpp : pp ∈ pp :: rest := List.mem_cons_self ..
      have hactive := hvisible.deactivate pp
      obtain ⟨hdevices, hcontext, hvalue, hdeleted⟩ :=
        destroy_hides (o pp) (hactive.device pp hpp)
      refine ih hrest (hactive.released hpp hdevices (destroy_only _ (o pp) pp) hcontext hvalue
        (fun hd ↦ hdeleted (hdeletes hd pp)) fun qq ↦ ?_)
      rw [List.mem_cons]
      constructor
      · intro hqq
        exact ⟨fun heq ↦ hfresh (heq ▸ hqq), .inr hqq⟩
      · intro hqq
        exact hqq.2.resolve_left hqq.1

/-- The cleanup hides everything. -/
theorem cleanup_keeps_visible (h : TableOk m) (hvisible : m.VisibleBy sets deletes m.Listed)
    (o : ℕ → DestroyOutcomes) (hdeletes : deletes → ∀ pp, (o pp).key.Deletes) :
    let m' := gcomEvtSelfManagedIoCleanup m o
    m'.VisibleBy sets deletes m'.Listed := by
  intro m'
  obtain ⟨heq, hnodup, hlisted⟩ := h.collect_pairs_listed (List.range gcomMaxPorts)
  have hstart : (collectPairs m (List.range gcomMaxPorts)).1.VisibleBy sets deletes
      (· ∈ (collectPairs m (List.range gcomMaxPorts)).2) := by
    rw [heq]
    refine hvisible.same (fun pp ↦ ?_) (fun pp _ ↦ ⟨(m.pairs pp).active, rfl⟩) rfl
      (fun _ _ ↦ rfl) (fun _ _ ↦ id) fun _ ↦ subset_rfl
    rw [hlisted]
    exact ⟨.inr, fun hpp ↦ hpp.resolve_left (h.collect_pairs_empty pp)⟩
  have hend := destroy_pairs_hide o hdeletes hnodup hstart
  refine hend.same (fun pp ↦ ?_) (fun pp _ ↦ ⟨_, rfl⟩) rfl (fun _ _ ↦ rfl) (fun _ _ ↦ id)
    fun _ ↦ subset_rfl
  exact iff_of_false (h.cleanup_lists_none o pp) List.not_mem_nil

end TableOk

/-- An event keeps visible what is visible, and hides what it destroys. -/
theorem serve_visible {m : Machine} {sets deletes : Prop} (h : TableOk m)
    (hvisible : m.VisibleBy sets deletes m.Listed) (event : ControlEvent)
    (hsets : sets → event.SetsValues) (hdeletes : deletes → event.DeletesValues) :
    (m.serve event).VisibleBy sets deletes (m.serve event).Listed := by
  refine serve_cases (P := fun m' ↦ m'.VisibleBy sets deletes m'.Listed) event hvisible ?_ ?_ ?_
  · intro wdf req portNumber o heq
    subst heq
    exact h.create_keeps_visible hvisible o portNumber hsets hdeletes
  · intro wdf req companionIndex o i pp heq hslot
    subst heq
    exact h.destroy_keeps_visible hvisible hslot o hdeletes
  · intro o heq
    subst heq
    exact h.cleanup_keeps_visible hvisible o hdeletes

/-- After every run exactly the pairs of the table are visible. -/
theorem run_visible (events : List ControlEvent) :
    let m := events.foldl Machine.serve .initial
    m.VisibleBy (∀ event ∈ events, event.SetsValues) (∀ event ∈ events, event.DeletesValues)
      m.Listed := by
  have hrun (rest : List ControlEvent) (m : Machine) (htable : TableOk m) {sets deletes : Prop}
      (hvisible : m.VisibleBy sets deletes m.Listed)
      (hsets : sets → ∀ event ∈ rest, event.SetsValues)
      (hdeletes : deletes → ∀ event ∈ rest, event.DeletesValues) :
      (rest.foldl Machine.serve m).VisibleBy sets deletes (rest.foldl Machine.serve m).Listed := by
    induction rest generalizing m with
    | nil => exact hvisible
    | cons event rest ih =>
        have hhead : event ∈ event :: rest := List.mem_cons_self ..
        exact ih _ (htable.serve event)
          (serve_visible htable hvisible event (fun h ↦ hsets h event hhead)
            fun h ↦ hdeletes h event hhead)
          (fun h event hmem ↦ hsets h event (List.mem_cons_of_mem _ hmem))
          fun h event hmem ↦ hdeletes h event (List.mem_cons_of_mem _ hmem)
  have hnone (pp : ℕ) : ¬Machine.initial.Listed pp :=
    fun hpp ↦ Option.some_ne_none _ (List.eq_of_mem_replicate hpp)
  refine hrun events .initial .initial ⟨fun pp hpp ↦ absurd hpp (hnone pp),
    fun pp hpp ↦ absurd hpp (hnone pp), .of_no_owner hnone, fun _ pp hpp ↦ absurd hpp (hnone pp),
    fun _ n hn ↦ ?_⟩ id id
  exact absurd hn (Finset.notMem_empty n)

end GhostCom
