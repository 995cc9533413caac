import GhostCom.PortTable.CreateFailure
import GhostCom.PortTable.Table

/-!
# The pairs of the table

What requests do to the set of pairs in the table, to the fields that a list request returns and to
the pair a companion device leads to. A destroy request destroys the one pair with its companion
index, and a list request shows every pair once.
-/

namespace GhostCom

/-- The pair is in the table. -/
def Machine.Listed (m : Machine) (pp : ℕ) : Prop := some (.pair pp) ∈ m.table.slots

/-- The companion device of every pair of the table leads to it. -/
def Machine.Linked (m : Machine) : Prop :=
  ∀ pp, m.Listed pp → m.context (.gcom (m.pairs pp).companionIndex) = pp

/-- The pair that a destroy request for a companion index destroys. -/
def Machine.named (m : Machine) (companionIndex : ULONG) : Option ℕ :=
  (findPair m companionIndex).map (·.2)

namespace TableOk

variable {m : Machine}

/-- Two pairs of the table with one companion index are the same pair. -/
theorem index_unique (h : TableOk m) {pp qq : ℕ} (hpp : m.Listed pp) (hqq : m.Listed qq)
    (heq : (m.pairs pp).companionIndex = (m.pairs qq).companionIndex) : pp = qq := by
  obtain ⟨i, hi⟩ := PortTable.mem_iff_at.mp hpp
  obtain ⟨j, hj⟩ := PortTable.mem_iff_at.mp hqq
  have hnumber : (m.pairs pp).portNumber = (m.pairs qq).portNumber :=
    (h.real pp hpp).2.symm.trans (heq.trans (h.real qq hqq).2)
  obtain rfl := h.distinct i j pp qq hi hj hnumber
  exact hi.inj hj

/-- A companion index names the pair of the table that has it. -/
theorem named_iff (h : TableOk m) {companionIndex : ULONG} {pp : ℕ} :
    m.named companionIndex = some pp ↔
      m.Listed pp ∧ (m.pairs pp).companionIndex = companionIndex := by
  unfold Machine.named
  constructor
  · intro hnamed
    obtain ⟨⟨i, qq⟩, hfind, rfl⟩ := Option.map_eq_some_iff.mp hnamed
    obtain ⟨hat, hindex, -⟩ := find_pair hfind
    exact ⟨List.mem_of_getElem? hat, hindex⟩
  · rintro ⟨hlisted, hindex⟩
    have hmatch : m.entryMatches (·.companionIndex == companionIndex) (some (.pair pp)) = true := by
      simp [Machine.entryMatches, (h.real pp hlisted).1, hindex]
    cases hfind : findPair m companionIndex with
    | some found =>
        obtain ⟨i, qq⟩ := found
        obtain ⟨hat, hindex', -⟩ := find_pair hfind
        have hsame := h.index_unique (List.mem_of_getElem? hat) hlisted (hindex'.trans hindex.symm)
        simp [hsame]
    | none =>
        exfalso
        unfold findPair at hfind
        split at hfind
        · next hnone =>
            -- the pair itself is an entry that the search would have found
            have hno := List.findIdx?_eq_none_iff.mp hnone _ hlisted
            rw [hmatch] at hno
            cases hno
        · next j hsome =>
            obtain ⟨hlt, hentry, -⟩ := List.findIdx?_eq_some_iff_getElem.mp hsome
            rw [List.getElem?_eq_getElem hlt] at hfind
            cases hslot : m.table.slots[j] with
            | none =>
                rw [hslot] at hentry
                cases hentry
            | some entry =>
                cases entry with
                | reserved =>
                    rw [hslot] at hentry
                    cases hentry
                | pair qq =>
                    rw [hslot] at hfind
                    cases hfind

/-- The entry of a list request for a pair of the table. -/
theorem port_info_eq (h : TableOk m) {pp : ℕ} (hlisted : m.Listed pp) :
    portInfo m (some (.pair pp)) = some
      ⟨(m.pairs pp).portNumber, (m.pairs pp).companionIndex,
        boolean (isTrue (m.pairs pp).comSideOpen),
        boolean (isTrue (m.pairs pp).companionSideOpen)⟩ := by
  unfold portInfo
  dsimp only
  rw [if_pos (h.real pp hlisted).1]

/-- A list request with room for the whole table shows the pairs of the table. -/
theorem mem_ports_iff {maxEntries : ℕ} (hroom : gcomMaxPorts ≤ maxEntries)
    {entry : PortInfo} :
    entry ∈ (m.table.slots.filterMap (portInfo m)).take maxEntries ↔
      ∃ pp, m.Listed pp ∧ portInfo m (some (.pair pp)) = some entry := by
  have hlength : (m.table.slots.filterMap (portInfo m)).length ≤ maxEntries := by
    refine Nat.le_trans (List.length_filterMap_le ..) ?_
    rw [m.table.size]
    exact hroom
  rw [List.take_of_length_le hlength, List.mem_filterMap]
  constructor
  · rintro ⟨slot, hslot, hentry⟩
    match slot with
    | some (.pair pp) => exact ⟨pp, hslot, hentry⟩
    | some .reserved => cases hentry
    | none => cases hentry
  · rintro ⟨pp, hlisted, hentry⟩
    exact ⟨_, hlisted, hentry⟩

end TableOk

/-! ## What requests change -/

/-- The pairs of the table are as before, with their control fields. -/
structure SameListed (m m' : Machine) : Prop where
  listed : ∀ pp, m'.Listed pp ↔ m.Listed pp
  control : ∀ pp, m.Listed pp → (m'.pairs pp).control = (m.pairs pp).control
  context : ∀ pp, m.Listed pp → m'.context (.gcom (m.pairs pp).companionIndex) =
    m.context (.gcom (m.pairs pp).companionIndex)
  next_le : m.pool.next ≤ m'.pool.next

/-- A new pair with the number, which no other pair of the table has, is in the table, and its
companion device leads to it. -/
structure Added (m m' : Machine) (pp : ℕ) (portNumber : ULONG) : Prop where
  fresh : ¬m.Listed pp
  listed : ∀ qq, m'.Listed qq ↔ qq = pp ∨ m.Listed qq
  control : ∀ qq, m.Listed qq → (m'.pairs qq).control = (m.pairs qq).control
  created : (m'.pairs pp).control = (PortPair.initial portNumber).control
  unused : ∀ qq, m.Listed qq → (m.pairs qq).companionIndex ≠ portNumber
  context : ∀ qq, m.Listed qq → m'.context (.gcom (m.pairs qq).companionIndex) =
    m.context (.gcom (m.pairs qq).companionIndex)
  leads : m'.context (.gcom portNumber) = pp
  next_le : m.pool.next ≤ m'.pool.next

/-- A pair has left the table. -/
structure Removed (m m' : Machine) (pp : ℕ) : Prop where
  listed : ∀ qq, m'.Listed qq ↔ qq ≠ pp ∧ m.Listed qq
  control : ∀ qq, m.Listed qq → qq ≠ pp → (m'.pairs qq).control = (m.pairs qq).control
  context : m'.context = m.context
  next_le : m.pool.next ≤ m'.pool.next

/-- Pairs with the same control fields have the same companion index. -/
theorem PortPair.companionIndex_eq {pair pair' : PortPair} (h : pair'.control = pair.control) :
    pair'.companionIndex = pair.companionIndex :=
  congrArg PairControl.companionIndex h

section Linked

variable {m m' : Machine} {pp : ℕ}

theorem SameListed.linked (h : SameListed m m') (hlinked : m.Linked) : m'.Linked := by
  intro qq hqq
  have hold := (h.listed qq).mp hqq
  rw [PortPair.companionIndex_eq (h.control qq hold)]
  exact (h.context qq hold).trans (hlinked qq hold)

theorem Added.linked {n : ULONG} (h : Added m m' pp n) (hlinked : m.Linked) : m'.Linked := by
  intro qq hqq
  rcases (h.listed qq).mp hqq with rfl | hold
  · rw [PortPair.companionIndex_eq h.created]
    exact h.leads
  · rw [PortPair.companionIndex_eq (h.control qq hold)]
    exact (h.context qq hold).trans (hlinked qq hold)

theorem Removed.linked (h : Removed m m' pp) (hlinked : m.Linked) : m'.Linked := by
  intro qq hqq
  obtain ⟨hne, hold⟩ := (h.listed qq).mp hqq
  rw [PortPair.companionIndex_eq (h.control qq hold hne), h.context]
  exact hlinked qq hold

end Linked

/-! ## Contexts -/

section Contexts

variable (m : Machine)

/-- Creating the symbolic link of a device touches no context. -/
theorem create_sym_link_context (others : LinkName → Bool) (side : Side) (n : ULONG) (pp : ℕ)
    (o : DeviceOutcomes) : (createSymLink m others side n pp o).1.context = m.context := by
  have hlink {m' m'' : Machine} {name : DeviceName} {link : LinkName} {outcome : Outcome}
      (h : m'.wdfDeviceCreateSymbolicLink others name link outcome = .ok m'') :
      m''.context = m'.context := by
    unfold Machine.wdfDeviceCreateSymbolicLink at h
    split at h
    · cases h
    · cases outcome <;> cases h
      rfl
  unfold createSymLink
  split
  · rfl
  dsimp only
  split
  · rfl
  · next m' h =>
      have hsame := hlink h
      exact hsame

/-- Creating a device stores the pair in the context of the device, if the device comes to exist. -/
theorem create_device_context (others : LinkName → Bool) (side : Side) (n : ULONG) (pp : ℕ)
    (o : DeviceOutcomes) :
    let result := createDevice m others side n pp o
    (∃ st, result.2 = .error st ∧ result.1.context = m.context) ∨
      result.1.context = Function.update m.context (side.deviceName n) pp := by
  intro result
  by_cases hrefused : o.Refused m (side.deviceName n)
  · obtain ⟨st, heq⟩ := create_device_refused side pp others hrefused
    exact .inl ⟨st, congrArg Prod.snd heq, congrArg (·.1.context) heq⟩
  · refine .inr ?_
    unfold result
    rw [create_device_accepted side pp hrefused]
    exact andThen_spec (P := fun m' ↦ m'.context = Function.update m.context (side.deviceName n) pp)
      rfl (fun _ ↦ id) fun m' h ↦ (create_sym_link_context m' others side n pp o).trans h

theorem init_pair_context (o : CreateOutcomes) (pp : ℕ) :
    (initPair m o pp).1.context = m.context := by
  have hring (m' : Machine) (success : Bool) (store : PairRecord → ℕ → PairRecord) :
      (initRing m' success pp store).1.context = m'.context := by
    unfold initRing
    split <;> rfl
  have hlock (m' : Machine) (outcome : Outcome) (store : PairRecord → ℕ → PairRecord) :
      (createLock m' outcome pp store).1.context = m'.context := by
    unfold createLock
    split <;> rfl
  unfold initPair
  refine andThen_spec (P := (·.context = m.context)) (hring ..) (fun _ ↦ id) fun m₁ h₁ ↦ ?_
  refine andThen_spec (P := (·.context = m.context)) ((hring ..).trans h₁) (fun _ ↦ id)
    fun m₂ h₂ ↦ ?_
  refine andThen_spec (P := (·.context = m.context)) ((hlock ..).trans h₂) (fun _ ↦ id)
    fun m₃ h₃ ↦ ?_
  exact (hlock ..).trans h₃

theorem fail_alloc_context (slotIndex pp : ℕ) :
    (failAlloc m slotIndex pp).context = m.context := by
  unfold failAlloc
  dsimp only
  split <;> rfl

theorem destroy_device_context (side : Side) (pp : ℕ) :
    (destroyDevice m side pp).context = m.context := by
  unfold destroyDevice
  dsimp only
  split <;> rfl

theorem com_port_destroy_context (o : KeyOutcomes) (pp : ℕ) :
    (gcomComPortDestroy m o pp).context = m.context :=
  destroy_device_context _ _ _

theorem fail_cleanup_context (slotIndex pp : ℕ) :
    (failCleanup m slotIndex pp).context = m.context :=
  fail_alloc_context _ slotIndex pp

/-- Creating the devices of a pair changes the contexts of the devices with its number, and if it
succeeds the companion device leads to the pair. -/
theorem create_devices_context (o : CreateOutcomes) (slotIndex pp : ℕ) {n : ULONG}
    (hindex : (m.pairs pp).companionIndex = n) :
    let result := createDevices m o slotIndex pp n
    (∀ k ≠ n, result.1.context (.gcom k) = m.context (.gcom k)) ∧
      ((∃ st, result.2 = .error st) ∨ result.1.context (.gcom n) = pp) := by
  intro result
  have hother (k : ULONG) (hk : k ≠ n) : DeviceName.gcom k ≠ .gcom n := fun h ↦ by
    injection h with h
    exact hk h
  -- the COM device has a name of the other kind, so it changes no companion context
  have hcom (k : ULONG) :
      (gcomComPortCreate m o pp n).1.context (.gcom k) = m.context (.gcom k) := by
    unfold gcomComPortCreate
    refine andThen_spec (P := fun m' ↦ m'.context (.gcom k) = m.context (.gcom k)) ?_
      (fun _ ↦ id) fun _ ↦ id
    rcases create_device_context m o.others .com n pp o.com with ⟨-, -, h⟩ | h
    · rw [h]
    · rw [h]
      have hne : DeviceName.gcom k ≠ .gcomSerial n := by
        intro heq
        cases heq
      exact Function.update_of_ne hne ..
  have hframe := com_port_create_frame m o pp n
  unfold result createDevices
  split
  · next m' st heq =>
      rw [heq] at hcom
      exact ⟨fun k _ ↦ (congrFun (fail_cleanup_context m' slotIndex pp) _).trans (hcom k),
        .inl ⟨st, rfl⟩⟩
  next m' heq =>
  rw [heq] at hcom hframe
  -- the companion device is created under the index that the pair has by then
  have hindex' : (m'.pairs pp).companionIndex = n :=
    (congrArg PairControl.companionIndex (hframe.control pp)).trans hindex
  have hcompanion := create_device_context m' o.others .companion n pp o.companion
  have hresult : gcomCompanionCreate m' o pp =
      createDevice m' o.others .companion n pp o.companion := by
    rw [gcomCompanionCreate, hindex']
  rw [← hresult] at hcompanion
  have hkeeps (k : ULONG) (hk : k ≠ n) :
      (gcomCompanionCreate m' o pp).1.context (.gcom k) = m.context (.gcom k) := by
    rcases hcompanion with ⟨-, -, h⟩ | h
    · rw [h]
      exact hcom k
    · rw [h]
      exact (Function.update_of_ne (hother k hk) ..).trans (hcom k)
  split
  · next m'' st heq' =>
      rw [heq'] at hkeeps
      refine ⟨fun k hk ↦ ?_, .inl ⟨st, rfl⟩⟩
      rw [fail_cleanup_context, com_port_destroy_context]
      exact hkeeps k hk
  · next m'' heq' =>
      rw [heq'] at hkeeps hcompanion
      refine ⟨hkeeps, .inr ?_⟩
      rcases hcompanion with ⟨_, h, -⟩ | h
      · cases h
      · show m''.context (.gcom n) = pp
        rw [h]
        exact Function.update_self ..

/-- A create changes the contexts of the devices with the number that it has chosen, and if it
succeeds the companion device leads to the new pair. -/
theorem create_context (o : CreateOutcomes) (requestedPortNumber : ULONG) :
    let result := gcomPortPairCreate m o requestedPortNumber
    (∀ k, choosePortNumber m o.others requestedPortNumber ≠ .ok k →
      result.1.context (.gcom k) = m.context (.gcom k)) ∧
    ∀ n, choosePortNumber m o.others requestedPortNumber = .ok n →
      (∃ st, result.2 = .error st) ∨ result.1.context (.gcom n) = m.pool.next := by
  intro result
  -- a create that fails before it comes to the devices changes no context
  have hunchanged {st : ErrorStatus} {m' : Machine} (h : result = (m', .error st))
      (hsame : m'.context = m.context) :
      (∀ k, choosePortNumber m o.others requestedPortNumber ≠ .ok k →
        result.1.context (.gcom k) = m.context (.gcom k)) ∧
      ∀ n, choosePortNumber m o.others requestedPortNumber = .ok n →
        (∃ st, result.2 = .error st) ∨ result.1.context (.gcom n) = m.pool.next := by
    rw [h]
    exact ⟨fun _ _ ↦ congrFun hsame _, fun _ _ ↦ .inl ⟨st, rfl⟩⟩
  cases hfree : m.table.firstFree with
  | none => exact hunchanged (by unfold result gcomPortPairCreate; rw [hfree]) rfl
  | some i =>
  cases hnumber : choosePortNumber m o.others requestedPortNumber with
  | error st =>
      rw [hnumber] at hunchanged
      have heq : result = (m, .error st) := by
        simp only [result, gcomPortPairCreate, hfree, hnumber]
      exact hunchanged heq rfl
  | ok n =>
  rw [hnumber] at hunchanged
  by_cases hpair : o.pair = true
  case neg =>
    have heq : result =
        ({ m with table := (m.table.reserve i).clear i }, .error insufficientResources) := by
      simp only [result, gcomPortPairCreate, hfree, hnumber, hpair, Bool.not_false, if_true]
    exact hunchanged heq rfl
  have hcontext := init_pair_context (withPair m i n) o m.pool.next
  obtain ⟨-, -, hcontrol⟩ := with_init_spec m o i n
  rcases hinit : initPair (withPair m i n) o m.pool.next with ⟨x, st | _⟩
  · rw [hinit] at hcontext
    exact hunchanged (create_of_init hfree hnumber hpair hinit)
      ((fail_alloc_context ..).trans hcontext)
  · rw [hinit] at hcontext
    rw [withInit, hinit] at hcontrol
    obtain ⟨hkeeps, hleads⟩ := create_devices_context { x with
      table := x.table.publish i m.pool.next } o i m.pool.next
        (congrArg PairControl.companionIndex hcontrol)
    have hresult := create_of_init hfree hnumber hpair hinit
    unfold result
    rw [hresult]
    refine ⟨fun k hk ↦ ?_, fun k hk ↦ ?_⟩
    · exact (hkeeps k fun heq ↦ hk (heq ▸ rfl)).trans (congrFun hcontext _)
    · cases hk
      exact hleads

theorem destroy_context (o : DestroyOutcomes) (pp : ℕ) :
    (gcomPortPairDestroy m o pp).context = m.context := by
  have hremove (m' : Machine) : (removeFromTable m' pp).context = m'.context := by
    unfold removeFromTable
    split <;> rfl
  have hrelease (m' : Machine) : (releasePair m' pp).context = m'.context := by
    unfold releasePair
    dsimp only
    split <;> rfl
  unfold gcomPortPairDestroy
  dsimp only
  rw [hrelease]
  refine (destroy_device_context _ _ _).trans ((com_port_destroy_context _ _ _).trans ?_)
  exact hremove (deactivate m pp)

end Contexts

/-! ## Requests -/

theorem SameListed.refl (m : Machine) : SameListed m m :=
  ⟨fun _ ↦ .rfl, fun _ _ ↦ rfl, fun _ _ ↦ rfl, Nat.le_refl _⟩

namespace TableOk

variable {m : Machine}

/-- No pair of the table has the number that a create chooses. -/
theorem unused (h : TableOk m) {others : LinkName → Bool} {requestedPortNumber n : ULONG}
    (hchoose : choosePortNumber m others requestedPortNumber = .ok n) {pp : ℕ} (hpp : m.Listed pp) :
    (m.pairs pp).companionIndex ≠ n := by
  rw [(h.real pp hpp).2]
  exact h.number_ne (choose_unused hchoose) hpp

/-- A create fails and leaves the pairs of the table as they were, or it adds one. -/
theorem create_spec (h : TableOk m) (o : CreateOutcomes) (requestedPortNumber : ULONG) :
    let result := gcomPortPairCreate m o requestedPortNumber
    (∃ st, result.2 = .error st ∧ SameListed m result.1) ∨
      ∃ n, result.2 = .ok m.pool.next ∧ Added m result.1 m.pool.next n := by
  intro result
  obtain ⟨hcontext, hleads⟩ := create_context m o requestedPortNumber
  have hfresh : ¬m.Listed m.pool.next := (h.fresh (Nat.le_refl _)).2.2
  have hold (pp : ℕ) (hpp : m.Listed pp) : pp ≠ m.pool.next := fun heq ↦ hfresh (heq ▸ hpp)
  have hkeeps (pp : ℕ) (hpp : m.Listed pp) :
      result.1.context (.gcom (m.pairs pp).companionIndex) =
        m.context (.gcom (m.pairs pp).companionIndex) :=
    hcontext _ fun hchoose ↦ h.unused hchoose hpp rfl
  obtain ⟨hkept, ⟨st, hst, hfailed⟩ | ⟨i, n, hfree, hchoose, hok, htable, hcreated, -⟩⟩ :=
    create_cases m o requestedPortNumber
  · refine .inl ⟨st, hst, fun pp ↦ ?_, fun pp hpp ↦ hkept.control pp (hold pp hpp), hkeeps,
      hkept.next_le⟩
    unfold Machine.Listed
    rw [congrArg SlotTable.slots hfailed.restored]
  · refine .inr ⟨n, hok, hfresh, fun pp ↦ ?_, fun pp hpp ↦ hkept.control pp (hold pp hpp),
      hcreated, fun pp hpp ↦ h.unused hchoose hpp, hkeeps, ?_, hkept.next_le⟩
    · unfold Machine.Listed
      rw [htable]
      exact PortTable.mem_publish (SlotTable.slot_of_firstFree hfree)
    · refine (hleads n hchoose).resolve_left ?_
      rintro ⟨st, hst⟩
      rw [hok] at hst
      cases hst

/-- A create request fails and leaves the pairs of the table as they were, or it returns the number
of the pair that it adds. -/
theorem create_request (h : TableOk m) (wdf : Wdf) (req : IoctlRequest) (o : CreateOutcomes)
    (requestedPortNumber : ULONG) :
    let result := gcomControlIoDeviceControl m wdf req (.createPort requestedPortNumber o)
    (∃ st, result.2 = .error st ∧ SameListed m result.1) ∨
      ∃ n, result.2 = .ok (.created n n) ∧ Added m result.1 m.pool.next n := by
  intro result
  have hcreate := h.create_spec o requestedPortNumber
  unfold result gcomControlIoDeviceControl
  split
  · exact .inl ⟨_, rfl, .refl m⟩
  dsimp only
  unfold gcomHandleCreatePort
  split
  · exact .inl ⟨_, rfl, .refl m⟩
  split
  · exact .inl ⟨_, rfl, .refl m⟩
  split
  · next m' st heq =>
      rw [heq] at hcreate
      obtain ⟨_, -, hsame⟩ | ⟨_, hok, -⟩ := hcreate
      · exact .inl ⟨st, rfl, hsame⟩
      · cases hok
  · next m' pp heq =>
      rw [heq] at hcreate
      obtain ⟨_, hst, -⟩ | ⟨n, hok, hadded⟩ := hcreate
      · cases hst
      · cases hok
        refine .inr ⟨n, ?_, hadded⟩
        have hnumber := congrArg PairControl.portNumber hadded.created
        have hindex := congrArg PairControl.companionIndex hadded.created
        exact congrArg₂ (fun a b ↦ Except.ok (ControlOutput.created a b)) hnumber hindex

/-- Destroying the pair of a slot that has just been cleared removes it. -/
theorem destroy_spec (h : TableOk m) {i pp : ℕ} (hslot : m.table.At i pp) (o : DestroyOutcomes) :
    Removed m (gcomPortPairDestroy (deactivate { m with table := m.table.clear i } pp) o pp)
      pp := by
  have hlisted (qq : ℕ) : some (.pair qq) ∈ (m.table.clear i).slots ↔ qq ≠ pp ∧ m.Listed qq :=
    h.mem_clear hslot
  obtain ⟨hkept, htable⟩ := destroy_kept (deactivate { m with table := m.table.clear i } pp) o
    fun hmem ↦ ((hlisted pp).mp hmem).1 rfl
  refine ⟨fun qq ↦ ?_, fun qq _ hne ↦ ?_, destroy_context _ o pp, hkept.next_le⟩
  · unfold Machine.Listed
    rw [htable]
    exact hlisted qq
  · refine (hkept.control qq hne).trans ?_
    exact (kept_setPair { m with table := m.table.clear i } pp _).control qq hne

/-- A destroy request fails and changes nothing, or it removes the pair with the companion index. -/
theorem destroy_request (h : TableOk m) (wdf : Wdf) (req : IoctlRequest) (o : DestroyOutcomes)
    (companionIndex : ULONG) :
    let result := gcomControlIoDeviceControl m wdf req (.destroyPort companionIndex o)
    (∃ st, result = (m, .error st)) ∨
      ∃ pp, m.named companionIndex = some pp ∧ result.2 = .ok .destroyed ∧
        Removed m result.1 pp := by
  intro result
  unfold result gcomControlIoDeviceControl
  split
  · exact .inl ⟨_, rfl⟩
  dsimp only
  unfold gcomHandleDestroyPort
  split
  · exact .inl ⟨_, rfl⟩
  split
  · exact .inl ⟨_, rfl⟩
  · next i pp hfind =>
      refine .inr ⟨pp, ?_, rfl, h.destroy_spec (find_pair hfind).1 o⟩
      rw [Machine.named, hfind]
      rfl

/-- As long as there is a pair with the companion index, a destroy request that is well formed
succeeds. -/
theorem destroy_request_ok (h : TableOk m) {companionIndex : ULONG} {pp : ℕ}
    (hnamed : m.named companionIndex = some pp) (req : IoctlRequest) (hreq : 4 ≤ req.inputLength)
    (o : DestroyOutcomes) :
    (gcomControlIoDeviceControl m .ok req (.destroyPort companionIndex o)).2 = .ok .destroyed := by
  have hon : m.controlDevice = true := by
    by_contra hoff
    have hnone := h.cleaned (by simpa using hoff) _ (h.named_iff.mp hnamed).1
    cases hnone
  have hbuffer : controlBuffer .ok req.id 4 req.inputLength invalidParameter = .ok () := by
    rw [controlBuffer, retrieveBuffer, if_neg (Nat.not_lt.mpr hreq)]
    rfl
  obtain ⟨⟨i, qq⟩, hfind, -⟩ := Option.map_eq_some_iff.mp hnamed
  simp only [gcomControlIoDeviceControl, hon, gcomHandleDestroyPort, hbuffer, hfind, Bool.not_true,
    Bool.false_eq_true, if_false]

end TableOk

/-- The table is as it has to be, and every companion device leads to its pair. -/
structure Consistent (m : Machine) : Prop where
  table : TableOk m
  linked : m.Linked

namespace Consistent

variable {m : Machine}

/-- Every control request keeps this. -/
theorem control (h : Consistent m) (wdf : Wdf) (req : IoctlRequest) (request : ControlRequest) :
    Consistent (gcomControlIoDeviceControl m wdf req request).1 := by
  refine ⟨h.table.control wdf req request, ?_⟩
  cases request with
  | createPort portNumber o =>
      rcases h.table.create_request wdf req o portNumber with ⟨-, -, hsame⟩ | ⟨_, -, hadded⟩
      · exact hsame.linked h.linked
      · exact hadded.linked h.linked
  | destroyPort companionIndex o =>
      rcases h.table.destroy_request wdf req o companionIndex with ⟨_, heq⟩ | ⟨_, -, -, hremoved⟩
      · rw [heq]
        exact h.linked
      · exact hremoved.linked h.linked
  | listPorts | getVersion | unknown =>
      unfold gcomControlIoDeviceControl
      split <;> exact h.linked

/-- The cleanup leaves no pair in the table. -/
theorem cleanup (h : Consistent m) (o : ℕ → DestroyOutcomes) :
    Consistent (gcomEvtSelfManagedIoCleanup m o) := by
  have htable := h.table.cleanup o
  refine ⟨htable, fun pp hpp ↦ ?_⟩
  have hnone := htable.cleaned rfl _ hpp
  cases hnone

/-- The state after any requests and cleanups. -/
theorem served (events : List ControlEvent) :
    Consistent (events.foldl Machine.serve .initial) := by
  have hrun (m : Machine) (h : Consistent m) : Consistent (events.foldl Machine.serve m) := by
    induction events generalizing m with
    | nil => exact h
    | cons event rest ih =>
        refine ih _ ?_
        cases event with
        | request wdf req request => exact h.control wdf req request
        | cleanup o => exact h.cleanup o
  refine hrun _ ⟨.initial, fun pp hpp ↦ ?_⟩
  have hnone := List.eq_of_mem_replicate hpp
  cases hnone

end Consistent

end GhostCom
