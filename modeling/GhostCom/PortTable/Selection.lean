import GhostCom.PortTable.CreateFailure

/-!
# Choosing a port number

What `GcomFindFreePortNumber` chooses among the numbers 1 to 255, for any table and any names in the
object namespace. A number is usable when no active pair has it and none of the names a new pair
would take exists. The function looks for the two links and never for the device, so
`automatic_selection_iff` asks that no stale device name comes before the lowest usable number.
-/

namespace GhostCom

variable {m : Machine} {others : LinkName → Bool} {n : ULONG}

/-- No active pair has the number, and the links of a new pair with it do not exist: what
`GcomFindFreePortNumber` checks. -/
structure Machine.PassesProbes (m : Machine) (others : LinkName → Bool) (n : ULONG) : Prop where
  unused : m.portInUse n = false
  com : m.linkExists others (.com n) = false
  gcom : m.linkExists others (.gcom n) = false

/-- Neither does the device `\Device\GCOMSerial<N>`. -/
structure Machine.Usable (m : Machine) (others : LinkName → Bool) (n : ULONG) : Prop
    extends Machine.PassesProbes m others n where
  device : .gcomSerial n ∉ m.devices.objects

/-- The number is the lowest usable one, or zero if there is none. -/
structure LowestUsable (m : Machine) (others : LinkName → Bool) (n : ULONG) : Prop where
  zero_iff : n = 0 ↔ ∀ k ∈ candidates, ¬m.Usable others k
  usable : n ≠ 0 → n ∈ candidates ∧ m.Usable others n
  least : n ≠ 0 → ∀ k ∈ candidates, m.Usable others k → n ≤ k

/-! ## The search -/

/-- The candidates are tried in increasing order. -/
theorem candidates_increasing : candidates.Pairwise (· < ·) := by
  refine List.pairwise_map.mpr ((List.pairwise_lt_range' ..).imp_of_mem ?_)
  intro a b ha hb hlt
  have hmem : b < 1 + 255 := (List.mem_range'_1.mp hb).2
  show (BitVec.ofNat 32 a).toNat < (BitVec.ofNat 32 b).toNat
  rw [BitVec.toNat_ofNat, BitVec.toNat_ofNat, Nat.mod_eq_of_lt (by omega),
    Nat.mod_eq_of_lt (by omega)]
  exact hlt

theorem zero_notMem_candidates : (0 : ULONG) ∉ candidates := by
  decide

/-- A search of an increasing list finds the least element that is right. -/
theorem find_least {l : List ULONG} (hl : l.Pairwise (· < ·)) {p : ULONG → Bool} {a k : ULONG}
    (ha : l.find? p = some a) (hk : k ∈ l) (hp : p k = true) : a ≤ k := by
  obtain ⟨-, front, back, rfl, hfront⟩ := List.find?_eq_some_iff_append.mp ha
  rcases List.mem_append.mp hk with hmem | hmem
  · have hno := hfront k hmem
    rw [hp] at hno
    cases hno
  · rcases List.mem_cons.mp hmem with rfl | hback
    · exact BitVec.le_refl _
    · have hrest := (List.pairwise_append.mp hl).2.1
      exact BitVec.le_of_lt ((List.pairwise_cons.mp hrest).1 k hback)

/-- The search stops at a number that passes the probes. -/
theorem probes_iff : (!m.portInUse n && !m.linkExists others (.com n)
    && !m.linkExists others (.gcom n)) = true ↔ m.PassesProbes others n := by
  rw [Bool.and_eq_true, Bool.and_eq_true, Bool.not_eq_true', Bool.not_eq_true', Bool.not_eq_true']
  exact ⟨fun h ↦ ⟨h.1.1, h.1.2, h.2⟩, fun h ↦ ⟨⟨h.unused, h.com⟩, h.gcom⟩⟩

/-- `GcomFindFreePortNumber` returns the least number that passes the probes, or zero. -/
theorem find_free_cases (m : Machine) (others : LinkName → Bool) :
    gcomFindFreePortNumber m others = 0 ∧ (∀ k ∈ candidates, ¬m.PassesProbes others k) ∨
      gcomFindFreePortNumber m others ∈ candidates ∧
        m.PassesProbes others (gcomFindFreePortNumber m others) ∧
        ∀ k ∈ candidates, m.PassesProbes others k → gcomFindFreePortNumber m others ≤ k := by
  unfold gcomFindFreePortNumber
  cases hfind : candidates.find? fun candidate ↦ !m.portInUse candidate &&
      !m.linkExists others (.com candidate) && !m.linkExists others (.gcom candidate) with
  | none =>
      refine .inl ⟨rfl, ?_⟩
      intro k hk hprobes
      exact List.find?_eq_none.mp hfind k hk (probes_iff.mpr hprobes)
  | some candidate =>
      have hprobes := List.find?_some hfind
      refine .inr ⟨List.mem_of_find?_eq_some hfind, probes_iff.mp hprobes, ?_⟩
      intro k hk hprobes
      exact find_least candidates_increasing hfind hk (probes_iff.mpr hprobes)

/-- The number that is returned is the lowest usable one exactly if every number with a stale device
that passes the probes comes after a usable one. -/
theorem lowest_usable_iff (m : Machine) (others : LinkName → Bool) :
    LowestUsable m others (gcomFindFreePortNumber m others) ↔
      ∀ n ∈ candidates, .gcomSerial n ∈ m.devices.objects → m.PassesProbes others n →
        ∃ k ∈ candidates, k < n ∧ m.Usable others k := by
  rcases find_free_cases m others with ⟨hzero, hnone⟩ | ⟨hmem, hprobes, hleast⟩
  · refine iff_of_true ⟨?_, ?_, ?_⟩ fun n hn _ hprobes ↦ absurd hprobes (hnone n hn)
    · exact iff_of_true hzero fun k hk husable ↦ hnone k hk husable.toPassesProbes
    · exact fun hne ↦ absurd hzero hne
    · exact fun hne ↦ absurd hzero hne
  · have hne : gcomFindFreePortNumber m others ≠ 0 := fun heq ↦
      zero_notMem_candidates (heq ▸ hmem)
    constructor
    · intro h n hn hdevice hn'
      have hle := hleast n hn hn'
      obtain ⟨-, husable⟩ := h.usable hne
      refine ⟨_, hmem, BitVec.lt_of_le_ne hle ?_, husable⟩
      rintro rfl
      exact husable.device hdevice
    · intro h
      -- a stale device of the least number would come after a usable number that is less
      have hdevice : .gcomSerial (gcomFindFreePortNumber m others) ∉ m.devices.objects := by
        intro hstale
        obtain ⟨k, hk, hlt, husable⟩ := h _ hmem hstale hprobes
        exact absurd (hleast k hk husable.toPassesProbes) (BitVec.not_le.mpr hlt)
      refine ⟨?_, fun _ ↦ ⟨hmem, hprobes, hdevice⟩, ?_⟩
      · exact iff_of_false hne fun hno ↦ hno _ hmem ⟨hprobes, hdevice⟩
      · exact fun _ k hk husable ↦ hleast k hk husable.toPassesProbes

/-! ## Creating with the chosen number -/

/-- The call does not report a name collision. -/
def CollisionFree (outcome : Outcome) : Prop := outcome ≠ .error objectNameCollision

/-- When a call of the framework fails, it is not because of a name. -/
structure DeviceOutcomes.Nameless (o : DeviceOutcomes) : Prop where
  assignName : CollisionFree o.assignName
  deviceCreate : CollisionFree o.deviceCreate
  queueCreate : ∀ i, CollisionFree (o.queueCreate i)
  createSymbolicLink : CollisionFree o.createSymbolicLink

/-- Likewise for all calls of a create. -/
structure CreateOutcomes.Nameless (o : CreateOutcomes) : Prop where
  signalLock : CollisionFree o.signalLock
  dataLock : CollisionFree o.dataLock
  com : o.com.Nameless
  companion : o.companion.Nameless

theorem collisionFree_ok : CollisionFree (.ok ()) := nofun

theorem collisionFree_allocated (success : Bool) : CollisionFree (allocated success) := by
  cases success
  · intro h
    cases h
  · exact collisionFree_ok

/-- A call and the next one. -/
theorem collisionFree_andThen {result : Machine × Outcome} {next : Machine → Machine × Outcome}
    (h : CollisionFree result.2) (hnext : CollisionFree (next result.1).2) :
    CollisionFree (andThen result next).2 := by
  unfold andThen
  split
  · next st hst => exact fun heq ↦ h (hst.trans heq)
  · exact hnext

theorem collisionFree_bind {x y : Outcome} (hx : CollisionFree x) (hy : CollisionFree y) :
    CollisionFree (x >>= fun _ ↦ y) := by
  cases x with
  | error st => exact hx
  | ok => exact hy

theorem collisionFree_queues {queueCreate : Fin 4 → Outcome}
    (h : ∀ i, CollisionFree (queueCreate i)) : CollisionFree (createQueues queueCreate) :=
  collisionFree_bind (h 0) (collisionFree_bind (h 1) (collisionFree_bind (h 2) (h 3)))

/-- A device whose names do not exist meets no collision. -/
theorem create_device_collisionFree (side : Side) (pp : ℕ) {o : DeviceOutcomes} (h : o.Nameless)
    (hdevice : side.deviceName n ∉ m.devices.objects)
    (hlink : m.linkExists others (side.linkName n) = false) :
    CollisionFree (createDevice m others side n pp o).2 := by
  refine collisionFree_andThen (collisionFree_allocated _) ?_
  refine collisionFree_andThen h.assignName ?_
  rw [createNamedDevice, Machine.wdfDeviceCreate, if_neg hdevice]
  cases hcreate : o.deviceCreate with
  | error st =>
      show CollisionFree (.error st)
      rw [← hcreate]
      exact h.deviceCreate
  | ok =>
      refine collisionFree_andThen collisionFree_ok ?_
      refine collisionFree_andThen (collisionFree_queues h.queueCreate) ?_
      dsimp only
      unfold createSymLink
      split
      · intro heq
        cases heq
      dsimp only
      rw [Machine.wdfDeviceCreateSymbolicLink, if_neg]
      · cases hcreate : o.createSymbolicLink with
        | error st =>
            show CollisionFree (.error st)
            rw [← hcreate]
            exact h.createSymbolicLink
        | ok => exact collisionFree_ok
      · exact Bool.eq_false_iff.mp hlink

/-- The companion device does not exist. Its name is none of those the choice has to look at. -/
def Machine.CompanionAbsent (m : Machine) (n : ULONG) : Prop :=
  (.gcom n : DeviceName) ∉ m.devices.objects

/-- The devices of a pair whose names do not exist meet no collision. -/
theorem create_devices_collisionFree {o : CreateOutcomes} {slotIndex pp : ℕ} (h : o.Nameless)
    (hindex : (m.pairs pp).companionIndex = n)
    (hserial : (.gcomSerial n : DeviceName) ∉ m.devices.objects)
    (hcomLink : m.linkExists o.others (.com n) = false)
    (hgcomLink : m.linkExists o.others (.gcom n) = false) (habsent : m.CompanionAbsent n) :
    (createDevices m o slotIndex pp n).2 ≠ .error objectNameCollision := by
  have hcom := create_device_collisionFree .com pp h.com hserial hcomLink
  rcases hcreate : createDevice m o.others .com n pp o.com with ⟨y, st | _⟩
  · rw [hcreate] at hcom
    rw [create_devices_com_error hcreate]
    exact fun heq ↦ hcom (congrArg Except.error (Except.error.inj heq))
  -- the COM device is complete, and its names are not those of the companion device
  have hcompletes : o.com.Completes m o.others (.gcomSerial n) (.com n) :=
    completes_of_ok .com pp hcreate
  obtain ⟨_, heq, hregistered, hyindex, hdevices, -⟩ := com_port_created hindex hcompletes
  rw [hcreate] at heq
  cases heq
  have hdevice : Side.companion.deviceName n ∉ (registerComPort y o n).devices.objects := by
    rw [hdevices]
    show _ ∉ insert (DeviceName.gcomSerial n) m.devices.objects
    rw [Finset.mem_insert]
    exact fun hmem ↦ habsent (hmem.resolve_left fun heq ↦ by cases heq)
  have hlink : (registerComPort y o n).linkExists o.others (Side.companion.linkName n) = false := by
    show ((registerComPort y o n).devices.hasLink (.gcom n) || o.others (.gcom n)) = false
    have hne : LinkName.gcom n ≠ LinkName.com n := fun heq ↦ by cases heq
    rw [hdevices, ObjectNamespace.hasLink_link hne]
    exact hgcomLink
  have hcompanion := create_device_collisionFree .companion pp h.companion hdevice hlink
  rcases hresult : createDevice (registerComPort y o n) o.others .companion n pp o.companion with
    ⟨z, st | _⟩
  · rw [hresult] at hcompanion
    simp only [createDevices, hregistered, gcomCompanionCreate, hyindex, hresult]
    exact fun heq ↦ hcompanion (congrArg Except.error (Except.error.inj heq))
  · simp only [createDevices, hregistered, gcomCompanionCreate, hyindex, hresult]
    intro heq
    cases heq

theorem init_pair_collisionFree {o : CreateOutcomes} (h : o.Nameless) (x : Machine) (pp : ℕ) :
    CollisionFree (initPair x o pp).2 := by
  have hring (y : Machine) (success : Bool) (store : PairRecord → ℕ → PairRecord) :
      CollisionFree (initRing y success pp store).2 := by
    unfold initRing
    split
    · intro heq
      cases heq
    · exact collisionFree_ok
  have hlock (y : Machine) (outcome : Outcome) (hfree : CollisionFree outcome)
      (store : PairRecord → ℕ → PairRecord) : CollisionFree (createLock y outcome pp store).2 := by
    unfold createLock
    cases outcome with
    | error st => exact hfree
    | ok => exact collisionFree_ok
  refine collisionFree_andThen (hring _ _ _) (collisionFree_andThen (hring _ _ _) ?_)
  exact collisionFree_andThen (hlock _ _ h.signalLock _) (hlock _ _ h.dataLock _)

/-- No automatic create fails because of a name of a number that the choice has to look at: with the
links of others as given, calls of the framework that fail for other reasons only, and no companion
device of the number that is chosen. -/
def NeverCollides (m : Machine) (others : LinkName → Bool) : Prop :=
  ∀ o : CreateOutcomes, o.others = others → o.Nameless →
    m.CompanionAbsent (gcomFindFreePortNumber m others) →
    (gcomPortPairCreate m o 0).2 ≠ .error objectNameCollision

/-- A create with the lowest usable number never collides. -/
theorem never_collides (h : LowestUsable m others (gcomFindFreePortNumber m others)) :
    NeverCollides m others := by
  rintro o rfl hnameless habsent
  cases hfree : m.table.firstFree with
  | none =>
      simp only [gcomPortPairCreate, hfree]
      intro heq
      cases heq
  | some i =>
  by_cases hzero : gcomFindFreePortNumber m o.others = 0
  · have hnumber : choosePortNumber m o.others 0 = .error insufficientResources := by
      rw [choosePortNumber, if_neg (fun hne ↦ hne rfl)]
      exact if_pos hzero
    simp only [gcomPortPairCreate, hfree, hnumber]
    intro heq
    cases heq
  obtain ⟨-, husable⟩ := h.usable hzero
  have hnumber : choosePortNumber m o.others 0 = .ok (gcomFindFreePortNumber m o.others) := by
    rw [choosePortNumber, if_neg (fun hne ↦ hne rfl)]
    exact if_neg hzero
  generalize gcomFindFreePortNumber m o.others = n at husable hnumber habsent
  by_cases hpair : o.pair = true
  case neg =>
    simp only [gcomPortPairCreate, hfree, hnumber, hpair, Bool.not_false, if_true]
    intro heq
    cases heq
  obtain ⟨-, hregistered, hcontrol⟩ := with_init_spec m o i n
  have hinitFree := init_pair_collisionFree hnameless (withPair m i n) m.pool.next
  rcases hinit : initPair (withPair m i n) o m.pool.next with ⟨x, st | _⟩
  · rw [create_of_init hfree hnumber hpair hinit]
    rw [hinit] at hinitFree
    exact fun heq ↦ hinitFree (congrArg Except.error (Except.error.inj heq))
  · rw [create_of_init hfree hnumber hpair hinit]
    rw [withInit, hinit] at hregistered hcontrol
    have hdevices : x.devices = m.devices := hregistered.devices
    have hlinks (link : LinkName) : x.linkExists o.others link = m.linkExists o.others link := by
      rw [Machine.linkExists, hdevices]
      rfl
    refine create_devices_collisionFree hnameless (congrArg PairControl.companionIndex hcontrol)
      ?_ ((hlinks _).trans husable.com) ((hlinks _).trans husable.gcom) ?_
    · show _ ∉ x.devices.objects
      rw [hdevices]
      exact husable.device
    · show _ ∉ x.devices.objects
      rw [hdevices]
      exact habsent

/-- Automatic selection does what it should, for any table and any names that exist, if and only if
every number whose device exists although no active pair has it and neither of its links exists
comes after a usable number. -/
theorem automatic_selection_iff (m : Machine) (others : LinkName → Bool) :
    LowestUsable m others (gcomFindFreePortNumber m others) ∧ NeverCollides m others ↔
      ∀ n ∈ candidates, .gcomSerial n ∈ m.devices.objects → m.PassesProbes others n →
        ∃ k ∈ candidates, k < n ∧ m.Usable others k :=
  ⟨fun h ↦ (lowest_usable_iff m others).mp h.1, fun h ↦
    have hlowest := (lowest_usable_iff m others).mpr h
    ⟨hlowest, never_collides hlowest⟩⟩

/-- A device that a failed create has left behind is not seen: the number is chosen again. -/
theorem stale_device_chosen_again :
    ¬∀ (m : Machine) (others : LinkName → Bool),
      LowestUsable m others (gcomFindFreePortNumber m others) ∧ NeverCollides m others := by
  intro h
  obtain ⟨hlowest, -⟩ := h (gcomPortPairCreate .initial .queueFails 0).1 fun _ ↦ false
  have hchosen : gcomFindFreePortNumber (gcomPortPairCreate .initial .queueFails 0).1
      (fun _ ↦ false) = 1 := by
    decide
  have hstale : .gcomSerial 1 ∈ (gcomPortPairCreate .initial .queueFails 0).1.devices.objects := by
    decide
  rw [hchosen] at hlowest
  exact (hlowest.usable (by decide)).2.device hstale

/-- The next create fails because of that device. -/
example : (gcomPortPairCreate (gcomPortPairCreate .initial .queueFails 0).1 .allSucceed 0).2 =
    .error objectNameCollision := by
  rfl

end GhostCom
