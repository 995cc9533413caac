import GhostCom.PortTable.Frame

/-!
# The port-table invariant

Over every sequence of control requests, with `GcomEvtSelfManagedIoCleanup` at any time between
them, the table and `PortCount` agree, no sentinel stays behind, the entries are active pairs with
different numbers, and every pair that was stored is removed once. The steps of the proof are the
changes a table goes through: a create that fails, a create that succeeds, and an entry that is
cleared.
-/

namespace GhostCom

namespace PortTable

/-- The slot holds the entry. -/
def Holds (t : PortTable) (i : ℕ) (entry : PortEntry) : Prop := t.slots[i]? = some (some entry)

variable {t : PortTable} {i j : ℕ} {entry entry' : PortEntry}

/-- A slot holds one entry. -/
theorem Holds.inj (h : t.Holds i entry) (h' : t.Holds i entry') : entry = entry' :=
  Option.some.inj (Option.some.inj (h.symm.trans h'))

/-- After a slot is cleared the other slots hold what they held. -/
theorem holds_clear : (t.clear i).Holds j entry ↔ j ≠ i ∧ t.Holds j entry := by
  show (t.slots.set i none)[j]? = _ ↔ _
  rw [List.getElem?_set]
  by_cases hij : i = j
  · subst hij
    rw [if_pos rfl]
    split <;> simp
  · rw [if_neg hij]
    exact ⟨fun h ↦ ⟨fun heq ↦ hij heq.symm, h⟩, And.right⟩

/-- After an entry is stored in a slot, that slot holds it and the others hold what they held. -/
theorem holds_set (hlt : i < t.slots.length) :
    (t.slots.set i (some entry'))[j]? = some (some entry) ↔
      j = i ∧ entry = entry' ∨ j ≠ i ∧ t.Holds j entry := by
  rw [List.getElem?_set]
  by_cases hij : i = j
  · subst hij
    rw [if_pos rfl, if_pos hlt]
    simp [eq_comm]
  · rw [if_neg hij]
    simp [Holds, Ne.symm hij]

/-- The slot holds the pair. -/
def At (t : PortTable) (i pp : ℕ) : Prop := t.slots[i]? = some (some (.pair pp))

/-- How often the pair has been stored in the table. -/
def publications (t : PortTable) (pp : ℕ) : ℕ := t.history.count (.published pp)

/-- The event is the removal of the pair. -/
def removes (pp : ℕ) : TableEvent → Bool
  | .cleared (some (.pair qq)) _ => qq = pp
  | _ => false

/-- How often the pair has been removed from the table. -/
def removals (t : PortTable) (pp : ℕ) : ℕ := t.history.countP (removes pp)

theorem mem_iff_at {t : PortTable} {pp : ℕ} : some (.pair pp) ∈ t.slots ↔ ∃ i, t.At i pp :=
  List.mem_iff_getElem?

/-- A slot holds one pair. -/
theorem At.inj {t : PortTable} {i pp qq : ℕ} (hpp : t.At i pp) (hqq : t.At i qq) : pp = qq :=
  PortEntry.pair.inj (Holds.inj hpp hqq)

/-- After a slot is cleared the other slots hold the pairs they held. -/
theorem at_clear {t : PortTable} {i j pp : ℕ} : (t.clear i).At j pp ↔ j ≠ i ∧ t.At j pp :=
  holds_clear

/-- After a pair is stored in an empty slot, that slot holds it and the others hold what they
held. -/
theorem at_publish {t : PortTable} {i j pp qq : ℕ} (hfree : t.slots[i]? = some none) :
    ((t.reserve i).publish i pp).At j qq ↔ j = i ∧ qq = pp ∨ t.At j qq := by
  have hlt := (List.getElem?_eq_some_iff.mp hfree).1
  have hempty : t.At j qq → j ≠ i := by
    rintro hj rfl
    exact nomatch hfree.symm.trans hj
  show ((t.slots.set i (some .reserved)).set i (some (.pair pp)))[j]? = some (some _) ↔ _
  rw [List.set_set, holds_set hlt]
  constructor
  · rintro (⟨rfl, hpair⟩ | ⟨-, hold⟩)
    · exact .inl ⟨rfl, PortEntry.pair.inj hpair⟩
    · exact .inr hold
  · rintro (⟨rfl, rfl⟩ | hold)
    · exact .inl ⟨rfl, rfl⟩
    · exact .inr ⟨hempty hold, hold⟩

/-- Then the table has that pair and those it had. -/
theorem mem_publish {t : PortTable} {i pp qq : ℕ} (hfree : t.slots[i]? = some none) :
    some (.pair qq) ∈ ((t.reserve i).publish i pp).slots ↔ qq = pp ∨ some (.pair qq) ∈ t.slots := by
  rw [mem_iff_at, mem_iff_at]
  constructor
  · rintro ⟨j, hj⟩
    rcases (at_publish hfree).mp hj with ⟨-, heq⟩ | hold
    · exact .inl heq
    · exact .inr ⟨j, hold⟩
  · rintro (heq | ⟨j, hj⟩)
    · exact ⟨i, (at_publish hfree).mpr (.inl ⟨rfl, heq⟩)⟩
    · exact ⟨j, (at_publish hfree).mpr (.inr hj)⟩

section History

variable {t t' : PortTable} {extra : List TableEvent}

/-- What a change adds to the history adds to the publications. -/
theorem publications_append (h : t'.history = t.history ++ extra) (pp : ℕ) :
    t'.publications pp = t.publications pp + extra.count (.published pp) := by
  unfold publications
  rw [h, List.count_append]

/-- What a change adds to the history adds to the removals. -/
theorem removals_append (h : t'.history = t.history ++ extra) (pp : ℕ) :
    t'.removals pp = t.removals pp + extra.countP (removes pp) := by
  unfold removals
  rw [h, List.countP_append]

end History

end PortTable

/-- The invariant of the table between requests. -/
structure TableOk (m : Machine) : Prop where
  counted : m.table.Counted
  noUnderflow : ∀ entry portCount, .cleared entry portCount ∈ m.table.history →
    0 < portCount.toNat
  noReserved : some .reserved ∉ m.table.slots
  real : ∀ pp, some (.pair pp) ∈ m.table.slots →
    (m.pairs pp).active = true ∧ (m.pairs pp).companionIndex = (m.pairs pp).portNumber
  distinct : ∀ i j pp qq, m.table.At i pp → m.table.At j qq →
    (m.pairs pp).portNumber = (m.pairs qq).portNumber → i = j
  removedOnce : ∀ pp, m.table.removals pp + (if some (.pair pp) ∈ m.table.slots then 1 else 0) =
    m.table.publications pp
  publishedOnce : ∀ pp, m.table.publications pp ≤ 1
  known : ∀ pp, 0 < m.table.publications pp → pp < m.pool.next
  cleaned : m.controlDevice = false → ∀ entry ∈ m.table.slots, entry = none

namespace TableOk

variable {m m' : Machine}

theorem initial : TableOk .initial where
  counted := SlotTable.empty_counted
  noUnderflow := nofun
  noReserved h := absurd (List.eq_of_mem_replicate h) nofun
  real _ h := absurd (List.eq_of_mem_replicate h) nofun
  distinct i j pp qq h := absurd (List.eq_of_mem_replicate (List.mem_of_getElem? h)) nofun
  removedOnce pp := by
    have hnot : some (.pair pp) ∉ Machine.initial.table.slots :=
      fun h ↦ Option.some_ne_none _ (List.eq_of_mem_replicate h)
    rw [if_neg hnot]
    rfl
  publishedOnce _ := Nat.zero_le _
  known _ h := absurd h (Nat.lt_irrefl 0)
  cleaned := nofun

/-- A pair is stored in one slot. -/
theorem at_unique (h : TableOk m) {i j pp : ℕ} (hi : m.table.At i pp) (hj : m.table.At j pp) :
    i = j :=
  h.distinct i j pp pp hi hj rfl

/-- After the slot of a pair is cleared the table has the other pairs. -/
theorem mem_clear (h : TableOk m) {i pp qq : ℕ} (hslot : m.table.At i pp) :
    some (.pair qq) ∈ (m.table.clear i).slots ↔ qq ≠ pp ∧ some (.pair qq) ∈ m.table.slots := by
  rw [PortTable.mem_iff_at, PortTable.mem_iff_at]
  constructor
  · rintro ⟨j, hj⟩
    obtain ⟨hne, hj⟩ := PortTable.at_clear.mp hj
    refine ⟨fun heq ↦ hne ?_, j, hj⟩
    subst heq
    exact h.at_unique hj hslot
  · rintro ⟨hne, j, hj⟩
    refine ⟨j, PortTable.at_clear.mpr ⟨fun heq ↦ hne ?_, hj⟩⟩
    subst heq
    exact hj.inj hslot

/-- No entry has a number that is not in use. -/
theorem number_ne (h : TableOk m) {portNumber : ULONG} (hunused : m.portInUse portNumber = false)
    {pp : ℕ} (hmem : some (.pair pp) ∈ m.table.slots) : (m.pairs pp).portNumber ≠ portNumber := by
  intro hnumber
  have hmatch := List.any_eq_false.mp hunused _ hmem
  simp [Machine.entryMatches, (h.real pp hmem).1, hnumber] at hmatch

/-- An entry is the block of a pair that has been allocated. -/
theorem entry_lt (h : TableOk m) {pp : ℕ} (hmem : some (.pair pp) ∈ m.table.slots) :
    pp < m.pool.next := by
  refine h.known pp ?_
  rw [← h.removedOnce, if_pos hmem]
  exact Nat.succ_pos _

/-- A pair that has not been allocated yet has not been stored. -/
theorem fresh (h : TableOk m) {pp : ℕ} (hpp : m.pool.next ≤ pp) :
    m.table.publications pp = 0 ∧ m.table.removals pp = 0 ∧ some (.pair pp) ∉ m.table.slots := by
  have hnone : m.table.publications pp = 0 := by
    by_contra hne
    exact absurd (h.known pp (Nat.pos_of_ne_zero hne)) (Nat.not_lt.mpr hpp)
  have hsum := h.removedOnce pp
  rw [hnone] at hsum
  refine ⟨hnone, by omega, fun hmem ↦ ?_⟩
  rw [if_pos hmem] at hsum
  omega

/-- An entry whose control fields are as before is as it has to be. -/
theorem real_of_control (h : TableOk m) {pp : ℕ} (hmem : some (.pair pp) ∈ m.table.slots)
    (hsame : (m'.pairs pp).control = (m.pairs pp).control) :
    (m'.pairs pp).active = true ∧ (m'.pairs pp).companionIndex = (m'.pairs pp).portNumber := by
  obtain ⟨hactive, hindex⟩ := h.real pp hmem
  refine ⟨(congrArg PairControl.active hsame).trans hactive, ?_⟩
  exact (congrArg PairControl.companionIndex hsame).trans
    (hindex.trans (congrArg PairControl.portNumber hsame).symm)

/-- Two entries whose control fields are as before and that share a number are one. -/
theorem distinct_of_control (h : TableOk m) {i j pp qq : ℕ} (hi : m.table.At i pp)
    (hj : m.table.At j qq) (hpp : (m'.pairs pp).control = (m.pairs pp).control)
    (hqq : (m'.pairs qq).control = (m.pairs qq).control)
    (heq : (m'.pairs pp).portNumber = (m'.pairs qq).portNumber) : i = j :=
  h.distinct i j pp qq hi hj <| (congrArg PairControl.portNumber hpp).symm.trans <|
    heq.trans (congrArg PairControl.portNumber hqq)

/-- `PortCount` does not underflow at removals that are added to the history. -/
theorem noUnderflow_append (h : TableOk m) {extra : List TableEvent}
    (hhistory : m'.table.history = m.table.history ++ extra)
    (hextra : ∀ entry portCount, .cleared entry portCount ∈ extra → 0 < portCount.toNat)
    (entry : Option PortEntry) (portCount : ULONG)
    (hcleared : .cleared entry portCount ∈ m'.table.history) : 0 < portCount.toNat := by
  rw [hhistory, List.mem_append] at hcleared
  rcases hcleared with hold | hnew
  · exact h.noUnderflow entry portCount hold
  · exact hextra entry portCount hnew

/-- Storing an entry other than the marker leaves no slot reserved. -/
theorem noReserved_set (h : TableOk m) (i : ℕ) {entry : Option PortEntry}
    (hentry : entry ≠ some .reserved) : some .reserved ∉ m.table.slots.set i entry := by
  intro hreserved
  rcases List.mem_or_eq_of_mem_set hreserved with hold | heq
  · exact h.noReserved hold
  · exact hentry heq.symm

/-- The invariant looks at the table, the control fields of its entries and the control device. -/
theorem congr (h : TableOk m) (htable : m'.table = m.table)
    (hcontrol : ∀ pp, some (.pair pp) ∈ m.table.slots →
      (m'.pairs pp).control = (m.pairs pp).control)
    (hnext : m.pool.next ≤ m'.pool.next) (hdevice : m'.controlDevice = m.controlDevice) :
    TableOk m' := by
  constructor
  case counted =>
    rw [htable]
    exact h.counted
  case noUnderflow =>
    rw [htable]
    exact h.noUnderflow
  case noReserved =>
    rw [htable]
    exact h.noReserved
  case real =>
    intro pp hmem
    rw [htable] at hmem
    exact h.real_of_control hmem (hcontrol pp hmem)
  case distinct =>
    intro i j pp qq hi hj heq
    rw [htable] at hi hj
    exact h.distinct_of_control hi hj (hcontrol pp (List.mem_of_getElem? hi))
      (hcontrol qq (List.mem_of_getElem? hj)) heq
  case removedOnce =>
    rw [htable]
    exact h.removedOnce
  case publishedOnce =>
    rw [htable]
    exact h.publishedOnce
  case known =>
    rw [htable]
    exact fun pp hpos ↦ Nat.lt_of_lt_of_le (h.known pp hpos) hnext
  case cleaned =>
    rw [htable, hdevice]
    exact h.cleaned

/-- Work on a pair that is not in the table. -/
theorem kept (h : TableOk m) {pp : ℕ} (hkept : Kept pp m m') (htable : m'.table = m.table)
    (hnot : some (.pair pp) ∉ m.table.slots) : TableOk m' :=
  h.congr htable (fun qq hmem ↦ hkept.control qq fun heq ↦ hnot (heq ▸ hmem)) hkept.next_le
    hkept.controlDevice

/-- Changes of the table that cancel out: the slots are as before, and each pair has been removed in
the meantime as often as it has been stored. -/
theorem restored (h : TableOk m) (hkept : Kept m.pool.next m m')
    (hslots : m'.table.toSlotTable = m.table.toSlotTable) {extra : List TableEvent}
    (hhistory : m'.table.history = m.table.history ++ extra)
    (hunderflow : ∀ entry portCount, .cleared entry portCount ∈ extra → 0 < portCount.toNat)
    (hbalance : ∀ pp, extra.countP (PortTable.removes pp) = extra.count (.published pp))
    (honce : ∀ pp, 0 < extra.count (.published pp) →
      extra.count (.published pp) ≤ 1 ∧ m.pool.next ≤ pp ∧ pp < m'.pool.next) :
    TableOk m' := by
  have hmem (pp : ℕ) : some (.pair pp) ∈ m'.table.slots ↔ some (.pair pp) ∈ m.table.slots := by
    rw [hslots]
  have hat (i pp : ℕ) (hat : m'.table.At i pp) : m.table.At i pp := by
    unfold PortTable.At at hat ⊢
    rwa [hslots] at hat
  have hnew (pp : ℕ) (hpp : some (.pair pp) ∈ m.table.slots) : pp ≠ m.pool.next :=
    fun heq ↦ (h.fresh (Nat.le_refl m.pool.next)).2.2 (heq ▸ hpp)
  have hsum := PortTable.publications_append hhistory
  have hcontrol (pp : ℕ) (hpp : some (.pair pp) ∈ m.table.slots) :=
    hkept.control pp (hnew pp hpp)
  constructor
  case counted =>
    rw [hslots]
    exact h.counted
  case noUnderflow => exact h.noUnderflow_append hhistory hunderflow
  case noReserved =>
    rw [hslots]
    exact h.noReserved
  case real =>
    intro pp hpp
    rw [hmem] at hpp
    exact h.real_of_control hpp (hcontrol pp hpp)
  case distinct =>
    intro i j pp qq hi hj heq
    have hi' := hat i pp hi
    have hj' := hat j qq hj
    exact h.distinct_of_control hi' hj' (hcontrol pp (List.mem_of_getElem? hi'))
      (hcontrol qq (List.mem_of_getElem? hj')) heq
  case removedOnce =>
    intro pp
    -- both sums grow by what `extra` has of the pair
    have hold := h.removedOnce pp
    rw [PortTable.removals_append hhistory, hbalance, hsum, if_congr (hmem pp) rfl rfl]
    omega
  case publishedOnce =>
    intro pp
    rw [hsum]
    by_cases hpos : 0 < extra.count (.published pp)
    · obtain ⟨hle, hge, -⟩ := honce pp hpos
      rw [(h.fresh hge).1]
      omega
    · have := h.publishedOnce pp
      omega
  case known =>
    intro pp hpos
    rw [hsum] at hpos
    by_cases hextra : 0 < extra.count (.published pp)
    · exact (honce pp hextra).2.2
    · exact Nat.lt_of_lt_of_le (h.known pp (by omega)) hkept.next_le
  case cleaned =>
    rw [hkept.controlDevice, hslots]
    exact h.cleaned

/-- The number that `PortCount` has while a slot is reserved. -/
theorem reserved_count_pos (h : TableOk m) {i : ℕ} (hfree : m.table.firstFree = some i) :
    0 < (m.table.count + 1).toNat :=
  (h.counted.occupy (a := .reserved) (SlotTable.slot_of_firstFree hfree) (by decide)).pos
    (reserve_slot hfree)

/-- A create that fails: the slots are as before, and the history shows the pair stored and removed,
or neither. -/
theorem failed (h : TableOk m) (hkept : Kept m.pool.next m m') (hfailed : FailedTable m m') :
    TableOk m' := by
  have hslots := hfailed.restored
  cases hfailed with
  | same htable => exact h.kept hkept htable (h.fresh (Nat.le_refl m.pool.next)).2.2
  | reserved i hfree htable =>
      have hhistory : m'.table.history =
          m.table.history ++ [.cleared (some .reserved) (m.table.count + 1)] := by
        rw [htable, PortTable.clear, reserve_slot hfree]
        rfl
      refine h.restored hkept hslots hhistory ?_ (fun pp ↦ rfl) (fun pp hpos ↦ ?_)
      · intro entry portCount hmem
        cases List.mem_singleton.mp hmem
        exact h.reserved_count_pos hfree
      · exact absurd hpos (Nat.lt_irrefl 0)
  -- the pair was in the table for a while, and fail_cleanup has removed it
  | published i hfree htable hnext =>
      have hentry : ((m.table.reserve i).publish i m.pool.next).slots[i]? =
          some (some (.pair m.pool.next)) :=
        (PortTable.at_publish (SlotTable.slot_of_firstFree hfree)).mpr (.inl ⟨rfl, rfl⟩)
      have hhistory : m'.table.history = m.table.history ++
          [.published m.pool.next, .cleared (some (.pair m.pool.next)) (m.table.count + 1)] := by
        rw [htable, PortTable.clear, hentry]
        simp [PortTable.publish, PortTable.reserve, SlotTable.replace, SlotTable.occupy]
      refine h.restored hkept hslots hhistory ?_ (fun pp ↦ ?_) (fun pp hpos ↦ ?_)
      · intro entry portCount hmem
        rcases List.mem_cons.mp hmem with heq | hmem
        · cases heq
        · cases List.mem_singleton.mp hmem
          exact h.reserved_count_pos hfree
      · by_cases hpp : m.pool.next = pp
        · simp [PortTable.removes, hpp]
        · simp [PortTable.removes, hpp]
      · obtain rfl : m.pool.next = pp := by
          have hmem := List.count_pos_iff.mp hpos
          simpa [eq_comm] using hmem
        exact ⟨by simp, Nat.le_refl _, hnext⟩

/-- A create that succeeds: the new pair has a number that no other entry has. -/
theorem created (h : TableOk m) (hkept : Kept m.pool.next m m') {i : ℕ} {portNumber : ULONG}
    (hfree : m.table.firstFree = some i) (hunused : m.portInUse portNumber = false)
    (htable : m'.table = (m.table.reserve i).publish i m.pool.next)
    (hcontrol : (m'.pairs m.pool.next).control = (PortPair.initial portNumber).control)
    (hnext : m.pool.next < m'.pool.next) (hdevice : m.controlDevice = true) : TableOk m' := by
  have hslot := SlotTable.slot_of_firstFree hfree
  have hfresh := h.fresh (Nat.le_refl m.pool.next)
  have hat (j pp : ℕ) : m'.table.At j pp ↔ j = i ∧ pp = m.pool.next ∨ m.table.At j pp := by
    rw [htable]
    exact PortTable.at_publish hslot
  have hmem (pp : ℕ) : some (.pair pp) ∈ m'.table.slots ↔
      pp = m.pool.next ∨ some (.pair pp) ∈ m.table.slots := by
    rw [htable]
    exact PortTable.mem_publish hslot
  have hold (pp : ℕ) (hpp : some (.pair pp) ∈ m.table.slots) :
      (m'.pairs pp).control = (m.pairs pp).control :=
    hkept.control pp fun heq ↦ hfresh.2.2 (heq ▸ hpp)
  -- no entry of the old table has the new number
  have hother (pp : ℕ) (hpp : some (.pair pp) ∈ m.table.slots) :
      (m'.pairs pp).portNumber ≠ portNumber := by
    intro heq
    have hsame : (m'.pairs pp).portNumber = (m.pairs pp).portNumber :=
      congrArg PairControl.portNumber (hold pp hpp)
    exact h.number_ne hunused hpp (hsame.symm.trans heq)
  have hnumber : (m'.pairs m.pool.next).portNumber = portNumber :=
    congrArg PairControl.portNumber hcontrol
  have hhistory : m'.table.history = m.table.history ++ [.published m.pool.next] := by
    rw [htable]
    rfl
  have hsum (pp : ℕ) : m'.table.publications pp =
      m.table.publications pp + if pp = m.pool.next then 1 else 0 := by
    rw [PortTable.publications_append hhistory]
    by_cases hpp : pp = m.pool.next
    · simp [hpp]
    · simp [hpp, Ne.symm hpp]
  have hremovals (pp : ℕ) : m'.table.removals pp = m.table.removals pp :=
    PortTable.removals_append hhistory pp
  constructor
  case counted =>
    rw [htable]
    exact (h.counted.occupy hslot (by decide)).replace (reserve_slot hfree)
  case noUnderflow =>
    refine h.noUnderflow_append hhistory fun entry portCount hcleared ↦ ?_
    cases List.mem_singleton.mp hcleared
  case noReserved =>
    rw [htable]
    show some .reserved ∉ (m.table.slots.set i (some .reserved)).set i (some (.pair m.pool.next))
    rw [List.set_set]
    exact h.noReserved_set i (by simp)
  case real =>
    intro pp hpp
    rcases (hmem pp).mp hpp with rfl | hpp
    · refine ⟨congrArg PairControl.active hcontrol, ?_⟩
      exact (congrArg PairControl.companionIndex hcontrol).trans hnumber.symm
    · exact h.real_of_control hpp (hold pp hpp)
  case distinct =>
    intro j k pp qq hj hk heq
    rcases (hat j pp).mp hj with ⟨rfl, rfl⟩ | hj <;> rcases (hat k qq).mp hk with ⟨rfl, rfl⟩ | hk
    · rfl
    · exact absurd (heq.symm.trans hnumber) (hother qq (List.mem_of_getElem? hk))
    · exact absurd (heq.trans hnumber) (hother pp (List.mem_of_getElem? hj))
    · exact h.distinct_of_control hj hk (hold pp (List.mem_of_getElem? hj))
        (hold qq (List.mem_of_getElem? hk)) heq
  case removedOnce =>
    intro pp
    -- the new pair has been stored once, and nothing else has changed
    have hsumold := h.removedOnce pp
    rw [hremovals, hsum]
    by_cases hpp : pp = m.pool.next
    · rw [if_pos ((hmem pp).mpr (.inl hpp)), if_pos hpp]
      rw [if_neg (hpp ▸ hfresh.2.2)] at hsumold
      omega
    · have hiff : some (.pair pp) ∈ m'.table.slots ↔ some (.pair pp) ∈ m.table.slots :=
        (hmem pp).trans ⟨fun h ↦ h.resolve_left hpp, .inr⟩
      rw [if_congr hiff rfl rfl, if_neg hpp]
      omega
  case publishedOnce =>
    intro pp
    rw [hsum]
    by_cases hpp : pp = m.pool.next
    · rw [if_pos hpp, hpp, hfresh.1]
    · rw [if_neg hpp]
      exact h.publishedOnce pp
  case known =>
    intro pp hpos
    rw [hsum] at hpos
    by_cases hpp : pp = m.pool.next
    · exact hpp ▸ hnext
    · rw [if_neg hpp] at hpos
      exact Nat.lt_of_lt_of_le (h.known pp hpos) hkept.next_le
  case cleaned =>
    intro hoff
    rw [hkept.controlDevice, hdevice] at hoff
    cases hoff

/-- Clearing the slot of a pair, whatever happens to the pair. -/
theorem cleared (h : TableOk m) {i pp : ℕ} (hkept : Kept pp m m') (hslot : m.table.At i pp)
    (htable : m'.table = m.table.clear i) : TableOk m' := by
  have hmem : some (.pair pp) ∈ m.table.slots := List.mem_of_getElem? hslot
  have hat (j qq : ℕ) : m'.table.At j qq ↔ j ≠ i ∧ m.table.At j qq := by
    rw [htable]
    exact PortTable.at_clear
  -- the pair is in no other slot, so clearing this one takes it out of the table
  have hmem' (qq : ℕ) : some (.pair qq) ∈ m'.table.slots ↔
      qq ≠ pp ∧ some (.pair qq) ∈ m.table.slots := by
    rw [htable]
    exact h.mem_clear hslot
  have hold (qq : ℕ) (hqq : some (.pair qq) ∈ m'.table.slots) :
      (m'.pairs qq).control = (m.pairs qq).control :=
    hkept.control qq ((hmem' qq).mp hqq).1
  have hhistory : m'.table.history =
      m.table.history ++ [.cleared (some (.pair pp)) m.table.count] := by
    rw [htable, PortTable.clear, hslot]
    rfl
  have hsum (qq : ℕ) : m'.table.publications qq = m.table.publications qq :=
    PortTable.publications_append hhistory qq
  have hremovals (qq : ℕ) : m'.table.removals qq =
      m.table.removals qq + if qq = pp then 1 else 0 := by
    rw [PortTable.removals_append hhistory]
    by_cases hqq : qq = pp
    · simp [PortTable.removes, hqq]
    · simp [PortTable.removes, hqq, Ne.symm hqq]
  constructor
  case counted =>
    rw [htable]
    exact h.counted.vacate hslot
  case noUnderflow =>
    refine h.noUnderflow_append hhistory fun entry portCount hcleared ↦ ?_
    cases List.mem_singleton.mp hcleared
    exact h.counted.pos hslot
  case noReserved =>
    rw [htable]
    exact h.noReserved_set i (by simp)
  case real =>
    intro qq hqq
    exact h.real_of_control ((hmem' qq).mp hqq).2 (hold qq hqq)
  case distinct =>
    intro j k qq rr hj hk heq
    exact h.distinct_of_control ((hat j qq).mp hj).2 ((hat k rr).mp hk).2
      (hold qq (List.mem_of_getElem? hj)) (hold rr (List.mem_of_getElem? hk)) heq
  case removedOnce =>
    intro qq
    have hsumold := h.removedOnce qq
    rw [hremovals, hsum]
    by_cases hqq : qq = pp
    · rw [if_pos hqq, if_neg fun hin ↦ ((hmem' qq).mp hin).1 hqq]
      rw [if_pos (hqq ▸ hmem)] at hsumold
      omega
    · have hiff : some (.pair qq) ∈ m'.table.slots ↔ some (.pair qq) ∈ m.table.slots :=
        (hmem' qq).trans ⟨And.right, fun h ↦ ⟨hqq, h⟩⟩
      rw [if_congr hiff rfl rfl, if_neg hqq]
      omega
  case publishedOnce =>
    intro qq
    rw [hsum]
    exact h.publishedOnce qq
  case known =>
    intro qq hpos
    rw [hsum] at hpos
    exact Nat.lt_of_lt_of_le (h.known qq hpos) hkept.next_le
  case cleaned =>
    intro hoff entry hentry
    rw [hkept.controlDevice] at hoff
    -- without a control device the table had no pair to clear
    have := h.cleaned hoff _ hmem
    cases this

/-! ## Requests and the cleanup -/

/-- `IOCTL_GCOM_CREATE_PORT` keeps the table, whether it succeeds or not. -/
theorem create_port (h : TableOk m) (hdevice : m.controlDevice = true) (wdf : Wdf)
    (req : IoctlRequest) (o : CreateOutcomes) (portNumber : ULONG) :
    TableOk (gcomHandleCreatePort m wdf req o portNumber).1 := by
  have hcreate : TableOk (gcomPortPairCreate m o portNumber).1 := by
    obtain ⟨hkept, ⟨st, -, hfailed⟩ | ⟨i, n, hfree, hchoose, -, htable, hcontrol, hnext⟩⟩ :=
      create_cases m o portNumber
    · exact h.failed hkept hfailed
    · exact h.created hkept hfree (choose_unused hchoose) htable hcontrol hnext hdevice
  unfold gcomHandleCreatePort
  split
  · exact h
  split
  · exact h
  split <;> next heq => rw [heq] at hcreate; exact hcreate

/-- Destroying a pair whose slot has just been cleared. -/
theorem destroyed (h : TableOk m) {i pp : ℕ} (hslot : m.table.At i pp) (o : DestroyOutcomes) :
    TableOk (gcomPortPairDestroy (deactivate { m with table := m.table.clear i } pp) o pp) := by
  have hnot : some (.pair pp) ∉ (m.table.clear i).slots :=
    fun hmem ↦ ((h.mem_clear hslot).mp hmem).1 rfl
  obtain ⟨hkept, htable⟩ := destroy_kept (deactivate { m with table := m.table.clear i } pp) o hnot
  refine h.cleared (Kept.trans ?_ hkept) hslot htable
  exact (((Frame.refl m).kept pp).setTable _).trans (kept_setPair _ pp _)

/-- `IOCTL_GCOM_DESTROY_PORT` keeps the table, whether the index exists or not. -/
theorem destroy_port (h : TableOk m) (wdf : Wdf) (req : IoctlRequest) (o : DestroyOutcomes)
    (companionIndex : ULONG) : TableOk (gcomHandleDestroyPort m wdf req o companionIndex).1 := by
  unfold gcomHandleDestroyPort
  split
  · exact h
  split
  · exact h
  · next hfind => exact h.destroyed (find_pair hfind).1 o

/-- Every control request keeps the table. -/
theorem control (h : TableOk m) (wdf : Wdf) (req : IoctlRequest) (request : ControlRequest) :
    TableOk (gcomControlIoDeviceControl m wdf req request).1 := by
  unfold gcomControlIoDeviceControl
  split
  · exact h
  next hon =>
  cases request with
  | createPort portNumber o => exact h.create_port (by simpa using hon) wdf req o portNumber
  | destroyPort companionIndex o => exact h.destroy_port wdf req o companionIndex
  | listPorts | getVersion | unknown => exact h

/-- The first loop of the cleanup leaves no pair in the slots it has visited, and none of those it
has collected in the table. -/
theorem collect_pairs (h : TableOk m) (indices : List ℕ) :
    let result := collectPairs m indices
    TableOk result.1 ∧ (∀ i pp, result.1.table.At i pp → m.table.At i pp) ∧
      (∀ i ∈ indices, ∀ pp, ¬result.1.table.At i pp) ∧
      ∀ pp ∈ result.2, some (.pair pp) ∉ result.1.table.slots := by
  induction indices generalizing m with
  | nil => exact ⟨h, fun _ _ hat ↦ hat, nofun, nofun⟩
  | cons i rest ih =>
      dsimp only
      rw [collectPairs]
      split
      · next pp hslot =>
          rw [if_pos (h.real pp (List.mem_of_getElem? hslot)).1]
          -- the table without the pair meets the invariant, and the loop goes on from there
          have hcleared : TableOk { m with table := m.table.clear i } :=
            h.cleared (((Frame.refl m).kept pp).setTable _) hslot rfl
          obtain ⟨hok, hsub, hnone, hcollected⟩ := ih hcleared
          refine ⟨hok, fun j qq hj ↦ (PortTable.at_clear.mp (hsub j qq hj)).2, ?_, ?_⟩
          · intro j hj qq hat
            rcases List.mem_cons.mp hj with rfl | hj
            · exact (PortTable.at_clear.mp (hsub j qq hat)).1 rfl
            · exact hnone j hj qq hat
          · intro qq hqq
            rcases List.mem_cons.mp hqq with rfl | hqq
            · rw [PortTable.mem_iff_at]
              rintro ⟨j, hj⟩
              obtain ⟨hne, hj⟩ := PortTable.at_clear.mp (hsub j qq hj)
              exact hne (h.at_unique hj hslot)
            · exact hcollected qq hqq
      · next hother =>
          obtain ⟨hok, hsub, hnone, hcollected⟩ := ih h
          refine ⟨hok, hsub, ?_, hcollected⟩
          intro j hj qq hat
          rcases List.mem_cons.mp hj with rfl | hj
          · exact hother qq (hsub j qq hat)
          · exact hnone j hj qq hat

/-- The second loop of the cleanup keeps the table as it is. -/
theorem destroy_pairs (h : TableOk m) (o : ℕ → DestroyOutcomes) {toDestroy : List ℕ}
    (hnot : ∀ pp ∈ toDestroy, some (.pair pp) ∉ m.table.slots) :
    TableOk (destroyPairs m o toDestroy) ∧ (destroyPairs m o toDestroy).table = m.table := by
  induction toDestroy generalizing m with
  | nil => exact ⟨h, rfl⟩
  | cons pp rest ih =>
      have hpp := hnot pp (List.mem_cons_self ..)
      obtain ⟨hkept, htable⟩ := destroy_kept (deactivate m pp) (o pp) hpp
      have hok := h.kept (Kept.trans (kept_setPair m pp _) hkept) htable hpp
      obtain ⟨hrest, hsame⟩ := ih hok fun qq hqq ↦ by
        rw [htable]
        exact hnot qq (List.mem_cons_of_mem _ hqq)
      exact ⟨hrest, hsame.trans htable⟩

/-- The cleanup keeps the table and empties it. -/
theorem cleanup (h : TableOk m) (o : ℕ → DestroyOutcomes) :
    TableOk (gcomEvtSelfManagedIoCleanup m o) := by
  obtain ⟨hok, -, hnone, hcollected⟩ := h.collect_pairs (List.range gcomMaxPorts)
  obtain ⟨hok', htable⟩ := hok.destroy_pairs o hcollected
  refine ⟨hok'.counted, hok'.noUnderflow, hok'.noReserved, hok'.real, hok'.distinct,
    hok'.removedOnce, hok'.publishedOnce, hok'.known, fun _ entry hentry ↦ ?_⟩
  obtain ⟨i, hi⟩ := List.mem_iff_getElem?.mp hentry
  have hlt : i ∈ List.range gcomMaxPorts := by
    rw [List.mem_range, ← (destroyPairs _ o _).table.size]
    exact (List.getElem?_eq_some_iff.mp hi).1
  match entry with
  | none => rfl
  | some .reserved => exact absurd hentry hok'.noReserved
  | some (.pair pp) =>
      refine absurd ?_ (hnone i hlt pp)
      unfold PortTable.At
      rw [← htable]
      exact hi

end TableOk

/-- What happens to the driver: a control request, or the cleanup. -/
inductive ControlEvent where
  | request (wdf : Wdf) (req : IoctlRequest) (request : ControlRequest)
  | cleanup (o : ℕ → DestroyOutcomes)

/-- The state after an event. -/
def Machine.serve (m : Machine) : ControlEvent → Machine
  | .request wdf req request => (gcomControlIoDeviceControl m wdf req request).1
  | .cleanup o => gcomEvtSelfManagedIoCleanup m o

/-- After every sequence of control requests, with cleanups between them, the port table is as it
has to be: `PortCount` counts the entries and has never been decremented below zero, no sentinel is
left, every entry is an active pair whose companion index is its number, numbers differ, every pair
that was stored is still there or has been removed once, and after a cleanup the table is empty. -/
theorem port_table_ok (events : List ControlEvent) :
    TableOk (events.foldl Machine.serve .initial) := by
  have hrun (m : Machine) (h : TableOk m) : TableOk (events.foldl Machine.serve m) := by
    induction events generalizing m with
    | nil => exact h
    | cons event rest ih =>
        refine ih _ ?_
        cases event with
        | request wdf req request => exact h.control wdf req request
        | cleanup o => exact h.cleanup o
  exact hrun _ .initial

end GhostCom
