import Mathlib.Data.Finset.Card
import GhostCom.PortTable.Listed
import GhostCom.PortTable.Selection

/-!
# The control device is a registry of port numbers

What the control device is for, without slots, pairs and resources: a set of at most 64 port
numbers, into which a create puts a number that is not in it, from which a destroy takes one that
is, and which a list shows. `control_refines_registry` says that the requests and replies of every
run of the control device are a run of this registry.
-/

namespace GhostCom

/-! ## The registry -/

/-- The numbers of the ports that exist, and whether the control device does. -/
structure Registry where
  numbers : Finset ULONG
  present : Bool

/-- A control request as its client sees it, with whether its buffers can be used; a list request
that can be answered has room for a number of entries. -/
inductive RegistryRequest where
  | create (requested : ULONG)
  | destroy (number : ULONG) (usable : Bool)
  | list (room : Option ℕ)
  | version (usable : Bool)
  | unknown
  | cleanup

namespace Registry

/-- What a registry refuses: everything when the control device is gone, a destroy of a number it
does not have, what it does not know, and a request without usable buffers. A create may be refused
for want of resources. -/
def Refuses (g : Registry) : RegistryRequest → Prop
  | .create _ | .unknown => True
  | .destroy number usable => g.present = false ∨ usable = false ∨ number ∉ g.numbers
  | .list room => g.present = false ∨ room = none
  | .version usable => g.present = false ∨ usable = false
  | .cleanup => False

/-- A request, its reply and the registry after it. -/
inductive Serves (g : Registry) : RegistryRequest → Option ControlReply → Registry → Prop where
  | refused {request : RegistryRequest} (st : ErrorStatus) (hrefuses : g.Refuses request) :
      Serves g request (some (.error st)) g
  | created {requested number : ULONG} (hpresent : g.present = true) (hnew : number ∉ g.numbers)
      (hroom : g.numbers.card < gcomMaxPorts) (hrequested : requested ≠ 0 → number = requested)
      (hautomatic : requested = 0 → number ∈ candidates) :
      Serves g (.create requested) (some (.ok (.created number number)))
        { g with numbers := insert number g.numbers }
  | destroyed {number : ULONG} (hmem : number ∈ g.numbers) :
      Serves g (.destroy number true) (some (.ok .destroyed))
        { g with numbers := g.numbers.erase number }
  | listed {room : ℕ} {entries : List PortInfo}
      (hentries : ∀ entry ∈ entries, entry.portNumber ∈ g.numbers ∧
        entry.companionIndex = entry.portNumber)
      (hnodup : (entries.map PortInfo.portNumber).Nodup)
      (hlength : entries.length = min room g.numbers.card) :
      Serves g (.list (some room)) (some (.ok (.ports entries))) g
  | version {major minor patch protocolMajor protocolMinor : BitVec 16} :
      Serves g (.version true)
        (some (.ok (.version major minor patch protocolMajor protocolMinor))) g
  | cleaned : Serves g .cleanup none ⟨∅, false⟩

/-- A run of requests with their replies. -/
inductive Trace : Registry → List (RegistryRequest × Option ControlReply) → Registry → Prop where
  | nil (g : Registry) : Trace g [] g
  | cons {g mid g' : Registry} {request : RegistryRequest} {reply : Option ControlReply}
      {rest : List (RegistryRequest × Option ControlReply)}
      (hserves : g.Serves request reply mid) (hrest : Trace mid rest g') :
      Trace g ((request, reply) :: rest) g'

variable {g g' : Registry}

/-- No request brings more than 64 ports about. -/
theorem Serves.card_le {request : RegistryRequest} {reply : Option ControlReply}
    (h : g.Serves request reply g') (hcard : g.numbers.card ≤ gcomMaxPorts) :
    g'.numbers.card ≤ gcomMaxPorts := by
  cases h with
  | created hpresent hnew hroom =>
      rw [Finset.card_insert_of_notMem hnew]
      exact hroom
  | destroyed hmem => exact Nat.le_trans (Finset.card_erase_le) hcard
  | cleaned => exact Nat.zero_le _
  | _ => exact hcard

/-- The same over a run. -/
theorem Trace.card_le {exchanges : List (RegistryRequest × Option ControlReply)}
    (h : Trace g exchanges g') (hcard : g.numbers.card ≤ gcomMaxPorts) :
    g'.numbers.card ≤ gcomMaxPorts := by
  induction h with
  | nil => exact hcard
  | cons hserves hrest ih => exact ih (hserves.card_le hcard)

/-- The replies that put a number into the registry, and the requests that take it out. -/
def creates (number : ULONG) : RegistryRequest × Option ControlReply → Bool
  | (_, some (.ok (.created n _))) => n = number
  | _ => false

def removes (number : ULONG) : RegistryRequest × Option ControlReply → Bool
  | (.destroy n _, some (.ok .destroyed)) => n = number
  | (.cleanup, _) => true
  | _ => false

/-- A number that is in the registry stays there until it is taken out. -/
theorem Serves.stays {request : RegistryRequest} {reply : Option ControlReply}
    (h : g.Serves request reply g') {number : ULONG} (hmem : number ∈ g.numbers)
    (hkept : removes number (request, reply) = false) : number ∈ g'.numbers := by
  cases h with
  | created => exact Finset.mem_insert_of_mem hmem
  | destroyed =>
      refine Finset.mem_erase.mpr ⟨fun heq ↦ ?_, hmem⟩
      rw [heq] at hkept
      simp [removes] at hkept
  | cleaned => cases hkept
  | _ => exact hmem

/-- The same over a run. -/
theorem Trace.stays {exchanges : List (RegistryRequest × Option ControlReply)}
    (h : Trace g exchanges g') {number : ULONG} (hmem : number ∈ g.numbers)
    (hkept : ∀ exchange ∈ exchanges, removes number exchange = false) :
    number ∈ g'.numbers := by
  induction h with
  | nil => exact hmem
  | cons hserves hrest ih =>
      apply ih (hserves.stays hmem (hkept _ (List.mem_cons_self ..)))
      exact fun exchange hexchange ↦ hkept exchange (List.mem_cons_of_mem _ hexchange)

/-- A run is a run followed by a run. -/
theorem trace_append {first second : List (RegistryRequest × Option ControlReply)} :
    Trace g (first ++ second) g' ↔ ∃ mid, Trace g first mid ∧ Trace mid second g' := by
  induction first generalizing g with
  | nil =>
      constructor
      · intro h
        exact ⟨g, .nil g, h⟩
      · rintro ⟨mid, hfirst, hsecond⟩
        cases hfirst
        exact hsecond
  | cons exchange first ih =>
      constructor
      · intro h
        cases h with
        | cons hserves hrest =>
            obtain ⟨mid, hfirst, hsecond⟩ := ih.mp hrest
            exact ⟨mid, .cons hserves hfirst, hsecond⟩
      · rintro ⟨mid, hfirst, hsecond⟩
        cases hfirst with
        | cons hserves hrest => exact .cons hserves (ih.mpr ⟨mid, hrest, hsecond⟩)

/-- Between two creates that return one number, the number is destroyed or the device is cleaned
up. -/
theorem Trace.created_twice {before between after : List (RegistryRequest × Option ControlReply)}
    {exchange exchange' : RegistryRequest × Option ControlReply} {number : ULONG}
    (h : Trace g (before ++ exchange :: (between ++ exchange' :: after)) g')
    (hfirst : creates number exchange = true) (hsecond : creates number exchange' = true) :
    ∃ removal ∈ between, removes number removal = true := by
  obtain ⟨start, -, h⟩ := trace_append.mp h
  cases h with
  | @cons _ mid _ request reply _ hserves hrest =>
      obtain ⟨stop, hbetween, h'⟩ := trace_append.mp hrest
      cases h' with
      | @cons _ _ _ request' reply' _ hserves' hafter =>
          by_contra hnone
          have hin : number ∈ mid.numbers := by
            cases hserves with
            | @created requested n =>
                have hnumber : n = number := by simpa [creates] using hfirst
                rw [← hnumber]
                exact Finset.mem_insert_self _ _
            | _ => simp [creates] at hfirst
          have hstays : number ∈ stop.numbers := by
            apply hbetween.stays hin
            intro removal hremoval
            by_contra htaken
            exact hnone ⟨removal, hremoval, by simpa using htaken⟩
          cases hserves' with
          | @created requested n hpresent hnew =>
              have hnumber : n = number := by simpa [creates] using hsecond
              rw [hnumber] at hnew
              exact hnew hstays
          | _ => simp [creates] at hsecond

end Registry

/-! ## The refinement -/

/-- The registry that a state of the driver stands for. -/
def Machine.registry (m : Machine) : Registry where
  numbers := ((m.table.slots.filterMap (portInfo m)).map PortInfo.portNumber).toFinset
  present := m.controlDevice

/-- Whether a buffer of a control request can be used. -/
def bufferUsable (wdf : Wdf) (id : RequestId) (minimum length : ℕ) : Bool :=
  (retrieveBuffer wdf id minimum length).isOk

/-- What the client sees of an event. -/
def ControlEvent.seen : ControlEvent → RegistryRequest
  | .request _ _ (.createPort portNumber _) => .create portNumber
  | .request wdf req (.destroyPort companionIndex _) =>
      .destroy companionIndex (bufferUsable wdf req.id 4 req.inputLength)
  | .request wdf req .listPorts =>
      .list (if bufferUsable wdf req.id 4 req.outputLength then some ((req.outputLength - 4) / 16)
        else none)
  | .request wdf req .getVersion => .version (bufferUsable wdf req.id 12 req.outputLength)
  | .request _ _ .unknown => .unknown
  | .cleanup _ => .cleanup

/-- The reply to an event; a cleanup has none. -/
def Machine.reply (m : Machine) : ControlEvent → Option ControlReply
  | .request wdf req request => some (gcomControlIoDeviceControl m wdf req request).2
  | .cleanup _ => none

/-- The requests of a run with their replies. -/
def exchanges (m : Machine) : List ControlEvent → List (RegistryRequest × Option ControlReply)
  | [] => []
  | event :: rest => (event.seen, m.reply event) :: exchanges (m.serve event) rest

namespace TableOk

variable {m : Machine}

/-- The numbers of the registry are those of the pairs of the table. -/
theorem mem_registry (h : TableOk m) {number : ULONG} :
    number ∈ m.registry.numbers ↔ ∃ pp, m.Listed pp ∧ (m.pairs pp).portNumber = number := by
  rw [Machine.registry, List.mem_toFinset, List.mem_map]
  constructor
  · rintro ⟨entry, hentry, rfl⟩
    obtain ⟨slot, hslot, hinfo⟩ := List.mem_filterMap.mp hentry
    match slot with
    | some (.pair pp) =>
        rw [h.port_info_eq hslot] at hinfo
        cases hinfo
        exact ⟨pp, hslot, rfl⟩
    | some .reserved => cases hinfo
    | none => cases hinfo
  · rintro ⟨pp, hlisted, rfl⟩
    exact ⟨_, List.mem_filterMap.mpr ⟨_, hlisted, h.port_info_eq hlisted⟩, rfl⟩

/-- The entries of the table have different numbers. -/
theorem ports_nodup (h : TableOk m) :
    ((m.table.slots.filterMap (portInfo m)).map PortInfo.portNumber).Nodup := by
  rw [List.Nodup, List.pairwise_map, List.pairwise_filterMap, List.pairwise_iff_getElem]
  intro i j hi hj hlt entry hentry entry' hentry' heq
  have hpair {k : ℕ} (hk : k < m.table.slots.length) {entry : PortInfo}
      (hinfo : portInfo m m.table.slots[k] = some entry) :
      ∃ pp, m.table.At k pp ∧ (m.pairs pp).portNumber = entry.portNumber := by
    have hget : m.table.slots[k]? = some m.table.slots[k] := List.getElem?_eq_getElem hk
    match hslot : m.table.slots[k] with
    | some (.pair pp) =>
        have hat : m.table.At k pp := hget.trans (congrArg some hslot)
        rw [hslot, h.port_info_eq (List.mem_of_getElem? hat)] at hinfo
        cases hinfo
        exact ⟨pp, hat, rfl⟩
    | some .reserved =>
        rw [hslot] at hinfo
        cases hinfo
    | none =>
        rw [hslot] at hinfo
        cases hinfo
  obtain ⟨pp, hpp, hnumber⟩ := hpair hi hentry
  obtain ⟨qq, hqq, hnumber'⟩ := hpair hj hentry'
  exact Nat.ne_of_lt hlt (h.distinct i j pp qq hpp hqq (hnumber.trans (heq.trans hnumber'.symm)))

/-- The registry has as many numbers as a list request can show. -/
theorem card_registry (h : TableOk m) :
    m.registry.numbers.card = (m.table.slots.filterMap (portInfo m)).length := by
  rw [Machine.registry, List.toFinset_card_of_nodup h.ports_nodup, List.length_map]

/-- While a slot is free there is room in the registry. -/
theorem card_lt (h : TableOk m) {i : ℕ} (hfree : m.table.firstFree = some i) :
    m.registry.numbers.card < gcomMaxPorts := by
  obtain ⟨hlt, hslot⟩ := List.getElem?_eq_some_iff.mp (SlotTable.slot_of_firstFree hfree)
  rw [h.card_registry, List.length_filterMap_eq_countP]
  refine Nat.lt_of_lt_of_eq ?_ m.table.size
  refine Nat.lt_of_le_of_ne List.countP_le_length fun hall ↦ ?_
  -- the free slot shows no port
  have hshown := List.countP_eq_length.mp hall m.table.slots[i] (List.getElem_mem hlt)
  rw [hslot] at hshown
  cases hshown

/-- A list request shows ports of the registry, each once, and as many as there is room for. -/
theorem lists (h : TableOk m) (room : ℕ) :
    m.registry.Serves (.list (some room))
      (some (.ok (.ports ((m.table.slots.filterMap (portInfo m)).take room)))) m.registry := by
  refine .listed ?_ ?_ ?_
  · intro entry hentry
    have hmem := List.mem_of_mem_take hentry
    refine ⟨List.mem_toFinset.mpr (List.mem_map_of_mem hmem), ?_⟩
    obtain ⟨slot, hslot, hinfo⟩ := List.mem_filterMap.mp hmem
    match slot with
    | some (.pair pp) =>
        rw [h.port_info_eq hslot] at hinfo
        cases hinfo
        exact (h.real pp hslot).2
    | some .reserved => cases hinfo
    | none => cases hinfo
  · rw [List.map_take]
    exact h.ports_nodup.sublist (List.take_sublist ..)
  · rw [List.length_take, h.card_registry]

end TableOk

/-- A buffer of a control request can be used, or its handler refuses the request. -/
theorem control_buffer_cases (wdf : Wdf) (id : RequestId) (minimum length : ℕ) (st : ErrorStatus) :
    bufferUsable wdf id minimum length = true ∧ controlBuffer wdf id minimum length st = .ok () ∨
      bufferUsable wdf id minimum length = false ∧
        controlBuffer wdf id minimum length st = .error st := by
  unfold bufferUsable controlBuffer
  cases retrieveBuffer wdf id minimum length with
  | ok => exact .inl ⟨rfl, rfl⟩
  | error st' => exact .inr ⟨rfl, rfl⟩

/-- The number that a create chooses is the one requested, or one of those it tries. -/
theorem choose_cases {m : Machine} {others : LinkName → Bool} {requested number : ULONG}
    (h : choosePortNumber m others requested = .ok number) :
    (requested ≠ 0 → number = requested) ∧ (requested = 0 → number ∈ candidates) := by
  unfold choosePortNumber at h
  split at h
  · next hne =>
      refine ⟨fun _ ↦ ?_, fun hzero ↦ absurd hzero hne⟩
      split at h
      · cases h
      · split at h
        · cases h
        · cases h
          rfl
  · next hzero =>
      refine ⟨fun hne ↦ absurd hne hzero, fun _ ↦ ?_⟩
      dsimp only at h
      split at h
      · cases h
      · next hfound =>
          cases h
          exact (find_free_cases m others).elim (fun hnone ↦ absurd hnone.1 hfound) (·.1)

namespace TableOk

variable {m : Machine}

/-- No request creates or deletes the control device. -/
theorem control_present (h : TableOk m) (wdf : Wdf) (req : IoctlRequest)
    (request : ControlRequest) :
    (gcomControlIoDeviceControl m wdf req request).1.controlDevice = m.controlDevice := by
  unfold gcomControlIoDeviceControl
  split
  · rfl
  cases request with
  | createPort portNumber o =>
      have hkept := (create_cases m o portNumber).1.controlDevice
      dsimp only
      unfold gcomHandleCreatePort
      split
      · rfl
      split
      · rfl
      split <;> next heq => rw [heq] at hkept; exact hkept
  | destroyPort companionIndex o =>
      dsimp only
      unfold gcomHandleDestroyPort
      split
      · rfl
      split
      · rfl
      · next i pp hfind =>
          have hnot : some (.pair pp) ∉ (m.table.clear i).slots :=
            fun hmem ↦ ((h.mem_clear (find_pair hfind).1).mp hmem).1 rfl
          exact (destroy_kept (deactivate { m with table := m.table.clear i } pp) o
            hnot).1.controlDevice
  | listPorts | getVersion | unknown => rfl

/-- A state whose pairs have the given numbers, and whose control device is as before. -/
theorem registry_eq {m' : Machine} (h' : TableOk m') {numbers : Finset ULONG}
    (hpresent : m'.controlDevice = m.controlDevice)
    (hnumbers : ∀ number, (∃ pp, m'.Listed pp ∧ (m'.pairs pp).portNumber = number) ↔
      number ∈ numbers) : m'.registry = { m.registry with numbers := numbers } := by
  have heq : m'.registry.numbers = numbers := by
    ext number
    rw [h'.mem_registry, hnumbers]
  rw [← heq]
  exact congrArg (Registry.mk _) hpresent

/-- The pairs of the table are as before. -/
theorem registry_same {m' : Machine} (h : TableOk m) (h' : TableOk m') (hsame : SameListed m m')
    (hpresent : m'.controlDevice = m.controlDevice) : m'.registry = m.registry := by
  refine (h'.registry_eq hpresent ?_ :
    m'.registry = { m.registry with numbers := m.registry.numbers })
  intro number
  rw [h.mem_registry]
  apply exists_congr
  intro pp
  rw [hsame.listed pp]
  apply and_congr_right
  intro hlisted
  have heq : (m'.pairs pp).portNumber = (m.pairs pp).portNumber :=
    congrArg PairControl.portNumber (hsame.control pp hlisted)
  rw [heq]

/-- A pair with the number has been added. -/
theorem registry_added {m' : Machine} {pp : ℕ} {n : ULONG} (h : TableOk m) (h' : TableOk m')
    (hadded : Added m m' pp n) (hpresent : m'.controlDevice = m.controlDevice) :
    m'.registry = { m.registry with numbers := insert n m.registry.numbers } := by
  apply h'.registry_eq hpresent
  intro number
  rw [Finset.mem_insert, h.mem_registry]
  have hnew : (m'.pairs pp).portNumber = n := congrArg PairControl.portNumber hadded.created
  constructor
  · rintro ⟨qq, hlisted, rfl⟩
    rcases (hadded.listed qq).mp hlisted with rfl | hold
    · exact .inl hnew
    · exact .inr ⟨qq, hold, (congrArg PairControl.portNumber (hadded.control qq hold)).symm⟩
  · rintro (rfl | ⟨qq, hold, rfl⟩)
    · exact ⟨pp, (hadded.listed pp).mpr (.inl rfl), hnew⟩
    · exact ⟨qq, (hadded.listed qq).mpr (.inr hold),
        congrArg PairControl.portNumber (hadded.control qq hold)⟩

/-- A pair has been removed. -/
theorem registry_removed {m' : Machine} {pp : ℕ} (h : TableOk m) (h' : TableOk m')
    (hlisted : m.Listed pp) (hremoved : Removed m m' pp)
    (hpresent : m'.controlDevice = m.controlDevice) :
    m'.registry = { m.registry with
      numbers := m.registry.numbers.erase (m.pairs pp).portNumber } := by
  apply h'.registry_eq hpresent
  intro number
  rw [Finset.mem_erase, h.mem_registry]
  constructor
  · rintro ⟨qq, hafter, rfl⟩
    obtain ⟨hne, hold⟩ := (hremoved.listed qq).mp hafter
    have hsame : (m'.pairs qq).portNumber = (m.pairs qq).portNumber :=
      congrArg PairControl.portNumber (hremoved.control qq hold hne)
    refine ⟨fun heq ↦ hne ?_, qq, hold, hsame.symm⟩
    -- pairs with one number are the same pair
    apply h.index_unique hold hlisted
    rw [(h.real qq hold).2, (h.real pp hlisted).2, ← hsame, heq]
  · rintro ⟨hne, qq, hold, rfl⟩
    have hother : qq ≠ pp := fun heq ↦ hne (by rw [heq])
    exact ⟨qq, (hremoved.listed qq).mpr ⟨hother, hold⟩,
      congrArg PairControl.portNumber (hremoved.control qq hold hother)⟩

/-- A create request as the registry serves it. -/
theorem serves_create (h : TableOk m) (wdf : Wdf) (req : IoctlRequest) (o : CreateOutcomes)
    (requested : ULONG) :
    let result := gcomControlIoDeviceControl m wdf req (.createPort requested o)
    m.registry.Serves (.create requested) (some result.2) result.1.registry := by
  intro result
  have h' : TableOk result.1 := h.control wdf req (.createPort requested o)
  have hpresent : result.1.controlDevice = m.controlDevice :=
    h.control_present wdf req (.createPort requested o)
  rcases h.create_request wdf req o requested with ⟨st, hst, hsame⟩ | ⟨n, hok, hadded⟩
  · rw [show result.2 = .error st from hst, h.registry_same h' hsame hpresent]
    exact .refused st trivial
  · rw [show result.2 = .ok (.created n n) from hok, h.registry_added h' hadded hpresent]
    have hon : m.controlDevice = true := by
      by_contra hoff
      rw [gcomControlIoDeviceControl, if_pos (by simpa using hoff)] at hok
      cases hok
    obtain ⟨i, hfree, hchoose⟩ : ∃ i, m.table.firstFree = some i ∧
        choosePortNumber m o.others requested = .ok n := by
      rw [gcomControlIoDeviceControl, if_neg (by simp [hon])] at hok
      unfold gcomHandleCreatePort at hok
      split at hok
      · cases hok
      split at hok
      · cases hok
      obtain ⟨-, ⟨st, hst, -⟩ | ⟨i, n', hfree, hchoose, hpp, -, hcontrol, -⟩⟩ :=
        create_cases m o requested
      · split at hok
        · cases hok
        · next heq =>
            rw [heq] at hst
            cases hst
      · split at hok
        · cases hok
        · next m' pp heq =>
            rw [heq] at hpp hcontrol
            cases hpp
            have hnumber : (m'.pairs m.pool.next).portNumber = n' :=
              congrArg PairControl.portNumber hcontrol
            rw [hnumber] at hok
            cases hok
            exact ⟨i, hfree, hchoose⟩
    obtain ⟨hrequested, hautomatic⟩ := choose_cases hchoose
    refine .created hon ?_ (h.card_lt hfree) hrequested hautomatic
    rw [h.mem_registry]
    rintro ⟨pp, hlisted, hnumber⟩
    exact hadded.unused pp hlisted ((h.real pp hlisted).2.trans hnumber)

/-- A destroy request as the registry serves it. -/
theorem serves_destroy (h : TableOk m) (wdf : Wdf) (req : IoctlRequest) (o : DestroyOutcomes)
    (companionIndex : ULONG) :
    let result := gcomControlIoDeviceControl m wdf req (.destroyPort companionIndex o)
    m.registry.Serves (.destroy companionIndex (bufferUsable wdf req.id 4 req.inputLength))
      (some result.2) result.1.registry := by
  intro result
  have h' : TableOk result.1 := h.control wdf req (.destroyPort companionIndex o)
  have hpresent : result.1.controlDevice = m.controlDevice :=
    h.control_present wdf req (.destroyPort companionIndex o)
  rcases h.destroy_request wdf req o companionIndex with ⟨st, heq⟩ | ⟨pp, hnamed, hok, hremoved⟩
  · have hresult : result = (m, .error st) := heq
    rw [hresult]
    refine .refused st ?_
    -- a request that names a port and can be read is not refused
    by_contra haccepts
    rw [Registry.Refuses, not_or, not_or, not_not, Bool.not_eq_false, Bool.not_eq_false]
      at haccepts
    obtain ⟨hon, husable, hmem⟩ := haccepts
    have hon : m.controlDevice = true := hon
    obtain ⟨qq, hlisted, hnumber⟩ := h.mem_registry.mp hmem
    have hnamed : m.named companionIndex = some qq :=
      h.named_iff.mpr ⟨hlisted, (h.real qq hlisted).2.trans hnumber⟩
    obtain ⟨⟨i, pp⟩, hfind, -⟩ := Option.map_eq_some_iff.mp hnamed
    have hbuffer := (control_buffer_cases wdf req.id 4 req.inputLength
      invalidParameter).resolve_right (by simp [husable])
    have hserved : result.2 = .ok .destroyed := by
      show (gcomControlIoDeviceControl m wdf req (.destroyPort companionIndex o)).2 = _
      simp only [gcomControlIoDeviceControl, hon, gcomHandleDestroyPort, hbuffer.2, hfind,
        Bool.not_true, Bool.false_eq_true, if_false]
    rw [hresult] at hserved
    cases hserved
  · obtain ⟨hlisted, hindex⟩ := h.named_iff.mp hnamed
    have hnumber : (m.pairs pp).portNumber = companionIndex :=
      (h.real pp hlisted).2.symm.trans hindex
    have husable : bufferUsable wdf req.id 4 req.inputLength = true := by
      rcases control_buffer_cases wdf req.id 4 req.inputLength invalidParameter with
        ⟨husable, -⟩ | ⟨-, hbuffer⟩
      · exact husable
      · have hok : result.2 = .ok .destroyed := hok
        have hfails : result.2 = .error invalidParameter ∨
            result.2 = .error deviceNotConnected := by
          show (gcomControlIoDeviceControl m wdf req (.destroyPort companionIndex o)).2 = _ ∨
            (gcomControlIoDeviceControl m wdf req (.destroyPort companionIndex o)).2 = _
          unfold gcomControlIoDeviceControl
          split
          · exact .inr rfl
          · simp only [gcomHandleDestroyPort, hbuffer]
            exact .inl trivial
        rw [hok] at hfails
        rcases hfails with hfails | hfails <;> cases hfails
    rw [show result.2 = .ok .destroyed from hok, husable,
      h.registry_removed h' hlisted hremoved hpresent, hnumber]
    refine .destroyed ?_
    rw [h.mem_registry]
    exact ⟨pp, hlisted, hnumber⟩

/-- A list request as the registry serves it. -/
theorem serves_list (h : TableOk m) (wdf : Wdf) (req : IoctlRequest) :
    let result := gcomControlIoDeviceControl m wdf req .listPorts
    m.registry.Serves (.list (if bufferUsable wdf req.id 4 req.outputLength then
      some ((req.outputLength - 4) / 16) else none)) (some result.2) result.1.registry := by
  intro result
  cases hon : m.controlDevice with
  | false =>
      have hresult : result = (m, .error deviceNotConnected) := by
        simp [result, gcomControlIoDeviceControl, hon]
      rw [hresult]
      exact .refused _ (show m.registry.Refuses (.list _) from .inl hon)
  | true =>
      have hresult : result = (m, gcomHandleListPorts m wdf req) := by
        simp [result, gcomControlIoDeviceControl, hon]
      rw [hresult, gcomHandleListPorts]
      rcases control_buffer_cases wdf req.id 4 req.outputLength bufferTooSmall with
        ⟨husable, hbuffer⟩ | ⟨husable, hbuffer⟩
      · rw [hbuffer, husable]
        exact h.lists _
      · rw [hbuffer, husable]
        exact .refused _ (show m.registry.Refuses (.list none) from .inr rfl)

/-- A version request as the registry serves it. -/
theorem serves_version (wdf : Wdf) (req : IoctlRequest) :
    let result := gcomControlIoDeviceControl m wdf req .getVersion
    m.registry.Serves (.version (bufferUsable wdf req.id 12 req.outputLength)) (some result.2)
      result.1.registry := by
  intro result
  cases hon : m.controlDevice with
  | false =>
      have hresult : result = (m, .error deviceNotConnected) := by
        simp [result, gcomControlIoDeviceControl, hon]
      rw [hresult]
      exact .refused _ (show m.registry.Refuses (.version _) from .inl hon)
  | true =>
      have hresult : result = (m, gcomHandleGetVersion wdf req) := by
        simp [result, gcomControlIoDeviceControl, hon]
      rw [hresult, gcomHandleGetVersion]
      rcases control_buffer_cases wdf req.id 12 req.outputLength bufferTooSmall with
        ⟨husable, hbuffer⟩ | ⟨husable, hbuffer⟩
      · rw [hbuffer, husable]
        exact .version
      · rw [hbuffer, husable]
        exact .refused _ (show m.registry.Refuses (.version false) from .inr rfl)

/-- Every event is one that the registry serves. -/
theorem serves (h : TableOk m) (event : ControlEvent) :
    m.registry.Serves event.seen (m.reply event) (m.serve event).registry := by
  cases event with
  | request wdf req request =>
      cases request with
      | createPort portNumber o => exact h.serves_create wdf req o portNumber
      | destroyPort companionIndex o => exact h.serves_destroy wdf req o companionIndex
      | listPorts => exact h.serves_list wdf req
      | getVersion => exact serves_version wdf req
      | unknown =>
          show m.registry.Serves .unknown
            (some (gcomControlIoDeviceControl m wdf req .unknown).2)
            (gcomControlIoDeviceControl m wdf req .unknown).1.registry
          unfold gcomControlIoDeviceControl
          split <;> exact .refused _ trivial
  | cleanup o =>
      have h' := h.cleanup o
      have hempty : (gcomEvtSelfManagedIoCleanup m o).registry = ⟨∅, false⟩ := by
        have hnumbers : (gcomEvtSelfManagedIoCleanup m o).registry.numbers = ∅ := by
          ext number
          rw [h'.mem_registry]
          constructor
          · rintro ⟨pp, hlisted, -⟩
            have hnone := h'.cleaned rfl _ hlisted
            cases hnone
          · intro hmem
            cases hmem
        rw [← hnumbers]
        rfl
      show m.registry.Serves .cleanup none (gcomEvtSelfManagedIoCleanup m o).registry
      rw [hempty]
      exact .cleaned

/-- Every event keeps the table. -/
theorem serve (h : TableOk m) (event : ControlEvent) : TableOk (m.serve event) := by
  cases event with
  | request wdf req request => exact h.control wdf req request
  | cleanup o => exact h.cleanup o

/-- The requests and replies of a run are a run of the registry. -/
theorem trace (h : TableOk m) (events : List ControlEvent) :
    m.registry.Trace (exchanges m events) (events.foldl Machine.serve m).registry := by
  induction events generalizing m with
  | nil => exact .nil _
  | cons event events ih => exact .cons (h.serves event) (ih (h.serve event))

end TableOk

/-- The control device is a registry of port numbers. The requests and replies of every run are a
run of the registry that starts empty: a create that succeeds returns one number for the port and
its companion, which no port had, and a destroy that succeeds takes a number out that a port had; a
destroy of a number that a port has and a list or version request with usable buffers are not
refused; a list shows ports that exist, each once, all of them if there is room. So there are never
more than 64, and of two creates that return one number the second follows a destroy of it or the
cleanup. -/
theorem control_refines_registry (events : List ControlEvent) :
    let m := events.foldl Machine.serve .initial
    Registry.Trace ⟨∅, true⟩ (exchanges .initial events) m.registry ∧
    m.registry.numbers.card ≤ gcomMaxPorts ∧
    ∀ before between after exchange exchange' number,
      exchanges .initial events = before ++ exchange :: (between ++ exchange' :: after) →
      Registry.creates number exchange = true → Registry.creates number exchange' = true →
      ∃ removal ∈ between, Registry.removes number removal = true := by
  intro m
  have htrace : Registry.Trace ⟨∅, true⟩ (exchanges .initial events) m.registry := by
    have hinitial : Machine.initial.registry = ⟨∅, true⟩ :=
      congrArg (Registry.mk · true) (by decide)
    have h := TableOk.initial.trace events
    rwa [hinitial] at h
  refine ⟨htrace, htrace.card_le (Nat.zero_le _), ?_⟩
  intro before between after exchange exchange' number hsplit hfirst hsecond
  rw [hsplit] at htrace
  exact htrace.created_twice hfirst hsecond

end GhostCom
