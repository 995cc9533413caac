import GhostCom.Lifecycle.Callbacks

/-!
# The order of the blocks of a callback

A handler checks `Active`, then runs at most one block that may forward its request, then blocks
that forward nothing. A close callback forwards nothing and uses no ring; when it is about to
acquire `SignalLock`, it has seen `Active` set. Once the queue handles are `NULL`, no block does
more to rings and timeouts than its use says, and `BlockUse.Turns.starves_iff` tells which blocks
take from another one what it was going to find. The orders are stated as predicates on procedures
and hold of every callback.
-/

namespace GhostCom

/-! ## Rings and timeouts -/

/-- When a read finds data. -/
theorem ring_read_pos {pp : PortPair} {d : Direction} {req : ReadRequest} :
    (ringRead pp d req).2 > 0 ↔
      0 < req.length.toNat ∧ 0 < (pp.lane d).ring.contents.length := by
  rw [ulong_pos_iff, ringRead, ulong_min_self]
  dsimp only
  rw [Ring.read_count]
  omega

/-- When a write finds room. -/
theorem ring_write_pos {pp : PortPair} {d : Direction} {req : WriteRequest} :
    (ringWrite pp d req).2 > 0 ↔
      0 < req.data.length ∧ (pp.lane d).ring.contents.length < (pp.lane d).ring.capacity := by
  rw [ulong_pos_iff, ringWrite, Ring.write_count]
  omega

/-- A read that finds nothing leaves the ring as it is. -/
theorem ring_read_none {pp : PortPair} {d : Direction} {req : ReadRequest}
    (h : ¬(ringRead pp d req).2 > 0) :
    (ringRead pp d req).1.contents = (pp.lane d).ring.contents := by
  rw [ring_read_pos, not_and_or, Nat.not_lt, Nat.not_lt] at h
  rw [ringRead, ulong_min_self, Ring.read_contents]
  rcases h with hlength | hempty
  · rw [Nat.le_zero.mp hlength, List.drop_zero]
  · rw [List.length_eq_zero_iff.mp (Nat.le_zero.mp hempty), List.drop_nil]

/-- A write that finds no room leaves it as it is. -/
theorem ring_write_none {pp : PortPair} {d : Direction} {req : WriteRequest}
    (h : ¬(ringWrite pp d req).2 > 0) :
    (ringWrite pp d req).1.contents = (pp.lane d).ring.contents := by
  rw [ulong_pos_iff, Nat.not_lt, Nat.le_zero] at h
  rw [ringWrite] at h ⊢
  rw [Ring.write_contents, h, List.take_zero, List.append_nil]

/-- Whether the flags flush the ring of a direction. -/
def Direction.flushed (tx rx : Bool) : Direction → Bool
  | .comToCompanion => tx
  | .companionToCom => rx

namespace BlockUse

/-- The ring of a direction after a block, if no request that was pended is served. -/
def ring (use : BlockUse) (pp : PortPair) (d : Direction) : Ring :=
  match use with
  | read d' _ req => if d' = d then (ringRead pp d req).1 else (pp.lane d).ring
  | write d' req | insert d' req => if d' = d then (ringWrite pp d req).1 else (pp.lane d).ring
  | flush tx rx => if d.flushed tx rx then (pp.lane d).ring.flush else (pp.lane d).ring
  | _ => (pp.lane d).ring

/-- The timeouts after a block. -/
def timeouts (use : BlockUse) (pp : PortPair) : SerialTimeouts :=
  match use with
  | setTimeouts timeouts => timeouts
  | _ => pp.timeouts

/-- What a block does to rings and timeouts. -/
structure Turns (use : BlockUse) (pp pp' : PortPair) : Prop where
  contents : ∀ d, (pp'.lane d).ring.contents = (use.ring pp d).contents
  capacity : ∀ d, (pp'.lane d).ring.capacity = (pp.lane d).ring.capacity
  timeouts : pp'.timeouts = use.timeouts pp

/-- The block takes all that the ring of a direction holds. -/
def Empties (use : BlockUse) (pp : PortPair) (d : Direction) : Prop :=
  match use with
  | read d' _ req => d' = d ∧ (pp.lane d).ring.contents.length ≤ req.length.toNat
  | flush tx rx => d.flushed tx rx = true
  | _ => False

/-- The block fills all the room that the ring of a direction has. -/
def Fills (use : BlockUse) (pp : PortPair) (d : Direction) : Prop :=
  match use with
  | write d' req | insert d' req =>
      d' = d ∧ (pp.lane d).ring.capacity ≤ (pp.lane d).ring.contents.length + req.data.length
  | _ => False

/-- The block takes what another one was going to find: the data of a read that blocks, the room of
a write, or the timeouts by which a read that finds nothing does not block. -/
def Starves (use other : BlockUse) (pp : PortPair) : Prop :=
  match other with
  | read d nonBlocking req =>
      use.Empties pp d ∧ nonBlocking pp.timeouts = false ∨
        ∃ timeouts, use = setTimeouts timeouts ∧ nonBlocking timeouts = false ∧
          (req.length.toNat = 0 ∨ (pp.lane d).ring.contents.length = 0)
  | write d _ => use.Fills pp d
  | _ => False

variable {use other : BlockUse} {pp pp' : PortPair} {d : Direction}

/-- A block leaves a ring empty that was not, if and only if it empties it. -/
theorem Turns.empties_iff (h : use.Turns pp pp') (hdata : 0 < (pp.lane d).ring.contents.length) :
    (pp'.lane d).ring.contents.length = 0 ↔ use.Empties pp d := by
  rw [h.contents]
  cases use with
  | read d' nonBlocking req =>
      simp only [ring, Empties]
      by_cases heq : d' = d
      · rw [if_pos heq, and_iff_right heq, ringRead, ulong_min_self, Ring.read_contents,
          List.length_drop, Nat.sub_eq_zero_iff_le]
      · rw [if_neg heq]
        exact iff_of_false (by omega) fun hempties ↦ heq hempties.1
  | write d' req | insert d' req =>
      simp only [ring, Empties]
      split
      · rw [ringWrite, Ring.write_contents, List.length_append]
        exact iff_of_false (by omega) id
      · exact iff_of_false (by omega) id
  | flush tx rx =>
      simp only [ring, Empties]
      split
      · next hflushed => exact iff_of_true (by rw [Ring.flush_contents]; rfl) hflushed
      · next hflushed => exact iff_of_false (by omega) hflushed
  | nothing | forward q | setTimeouts timeouts | look =>
      exact iff_of_false (Nat.ne_of_gt hdata) id

/-- A block leaves no room in a ring that had some, if and only if it fills it. -/
theorem Turns.fills_iff (h : use.Turns pp pp')
    (hroom : (pp.lane d).ring.contents.length < (pp.lane d).ring.capacity) :
    (pp'.lane d).ring.capacity ≤ (pp'.lane d).ring.contents.length ↔ use.Fills pp d := by
  rw [h.contents, h.capacity]
  cases use with
  | read d' nonBlocking req =>
      simp only [ring, Fills]
      split
      · rw [ringRead, ulong_min_self, Ring.read_contents, List.length_drop]
        exact iff_of_false (by omega) id
      · exact iff_of_false (by omega) id
  | write d' req | insert d' req =>
      simp only [ring, Fills]
      by_cases heq : d' = d
      · rw [if_pos heq, and_iff_right heq, ringWrite, Ring.write_contents, List.length_append,
          List.length_take, Ring.write_count]
        omega
      · rw [if_neg heq]
        exact iff_of_false (by omega) fun hfills ↦ heq hfills.1
  | flush tx rx =>
      simp only [ring, Fills]
      split
      · rw [Ring.flush_contents, List.length_nil]
        exact iff_of_false (by omega) id
      · exact iff_of_false (by omega) id
  | nothing | forward q | setTimeouts timeouts | look =>
      exact iff_of_false (Nat.not_le.mpr hroom) id

/-- A read is pended if it finds nothing and blocks, and a write if it finds no room. -/
theorem read_forwards_iff {nonBlocking : SerialTimeouts → Bool} {req : ReadRequest} :
    (∃ q, (read d nonBlocking req).forwards pp = some q) ↔
      ¬(ringRead pp d req).2 > 0 ∧ nonBlocking pp.timeouts = false := by
  have hpends : pendsRead pp d nonBlocking req = true ↔
      ¬(ringRead pp d req).2 > 0 ∧ nonBlocking pp.timeouts = false := by
    simp [pendsRead]
  rw [← hpends]
  simp only [forwards]
  cases pendsRead pp d nonBlocking req <;> simp

theorem write_forwards_iff {req : WriteRequest} :
    (∃ q, (write d req).forwards pp = some q) ↔ ¬(ringWrite pp d req).2 > 0 := by
  simp only [forwards]
  split <;> simp_all

/-- A block that another thread is about to run, and that pends nothing, pends its request after a
block with the given use if and only if that starves it. -/
theorem Turns.starves_iff (h : use.Turns pp pp') (hbefore : other.forwards pp = none) :
    (∃ q, other.forwards pp' = some q) ↔ use.Starves other pp := by
  cases other with
  | nothing | setTimeouts | look | insert | flush =>
      exact iff_of_false (fun hq ↦ Option.some_ne_none _ hq.choose_spec.symm) id
  | forward q => exact absurd hbefore (Option.some_ne_none q)
  | read d nonBlocking req =>
      rw [read_forwards_iff]
      by_cases hset : ∃ timeouts, use = setTimeouts timeouts
      · obtain ⟨timeouts, rfl⟩ := hset
        have hsame : ¬(ringRead pp' d req).2 > 0 ↔
            req.length.toNat = 0 ∨ (pp.lane d).ring.contents.length = 0 := by
          have hcontents : (pp'.lane d).ring.contents = (pp.lane d).ring.contents := h.contents d
          rw [ring_read_pos, hcontents]
          omega
        rw [hsame, h.timeouts]
        simp [Starves, Empties, BlockUse.timeouts, and_comm]
      · have htimeouts : use.timeouts pp = pp.timeouts := by
          cases use with
          | setTimeouts timeouts => exact absurd ⟨timeouts, rfl⟩ hset
          | _ => rfl
        have hstarves : use.Starves (read d nonBlocking req) pp ↔
            use.Empties pp d ∧ nonBlocking pp.timeouts = false :=
          or_iff_left fun hstored ↦ hset (hstored.imp fun _ ↦ And.left)
        rw [hstarves, h.timeouts, htimeouts]
        refine and_congr_left fun hblocks ↦ ?_
        have hdata : (ringRead pp d req).2 > 0 := by
          by_contra hnone
          obtain ⟨q, hq⟩ := read_forwards_iff.mpr ⟨hnone, hblocks⟩
          rw [hbefore] at hq
          cases hq
        obtain ⟨hlength, hdata⟩ := ring_read_pos.mp hdata
        rw [ring_read_pos, and_iff_right hlength, Nat.pos_iff_ne_zero, not_not,
          h.empties_iff hdata]
  | write d req =>
      have hroom : (ringWrite pp d req).2 > 0 := by
        by_contra hfull
        obtain ⟨q, hq⟩ := write_forwards_iff.mpr hfull
        rw [hbefore] at hq
        cases hq
      obtain ⟨hdata, hroom⟩ := ring_write_pos.mp hroom
      rw [write_forwards_iff, ring_write_pos, not_and, Nat.not_lt]
      exact (forall_prop_of_true hdata).trans (h.fills_iff hroom)

/-- What goes to a wait queue goes there whatever the pair is. -/
theorem forwards_wait {q : QueueField} (h : other.forwards pp = some q) (hq : q.isWait = true) :
    other.forwards pp' = some q := by
  cases other with
  | nothing | setTimeouts | look | insert | flush => cases h
  | forward q' => exact h
  | read d nonBlocking req =>
      simp only [forwards] at h
      split at h <;> cases h
      cases d <;> cases hq
  | write d req =>
      simp only [forwards] at h
      split at h <;> cases h
      cases d <;> cases hq

end BlockUse

/-! ## Orders of blocks -/

/-- A block with this use leaves `Active` and the queue handles alone; once the handles are `NULL`
it does to rings and timeouts what the use says. -/
structure Keeps (use : BlockUse) (run : PairMemory → PairMemory) : Prop where
  nulls : ∀ m, (run m).isNull = m.isNull
  active : ∀ m, (run m).pp.active = m.pp.active
  turns : ∀ m, (∀ q, m.isNull q = true) → use.Turns m.pp (run m).pp

/-- What is run concerns neither the handles nor `Active` nor rings nor timeouts. -/
def Quiet (run : PairMemory → PairMemory) : Prop :=
  ∀ m, (run m).isNull = m.isNull ∧ (run m).pp.active = m.pp.active ∧
    (∀ d, ((run m).pp.lane d).ring = (m.pp.lane d).ring) ∧ (run m).pp.timeouts = m.pp.timeouts

theorem quiet_id : Quiet id := fun _ ↦ ⟨rfl, rfl, fun _ ↦ rfl, rfl⟩

/-- It is run by a block whose use concerns neither of them. -/
theorem Quiet.keeps {use : BlockUse} {run : PairMemory → PairMemory} (h : Quiet run)
    (hring : ∀ pp d, use.ring pp d = (pp.lane d).ring)
    (htimeouts : ∀ pp, use.timeouts pp = pp.timeouts) : Keeps use run := by
  refine ⟨fun m ↦ (h m).1, fun m ↦ (h m).2.1, fun m _ ↦ ⟨fun d ↦ ?_, fun d ↦ ?_, ?_⟩⟩
  · rw [hring, (h m).2.2.1]
  · rw [(h m).2.2.1]
  · rw [htimeouts, (h m).2.2.2]

namespace Callback

/-- The lock the next block acquires. -/
def lock (c : Callback) : Option LockField := c.needs?.bind Access.lock

/-- Whether the next block uses the rings. -/
def usesRings (c : Callback) : Bool := (c.needs?.map (·.use.rings)).getD false

/-- The handle to which the next block forwards a request, as the pair is. -/
def forwards (c : Callback) (pp : PortPair) : Option QueueField :=
  c.needs?.bind (·.use.forwards pp)

/-- The next block takes what the next block of another callback was going to find. -/
def Starves (c other : Callback) (pp : PortPair) : Prop :=
  ∃ needs ∈ c.needs?, ∃ needs' ∈ other.needs?, needs.use.Starves needs'.use pp

/-- No block forwards a request any more. -/
def Late (c : Callback) : Prop :=
  c.Always fun needs run _ ↦ Keeps needs.use run ∧ ∀ pp, needs.use.forwards pp = none

/-- The callback has passed its `Active` check. -/
def Entered : Callback → Prop
  | .done => True
  | .block needs run rest => Keeps needs.use run ∧ ∀ m, Late (rest m)

/-- The callback has its `Active` check before it. -/
def Entry (c : Callback) : Prop := ∃ body, c = ifActive body ∧ Entered body

/-- The callback is a file close callback, or the rest of one. -/
def Closing (c : Callback) : Prop :=
  c.Always fun needs run rest ↦
    Keeps needs.use run ∧ needs.use.rings = false ∧ needs.lock ≠ some .data ∧
      (∀ pp, needs.use.forwards pp = none) ∧
      ∀ m, m.pp.active = false → needs.lock = none → lock (rest m) = none

/-! ## Handlers -/

theorem Late.entered {c : Callback} (h : Late c) : Entered c := by
  cases c with
  | done => trivial
  | block needs run rest => exact ⟨h.1.1, h.2⟩

theorem late_locked (lock : LockField) {use : BlockUse} {run : PairMemory → PairMemory}
    (hrun : Keeps use run) (hforwards : ∀ pp, use.forwards pp = none) :
    Late (locked lock use run) :=
  ⟨⟨hrun, hforwards⟩, fun _ ↦ trivial⟩

/-- A block that concerns neither rings nor timeouts. -/
theorem late_quiet (lock : LockField) {run : PairMemory → PairMemory} (hrun : Quiet run) :
    Late (locked lock .nothing run) :=
  late_locked lock (hrun.keeps (fun _ _ ↦ rfl) fun _ ↦ rfl) fun _ ↦ rfl

theorem late_if_active {body : Callback} (h : Late body) : Late (ifActive body) := by
  refine ⟨⟨quiet_id.keeps (fun _ _ ↦ rfl) fun _ ↦ rfl, fun _ ↦ rfl⟩, fun m ↦ ?_⟩
  dsimp only
  split
  · exact h
  · trivial

theorem late_with_buffer {retrieved : Outcome} {body : Callback} (h : Late body) :
    Late (withBuffer retrieved body) := by
  cases retrieved with
  | ok => exact h
  | error st => trivial

theorem Late.seq {a b : Callback} (ha : Late a) (hb : Late b) : Late (a.seq b) :=
  Procedure.Always.seq
    (p := fun (needs : Access) run ↦ Keeps needs.use run ∧ ∀ pp, needs.use.forwards pp = none) ha hb

theorem late_signal_changed (changedBits : ULONG) : Late (gcomSignalChanged changedBits) := by
  have hsnapshot : Quiet fun m ↦ m.setPair fun pp ↦
      { pp with
        signalState := signalUpdate pp.signalState changedBits
        signalWaitQueue := m.clearWaits .signalWait pp.signalWaitQueue } :=
    fun _ ↦ ⟨rfl, rfl, fun _ ↦ rfl, rfl⟩
  refine late_if_active
    ⟨⟨hsnapshot.keeps (fun _ _ ↦ rfl) fun _ ↦ rfl, fun _ ↦ rfl⟩, fun m ↦ ?_⟩
  exact late_quiet _ fun _ ↦ ⟨rfl, rfl, fun _ ↦ rfl, rfl⟩

theorem late_check_wait_mask (events : ULONG) : Late (gcomCheckWaitMask events) := by
  refine late_if_active (late_quiet _ fun m ↦ ?_)
  split <;> exact ⟨rfl, rfl, fun _ ↦ rfl, rfl⟩

theorem late_change_signals (update : SignalState → SignalState) (changedBits : ULONG) :
    Late (changeSignals update changedBits) := by
  refine Late.seq ?_ (late_signal_changed changedBits)
  exact late_quiet _ fun _ ↦ ⟨rfl, rfl, fun _ ↦ rfl, rfl⟩

theorem late_read_signals : Late readSignals := late_quiet _ quiet_id

theorem entered_with_buffer {retrieved : Outcome} {body : Callback} (h : Entered body) :
    Entered (withBuffer retrieved body) := by
  cases retrieved with
  | ok => exact h
  | error st => trivial

/-- One direction has been stored, and perhaps statistics; once the handles are `NULL`, with what is
in the given ring. -/
structure Stores (d : Direction) (ring : Ring) (m m' : PairMemory) : Prop where
  nulls : m'.isNull = m.isNull
  active : m'.pp.active = m.pp.active
  timeouts : m'.pp.timeouts = m.pp.timeouts
  others : ∀ d' ≠ d, (m'.pp.lane d').ring = (m.pp.lane d').ring
  stored : (∀ q, m.isNull q = true) → (m'.pp.lane d).ring.contents = ring.contents ∧
    (m'.pp.lane d).ring.capacity = (m.pp.lane d).ring.capacity

section Stores

variable {d : Direction} {ring : Ring} {m m' : PairMemory}

theorem Stores.same (h : (m.pp.lane d).ring.contents = ring.contents) : Stores d ring m m :=
  ⟨rfl, rfl, rfl, fun _ _ ↦ rfl, fun _ ↦ ⟨h, rfl⟩⟩

theorem Stores.set_lane {lane : Lane}
    (h : (∀ q, m.isNull q = true) → lane.ring.contents = ring.contents ∧
      lane.ring.capacity = (m.pp.lane d).ring.capacity) : Stores d ring m (m.setLane d lane) := by
  have hlane (d' : Direction) :
      (m.setLane d lane).pp.lane d' = if d' = d then lane else m.pp.lane d' :=
    PortPair.lane_withLane ..
  refine ⟨rfl, PortPair.withLane_active .., ?_, fun d' hne ↦ ?_, fun hnull ↦ ?_⟩
  · cases d <;> rfl
  · rw [hlane, if_neg hne]
  · rw [hlane, if_pos rfl]
    exact h hnull

/-- Counting bytes changes the statistics only. -/
def Counts (count : PortPair → ULONG → PortPair) : Prop :=
  ∀ pp n, ∃ perfStats, count pp n = { pp with perfStats := perfStats }

theorem Stores.count {count : PortPair → ULONG → PortPair} (hcount : Counts count) {n : ULONG}
    (h : Stores d ring m m') : Stores d ring m (m'.setPair (count · n)) := by
  obtain ⟨perfStats, hstats⟩ := hcount m'.pp n
  rw [PairMemory.setPair, hstats]
  exact ⟨h.nulls, h.active, h.timeouts, h.others, h.stored⟩

theorem keeps_stores {use : BlockUse} {run : PairMemory → PairMemory}
    (hring : ∀ pp, ∀ d' ≠ d, use.ring pp d' = (pp.lane d').ring)
    (htimeouts : ∀ pp, use.timeouts pp = pp.timeouts)
    (h : ∀ m, Stores d (use.ring m.pp d) m (run m)) : Keeps use run := by
  refine ⟨fun m ↦ (h m).nulls, fun m ↦ (h m).active, fun m hnull ↦ ⟨fun d' ↦ ?_, fun d' ↦ ?_, ?_⟩⟩
  · by_cases heq : d' = d
    · rw [heq, ((h m).stored hnull).1]
    · rw [(h m).others d' heq, hring m.pp d' heq]
  · by_cases heq : d' = d
    · rw [heq, ((h m).stored hnull).2]
    · rw [(h m).others d' heq]
  · rw [(h m).timeouts, htimeouts]

end Stores

theorem keeps_read_section (wdf : Wdf) (d : Direction) (nonBlocking : SerialTimeouts → Bool)
    {count : PortPair → ULONG → PortPair} (hcount : Counts count) (req : ReadRequest) :
    Keeps (.read d nonBlocking req) (readSection wdf · d nonBlocking count req) := by
  refine keeps_stores (fun pp d' hne ↦ if_neg (Ne.symm hne)) (fun _ ↦ rfl) fun m ↦ ?_
  have hring : BlockUse.ring (.read d nonBlocking req) m.pp d = (ringRead m.pp d req).1 :=
    if_pos rfl
  rw [hring]
  by_cases hread : (ringRead m.pp d req).2 > 0
  · rw [readSection, if_pos hread]
    refine (Stores.set_lane fun hnull ↦ ?_).count hcount
    rw [drainWrites, if_pos (hnull _)]
    exact ⟨rfl, Ring.read_capacity ..⟩
  · -- nothing is read, and the ring stays as it is
    have hsame : (m.pp.lane d).ring.contents = (ringRead m.pp d req).1.contents :=
      (ring_read_none hread).symm
    rw [readSection, if_neg hread]
    split
    · exact .same hsame
    · split
      · exact .set_lane fun _ ↦ ⟨hsame, rfl⟩
      · exact .same hsame

theorem entry_evt_read (wdf : Wdf) (d : Direction) (nonBlocking : SerialTimeouts → Bool)
    {count : PortPair → ULONG → PortPair} (hcount : Counts count)
    (req : ReadRequest) : Entry (evtRead wdf d nonBlocking count req) :=
  ⟨_, rfl, entered_with_buffer
    ⟨keeps_read_section wdf d nonBlocking hcount req, fun _ ↦ trivial⟩⟩

theorem keeps_write_section (wdf : Wdf) (d : Direction) {count : PortPair → ULONG → PortPair}
    (hcount : Counts count) (req : WriteRequest) :
    Keeps (.write d req) (writeSection wdf · d count req) := by
  refine keeps_stores (fun pp d' hne ↦ if_neg (Ne.symm hne)) (fun _ ↦ rfl) fun m ↦ ?_
  have hring : BlockUse.ring (.write d req) m.pp d = (ringWrite m.pp d req).1 := if_pos rfl
  rw [hring]
  by_cases hwrite : (ringWrite m.pp d req).2 > 0
  · rw [writeSection, if_pos hwrite]
    refine (Stores.set_lane fun hnull ↦ ?_).count hcount
    rw [drainReads, if_pos (hnull _)]
    exact ⟨rfl, Ring.write_capacity ..⟩
  · -- nothing is written, and the ring stays as it is
    have hsame : (m.pp.lane d).ring.contents = (ringWrite m.pp d req).1.contents :=
      (ring_write_none hwrite).symm
    rw [writeSection, if_neg hwrite]
    split
    · exact .set_lane fun _ ↦ ⟨hsame, rfl⟩
    · exact .same hsame

theorem entry_evt_write (wdf : Wdf) (d : Direction) {count : PortPair → ULONG → PortPair}
    (hcount : Counts count) (events : Ring → Option ULONG)
    (req : WriteRequest) : Entry (evtWrite wdf d count events req) := by
  refine ⟨_, rfl, entered_with_buffer ⟨keeps_write_section wdf d hcount req, fun m ↦ ?_⟩⟩
  dsimp only
  split
  · split
    · exact late_check_wait_mask _
    · trivial
  · trivial

theorem entry_com_read (wdf : Wdf) (req : ReadRequest) : Entry (gcomComEvtRead wdf req) := by
  unfold gcomComEvtRead
  exact entry_evt_read wdf _ _ (fun _ _ ↦ ⟨_, rfl⟩) req

theorem entry_comp_read (wdf : Wdf) (req : ReadRequest) : Entry (gcomCompEvtRead wdf req) := by
  unfold gcomCompEvtRead
  exact entry_evt_read wdf _ _ (fun pp _ ↦ ⟨pp.perfStats, rfl⟩) req

theorem entry_com_write (wdf : Wdf) (req : WriteRequest) : Entry (gcomComEvtWrite wdf req) := by
  unfold gcomComEvtWrite
  exact entry_evt_write wdf _ (fun _ _ ↦ ⟨_, rfl⟩) _ req

theorem entry_comp_write (wdf : Wdf) (req : WriteRequest) : Entry (gcomCompEvtWrite wdf req) := by
  unfold gcomCompEvtWrite
  exact entry_evt_write wdf _ (fun pp _ ↦ ⟨pp.perfStats, rfl⟩) _ req

theorem entered_forward_to {q : QueueField} {run : PairMemory → PairMemory} (hrun : Quiet run) :
    Entered (forwardTo q run) :=
  ⟨hrun.keeps (fun _ _ ↦ rfl) fun _ ↦ rfl, fun _ ↦ trivial⟩

/-- Neither section of a purge aborts anything once the handles are `NULL`. -/
theorem keeps_abort_section (flags : ULONG) : Keeps .nothing (abortSection · flags) := by
  have hquiet : Quiet (abortSection · flags) := by
    intro m
    unfold abortSection
    dsimp only
    split <;> split <;> exact ⟨rfl, rfl, fun d ↦ by cases d <;> rfl, rfl⟩
  exact hquiet.keeps (fun _ _ ↦ rfl) fun _ ↦ rfl

theorem keeps_flush_rings (tx rx : Bool) :
    Keeps (.flush tx rx) (·.setPair (flushRings · tx rx)) := by
  refine ⟨fun _ ↦ rfl, fun m ↦ ?_, fun m _ ↦ ⟨fun d ↦ ?_, fun d ↦ ?_, ?_⟩⟩
  · cases tx <;> cases rx <;> rfl
  · cases tx <;> cases rx <;> cases d <;> rfl
  · cases tx <;> cases rx <;> cases d <;> rfl
  · cases tx <;> cases rx <;> rfl

theorem keeps_set_timeouts (timeouts : SerialTimeouts) :
    Keeps (.setTimeouts timeouts) (·.setPair ({ · with timeouts := timeouts })) :=
  ⟨fun _ ↦ rfl, fun _ ↦ rfl, fun _ _ ↦ ⟨fun _ ↦ rfl, fun _ ↦ rfl, rfl⟩⟩

theorem late_purge (flags : ULONG) : Late (purge flags) := by
  refine ⟨⟨keeps_abort_section flags, fun _ ↦ rfl⟩, fun m ↦ ?_⟩
  split
  · exact late_locked _ (keeps_flush_rings _ _) fun _ ↦ rfl
  · trivial

theorem late_immediate_char (wdf : Wdf) (req : IoctlRequest) (ch : UCHAR) :
    Late (immediateChar wdf req ch) := by
  refine late_locked _ ?_ fun _ ↦ rfl
  refine keeps_stores (fun pp d' hne ↦ if_neg (Ne.symm hne)) (fun _ ↦ rfl) fun m ↦ ?_
  refine .set_lane fun hnull ↦ ?_
  rw [drainReads, if_pos (hnull _)]
  exact ⟨rfl, Ring.write_capacity ..⟩

theorem late_set_wait_mask (mask : ULONG) : Late (setWaitMask mask) := by
  refine Late.seq ?_ (late_signal_changed _)
  exact late_quiet _ fun _ ↦ ⟨rfl, rfl, fun _ ↦ rfl, rfl⟩

/-- Every COM-side IOCTL but `WAIT_ON_MASK` forwards nothing. -/
theorem entered_com_ioctl (wdf : Wdf) (req : IoctlRequest) (ioctl : ComIoctl) :
    Entered (comIoctlBody wdf req ioctl) := by
  cases ioctl <;> dsimp only [comIoctlBody]
  case waitOnMask =>
    refine entered_forward_to fun m ↦ ?_
    dsimp only [PairMemory.setPair]
    unfold GhostCom.waitOnMask
    split <;> exact ⟨rfl, rfl, fun _ ↦ rfl, rfl⟩
  case setBreakOn =>
    exact ((late_change_signals _ _).seq (late_check_wait_mask _)).entered
  case setDtr | clrDtr | setRts | clrRts | setBreakOff =>
    exact (late_change_signals _ _).entered
  case setBaudRate | setLineControl | setHandflow | setChars | setModemControl =>
    exact (late_with_buffer (late_change_signals _ _)).entered
  case setWaitMask mask => exact (late_with_buffer (late_set_wait_mask mask)).entered
  case purge flags => exact (late_with_buffer (late_purge flags)).entered
  case immediateChar ch =>
    exact (late_with_buffer (late_immediate_char wdf req ch)).entered
  case getProperties | setQueueSize | noOp | configSize | unknown => trivial
  case setTimeouts =>
    exact (late_with_buffer (late_locked _ (keeps_set_timeouts _) fun _ ↦ rfl)).entered
  case clearStats =>
    refine Late.entered ?_
    exact late_quiet _ fun _ ↦ ⟨rfl, rfl, fun _ ↦ rfl, rfl⟩
  case getStats => exact (late_with_buffer (late_quiet _ quiet_id)).entered
  case getCommStatus =>
    have hlook : Keeps .look id := quiet_id.keeps (fun _ _ ↦ rfl) fun _ ↦ rfl
    exact (late_with_buffer (late_locked _ hlook fun _ ↦ rfl)).entered
  all_goals exact (late_with_buffer late_read_signals).entered

/-- Every companion-side IOCTL but `WAIT_SIGNAL_CHANGE` forwards nothing. -/
theorem entered_comp_ioctl (wdf : Wdf) (req : IoctlRequest) (ioctl : CompIoctl) :
    Entered (compIoctlBody wdf req ioctl) := by
  cases ioctl <;> dsimp only [compIoctlBody]
  case waitSignalChange =>
    refine entered_forward_to fun m ↦ ?_
    dsimp only [PairMemory.setPair]
    unfold GhostCom.waitSignalChange
    split <;> exact ⟨rfl, rfl, fun _ ↦ rfl, rfl⟩
  case getSignals =>
    exact (late_with_buffer late_read_signals).entered
  case setSignals dtrState rtsState =>
    have hlines : Quiet (·.setPair
        ({ · with compDtr := isTrue dtrState, compRts := isTrue rtsState })) :=
      fun _ ↦ ⟨rfl, rfl, fun _ ↦ rfl, rfl⟩
    refine entered_with_buffer (Late.entered
      ⟨⟨hlines.keeps (fun _ _ ↦ rfl) fun _ ↦ rfl, fun _ ↦ rfl⟩, fun m ↦ ?_⟩)
    dsimp only
    split
    · exact late_check_wait_mask _
    · trivial
  case unknown => trivial

/-! ## Close callbacks -/

/-- A block of a close callback. -/
theorem closing_block {lock' : Option LockField} {run : PairMemory → PairMemory}
    {rest : PairMemory → Callback} (hrun : Quiet run) (hdata : lock' ≠ some .data)
    (hlock : ∀ m, m.pp.active = false → lock' = none → lock (rest m) = none)
    (hrest : ∀ m, Closing (rest m)) : Closing (.block ⟨lock', .nothing⟩ run rest) :=
  ⟨⟨hrun.keeps (fun _ _ ↦ rfl) fun _ ↦ rfl, rfl, hdata, fun _ ↦ rfl, hlock⟩, hrest⟩

theorem closing_release : Closing gcomPortPairRelease :=
  closing_block (fun _ ↦ ⟨rfl, rfl, fun _ ↦ rfl, rfl⟩) (by simp) (fun _ _ _ ↦ rfl)
    fun _ ↦ trivial

/-- `GcomSignalChanged` in a close callback, with the rest of it. -/
theorem closing_signal_changed (changedBits : ULONG) {after : Callback} (hafter : Closing after)
    (hlock : lock after = none) : Closing ((gcomSignalChanged changedBits).seq after) := by
  refine closing_block quiet_id (by simp) (fun m hactive _ ↦ ?_) fun m ↦ ?_
  · dsimp only
    rw [if_neg (by simp [hactive])]
    exact hlock
  · dsimp only
    split
    · refine closing_block (fun _ ↦ ⟨rfl, rfl, fun _ ↦ rfl, rfl⟩) (by simp) (by simp) fun m ↦ ?_
      exact closing_block (fun _ ↦ ⟨rfl, rfl, fun _ ↦ rfl, rfl⟩) (by simp) (by simp) fun _ ↦ hafter
    · exact hafter

theorem closing_com_file_close : Closing gcomComEvtFileClose := by
  refine closing_block (fun _ ↦ ⟨rfl, rfl, fun _ ↦ rfl, rfl⟩) (by simp) (fun m hactive _ ↦ ?_)
    fun m ↦ ?_
  · rw [if_neg (by simp [hactive])]
    rfl
  · split
    · exact closing_signal_changed _ closing_release rfl
    · exact closing_release

theorem closing_comp_file_close : Closing gcomCompEvtFileClose := by
  refine closing_block quiet_id (by simp) (fun m hactive _ ↦ ?_) fun m ↦ ?_
  · rw [if_neg (by simp [hactive])]
    rfl
  · split
    · exact closing_block (fun _ ↦ ⟨rfl, rfl, fun _ ↦ rfl, rfl⟩) (by simp) (fun _ _ _ ↦ rfl)
        fun _ ↦ closing_release
    · exact closing_release

end Callback

end GhostCom
