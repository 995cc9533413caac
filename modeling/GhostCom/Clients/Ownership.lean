import GhostCom.Clients.Coherence

/-!
# Pairs of other processes

When a process can destroy a pair that another running process has obtained from its create. A
zombie is recognised by its closed companion device, and a pair is destroyed by its companion index,
which is used again; between a list and the destroy that follows it, or between the two native calls
of `VirtualPort.destroy`, the pair may be that of another process. `undisturbed_iff` is the exact
condition on the lists and creates of a run under which this cannot happen.
-/

namespace GhostCom.Clients

variable {ι : Type*}

/-- From `s` to `t` the process takes no pair of another running process from the table. -/
def Spares (s t : Clients ι) (c : ι) : Prop :=
  ∀ pp, s.machine.Listed pp → ¬t.machine.Listed pp → ¬s.OfAnother c pp

variable [DecidableEq ι]

/-- No step that can come next destroys a pair of another running process. -/
def Undisturbed (s : Clients ι) : Prop :=
  ∀ e t, next s e = some t → s.Spares t e.client

/-- No other process is about to destroy the companion index that the create is about to return. -/
def AllowsCreate (s : Clients ι) (c : ι) (call : NativeCall) (o : CreateOutcomes)
    (portNumber : ULONG) : Prop :=
  ∀ n i, (nativeCreatePort s.machine call o portNumber).2 = .ok (.created n i) →
    ∀ d ≠ c, (s.clients d).activity.target ≠ some i

/-- The steps that do not lead to the destruction of a pair of another process: a list that is
served while no pair of another running process with the number has its companion device closed, and
a create of an index that no other process is about to destroy. -/
def Allows (s : Clients ι) : ClientEvent ι → Prop
  | .listPorts c call => call.Served → ∀ pp, s.machine.Listed pp →
      (s.clients c).activity = .listing (s.machine.pairs pp).portNumber →
      (s.machine.pairs pp).companionSideOpen = 0 → ¬s.OfAnother c pp
  | .createPort c call o portNumber _ => s.AllowsCreate c call o portNumber
  | .retryCreate c call o =>
      ∀ portNumber, (s.clients c).activity = .retrying portNumber →
        s.AllowsCreate c call o portNumber
  | _ => True

variable {s t : Clients ι}

/-! ## Which pairs a step destroys -/

/-- A pair that leaves the table is the one that the process was about to destroy. -/
theorem target_of_removed (h : s.Coherent) {e : ClientEvent ι} (hnext : next s e = some t) {pp : ℕ}
    (hlisted : s.machine.Listed pp) (hgone : ¬t.machine.Listed pp) :
    (s.clients e.client).activity.target = some (s.machine.pairs pp).companionIndex := by
  have hcreate (c : ι) (call : NativeCall) (o : CreateOutcomes) (n : ULONG) (heal : Bool) :
      (s.create c call o n heal).machine.Listed pp := by
    obtain ⟨-, ⟨-, -, hsame⟩ | ⟨_, -, hadded⟩⟩ := native_create_cases call h.consistent o n
    · exact (hsame.listed pp).mpr hlisted
    · exact (hadded.listed pp).mpr (.inr hlisted)
  have hdestroy {c : ι} {call : NativeCall} {o : DestroyOutcomes} {companionIndex : ULONG}
      (htarget : (s.clients c).activity.target = some companionIndex)
      (hgone : ¬(nativeDestroyPort s.machine call o companionIndex).1.Listed pp) :
      (s.clients c).activity.target = some (s.machine.pairs pp).companionIndex := by
    obtain ⟨-, ⟨_, heq⟩ | ⟨qq, -, hindex, -, hremoved⟩⟩ :=
      native_destroy_cases call h.consistent o companionIndex
    · rw [heq] at hgone
      exact absurd hlisted hgone
    · have hsame : pp = qq := by
        by_contra hne
        exact hgone ((hremoved.listed pp).mpr ⟨hne, hlisted⟩)
      rw [hsame, hindex]
      exact htarget
  cases moves_of_next hnext with
  | createPort | retryCreate => exact absurd (hcreate ..) hgone
  | listPorts | exit => exact absurd hlisted hgone
  | destroyStale hactivity => exact hdestroy (congrArg Activity.target hactivity) hgone
  | destroyPort hactivity => exact hdestroy (congrArg Activity.target hactivity) hgone
  | @openPort c call n i hactivity =>
      refine absurd ?_ hgone
      have hcases := open_port_cases s.machine call i
      unfold Clients.openCompanion
      rcases hresult : GhostCom.openPort s.machine call i with ⟨m, handle⟩
      rw [hresult] at hcases
      have hm : m.Listed pp := by
        rcases hcases with hfails | ⟨-, htouched, -⟩
        · cases hfails
          exact hlisted
        · exact (htouched.listed pp).mpr hlisted
      cases handle <;> exact hm
  | closePort hactivity hport =>
      exact absurd (((close_handle_touched ..).listed pp).mpr hlisted) hgone
  | dropHandle hport => exact absurd (((close_handle_touched ..).listed pp).mpr hlisted) hgone

/-- A destroy that reaches the driver removes the pair with the companion index. -/
theorem native_destroy_removes {m : Machine} (h : Consistent m) {pp : ℕ} (hlisted : m.Listed pp)
    (id : RequestId) (o : DestroyOutcomes) :
    ¬(nativeDestroyPort m ⟨true, .ok, id⟩ o (m.pairs pp).companionIndex).1.Listed pp := by
  have hok := h.table.destroy_request_ok (h.table.named_iff.mpr ⟨hlisted, rfl⟩) ⟨id, 4, 0⟩
    (Nat.le_refl 4) o
  obtain ⟨-, ⟨error, heq⟩ | ⟨qq, hlisted', hindex, -, hremoved⟩⟩ :=
    native_destroy_cases ⟨true, .ok, id⟩ h o (m.pairs pp).companionIndex
  · have hreply : (nativeDestroyPort m ⟨true, .ok, id⟩ o (m.pairs pp).companionIndex).2 =
        Except.mapError nativeError (gcomControlIoDeviceControl m .ok ⟨id, 4, 0⟩
          (.destroyPort (m.pairs pp).companionIndex o)).2 := rfl
    rw [hok, heq] at hreply
    cases hreply
  · obtain rfl := h.table.index_unique hlisted' hlisted hindex
    exact fun hpp ↦ ((hremoved.listed qq).mp hpp).1 rfl

/-- A pair that a process is about to destroy is destroyed by its next step, if that reaches the
driver. -/
theorem removed_of_target (h : s.Coherent) {c : ι} {pp : ℕ} (hlisted : s.machine.Listed pp)
    (htarget : (s.clients c).activity.target = some (s.machine.pairs pp).companionIndex) :
    ∃ e t, next s e = some t ∧ e.client = c ∧ ¬t.machine.Listed pp := by
  have hremoved := native_destroy_removes h.consistent hlisted 0 ⟨false, .ok (), ⟨false, false⟩⟩
  cases hactivity : (s.clients c).activity with
  | healing n i =>
      rw [hactivity] at htarget
      cases htarget
      exact ⟨.destroyStale c ⟨true, .ok, 0⟩ ⟨false, .ok (), ⟨false, false⟩⟩, _,
        by rw [next, hactivity], rfl, hremoved⟩
  | destroying i =>
      rw [hactivity] at htarget
      cases htarget
      exact ⟨.destroyPort c ⟨true, .ok, 0⟩ ⟨false, .ok (), ⟨false, false⟩⟩, _,
        by rw [next, hactivity], rfl, hremoved⟩
  | idle | listing | retrying | opening | exited =>
      rw [hactivity] at htarget
      cases htarget

/-- No next step destroys a pair of another process exactly when none is about to. -/
theorem undisturbed_iff_noneTargeted (h : s.Coherent) : s.Undisturbed ↔ s.NoneTargeted := by
  constructor
  · intro hundisturbed c pp hlisted htarget
    obtain ⟨e, t, hnext, rfl, hgone⟩ := removed_of_target h hlisted htarget
    exact hundisturbed e t hnext pp hlisted hgone
  · intro hnone e t hnext pp hlisted hgone
    exact hnone _ pp hlisted (target_of_removed h hnext hlisted hgone)

/-! ## What brings a process to destroy a pair of another one -/

/-- A step that adds no pair: no process is about to destroy a pair of another one afterwards
exactly when the process that takes the step is not. -/
theorem noneTargeted_update (hnone : s.NoneTargeted) {c : ι} {m : Machine} {client : Client}
    (hpairs : ∀ pp, m.Listed pp → s.machine.Listed pp ∧
      (m.pairs pp).companionIndex = (s.machine.pairs pp).companionIndex)
    (hlive : client.activity ≠ .exited → (s.clients c).activity ≠ .exited) :
    (s.update c m client).NoneTargeted ↔
      ∀ pp, m.Listed pp → client.activity.target = some (m.pairs pp).companionIndex →
        ¬s.OfAnother c pp := by
  have hself : (s.update c m client).clients c = client := Function.update_self ..
  have hother {d : ι} (hd : d ≠ c) : (s.update c m client).clients d = s.clients d :=
    Function.update_of_ne hd ..
  constructor
  · rintro h pp hlisted htarget ⟨d, hd, hobtained, hrunning⟩
    refine h c pp hlisted (by rw [hself]; exact htarget) ⟨d, hd, hobtained, ?_⟩
    rw [hother hd]
    exact hrunning
  · rintro h d pp hlisted htarget ⟨d', hne, hobtained, hrunning⟩
    by_cases hd : d = c
    · subst hd
      rw [hself] at htarget
      rw [hother hne] at hrunning
      exact h pp hlisted htarget ⟨d', hne, hobtained, hrunning⟩
    · obtain ⟨hold, hindex⟩ := hpairs pp hlisted
      rw [hother hd] at htarget
      refine hnone d pp hold (htarget.trans (congrArg some hindex)) ⟨d', hne, hobtained, ?_⟩
      by_cases hd' : d' = c
      · subst hd'
        rw [hself] at hrunning
        exact hlive hrunning
      · rw [hother hd'] at hrunning
        exact hrunning

/-- Likewise, if the process is not about to destroy anything. -/
theorem noneTargeted_of_idle (hnone : s.NoneTargeted) {c : ι} {m : Machine} {client : Client}
    (hpairs : ∀ pp, m.Listed pp → s.machine.Listed pp ∧
      (m.pairs pp).companionIndex = (s.machine.pairs pp).companionIndex)
    (hlive : client.activity ≠ .exited → (s.clients c).activity ≠ .exited)
    (hidle : client.activity.target = none) : (s.update c m client).NoneTargeted := by
  refine (noneTargeted_update hnone hpairs hlive).mpr fun pp _ htarget ↦ ?_
  rw [hidle] at htarget
  cases htarget

/-- After a create no process is about to destroy a pair of another one exactly when the create was
allowed. -/
theorem noneTargeted_create (h : s.Coherent) (hnone : s.NoneTargeted) {c : ι}
    (hlive : (s.clients c).activity ≠ .exited) (call : NativeCall) (o : CreateOutcomes)
    (portNumber : ULONG) (healZombies : Bool) :
    (s.create c call o portNumber healZombies).NoneTargeted ↔
      s.AllowsCreate c call o portNumber := by
  obtain ⟨-, ⟨error, herror, hsame⟩ | ⟨n, hok, hadded⟩⟩ :=
    native_create_cases call h.consistent o portNumber
  · rw [create_of_error herror]
    refine iff_of_true (noneTargeted_of_idle hnone (fun pp hpp ↦ ?_) (fun _ ↦ hlive)
      (after_failed_create healZombies portNumber error).1) fun n i hok ↦ ?_
    · have hold := (hsame.listed pp).mp hpp
      exact ⟨hold, PortPair.companionIndex_eq (hsame.control pp hold)⟩
    · rw [herror] at hok
      cases hok
  rw [create_of_ok hok]
  have hnew : (nativeCreatePort s.machine call o portNumber).1.Listed s.machine.pool.next :=
    (hadded.listed _).mpr (.inl rfl)
  have hindex : ((nativeCreatePort s.machine call o portNumber).1.pairs
      s.machine.pool.next).companionIndex = n :=
    PortPair.companionIndex_eq hadded.created
  have hother {d : ι} {client : Client} (hd : d ≠ c) :
      Function.update s.clients c client d = s.clients d :=
    Function.update_of_ne hd ..
  constructor
  · intro hafter k i hk d hd htarget
    rw [hok] at hk
    cases hk
    refine hafter d s.machine.pool.next hnew ?_ ⟨c, hd.symm, Function.update_self .., ?_⟩
    · show (Function.update s.clients c _ d).activity.target = _
      rw [hother hd]
      exact htarget.trans (congrArg some hindex.symm)
    · show (Function.update s.clients c _ c).activity ≠ .exited
      rw [Function.update_self]
      exact nofun
  · rintro hallowed d pp hpp htarget ⟨d', hne, hobtained, hrunning⟩
    change (Function.update s.clients c _ d).activity.target = _ at htarget
    change (Function.update s.clients c _ d').activity ≠ .exited at hrunning
    change Function.update s.obtainedBy s.machine.pool.next (some c) pp = some d' at hobtained
    by_cases hd : d = c
    · subst hd
      rw [Function.update_self] at htarget
      cases htarget
    rw [hother hd] at htarget
    rcases (hadded.listed pp).mp hpp with rfl | hold
    · exact hallowed n n hok d hd (htarget.trans (congrArg some hindex))
    · have hpp' : pp ≠ s.machine.pool.next := fun heq ↦ hadded.fresh (heq ▸ hold)
      rw [Function.update_of_ne hpp'] at hobtained
      have hsame := PortPair.companionIndex_eq (hadded.control pp hold)
      refine hnone d pp hold (htarget.trans (congrArg some hsame)) ⟨d', hne, hobtained, ?_⟩
      by_cases hd' : d' = c
      · subst hd'
        exact hlive
      · rwa [hother hd'] at hrunning

/-- After a step no process is about to destroy a pair of another one exactly when the step was
allowed. -/
theorem noneTargeted_step (h : s.Coherent) (hnone : s.NoneTargeted) {e : ClientEvent ι}
    (hnext : next s e = some t) : t.NoneTargeted ↔ s.Allows e := by
  have hkept (pp : ℕ) (hpp : s.machine.Listed pp) : s.machine.Listed pp ∧
      (s.machine.pairs pp).companionIndex = (s.machine.pairs pp).companionIndex := ⟨hpp, rfl⟩
  have htouched {m : Machine} {qq : ℕ} (htouched : Touched s.machine m qq) (pp : ℕ)
      (hpp : m.Listed pp) : s.machine.Listed pp ∧
        (m.pairs pp).companionIndex = (s.machine.pairs pp).companionIndex :=
    ⟨(htouched.listed pp).mp hpp, (htouched.same pp).2.2⟩
  have hdestroy (call : NativeCall) (o : DestroyOutcomes) (i : ULONG) (pp : ℕ)
      (hpp : (nativeDestroyPort s.machine call o i).1.Listed pp) : s.machine.Listed pp ∧
        ((nativeDestroyPort s.machine call o i).1.pairs pp).companionIndex =
          (s.machine.pairs pp).companionIndex := by
    obtain ⟨-, ⟨_, heq⟩ | ⟨qq, -, -, -, hremoved⟩⟩ := native_destroy_cases call h.consistent o i
    · rw [heq] at hpp ⊢
      exact ⟨hpp, rfl⟩
    · obtain ⟨hne, hold⟩ := (hremoved.listed pp).mp hpp
      exact ⟨hold, PortPair.companionIndex_eq (hremoved.control pp hold hne)⟩
  have hlive {c : ι} {activity : Activity} (hactivity : (s.clients c).activity = activity)
      (hne : activity ≠ .exited) : (s.clients c).activity ≠ .exited := by
    rw [hactivity]
    exact hne
  cases moves_of_next hnext with
  | createPort hactivity => exact noneTargeted_create h hnone (hlive hactivity nofun) ..
  | retryCreate hactivity =>
      refine (noneTargeted_create h hnone (hlive hactivity nofun) ..).trans ?_
      constructor
      · intro hallowed n hn
        rw [hactivity] at hn
        cases hn
        exact hallowed
      · exact fun hallowed ↦ hallowed _ hactivity
  | @listPorts c call n hactivity =>
      refine (noneTargeted_update hnone hkept fun _ ↦ hlive hactivity nofun).trans ?_
      constructor
      · intro hafter hserved pp hpp hnumber hclosed
        rw [hactivity] at hnumber
        cases hnumber
        exact hafter pp hpp (after_list_heals call h.consistent.table hserved hpp hclosed)
      · intro hallowed pp hpp htarget
        obtain ⟨hserved, qq, hqq, hnumber, hindex, hclosed⟩ :=
          after_list_target call h.consistent.table htarget
        obtain rfl := h.consistent.table.index_unique hqq hpp hindex
        exact hallowed hserved qq hpp (by rw [hactivity, hnumber]) hclosed
  | destroyStale hactivity =>
      refine iff_of_true (noneTargeted_of_idle hnone (hdestroy _ _ _)
        (fun _ ↦ hlive hactivity nofun) ?_) trivial
      unfold afterHeal
      split <;> rfl
  | destroyPort hactivity =>
      exact iff_of_true (noneTargeted_of_idle hnone (hdestroy _ _ _)
        (fun _ ↦ hlive hactivity nofun) rfl) trivial
  | @openPort c call n i hactivity =>
      refine iff_of_true ?_ trivial
      have hcases := open_port_cases s.machine call i
      unfold Clients.openCompanion
      rcases hresult : GhostCom.openPort s.machine call i with ⟨m, handle⟩
      rw [hresult] at hcases
      have hpairs (pp : ℕ) (hpp : m.Listed pp) : s.machine.Listed pp ∧
          (m.pairs pp).companionIndex = (s.machine.pairs pp).companionIndex := by
        rcases hcases with hfails | ⟨-, hopened, -⟩
        · cases hfails
          exact hkept pp hpp
        · exact htouched hopened pp hpp
      cases handle with
      | none => exact noneTargeted_of_idle hnone hpairs (fun _ ↦ hlive hactivity nofun) rfl
      | some pp => exact noneTargeted_of_idle hnone hpairs (fun _ ↦ hlive hactivity nofun) rfl
  | @closePort c i port hactivity hport =>
      refine iff_of_true ((noneTargeted_update hnone (htouched (close_handle_touched ..))
        fun _ ↦ hlive hactivity nofun).mpr ?_) trivial
      -- the process is about to destroy the pair whose handle it closes, and that is its own
      intro pp hpp htarget
      obtain ⟨hpp, hindex⟩ := htouched (close_handle_touched ..) pp hpp
      obtain ⟨hheld, hindex', -⟩ :=
        (h.client c).held (hlive hactivity nofun) port (List.mem_of_getElem? hport)
      rw [hindex] at htarget
      injection htarget with htarget
      obtain rfl := h.consistent.table.index_unique hheld hpp (hindex'.trans htarget)
      rintro ⟨d, hd, hobtained, -⟩
      rw [(h.client c).obtained port (List.mem_of_getElem? hport)] at hobtained
      injection hobtained with hobtained
      exact hd hobtained.symm
  | @dropHandle c i port hport =>
      refine iff_of_true ?_ trivial
      refine (noneTargeted_update hnone (htouched (close_handle_touched ..)) ?_).mpr ?_
      · exact id
      · intro pp hpp htarget
        obtain ⟨hpp, hindex⟩ := htouched (close_handle_touched ..) pp hpp
        exact hnone c pp hpp (htarget.trans (congrArg some hindex))
  | exit =>
      exact iff_of_true (noneTargeted_of_idle hnone hkept (fun hne ↦ absurd rfl hne) rfl) trivial

/-- In every run of any number of processes, no step can destroy a pair that another running process
has obtained from its create and not destroyed itself, if and only if the lists and creates of the
run are allowed. -/
theorem undisturbed_iff (prior : List ControlEvent) (events : List (ClientEvent ι)) :
    Transition.EveryStep next (fun _ _ t ↦ t.Undisturbed) (start prior) events ↔
      Transition.EveryStep next (fun s e _ ↦ s.Allows e) (start prior) events := by
  refine Transition.everyStep_iff (I := fun s ↦ s.Coherent ∧ s.NoneTargeted) ?_ ?_
    ⟨start_coherent prior, fun _ _ _ htarget ↦ nomatch htarget⟩
  · rintro s e t ⟨hcoherent, hnone⟩ hnext hundisturbed
    have hafter := hcoherent.step hnone hnext
    exact ⟨hafter, (undisturbed_iff_noneTargeted hafter).mp hundisturbed⟩
  · rintro s e t ⟨hcoherent, hnone⟩ hnext
    exact (undisturbed_iff_noneTargeted (hcoherent.step hnone hnext)).trans
      (noneTargeted_step hcoherent hnone hnext)

/-! ## Two processes that want the same port -/

instance (m : Machine) (pp : ℕ) : Decidable (m.Listed pp) :=
  inferInstanceAs (Decidable (_ ∈ _))

instance [Fintype ι] (s : Clients ι) (c : ι) (pp : ℕ) : Decidable (s.OfAnother c pp) :=
  inferInstanceAs (Decidable (∃ _, _))

/-- A native call that is served. -/
def served : NativeCall := ⟨true, .ok, 0⟩

/-- One process has created COM5 and not opened its companion device yet; the other one wants COM5
as well and has listed the ports. -/
def beforeOpen : List (ClientEvent Bool) :=
  [.createPort true served .allSucceed 5 true,
    .createPort false served .allSucceed 5 true,
    .listPorts false served]

/-- One process has closed the companion device of COM5 in its `destroy`; before it goes on, the
other one heals COM5, creates it and opens its companion device. -/
def betweenCloseAndDestroy : List (ClientEvent Bool) :=
  [.createPort true served .allSucceed 5 true,
    .openPort true served,
    .closePort true 0,
    .createPort false served .allSucceed 5 true,
    .listPorts false served,
    .destroyStale false served ⟨true, .ok (), ⟨true, true⟩⟩,
    .retryCreate false served .allSucceed,
    .openPort false served]

/-- A step after a run that is seen to take a pair of another process from the table. -/
theorem not_spares (events : List (ClientEvent Bool)) (e : ClientEvent Bool) (c : Bool) (pp : ℕ)
    (h : (Transition.run next (start []) events).map (fun s ↦
      (decide (s.machine.Listed pp ∧ s.OfAnother c pp),
        (next s e).map fun t ↦ decide (t.machine.Listed pp))) = some (true, some false)) :
    ∃ s t, Transition.run next (start []) events = some s ∧ next s e = some t ∧ ¬s.Spares t c := by
  obtain ⟨s, hs, hseen⟩ := Option.map_eq_some_iff.mp h
  obtain ⟨hbefore, hafter⟩ := Prod.mk.inj hseen
  obtain ⟨t, ht, hgone⟩ := Option.map_eq_some_iff.mp hafter
  obtain ⟨hlisted, hanother⟩ := of_decide_eq_true hbefore
  exact ⟨s, t, hs, ht, fun hspares ↦ hspares pp hlisted (of_decide_eq_false hgone) hanother⟩

/-- A process can destroy the pair of another running process when it heals, and it can when it
destroys a port of its own. -/
theorem live_pairs_destroyed :
    (¬∀ (prior : List ControlEvent) (events : List (ClientEvent Bool)) (s t : Clients Bool)
        (c : Bool) (call : NativeCall) (o : DestroyOutcomes),
      Transition.run next (start prior) events = some s →
        next s (.destroyStale c call o) = some t → s.Spares t c) ∧
    ¬∀ (prior : List ControlEvent) (events : List (ClientEvent Bool)) (s t : Clients Bool)
        (c : Bool) (call : NativeCall) (o : DestroyOutcomes),
      Transition.run next (start prior) events = some s →
        next s (.destroyPort c call o) = some t → s.Spares t c := by
  constructor
  · intro h
    obtain ⟨s, t, hrun, hnext, hnot⟩ := not_spares beforeOpen
      (.destroyStale false served ⟨true, .ok (), ⟨true, true⟩⟩) false 0 (by decide)
    exact hnot (h [] beforeOpen s t false _ _ hrun hnext)
  · intro h
    obtain ⟨s, t, hrun, hnext, hnot⟩ := not_spares betweenCloseAndDestroy
      (.destroyPort true served ⟨true, .ok (), ⟨true, true⟩⟩) true 5 (by decide)
    exact hnot (h [] betweenCloseAndDestroy s t true _ _ hrun hnext)

end GhostCom.Clients
