import Mathlib.Tactic.Common

/-!
# Runs of event-driven systems

A system is a partial function `next : σ → ε → Option σ`: the state after an event, or `none`
where the event is not enabled. `run next s es` executes a list of events. `EveryStep next Q s es`
says that every step the run takes satisfies `Q`, a relation of the state before the step, the
event and the state after it; a state property and a guard on the inputs are both of this form.
`written next writes s es` collects what the steps of a run write.

`run_invariant` carries an invariant along a run, and `EveryStep.of_invariant` what each step does
under one. `exists_run_to_final` builds a run that ends.
`everyStep_iff` is the rule for an exact condition: under an invariant, a run satisfies one step
relation everywhere exactly when it satisfies another.
-/

namespace Transition

variable {σ ε β : Type*} {next : σ → ε → Option σ}

/-- Execute a list of events; an event that is not enabled stops the run. -/
def run (next : σ → ε → Option σ) : σ → List ε → Option σ
  | s, [] => some s
  | s, e :: es => (next s e).bind fun t ↦ run next t es

/-- Every step taken by the run from `s` along `es` satisfies `Q`. -/
def EveryStep (next : σ → ε → Option σ) (Q : σ → ε → σ → Prop) : σ → List ε → Prop
  | _, [] => True
  | s, e :: es => ∀ t, next s e = some t → Q s e t ∧ EveryStep next Q t es

/-- What the steps taken by the run from `s` along `es` write, oldest first. -/
def written (next : σ → ε → Option σ) (writes : σ → ε → Option β) : σ → List ε → List β
  | _, [] => []
  | s, e :: es => (next s e).elim [] fun t ↦ (writes s e).toList ++ written next writes t es

@[simp] theorem run_nil (s : σ) : run next s [] = some s := rfl

theorem run_cons (s : σ) (e : ε) (es : List ε) :
    run next s (e :: es) = (next s e).bind fun t ↦ run next t es := rfl

/-- A run of at least one event takes its first step and then runs the rest. -/
theorem run_cons_eq_some {s t : σ} {e : ε} {es : List ε} :
    run next s (e :: es) = some t ↔ ∃ u, next s e = some u ∧ run next u es = some t := by
  simp [run_cons, Option.bind_eq_some_iff]

/-- What the first step writes comes first. -/
theorem written_cons {writes : σ → ε → Option β} {s t : σ} {e : ε} (h : next s e = some t)
    (es : List ε) :
    written next writes s (e :: es) = (writes s e).toList ++ written next writes t es := by
  rw [written, h, Option.elim_some]

/-- Running `es ++ fs` is running `es` and then `fs`. -/
theorem run_append (s : σ) (es fs : List ε) :
    run next s (es ++ fs) = (run next s es).bind fun t ↦ run next t fs := by
  induction es generalizing s with
  | nil => rfl
  | cons e es ih =>
      simp only [List.cons_append, run_cons, Option.bind_assoc]
      congr 1
      funext t
      exact ih t

/-- A property of the initial state that every step preserves holds after every run. -/
theorem run_invariant {I : σ → Prop}
    (hstep : ∀ s e t, I s → next s e = some t → I t)
    {s t : σ} {es : List ε} (hs : I s) (hrun : run next s es = some t) : I t := by
  induction es generalizing s with
  | nil =>
      cases hrun
      exact hs
  | cons e es ih =>
      obtain ⟨u, hu, hrest⟩ := run_cons_eq_some.mp hrun
      exact ih (hstep s e u hs hu) hrest

/-- What every event of a kind preserves holds after every run of events of that kind. -/
theorem run_invariant_of {I : σ → Prop} {P : ε → Prop}
    (hstep : ∀ s e t, P e → I s → next s e = some t → I t)
    {s t : σ} {es : List ε} (hes : ∀ e ∈ es, P e) (hs : I s) (hrun : run next s es = some t) :
    I t := by
  induction es generalizing s with
  | nil =>
      cases hrun
      exact hs
  | cons e es ih =>
      obtain ⟨u, hu, hrest⟩ := run_cons_eq_some.mp hrun
      have hsu := hstep s e u (hes e (List.mem_cons_self ..)) hs hu
      exact ih (fun f hf ↦ hes f (List.mem_cons_of_mem _ hf)) hsu hrest

/-- If every state that is not final has a step, by an event of a kind, to a state of smaller rank,
then some run of events of that kind ends in a final state. -/
theorem exists_run_to_final {P : ε → Prop} {Final : σ → Prop} (rank : σ → ℕ)
    (hprogress : ∀ s, ¬Final s → ∃ e t, P e ∧ next s e = some t ∧ rank t < rank s) (s : σ) :
    ∃ es t, (∀ e ∈ es, P e) ∧ run next s es = some t ∧ Final t := by
  induction hn : rank s using Nat.strongRecOn generalizing s with
  | _ n ih =>
      by_cases hfinal : Final s
      · exact ⟨[], s, nofun, rfl, hfinal⟩
      · obtain ⟨e, u, he, hu, hlt⟩ := hprogress s hfinal
        obtain ⟨es, t, hes, ht, htfinal⟩ := ih (rank u) (hn ▸ hlt) u rfl
        refine ⟨e :: es, t, ?_, run_cons_eq_some.mpr ⟨u, hu, ht⟩, htfinal⟩
        intro f hf
        rcases List.mem_cons.mp hf with rfl | hf
        · exact he
        · exact hes f hf

namespace EveryStep

variable {Q R : σ → ε → σ → Prop} {I : σ → Prop}

@[simp] theorem nil (s : σ) : EveryStep next Q s [] := trivial

/-- Every step of a concatenated run is a step of one of its two parts. -/
theorem append {s : σ} {es fs : List ε} :
    EveryStep next Q s (es ++ fs) ↔
      EveryStep next Q s es ∧ ∀ t, run next s es = some t → EveryStep next Q t fs := by
  induction es generalizing s with
  | nil => simp
  | cons e es ih =>
      constructor
      · intro h
        refine ⟨fun u hu ↦ ⟨(h u hu).1, (ih.mp (h u hu).2).1⟩, ?_⟩
        intro t ht
        obtain ⟨u, hu, hrest⟩ := run_cons_eq_some.mp ht
        exact (ih.mp (h u hu).2).2 t hrest
      · rintro ⟨hes, hfs⟩ u hu
        refine ⟨(hes u hu).1, ih.mpr ⟨(hes u hu).2, ?_⟩⟩
        intro t ht
        exact hfs t (run_cons_eq_some.mpr ⟨u, hu, ht⟩)

/-- A step after a prefix of the run satisfies the step relation. -/
theorem at_prefix {s u t : σ} {es fs : List ε} {e : ε}
    (h : EveryStep next Q s (es ++ e :: fs)) (hrun : run next s es = some u)
    (ht : next u e = some t) : Q u e t :=
  ((append.mp h).2 u hrun t ht).1

/-- An invariant under which every step satisfies `Q`. -/
theorem of_invariant (hstep : ∀ s e t, I s → next s e = some t → I t ∧ Q s e t)
    {s : σ} {es : List ε} (hs : I s) : EveryStep next Q s es := by
  induction es generalizing s with
  | nil => trivial
  | cons e es ih =>
      intro t ht
      obtain ⟨hnext, hq⟩ := hstep s e t hs ht
      exact ⟨hq, ih hnext⟩

end EveryStep

/-- Under an invariant that either relation's steps preserve, a run satisfies `Q` at every step
exactly when it satisfies `R` at every step, provided the two agree on each single step. -/
theorem everyStep_iff {Q R : σ → ε → σ → Prop} {I : σ → Prop}
    (hstep : ∀ s e t, I s → next s e = some t → Q s e t → I t)
    (hiff : ∀ s e t, I s → next s e = some t → (Q s e t ↔ R s e t))
    {s : σ} {es : List ε} (hs : I s) : EveryStep next Q s es ↔ EveryStep next R s es := by
  induction es generalizing s with
  | nil => simp
  | cons e es ih =>
      constructor
      · intro h t ht
        obtain ⟨hq, hrest⟩ := h t ht
        exact ⟨(hiff s e t hs ht).mp hq, (ih (hstep s e t hs ht hq)).mp hrest⟩
      · intro h t ht
        obtain ⟨hr, hrest⟩ := h t ht
        have hq := (hiff s e t hs ht).mpr hr
        exact ⟨hq, (ih (hstep s e t hs ht hq)).mpr hrest⟩

end Transition
