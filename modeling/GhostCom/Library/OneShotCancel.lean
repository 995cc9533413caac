import GhostCom.Library.Transition

/-!
# Stopping a worker by a flag and a one-shot cancellation

A worker thread loops: it tests a flag, issues a request and waits for it. To stop it, another
thread stores the flag, cancels the requests outstanding at that moment, and joins the worker. The
cancellation is not remembered, so a worker that has tested the flag before and issues its request
after is not woken again.

`Worker` is such a worker, with its steps left open, and `next` its composition with the stopping
thread. `Heeds` says which points of the worker are past the test of the flag. `safe_iff` gives the
exact condition: the worker is at no such point when the requests are cancelled.
-/

namespace OneShotCancel

open Transition (run EveryStep)

/-- A worker with states `ω`. `step` takes the value of the flag and the outcome of the calls the
step makes; `adjust` is what the stopping thread may do to it before it stops it. -/
structure Worker (ω κ χ : Type*) where
  step : Bool → ω → κ → Option ω
  adjust : ω → χ → ω
  isWaiting : ω → Bool
  cancel : ω → ω
  isDone : ω → Bool

/-- Where the stopping thread stands: not stopping, past the store of the flag, past the
cancellation and waiting for the worker, or past the join. -/
inductive Stopper where
  | running
  | stored
  | joining
  | joined
deriving DecidableEq

/-- The flag, the two threads, and whether the request the worker issued last was issued after the
cancellation. -/
structure State (ω : Type*) where
  flag : Bool
  stopper : Stopper
  worker : ω
  late : Bool

/-- What can happen: a step of the worker, or one of the stopping thread. -/
inductive Event (κ χ : Type*) where
  | work (outcome : κ)
  | adjust (change : χ)
  | store
  | cancel
  | join

variable {ω κ χ : Type*}

/-- A worker that starts at `w`. -/
def start (w : ω) : State ω := ⟨false, .running, w, false⟩

/-- One event. -/
def next (W : Worker ω κ χ) (s : State ω) : Event κ χ → Option (State ω)
  | .work outcome =>
      (W.step s.flag s.worker outcome).map fun w ↦
        { s with worker := w, late := if W.isWaiting w then s.stopper == .joining else s.late }
  | .adjust change =>
      if s.stopper = .running then some { s with worker := W.adjust s.worker change } else none
  | .store =>
      if s.stopper = .running then some { s with flag := true, stopper := .stored } else none
  | .cancel =>
      if s.stopper = .stored then
        some { s with worker := W.cancel s.worker, stopper := .joining }
      else none
  | .join =>
      if s.stopper = .joining ∧ W.isDone s.worker = true then some { s with stopper := .joined }
      else none

/-- The stopping thread waits for a worker that waits on a request issued after the cancellation. -/
def State.Missed (W : Worker ω κ χ) (s : State ω) : Prop :=
  s.stopper = .joining ∧ W.isWaiting s.worker = true ∧ s.late = true

/-- Once the requests are cancelled, no continuation ends with a request missed. -/
def State.Safe (W : Worker ω κ χ) (s : State ω) : Prop :=
  s.stopper = .joining → ∀ es t, run (next W) s es = some t → ¬ t.Missed W

/-- The points at which a worker is committed to issuing a request: with the flag set it comes to
one from no other point, and from each of them it may come to wait. -/
structure Heeds (W : Worker ω κ χ) (Committed : ω → Prop) : Prop where
  step : ∀ w k w', ¬ Committed w → W.isWaiting w = false → W.step true w k = some w' →
    ¬ Committed w' ∧ W.isWaiting w' = false
  woken : ∀ w, W.isWaiting w = true → ¬ Committed (W.cancel w) ∧ W.isWaiting (W.cancel w) = false
  unaffected : ∀ w, W.isWaiting w = false → W.cancel w = w
  not_waiting : ∀ w, Committed w → W.isWaiting w = false
  proceeds : ∀ w, Committed w →
    ∃ ks k w' w'', run (W.step true) w ks = some w' ∧ W.step true w' k = some w'' ∧
      W.isWaiting w'' = true

variable {W : Worker ω κ χ} {Committed : ω → Prop}

/-- What runs keep whose cancellation meets an uncommitted worker. -/
structure Quiet (W : Worker ω κ χ) (Committed : ω → Prop) (s : State ω) : Prop where
  flag : s.stopper ≠ .running → s.flag = true
  quiet : s.stopper = .joining → ¬ Committed s.worker ∧ W.isWaiting s.worker = false

theorem start_quiet (w : ω) : Quiet W Committed (start w) :=
  ⟨fun h ↦ absurd rfl h, nofun⟩

/-- The steps of a worker are steps of the composition, whatever the stopping thread does. -/
theorem run_work {s : State ω} {ks : List κ} {w : ω}
    (h : run (W.step s.flag) s.worker ks = some w) :
    ∃ late, run (next W) s (ks.map .work) = some { s with worker := w, late := late } := by
  induction ks generalizing s with
  | nil =>
      cases h
      exact ⟨s.late, rfl⟩
  | cons k ks ih =>
      obtain ⟨v, hv, hrest⟩ := Transition.run_cons_eq_some.mp h
      have hnext : next W s (.work k) = some { s with
          worker := v, late := if W.isWaiting v then s.stopper == .joining else s.late } := by
        show (W.step s.flag s.worker k).map _ = _
        rw [hv]
        rfl
      obtain ⟨late, hlate⟩ := ih (s := { s with
        worker := v, late := if W.isWaiting v then s.stopper == .joining else s.late }) hrest
      exact ⟨late, Transition.run_cons_eq_some.mpr ⟨_, hnext, hlate⟩⟩

/-- A committed worker, left alone after the cancellation, comes to wait for a request that nobody
cancels. -/
theorem missed_of_committed (hW : Heeds W Committed) {s : State ω} (hflag : s.flag = true)
    (hjoining : s.stopper = .joining) (hcommitted : Committed s.worker) :
    ∃ es t, run (next W) s es = some t ∧ t.Missed W := by
  obtain ⟨ks, k, w, w', hrun, hlast, hwaiting⟩ := hW.proceeds s.worker hcommitted
  rw [← hflag] at hrun hlast
  obtain ⟨late, hrun⟩ := run_work hrun
  have hnext : next W { s with worker := w, late := late } (.work k) =
      some { s with worker := w', late := true } := by
    show (W.step s.flag w k).map _ = _
    rw [hlast]
    simp [hwaiting, hjoining]
  refine ⟨ks.map .work ++ [.work k], { s with worker := w', late := true }, ?_, hjoining,
    hwaiting, rfl⟩
  rw [Transition.run_append, hrun]
  exact Transition.run_cons_eq_some.mpr ⟨_, hnext, rfl⟩

/-- Cancelling the requests of an uncommitted worker leaves it uncommitted and awake. -/
theorem cancel_quiet (hW : Heeds W Committed) {w : ω} (h : ¬ Committed w) :
    ¬ Committed (W.cancel w) ∧ W.isWaiting (W.cancel w) = false := by
  cases hwaiting : W.isWaiting w with
  | true => exact hW.woken w hwaiting
  | false =>
      rw [hW.unaffected w hwaiting]
      exact ⟨h, hwaiting⟩

/-- Steps keep a worker quiet unless they cancel while it is committed. -/
theorem Quiet.next (hW : Heeds W Committed) {s t : State ω} (h : Quiet W Committed s)
    {e : Event κ χ} (ht : next W s e = some t) (he : e = .cancel → ¬ Committed s.worker) :
    Quiet W Committed t := by
  cases e with
  | work k =>
      obtain ⟨w, hw, rfl⟩ := Option.map_eq_some_iff.mp ht
      refine ⟨h.flag, fun hjoining ↦ ?_⟩
      -- after the cancellation the flag is set, and the worker heeds it
      obtain ⟨hcommitted, hwaiting⟩ := h.quiet hjoining
      have hflag := h.flag (by rw [hjoining]; exact nofun)
      rw [hflag] at hw
      exact hW.step s.worker k w hcommitted hwaiting hw
  | adjust change =>
      obtain ⟨hrunning, ht⟩ := Option.ite_none_right_eq_some.mp ht
      cases ht
      refine ⟨fun hne ↦ absurd hrunning hne, fun hjoining ↦ ?_⟩
      -- what the worker depends on changes only before the flag is stored
      have hcontra : Stopper.running = .joining := hrunning.symm.trans hjoining
      cases hcontra
  | store =>
      obtain ⟨-, ht⟩ := Option.ite_none_right_eq_some.mp ht
      cases ht
      exact ⟨fun _ ↦ rfl, nofun⟩
  | cancel =>
      obtain ⟨hstored, ht⟩ := Option.ite_none_right_eq_some.mp ht
      cases ht
      exact ⟨fun _ ↦ h.flag (by rw [hstored]; exact nofun), fun _ ↦ cancel_quiet hW (he rfl)⟩
  | join =>
      obtain ⟨⟨hjoining, -⟩, ht⟩ := Option.ite_none_right_eq_some.mp ht
      cases ht
      exact ⟨fun _ ↦ h.flag (by rw [hjoining]; exact nofun), nofun⟩

/-- There is one cancellation. -/
theorem not_cancel_of_joining {s t : State ω} {e : Event κ χ} (hjoining : s.stopper = .joining)
    (ht : next W s e = some t) : e ≠ .cancel := by
  intro he
  rw [he] at ht
  obtain ⟨hstored, -⟩ := Option.ite_none_right_eq_some.mp ht
  rw [hjoining] at hstored
  cases hstored

/-- The join ends only with the worker. -/
theorem joining_next {s t : State ω} {e : Event κ χ} (hjoining : s.stopper = .joining)
    (ht : next W s e = some t) : t.stopper = .joining ∨ t.stopper = .joined := by
  cases e with
  | work k =>
      obtain ⟨w, -, rfl⟩ := Option.map_eq_some_iff.mp ht
      exact .inl hjoining
  | adjust change =>
      obtain ⟨hrunning, -⟩ := Option.ite_none_right_eq_some.mp ht
      rw [hjoining] at hrunning
      cases hrunning
  | store =>
      obtain ⟨hrunning, -⟩ := Option.ite_none_right_eq_some.mp ht
      rw [hjoining] at hrunning
      cases hrunning
  | cancel => exact absurd rfl (not_cancel_of_joining hjoining ht)
  | join =>
      obtain ⟨-, ht⟩ := Option.ite_none_right_eq_some.mp ht
      cases ht
      exact .inr rfl

/-- A joined worker stays joined. -/
theorem joined_run {s t : State ω} {es : List (Event κ χ)} (hjoined : s.stopper = .joined)
    (hrun : run (next W) s es = some t) : t.stopper = .joined := by
  refine Transition.run_invariant (I := fun s : State ω ↦ s.stopper = .joined) ?_ hjoined hrun
  intro s e t hs ht
  cases e with
  | work k =>
      obtain ⟨w, -, rfl⟩ := Option.map_eq_some_iff.mp ht
      exact hs
  | adjust change =>
      obtain ⟨-, ht⟩ := Option.ite_none_right_eq_some.mp ht
      cases ht
      exact hs
  | store =>
      obtain ⟨hrunning, -⟩ := Option.ite_none_right_eq_some.mp ht
      rw [hs] at hrunning
      cases hrunning
  | cancel =>
      obtain ⟨hstored, -⟩ := Option.ite_none_right_eq_some.mp ht
      rw [hs] at hstored
      cases hstored
  | join =>
      obtain ⟨-, ht⟩ := Option.ite_none_right_eq_some.mp ht
      cases ht
      rfl

/-- Once the requests of an uncommitted worker are cancelled, no request is missed. -/
theorem Quiet.safe (hW : Heeds W Committed) {s : State ω} (h : Quiet W Committed s) : s.Safe W := by
  intro hjoining es
  induction es generalizing s with
  | nil =>
      intro t ht hmissed
      cases ht
      exact Bool.false_ne_true ((h.quiet hjoining).2.symm.trans hmissed.2.1)
  | cons e es ih =>
      intro t ht
      obtain ⟨u, hu, hrest⟩ := Transition.run_cons_eq_some.mp ht
      have hquiet := h.next hW hu fun he ↦ absurd he (not_cancel_of_joining hjoining hu)
      cases joining_next hjoining hu with
      | inl hstill => exact ih hquiet hstill t hrest
      | inr hjoined =>
          intro hmissed
          have hcontra : Stopper.joined = .joining :=
            (joined_run hjoined hrest).symm.trans hmissed.1
          cases hcontra

/-- A run misses no request, in any state it reaches and in any continuation after the cancellation,
exactly when the cancellation meets an uncommitted worker. -/
theorem safe_iff (hW : Heeds W Committed) (w : ω) (es : List (Event κ χ)) :
    EveryStep (next W) (fun _ _ t ↦ t.Safe W) (start w) es ↔
      EveryStep (next W) (fun s e _ ↦ e = .cancel → ¬ Committed s.worker) (start w) es := by
  have hcommitted {s t : State ω} (h : Quiet W Committed s) (ht : next W s .cancel = some t)
      (hsafe : t.Safe W) : ¬ Committed s.worker := by
    intro hcommitted
    obtain ⟨hstored, ht⟩ := Option.ite_none_right_eq_some.mp ht
    cases ht
    have hflag : s.flag = true := h.flag (by rw [hstored]; exact nofun)
    rw [hW.unaffected s.worker (hW.not_waiting s.worker hcommitted)] at hsafe
    -- the committed worker goes on to its request and then waits for it
    obtain ⟨es, t, hrun, hmissed⟩ := missed_of_committed hW (s := { s with stopper := .joining })
      hflag rfl hcommitted
    exact hsafe rfl es t hrun hmissed
  refine Transition.everyStep_iff (I := Quiet W Committed) ?_ ?_ (start_quiet w)
  · intro s e t h ht hsafe
    exact h.next hW ht fun he ↦ hcommitted h (he ▸ ht) hsafe
  · intro s e t h ht
    constructor
    · intro hsafe he
      exact hcommitted h (he ▸ ht) hsafe
    · intro huncommitted
      exact (h.next hW ht huncommitted).safe hW

end OneShotCancel
