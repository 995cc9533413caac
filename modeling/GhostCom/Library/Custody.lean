import GhostCom.Library.Transition
import Mathlib.Algebra.Order.Group.Multiset
import Mathlib.Data.Multiset.Filter

/-!
# Custody of requests

Procedures that are handed requests (`ρ`), complete them, or give them to queues (`κ`) from which
they or other procedures take them back. A `Program` is the control flow of such a procedure: the
calls that move requests, and the tests (`τ`) between them, whose outcome is open. A `Ledger` says
where every request is: owned by the procedure, in a queue, or completed. A procedure that completes
or forwards a request it does not own is noted down as a violation.

`Linear p held` is a static discipline: on every path, `p` disposes of the requests `held` and of
every request it takes from a queue. `Linear.run` is the theorem that makes it useful: a linear
program never violates custody and neither loses nor doubles a request, whatever the calls return.
The last section lets any number of programs run at once on shared queues.
-/

open Transition

namespace Custody

variable {τ κ ρ : Type*}

/-- A procedure that moves requests. `leave` ends the innermost loop. `drain q turn rest` takes
requests from `q` until a take fails or a turn leaves, and runs `turn` on each. -/
inductive Program (τ κ ρ : Type*) where
  | done
  | leave
  | test (t : τ) (yes no : Program τ κ ρ)
  | complete (r : ρ) (rest : Program τ κ ρ)
  | forward (r : ρ) (q : κ) (accepted refused : Program τ κ ρ)
  | drain (q : κ) (turn : ρ → Program τ κ ρ) (rest : Program τ κ ρ)
  | purge (q : κ) (rest : Program τ κ ρ)

/-- What a call or a test answers: `request r` is a successful take of `r`. -/
inductive Reply (ρ : Type*) where
  | yes
  | no
  | request (r : ρ)
deriving DecidableEq

/-- Where the requests are. -/
structure Ledger (κ ρ : Type*) where
  owned : Multiset ρ
  queued : Multiset (κ × ρ)
  completed : Multiset ρ
  violated : Bool
deriving DecidableEq

namespace Program

/-- Go on with `next` where the program is done and with `exit` where it leaves. The ends of the
turns of its loops are their own. -/
def bind : Program τ κ ρ → (next exit : Program τ κ ρ) → Program τ κ ρ
  | done, next, _ => next
  | leave, _, exit => exit
  | test t yes no, next, exit => test t (yes.bind next exit) (no.bind next exit)
  | complete r rest, next, exit => complete r (rest.bind next exit)
  | forward r q accepted refused, next, exit =>
      forward r q (accepted.bind next exit) (refused.bind next exit)
  | drain q turn rest, next, exit => drain q turn (rest.bind next exit)
  | purge q rest, next, exit => purge q (rest.bind next exit)

/-- Call `p`, then go on with `next`. -/
def seq (p next : Program τ κ ρ) : Program τ κ ρ := p.bind next next

/-- The ends of a program that was continued are the ends of the continuations. -/
theorem bind_assoc (p next exit next' exit' : Program τ κ ρ) :
    (p.bind next exit).bind next' exit' =
      p.bind (next.bind next' exit') (exit.bind next' exit') := by
  induction p with
  | done | leave => rfl
  | test t yes no ihYes ihNo => simp only [bind, ihYes, ihNo]
  | forward r q accepted refused ihAccepted ihRefused => simp only [bind, ihAccepted, ihRefused]
  | complete r rest ih | purge q rest ih | drain q turn rest _ ih => simp only [bind, ih]

variable [DecidableEq ρ]

/-- On every path the program disposes of exactly the requests `held`, and every turn of a loop
disposes of the request it took. -/
@[simp] def Linear : Program τ κ ρ → (held : Multiset ρ) → Prop
  | done, held => held = 0
  | leave, held => held = 0
  | test _ yes no, held => yes.Linear held ∧ no.Linear held
  | complete r rest, held => r ∈ held ∧ rest.Linear (held.erase r)
  | forward r _ accepted refused, held =>
      r ∈ held ∧ accepted.Linear (held.erase r) ∧ refused.Linear held
  | drain _ turn rest, held => (∀ r, (turn r).Linear {r}) ∧ rest.Linear held
  | purge _ rest, held => rest.Linear held

variable {p next exit : Program τ κ ρ} {held held' : Multiset ρ}

/-- A program that disposes of `held` leaves `held'` to what comes after it. -/
theorem Linear.bind (hp : p.Linear held) (hnext : next.Linear held') (hexit : exit.Linear held') :
    (p.bind next exit).Linear (held + held') := by
  induction p generalizing held with
  | done =>
      obtain rfl : held = 0 := hp
      simpa [Program.bind] using hnext
  | leave =>
      obtain rfl : held = 0 := hp
      simpa [Program.bind] using hexit
  | test t yes no ihYes ihNo => exact ⟨ihYes hp.1, ihNo hp.2⟩
  | complete r rest ih =>
      refine ⟨Multiset.mem_add.mpr (.inl hp.1), ?_⟩
      rw [Multiset.erase_add_left_pos _ hp.1]
      exact ih hp.2
  | forward r q accepted refused ihAccepted ihRefused =>
      refine ⟨Multiset.mem_add.mpr (.inl hp.1), ?_, ihRefused hp.2.2⟩
      rw [Multiset.erase_add_left_pos _ hp.1]
      exact ihAccepted hp.2.1
  | drain q turn rest _ ih => exact ⟨hp.1, ih hp.2⟩
  | purge q rest ih => exact ih hp

/-- A call that disposes of nothing can stand anywhere. -/
theorem Linear.seq (hp : p.Linear 0) (hnext : next.Linear held) : (p.seq next).Linear held := by
  simpa [Program.seq] using hp.bind hnext hnext

end Program

namespace Ledger

/-- The requests in the queues. -/
def pended (s : Ledger κ ρ) : Multiset ρ := s.queued.map Prod.snd

/-- All requests, wherever they are. -/
def total (s : Ledger κ ρ) : Multiset ρ := s.owned + s.pended + s.completed

section

variable [DecidableEq ρ]

/-- A use of `r` by the procedure; a violation if it does not own `r`. -/
def use (s : Ledger κ ρ) (r : ρ) : Ledger κ ρ :=
  { s with violated := s.violated || !decide (r ∈ s.owned) }

/-- Complete `r`. -/
def complete (s : Ledger κ ρ) (r : ρ) : Ledger κ ρ :=
  { s.use r with owned := s.owned.erase r, completed := r ::ₘ s.completed }

/-- Give `r` to the queue `q`. -/
def forward (s : Ledger κ ρ) (r : ρ) (q : κ) : Ledger κ ρ :=
  { s.use r with owned := s.owned.erase r, queued := (q, r) ::ₘ s.queued }

/-- `r` was completed exactly once and is in no queue, or it is in exactly one queue, once, and was
not completed. -/
def Settled (s : Ledger κ ρ) (r : ρ) : Prop :=
  (s.completed.count r = 1 ∧ s.pended.count r = 0) ∨
    (s.completed.count r = 0 ∧ s.pended.count r = 1)

instance (s : Ledger κ ρ) (r : ρ) : Decidable (s.Settled r) :=
  inferInstanceAs (Decidable (_ ∨ _))

variable {s : Ledger κ ρ} {r : ρ} {q : κ}

/-- A use of an owned request is no violation. -/
theorem use_owned (h : r ∈ s.owned) : (s.use r).violated = s.violated := by
  simp [use, h]

/-- Completing an owned request moves it. -/
theorem total_complete (h : r ∈ s.owned) : (s.complete r).total = s.total := by
  show s.owned.erase r + s.pended + (r ::ₘ s.completed) = s.owned + s.pended + s.completed
  conv_rhs => rw [← Multiset.cons_erase h]
  simp only [Multiset.add_cons, Multiset.cons_add]

/-- Giving an owned request away moves it. -/
theorem total_forward (h : r ∈ s.owned) : (s.forward r q).total = s.total := by
  show s.owned.erase r + ((q, r) ::ₘ s.queued).map Prod.snd + s.completed =
    s.owned + s.pended + s.completed
  conv_rhs => rw [← Multiset.cons_erase h]
  simp only [Multiset.map_cons, Multiset.add_cons, Multiset.cons_add, pended]

/-- Where every request is in one place and none is owned, each is settled. -/
theorem settled_of_nodup (hnodup : s.total.Nodup) (howned : s.owned = 0) (hr : r ∈ s.total) :
    s.Settled r := by
  have hone := Multiset.count_eq_one_of_mem hnodup hr
  rw [total, howned, zero_add, Multiset.count_add] at hone
  unfold Settled
  omega

end

variable [DecidableEq κ]

/-- Take `r` from the queue `q`. -/
def take [DecidableEq ρ] (s : Ledger κ ρ) (q : κ) (r : ρ) : Ledger κ ρ :=
  { s with owned := r ::ₘ s.owned, queued := s.queued.erase (q, r) }

/-- Have every request in the queue `q` completed. -/
def purge (s : Ledger κ ρ) (q : κ) : Ledger κ ρ :=
  { s with
    queued := s.queued.filter (·.1 ≠ q)
    completed := (s.queued.filter (·.1 = q)).map Prod.snd + s.completed }

variable {s : Ledger κ ρ} {r : ρ} {q : κ}

/-- Taking a request from a queue moves it. -/
theorem total_take [DecidableEq ρ] (h : (q, r) ∈ s.queued) : (s.take q r).total = s.total := by
  show (r ::ₘ s.owned) + (s.queued.erase (q, r)).map Prod.snd + s.completed =
    s.owned + s.pended + s.completed
  conv_rhs => rw [pended, ← Multiset.cons_erase h]
  simp only [Multiset.map_cons, Multiset.add_cons, Multiset.cons_add]

/-- A purge moves the requests of its queue. -/
theorem total_purge : (s.purge q).total = s.total := by
  have hsplit := congrArg (Multiset.map Prod.snd) (Multiset.filter_add_not (·.1 = q) s.queued)
  rw [Multiset.map_add] at hsplit
  show s.owned + (s.queued.filter fun e ↦ ¬ e.1 = q).map Prod.snd +
      ((s.queued.filter (·.1 = q)).map Prod.snd + s.completed) = s.owned + s.pended + s.completed
  rw [pended, ← hsplit]
  ac_rfl

end Ledger

variable [DecidableEq κ] [DecidableEq ρ]

/-- One call or test of a program, with its answer. -/
def next : Program τ κ ρ × Ledger κ ρ → Reply ρ → Option (Program τ κ ρ × Ledger κ ρ)
  | (.test _ yes _, s), .yes => some (yes, s)
  | (.test _ _ no, s), .no => some (no, s)
  | (.complete r rest, s), .yes => some (rest, s.complete r)
  | (.forward r q accepted _, s), .yes => some (accepted, s.forward r q)
  | (.forward r _ _ refused, s), .no => some (refused, s.use r)
  | (.drain q turn rest, s), .request r =>
      if (q, r) ∈ s.queued then some ((turn r).bind (.drain q turn rest) rest, s.take q r)
      else none
  | (.drain _ _ rest, s), .no => some (rest, s)
  | (.purge q rest, s), .yes => some (rest, s.purge q)
  | _, _ => none

/-- A loop that is answered with a request begins a turn with it, if the queue holds it. -/
theorem next_drain (q : κ) (turn : ρ → Program τ κ ρ) (rest : Program τ κ ρ) (s : Ledger κ ρ)
    (r : ρ) : next (.drain q turn rest, s) (.request r) =
      if (q, r) ∈ s.queued then some ((turn r).bind (.drain q turn rest) rest, s.take q r)
      else none := rfl

/-- Every step of a linear program leaves a linear program, violates nothing and keeps every
request. -/
theorem next_linear {p p' : Program τ κ ρ} {s t : Ledger κ ρ} {reply : Reply ρ}
    (hp : p.Linear s.owned) (hstep : next (p, s) reply = some (p', t)) :
    p'.Linear t.owned ∧ t.violated = s.violated ∧ t.total = s.total := by
  cases p with
  | done | leave => cases hstep
  | test t yes no =>
      cases reply with
      | yes => cases hstep; exact ⟨hp.1, rfl, rfl⟩
      | no => cases hstep; exact ⟨hp.2, rfl, rfl⟩
      | request r => cases hstep
  | complete r rest =>
      cases reply with
      | yes => cases hstep; exact ⟨hp.2, Ledger.use_owned hp.1, Ledger.total_complete hp.1⟩
      | no | request => cases hstep
  | forward r q accepted refused =>
      cases reply with
      | yes => cases hstep; exact ⟨hp.2.1, Ledger.use_owned hp.1, Ledger.total_forward hp.1⟩
      | no => cases hstep; exact ⟨hp.2.2, Ledger.use_owned hp.1, rfl⟩
      | request => cases hstep
  | drain q turn rest =>
      cases reply with
      | yes => cases hstep
      | no => cases hstep; exact ⟨hp.2, rfl, rfl⟩
      | request r =>
          rw [next_drain] at hstep
          split at hstep
          · next hr =>
              cases hstep
              -- the turn gets the taken request, the loop and what follows it keep the rest
              exact ⟨(hp.1 r).bind hp hp.2, rfl, Ledger.total_take hr⟩
          · cases hstep
  | purge q rest =>
      cases reply with
      | yes => cases hstep; exact ⟨hp, rfl, Ledger.total_purge⟩
      | no | request => cases hstep

/-- A linear program that starts out with exactly the requests it owns never violates custody, and
every request there was is still somewhere, once. -/
theorem Program.Linear.run {p p' : Program τ κ ρ} {s t : Ledger κ ρ} {replies : List (Reply ρ)}
    (hp : p.Linear s.owned) (hrun : run next (p, s) replies = some (p', t)) :
    p'.Linear t.owned ∧ t.violated = s.violated ∧ t.total = s.total := by
  refine run_invariant (I := fun c ↦ c.1.Linear c.2.owned ∧ c.2.violated = s.violated ∧
    c.2.total = s.total) ?_ ⟨hp, rfl, rfl⟩ hrun
  intro c reply c' hinv hstep
  obtain ⟨hlinear, hviolated, htotal⟩ := next_linear hinv.1 hstep
  exact ⟨hlinear, hviolated.trans hinv.2.1, htotal.trans hinv.2.2⟩

/-! ## Runs of a program, rule by rule -/

/-- From `s` the program `p` can come to `t` with `e` left to do. -/
def Runs (p : Program τ κ ρ) (s : Ledger κ ρ) (e : Program τ κ ρ) (t : Ledger κ ρ) : Prop :=
  ∃ replies, run next (p, s) replies = some (e, t)

/-- A step of a program is a step of that program with a continuation. -/
theorem next_bind {p p' cont exit : Program τ κ ρ} {s t : Ledger κ ρ} {reply : Reply ρ}
    (hstep : next (p, s) reply = some (p', t)) :
    next (p.bind cont exit, s) reply = some (p'.bind cont exit, t) := by
  cases p with
  | done | leave => cases hstep
  | test | complete | forward | purge =>
      cases reply <;> cases hstep <;> rfl
  | drain q turn rest =>
      cases reply with
      | yes => cases hstep
      | no => cases hstep; rfl
      | request r =>
          rw [next_drain] at hstep
          split at hstep
          · next hr =>
              cases hstep
              rw [Program.bind, next_drain, if_pos hr, Program.bind_assoc, Program.bind]
          · cases hstep

namespace Runs

variable {p p' e rest yes no accepted refused : Program τ κ ρ} {turn : ρ → Program τ κ ρ}
  {s t u : Ledger κ ρ} {held : Multiset ρ} {Q : Multiset (κ × ρ)} {C : Multiset ρ} {v : Bool}
  {r : ρ} {q : κ} {x : τ} {a : Reply ρ}

theorem refl : Runs p s p s := ⟨[], rfl⟩

theorem step (hstep : next (p, s) a = some (p', u)) (hrest : Runs p' u e t) :
    Runs p s e t := by
  obtain ⟨replies, hrun⟩ := hrest
  exact ⟨a :: replies, run_cons_eq_some.mpr ⟨_, hstep, hrun⟩⟩

/-- A call, then what follows it. -/
theorem bind {cont exit : Program τ κ ρ} (hp : Runs p s p' u)
    (hrest : Runs (p'.bind cont exit) u e t) : Runs (p.bind cont exit) s e t := by
  obtain ⟨replies, hrun⟩ := hp
  induction replies generalizing p s with
  | nil =>
      cases hrun
      exact hrest
  | cons reply replies ih =>
      obtain ⟨⟨p₁, s₁⟩, hstep, hrun⟩ := run_cons_eq_some.mp hrun
      exact step (next_bind hstep) (ih hrun)

theorem seq (hp : Runs p s .done u) (hrest : Runs rest u e t) : Runs (p.seq rest) s e t :=
  bind hp hrest

theorem test_yes (h : Runs yes s e t) : Runs (.test x yes no) s e t := step (a := .yes) rfl h

theorem test_no (h : Runs no s e t) : Runs (.test x yes no) s e t := step (a := .no) rfl h

theorem complete (h : Runs rest ⟨held, Q, r ::ₘ C, v⟩ e t) :
    Runs (.complete r rest) ⟨r ::ₘ held, Q, C, v⟩ e t := by
  have hcomplete : Ledger.complete (⟨r ::ₘ held, Q, C, v⟩ : Ledger κ ρ) r =
      ⟨held, Q, r ::ₘ C, v⟩ := by
    simp [Ledger.complete, Ledger.use]
  exact step (a := .yes) (congrArg (fun s ↦ some (rest, s)) hcomplete) h

theorem forward_accepted (h : Runs accepted ⟨held, (q, r) ::ₘ Q, C, v⟩ e t) :
    Runs (.forward r q accepted refused) ⟨r ::ₘ held, Q, C, v⟩ e t := by
  have hforward : Ledger.forward (⟨r ::ₘ held, Q, C, v⟩ : Ledger κ ρ) r q =
      ⟨held, (q, r) ::ₘ Q, C, v⟩ := by
    simp [Ledger.forward, Ledger.use]
  exact step (a := .yes) (congrArg (fun s ↦ some (accepted, s)) hforward) h

theorem forward_refused (h : Runs refused ⟨r ::ₘ held, Q, C, v⟩ e t) :
    Runs (.forward r q accepted refused) ⟨r ::ₘ held, Q, C, v⟩ e t := by
  have hused : Ledger.use (⟨r ::ₘ held, Q, C, v⟩ : Ledger κ ρ) r = ⟨r ::ₘ held, Q, C, v⟩ := by
    simp [Ledger.use]
  exact step (a := .no) (congrArg (fun s ↦ some (refused, s)) hused) h

/-- A loop that ends. -/
theorem drain_end (h : Runs rest s e t) : Runs (.drain q turn rest) s e t :=
  step (a := .no) rfl h

/-- A loop takes a request from its queue and begins a turn. -/
theorem drain_next (turn : ρ → Program τ κ ρ) (rest : Program τ κ ρ) :
    next (.drain q turn rest, ⟨held, (q, r) ::ₘ Q, C, v⟩) (.request r) =
      some ((turn r).bind (.drain q turn rest) rest, ⟨r ::ₘ held, Q, C, v⟩) := by
  rw [next_drain, if_pos (Multiset.mem_cons_self ..)]
  simp [Ledger.take]

/-- A turn of a loop that goes on. -/
theorem drain_turn (hturn : Runs (turn r) ⟨r ::ₘ held, Q, C, v⟩ .done u)
    (hrest : Runs (.drain q turn rest) u e t) :
    Runs (.drain q turn rest) ⟨held, (q, r) ::ₘ Q, C, v⟩ e t :=
  step (drain_next turn rest) (bind hturn hrest)

/-- A turn that leaves the loop. -/
theorem drain_leave (hturn : Runs (turn r) ⟨r ::ₘ held, Q, C, v⟩ .leave u)
    (hrest : Runs rest u e t) : Runs (.drain q turn rest) ⟨held, (q, r) ::ₘ Q, C, v⟩ e t :=
  step (drain_next turn rest) (bind hturn hrest)

/-- A purge of a queue that holds `ids`; the entries `Q` are of other queues. -/
theorem purge {ids : Multiset ρ} (hQ : ∀ x ∈ Q, x.1 ≠ q)
    (h : Runs rest ⟨held, Q, ids + C, v⟩ e t) :
    Runs (.purge q rest) ⟨held, ids.map (q, ·) + Q, C, v⟩ e t := by
  have hothers : Q.filter (·.1 ≠ q) = Q := Multiset.filter_eq_self.mpr hQ
  have hnone : Q.filter (·.1 = q) = 0 := Multiset.filter_eq_nil.mpr hQ
  have hpurge : Ledger.purge (⟨held, ids.map (q, ·) + Q, C, v⟩ : Ledger κ ρ) q =
      ⟨held, Q, ids + C, v⟩ := by
    simp [Ledger.purge, Multiset.filter_add, hothers, hnone, Multiset.filter_map]
  exact step (a := .yes) (congrArg (fun s ↦ some (rest, s)) hpurge) h

end Runs

/-! ## Programs that run at once -/

/-- The programs that are running, each with the requests it owns, and the queues they share. -/
structure System (τ κ ρ : Type*) where
  running : List (Program τ κ ρ × Multiset ρ)
  queued : Multiset (κ × ρ)
  completed : Multiset ρ
  violated : Bool

/-- What can happen in a system: a program is handed requests and starts, a program makes its next
call or test, or a request is cancelled while it is in a queue. -/
inductive Event (τ κ ρ : Type*) where
  | start (p : Program τ κ ρ) (received : Multiset ρ)
  | work (i : ℕ) (reply : Reply ρ)
  | cancel (q : κ) (r : ρ)

/-- The requests that arrive with an event. -/
def Event.received : Event τ κ ρ → Multiset ρ
  | start _ received => received
  | _ => 0

/-- A program that is started disposes of what it is handed. -/
def Event.Disciplined : Event τ κ ρ → Prop
  | start p received => p.Linear received
  | _ => True

namespace System

/-- The ledger as a program that owns `owned` sees it. -/
def ledger (s : System τ κ ρ) (owned : Multiset ρ) : Ledger κ ρ where
  owned := owned
  queued := s.queued
  completed := s.completed
  violated := s.violated

/-- All requests that arrived, wherever they are. -/
def total (s : System τ κ ρ) : Multiset ρ :=
  (s.running.map Prod.snd).sum + s.queued.map Prod.snd + s.completed

/-- Nothing has arrived. -/
def initial : System τ κ ρ := ⟨[], 0, 0, false⟩

/-- One event. The requests handed to a program are new. -/
def next (s : System τ κ ρ) : Event τ κ ρ → Option (System τ κ ρ)
  | .start p received =>
      if (received + s.total).Nodup then some { s with running := (p, received) :: s.running }
      else none
  | .work i reply =>
      match s.running[i]? with
      | none => none
      | some (p, owned) =>
          (Custody.next (p, s.ledger owned) reply).map fun c ↦
            { running := s.running.set i (c.1, c.2.owned)
              queued := c.2.queued
              completed := c.2.completed
              violated := c.2.violated }
  | .cancel q r =>
      if (q, r) ∈ s.queued then
        some { s with queued := s.queued.erase (q, r), completed := r ::ₘ s.completed }
      else none

/-- Every running program disposes of what it owns, nothing was violated, and every request is in
one place. -/
structure Sound (s : System τ κ ρ) : Prop where
  linear : ∀ c ∈ s.running, c.1.Linear c.2
  kept : s.violated = false
  nodup : s.total.Nodup

omit [DecidableEq ρ] in
/-- Exchanging an entry of a list exchanges its share of the sum. -/
theorem sum_set {α : Type*} {f : α → Multiset ρ} {l : List α} {i : ℕ} {a : α} (b : α)
    (h : l[i]? = some a) : ((l.set i b).map f).sum + f a = (l.map f).sum + f b := by
  induction l generalizing i with
  | nil => simp at h
  | cons x xs ih =>
      cases i with
      | zero =>
          obtain rfl : x = a := by simpa using h
          simp only [List.set_cons_zero, List.map_cons, List.sum_cons]
          ac_rfl
      | succ i =>
          have hrest := ih (i := i) (by simpa using h)
          simp only [List.set_cons_succ, List.map_cons, List.sum_cons, add_assoc, hrest]

/-- One event of a system keeps it sound; what arrives is added to what is there. -/
theorem next_sound {s t : System τ κ ρ} {e : Event τ κ ρ} (hs : s.Sound) (he : e.Disciplined)
    (hstep : s.next e = some t) : t.Sound ∧ t.total = e.received + s.total := by
  cases e with
  | start p received =>
      by_cases hnew : (received + s.total).Nodup
      · obtain rfl : _ = t := by simpa [next, hnew] using hstep
        have htotal : total { s with running := (p, received) :: s.running } =
            received + s.total := by
          simp only [total, List.map_cons, List.sum_cons, add_assoc]
        exact ⟨⟨List.forall_mem_cons.mpr ⟨he, hs.linear⟩, hs.kept, htotal ▸ hnew⟩, htotal⟩
      · simp [next, hnew] at hstep
  | work i reply =>
      cases hi : s.running[i]? with
      | none => simp [next, hi] at hstep
      | some c =>
          obtain ⟨p, owned⟩ := c
          simp only [next, hi, Option.map_eq_some_iff] at hstep
          obtain ⟨⟨p', u⟩, hu, rfl⟩ := hstep
          have howned := hs.linear _ (List.mem_of_getElem? hi)
          obtain ⟨hlinear, hviolated, htotal⟩ := next_linear (s := s.ledger owned) howned hu
          have hsum := sum_set (f := Prod.snd) (p', u.owned) hi
          have hall : total ⟨s.running.set i (p', u.owned), u.queued, u.completed, u.violated⟩ =
              s.total := by
            -- both sides with what the program owned before the step
            refine add_right_cancel (b := owned) ?_
            have hplaces : u.owned + u.queued.map Prod.snd + u.completed =
                owned + s.queued.map Prod.snd + s.completed := htotal
            calc ((s.running.set i (p', u.owned)).map Prod.snd).sum + u.queued.map Prod.snd +
                  u.completed + owned
                = ((s.running.set i (p', u.owned)).map Prod.snd).sum + owned +
                    (u.queued.map Prod.snd + u.completed) := by ac_rfl
              _ = (s.running.map Prod.snd).sum +
                    (u.owned + u.queued.map Prod.snd + u.completed) := by
                  rw [hsum]
                  ac_rfl
              _ = s.total + owned := by
                  rw [hplaces, total]
                  ac_rfl
          refine ⟨⟨?_, hviolated.trans hs.kept, hall ▸ hs.nodup⟩, by simpa [Event.received]⟩
          intro c hc
          cases List.mem_or_eq_of_mem_set hc with
          | inl hold => exact hs.linear c hold
          | inr hset => exact hset ▸ hlinear
  | cancel q r =>
      by_cases hr : (q, r) ∈ s.queued
      · obtain rfl : _ = t := by simpa [next, hr] using hstep
        have htotal : total { s with queued := s.queued.erase (q, r),
                                     completed := r ::ₘ s.completed } = s.total := by
          unfold total
          conv_rhs => rw [← Multiset.cons_erase hr]
          simp only [Multiset.map_cons, Multiset.add_cons, Multiset.cons_add]
        exact ⟨⟨hs.linear, hs.kept, htotal ▸ hs.nodup⟩, by simpa [Event.received]⟩
      · simp [next, hr] at hstep

/-- In every interleaving of linear programs, from a sound system, the system stays sound and holds
the requests it held and those that arrived. -/
theorem run_sound {s t : System τ κ ρ} {es : List (Event τ κ ρ)} (hs : s.Sound)
    (hes : ∀ e ∈ es, e.Disciplined) (hrun : run next s es = some t) :
    t.Sound ∧ t.total = (es.map Event.received).sum + s.total := by
  induction es generalizing s with
  | nil =>
      cases hrun
      exact ⟨hs, by simp⟩
  | cons e es ih =>
      obtain ⟨u, hu, hrest⟩ := run_cons_eq_some.mp hrun
      obtain ⟨hsound, htotal⟩ := next_sound hs (hes e (List.mem_cons_self ..)) hu
      obtain ⟨hfinal, hall⟩ := ih hsound (fun f hf ↦ hes f (List.mem_cons_of_mem _ hf)) hrest
      refine ⟨hfinal, hall.trans ?_⟩
      rw [htotal, List.map_cons, List.sum_cons]
      ac_rfl

omit [DecidableEq κ] in
/-- Before anything arrives a system is sound. -/
theorem initial_sound : (initial : System τ κ ρ).Sound where
  linear := by simp [initial]
  kept := rfl
  nodup := by simp [initial, total]

end System

end Custody
