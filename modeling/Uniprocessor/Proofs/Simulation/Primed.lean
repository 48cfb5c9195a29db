import Uniprocessor.Proofs.Simulation.Parts

/-!
A simulation that has been started never asks for the set-up again.

A program carries a change of its state if it makes no difference to it: it answers or faults
in the same way, and the change may be made before or after it (`EStateM.Carries`). Ticks
carry the exchange of the set-up of the policy (`SimulationM.carries_tick`), and once the
simulation counts as started, so do whole runs (`SimulationM.carries_run`), whatever the
policy does in them.
-/

namespace EStateM

variable {ε σ α β : Type} {f : σ → σ} {s : σ}

/-- The same outcome, with the change made to the state that is left. -/
def Result.mapState (f : σ → σ) : Result ε σ α → Result ε σ α
  | .ok a s => .ok a (f s)
  | .error e s => .error e (f s)

theorem Result.of_mapState_eq_ok {r : Result ε σ α} {a : α} {t : σ}
    (same : r.mapState f = .ok a t) : ∃ u, r = .ok a u := by
  cases r with
  | ok b u =>
      cases same
      exact ⟨u, rfl⟩
  | error e u => cases same

/-- The second program does from the changed state what the first one does, and leaves its
state changed. -/
def Carries (f : σ → σ) (x y : EStateM ε σ α) (s : σ) : Prop :=
  y.run (f s) = (x.run s).mapState f

namespace Carries

theorem pure (a : α) : Carries f (Pure.pure a : EStateM ε σ α) (Pure.pure a) s := rfl

theorem throw (e : ε) : Carries f (throw e : EStateM ε σ α) (throw e) s := rfl

theorem modify {g h : σ → σ} (commutes : h (f s) = f (g s)) :
    Carries f (modify g : EStateM ε σ Unit) (modify h) s :=
  congrArg (Result.ok ()) commutes

theorem bind {x y : EStateM ε σ α} {k l : α → EStateM ε σ β} (first : Carries f x y s)
    (rest : ∀ a t, Carries f (k a) (l a) t) : Carries f (x >>= k) (y >>= l) s := by
  unfold Carries at first
  rw [Carries, run_bind, run_bind, first]
  cases x.run s with
  | ok a t => exact rest a t
  | error e t => rfl

/-- What is read may differ. -/
theorem read {x y : EStateM ε σ α} {k l : α → EStateM ε σ β} {a b : α} (left : x.run s = .ok a s)
    (right : y.run (f s) = .ok b (f s)) (rest : Carries f (k a) (l b) s) :
    Carries f (x >>= k) (y >>= l) s := by
  rw [Carries, run_bind, run_bind, left, right]
  exact rest

theorem get {k l : σ → EStateM ε σ β} (rest : Carries f (k s) (l (f s)) s) :
    Carries f (MonadState.get >>= k) (MonadState.get >>= l) s :=
  read rfl rfl rest

end Carries

theorem run_tryFinally (x : EStateM ε σ α) (y : EStateM ε σ β) (s : σ) :
    (tryFinally x y).run s =
      match x.run s with
      | .ok a t =>
          match y.run t with
          | .ok _ u => .ok a u
          | .error e u => .error e u
      | .error e t =>
          match y.run t with
          | .ok _ u => .error e u
          | .error e' u => .error e' u := by
  rw [tryFinally, run_map_match]
  simp only [run, tryFinally']
  cases x s with
  | ok a t | error e t =>
      dsimp only
      cases y t <;> rfl

/-- Faults are carried too, through the clean-up. -/
theorem Carries.tryFinally {x y : EStateM ε σ α} {z w : EStateM ε σ β} (attempt : Carries f x y s)
    (cleanUp : ∀ t, Carries f z w t) : Carries f (tryFinally x z) (tryFinally y w) s := by
  unfold Carries at attempt cleanUp
  rw [Carries, run_tryFinally, run_tryFinally, attempt]
  cases x.run s with
  | ok a t | error e t =>
      simp only [Result.mapState, cleanUp]
      cases z.run t <;> rfl

end EStateM

namespace Uniprocessor

open EStateM (Carries)

/-- The simulation, started with another set-up of its policy, which goes by another label. -/
def Simulation.primed (label : String) (setUp : KernelM Bool) (s : Simulation) : Simulation :=
  { s with policy := { s.policy with label := label, setUp := setUp }, started := true }

namespace SimulationM

variable {label : String} {setUp : KernelM Bool} {s : Simulation} {h : Handle} {pid r : Int}
  {α : Type}

theorem carries_onKernel (op : KernelM α) :
    Carries (Simulation.primed label setUp) (onKernel op) (onKernel op) s := by
  have kernel : (s.primed label setUp).kernel = s.kernel := rfl
  simp only [Carries, EStateM.run, onKernel, kernel]
  cases op s.kernel <;> rfl

/-- A violation is one whatever was to follow. -/
theorem carries_violate {β : Type} (v : Violation) (k : α → SimulationM β) :
    Carries (Simulation.primed label setUp) (onKernel (KernelM.violate v) >>= k)
      (onKernel (KernelM.violate v) >>= k) s := rfl

/-- The entries are the same, and so is the fault where one is missing. -/
theorem carries_entry {ν : Type} (table : Table Int ν) (key : Int) :
    Carries (Simulation.primed label setUp) (entry table key) (entry table key) s := by
  unfold entry
  split
  · exact .pure _
  · exact .throw _

theorem carries_holdingOf :
    Carries (Simulation.primed label setUp) (holdingOf pid) (holdingOf pid) s :=
  .get (carries_entry _ _)

theorem carries_setHolding (held : Table Int Int) :
    Carries (Simulation.primed label setUp) (setHolding pid held) (setHolding pid held) s :=
  .modify rfl

theorem carries_setGranted (count : Nat) :
    Carries (Simulation.primed label setUp) (setGranted pid count) (setGranted pid count) s :=
  .modify rfl

/-! ### The parts of a tick -/

theorem carries_arrive (spec : ProcessSpec) :
    Carries (Simulation.primed label setUp) (arrive spec) (arrive spec) s := by
  unfold arrive
  split
  · exact .throw _
  · refine .get (Carries.bind (.modify rfl) fun _ s => (carries_onKernel _).bind fun _ s => ?_)
    refine .get ((carries_onKernel _).bind fun _ s => (carries_onKernel _).bind fun _ s => ?_)
    exact carries_onKernel _

theorem carries_arrivals (l : List ProcessSpec) :
    Carries (Simulation.primed label setUp) (arrivals l) (arrivals l) s := by
  induction l generalizing s with
  | nil => exact .pure _
  | cons spec later ih =>
      refine .get ?_
      show Carries _ _ (ite (spec.arrival ≤ s.kernel.tick) _ _) s
      split
      · exact Carries.bind (.modify rfl) fun _ s => (carries_arrive spec).bind fun _ s => ih
      · exact .pure _

theorem carries_handOver (previous : Option Handle) (pid : Int) :
    Carries (Simulation.primed label setUp) (handOver h previous pid)
      (handOver h previous pid) s := by
  unfold handOver
  split
  · exact .bind (.modify rfl) fun _ _ => (carries_onKernel _).bind fun _ _ => carries_onKernel _
  · exact carries_onKernel _

theorem carries_dispatch (previous : Option Handle) :
    Carries (Simulation.primed label setUp) (dispatch h previous) (dispatch h previous) s := by
  refine (carries_onKernel _).bind fun p s => ?_
  dsimp only
  split
  · exact carries_violate _ _
  · split
    · exact (carries_onKernel _).bind fun _ _ => carries_handOver previous _
    · split
      · exact carries_violate _ _
      · exact carries_handOver previous _

theorem carries_issue (n : Nat) (l : List Request) :
    Carries (Simulation.primed label setUp) (issue h n l) (issue h n l) s := by
  induction l generalizing s n with
  | nil => exact .pure _
  | cons request later ih =>
      refine (carries_onKernel _).bind fun p s => ?_
      split
      · refine .get ((carries_onKernel _).bind fun granted s => ?_)
        split
        · refine carries_holdingOf.bind fun held s => (carries_setHolding _).bind fun _ s => ?_
          exact (carries_setGranted _).bind fun _ s => ih _
        · exact .pure _
      · exact .pure _

theorem carries_issueRequests :
    Carries (Simulation.primed label setUp) (issueRequests h) (issueRequests h) s :=
  (carries_onKernel _).bind fun _ _ =>
    .get ((carries_entry _ _).bind fun granted _ => carries_issue granted _)

theorem carries_release :
    Carries (Simulation.primed label setUp) (release pid r) (release pid r) s :=
  carries_holdingOf.bind fun _ _ => (carries_entry _ _).bind fun _ _ =>
    (carries_setHolding _).bind fun _ _ => .get (carries_onKernel _)

theorem carries_expire (todo : List Int) :
    Carries (Simulation.primed label setUp) (expire pid todo) (expire pid todo) s := by
  induction todo generalizing s with
  | nil => exact .pure _
  | cons r todo ih =>
      refine carries_holdingOf.bind fun held s => (carries_entry _ _).bind fun count s => ?_
      refine (carries_setHolding _).bind fun _ s => ?_
      split
      · exact carries_release.bind fun _ _ => ih
      · exact ih

theorem carries_leave : Carries (Simulation.primed label setUp) (leave h) (leave h) s := by
  refine (carries_onKernel _).bind fun p s => carries_holdingOf.bind fun held s => ?_
  have releases (held : List Int) (s : Simulation) : Carries (Simulation.primed label setUp)
      (held.forM (release p.pid)) (held.forM (release p.pid)) s := by
    induction held generalizing s with
    | nil => exact .pure _
    | cons r held ih => exact carries_release.bind fun _ _ => ih _
  refine (releases _ s).bind fun _ s => (carries_onKernel _).bind fun _ s => .get ?_
  refine (carries_onKernel _).bind fun _ s => .get ?_
  exact (carries_onKernel _).bind fun _ _ => carries_onKernel _

theorem carries_execute : Carries (Simulation.primed label setUp) (execute h) (execute h) s := by
  refine carries_issueRequests.bind fun granted s => ?_
  split
  · refine (carries_onKernel _).bind fun _ s => (carries_onKernel _).bind fun p s => ?_
    refine carries_holdingOf.bind fun held s => ?_
    refine (carries_expire _).bind fun _ s => (carries_onKernel _).bind fun q s => ?_
    split
    · exact carries_leave.bind fun _ _ => .pure _
    · exact .pure _
  · exact .pure _

/-! ### Ticks and runs -/

theorem carries_note (line : TickRecord) :
    Carries (Simulation.primed label setUp) (note line) (note line) s :=
  .bind (.modify rfl) fun _ _ => (carries_onKernel _).bind fun _ _ => .pure line

theorem carries_tick : Carries (Simulation.primed label setUp) tick tick s := by
  refine .get (.get ((carries_arrivals _).bind fun _ s => .get (.get ?_)))
  refine (carries_onKernel _).bind fun chosen s => ?_
  cases chosen with
  | none => exact (carries_onKernel _).bind fun _ _ => carries_note _
  | some h =>
      refine (carries_dispatch _).bind fun _ s => (carries_onKernel _).bind fun p s => ?_
      exact carries_execute.bind fun _ _ => carries_note _

theorem carries_untilVerdict (fuel : Nat) :
    Carries (Simulation.primed label setUp) (untilVerdict fuel) (untilVerdict fuel) s := by
  induction fuel generalizing s with
  | zero => exact .pure _
  | succ fuel ih =>
      have verdict : (s.primed label setUp).verdict = s.verdict := rfl
      refine .get ?_
      rw [verdict]
      split
      · exact .pure _
      · exact Carries.bind (.modify rfl) fun _ _ => carries_onKernel _
      · exact Carries.bind (.modify rfl) fun _ _ => carries_onKernel _
      · exact carries_tick.bind fun _ _ => ih

/-- The set-up is asked for before the first tick only. -/
theorem carries_startOnce (started : s.started = true) :
    Carries (Simulation.primed label setUp) startOnce startOnce s := by
  refine .get ?_
  rw [started]
  exact .pure _

theorem carries_step (started : s.started = true) :
    Carries (Simulation.primed label setUp) step step s :=
  (carries_startOnce started).bind fun _ _ => carries_tick

theorem carries_run (started : s.started = true) :
    Carries (Simulation.primed label setUp) run run s := by
  refine (carries_startOnce started).bind fun _ s => ?_
  refine Carries.bind (.tryFinally (.get (carries_untilVerdict _)) fun _ => ?_) fun _ _ => ?_
  · exact .get (carries_onKernel _)
  · exact .get (.pure _)

end SimulationM

end Uniprocessor
