import Mathlib
import Uniprocessor.Proofs.Inheritance
import Uniprocessor.Proofs.Protocol.Chain
import Uniprocessor.Proofs.Wakeups

/-!
Inversion is bounded by inheritance.

At the start of a tick those due arrive and the policy names somebody
(`Simulation.Picks`). Under the priority inheritance policy the one named is at
least as urgent as every process that waits, as long as everything that is
waited for along its chain is owned and the chain is no circle: somebody at the
end of the chain is ready or running, priorities have been passed on to it, and
nobody less urgent is named before it.

A release hands nothing over, and a free resource passes no priority on. So
where the chain ends at a free resource the one named is only known to be at
least as urgent as somebody who comes for that resource (`inversion_bounded`).
The earliest waiter is woken, whatever its priority, and a process that is less
urgent than those who still sleep may run before it (`inversion_at_free_resource`).
-/

namespace Uniprocessor

/-- Whatever is waited for along the chain of the process is owned. -/
def Kernel.Owned (k : Kernel) (w : Handle) : Prop :=
  ∀ q r, k.Behind w q → q ∈ k.queue (.waiting r) → (k.resource r).owner ≠ none

/-- The process named is at least as urgent as what the waiting process depends
on: as the process itself where everything along its chain is owned, and as
somebody who comes for it where something is free. -/
structure Simulation.Bounds (g : Simulation) (h w : Handle) : Prop where
  owned : ¬ g.kernel.Circles w → g.kernel.Owned w →
    (g.kernel.process h).priority ≤ (g.kernel.process w).priority
  free : ∀ q r, g.kernel.Behind w q → q ∈ g.kernel.queue (.waiting r) →
    (g.kernel.resource r).owner = none →
      ∃ j ∈ g.kernel.queue .ready, (g.kernel.process j).state = .ready ∧ g.Asks j r ∧
        (g.kernel.process h).priority ≤ (g.kernel.process j).priority

variable {s t g : Simulation} {h w : Handle}

/-! ### Who is named -/

/-- Under the priority inheritance policy nobody who can run is more urgent than
the one named. -/
theorem Sound.priority_le_of_able (sound : Sound ⟨.choosing, g⟩)
    (policy : g.policy = .of .priorityInheritance .inheritance) {k : Kernel} {j : Handle}
    (scheduled : g.policy.schedule.run g.kernel = .ok (some h) k)
    (able : j ∈ g.kernel.queue .ready ∨ (g.kernel.process j).state = .running) :
    (g.kernel.process h).priority ≤ (g.kernel.process j).priority := by
  rw [policy] at scheduled
  have named : (Policy.takePreemptively Process.priority).run g.kernel = .ok (some h) k := scheduled
  exact sound.key_le_of_able rfl (fun _ => rfl) named able

/-- Whoever is named bounds what everybody waits for. -/
theorem Sound.bounds (sound : Sound ⟨.choosing, g⟩) (attended : Moment.Attended ⟨.choosing, g⟩)
    (inherits : Moment.Inherits ⟨.choosing, g⟩)
    (policy : g.policy = .of .priorityInheritance .inheritance) {k : Kernel}
    (scheduled : g.policy.schedule.run g.kernel = .ok (some h) k) (used : w ∈ g.kernel.handles)
    (waits : (g.kernel.process w).state = .waiting) : g.Bounds h w := by
  constructor
  · intro straight owned
    obtain ⟨e, _, behind, able⟩ :=
      sound.order.chain_ends_able used (by simp [waits]) straight owned
    calc (g.kernel.process h).priority
        ≤ (g.kernel.process e).priority := sound.priority_le_of_able policy scheduled able
      _ ≤ (g.kernel.process w).priority := inherits.passed.priority_le behind
  · intro q r _ mem free
    obtain ⟨j, ready, state, asks⟩ :=
      attended.between nofun r ⟨free, List.ne_nil_of_mem mem⟩
    exact ⟨j, ready, state, asks, sound.priority_le_of_able policy scheduled (.inl ready)⟩

/-- Under the priority inheritance policy, at every tick, the process that is
named is at least as urgent as every waiting process whose chain of owners is no
circle and holds everything that is waited for along it. Where something along
the chain is free, somebody ready comes for it, and the process named is at
least as urgent as that one. -/
theorem inversion_bounded {text : Text} {w : Workload} {resources : Int}
    (parsed : Workload.ofText text = .ok w) (positive : 0 < resources)
    (fits : ∀ r ∈ w.resourceIds, r < resources) (limit : Option Int) (n : Nat) :
    ∃ s t g chosen,
      Simulation.create w (.of .priorityInheritance .inheritance) resources limit = .ok s ∧
      EStateM.run (SimulationM.steps n) s = .ok () t ∧ t.Picks g chosen ∧
      ∀ h, chosen = some h → ∀ q ∈ g.kernel.handles, (g.kernel.process q).state = .waiting →
        g.Bounds h q := by
  obtain ⟨k, s, created, fresh, is⟩ := Simulation.create_of_valid (Workload.valid_ofText parsed)
    positive fits .priorityInheritance .inheritance limit
  have early : s.started = false := by rw [is]
  have policy : s.policy = .of .priorityInheritance .inheritance := by rw [is]
  have settings : Lasting fun m => m.sim.policy = s.policy :=
    ⟨fun _ same move => (congrArg (·.policy) move.unchanged).trans same, fun _ same => same⟩
  obtain ⟨t, ran, reached⟩ := SimulationM.run_steps fresh early n
  obtain ⟨u, g, chosen, reached', arrivals, picks⟩ := reached.picks fresh early
  refine ⟨s, t, g, chosen, created, ran, picks, ?_⟩
  rintro h rfl q used waits
  obtain ⟨k', scheduled⟩ := picks.scheduled
  have sound := reached'.sound fresh early
  have inherits := (reached'.inherits fresh early (by rw [policy]; rfl)).2
  have attended := (lasting_attended.boundary fresh early (fun _ fresh' _ => fresh'.attended)
    reached').2
  have same := (settings.boundary fresh early (fun _ _ same => same) reached').2
  exact Sound.bounds (sound.reaches arrivals) (lasting_attended.reaches sound attended arrivals)
    (lasting_inherits.reaches sound inherits arrivals)
    ((settings.reaches sound same arrivals).trans policy) scheduled used waits

theorem inversion_bounded_contended :
    ∃ s t g chosen,
      Simulation.create .contended (.of .priorityInheritance .inheritance) 1 none = .ok s ∧
      EStateM.run (SimulationM.steps 2) s = .ok () t ∧ t.Picks g chosen ∧
      ∀ h, chosen = some h → ∀ q ∈ g.kernel.handles, (g.kernel.process q).state = .waiting →
        g.Bounds h q :=
  inversion_bounded Workload.ofText_contention (by decide)
    (by simp [Workload.resourceIds_contended]) none 2

/-! ### A free resource passes nothing on -/

/-- A workload in which the earliest waiter is less urgent than the next one, and
somebody of a priority between theirs arrives. -/
def Workload.overtaking : Text :=
  Text.ofString ("process 1 \x7b\n lifespan 4\n prio 10\n acquire 0 0 3\n\x7d\n" ++
    "process 2 \x7b\n start 1\n lifespan 1\n prio 8\n acquire 0 0 1\n\x7d\n" ++
    "process 3 \x7b\n start 2\n lifespan 1\n prio 1\n acquire 0 0 1\n\x7d\n" ++
    "process 4 \x7b\n start 3\n lifespan 2\n prio 5\n\x7d\n")

def Workload.overtaken : Workload where
  processes := [
    { pid := 1, lifespan := 4, priority := 10, requests := [⟨0, 0, 3⟩] },
    { pid := 2, lifespan := 1, arrival := 1, priority := 8, requests := [⟨0, 0, 1⟩] },
    { pid := 3, lifespan := 1, arrival := 2, priority := 1, requests := [⟨0, 0, 1⟩] },
    { pid := 4, lifespan := 2, arrival := 3, priority := 5 }]

theorem Workload.ofText_overtaking : ofText overtaking = .ok overtaken := by decide +kernel

/-- The process waits for a free resource and is more urgent than the one named. -/
def Simulation.Overtakes (g : Simulation) (h w : Handle) (r : Int) : Prop :=
  (g.kernel.process w).state = .waiting ∧ w ∈ g.kernel.queue (.waiting r) ∧
    (g.kernel.resource r).owner = none ∧
    (g.kernel.process w).priority < (g.kernel.process h).priority

instance (g : Simulation) (h w : Handle) (r : Int) : Decidable (g.Overtakes h w r) :=
  inferInstanceAs (Decidable (_ ∧ _))

/-- Once the first process has given the resource back, the fourth one is named
before the second, which comes for it, while the third still sleeps. -/
theorem overtakes_overtaken :
    ((Simulation.after .overtaken (.of .priorityInheritance .inheritance) 1 5).bind
      Simulation.picked).any (fun x => x.2.any fun h => x.1.Overtakes h 2 0) = true := by
  decide_cbv

/-- A process whose chain of owners is no circle may be overtaken by a less urgent
one under the priority inheritance policy: where it waits for a free resource. -/
theorem inversion_at_free_resource :
    ∃ w s t g h q, Workload.ofText Workload.overtaking = .ok w ∧
      Simulation.create w (.of .priorityInheritance .inheritance) 1 none = .ok s ∧
      EStateM.run (SimulationM.steps 5) s = .ok () t ∧ t.Picks g (some h) ∧
      (g.kernel.process q).state = .waiting ∧ ¬ g.kernel.Circles q ∧
      (g.kernel.process q).priority < (g.kernel.process h).priority := by
  obtain ⟨⟨g, chosen⟩, found, overtakes⟩ := (Option.any_eq_true _ _).mp overtakes_overtaken
  obtain ⟨t, after, picked⟩ := Option.bind_eq_some_iff.mp found
  obtain ⟨h, rfl, overtakes⟩ := (Option.any_eq_true _ _).mp overtakes
  obtain ⟨waits, mem, free, urgent⟩ := of_decide_eq_true overtakes
  obtain ⟨s, created, ran⟩ := Simulation.after_eq_some after
  have fits : ∀ r ∈ Workload.overtaken.resourceIds, r < (1 : Int) := by decide +kernel
  obtain ⟨fresh, early, reached⟩ := Simulation.boundary_of_steps
    (Workload.valid_ofText Workload.ofText_overtaking) Int.one_pos fits created ran
  obtain ⟨u, g', chosen', reached', arrivals, picks⟩ := reached.picks fresh early
  have same := picks.picked_eq.symm.trans picked
  cases same
  have order := ((reached'.sound fresh early).reaches arrivals).order
  exact ⟨_, s, t, g, h, 2, Workload.ofText_overtaking, created, ran, picks, waits,
    order.not_circles_of_free mem free, urgent⟩

end Uniprocessor
