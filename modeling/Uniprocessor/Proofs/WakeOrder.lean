import Uniprocessor.Proofs.Simulation.Course
import Uniprocessor.Proofs.Simulation.Traffic

/-!
Waiters are woken in the order in which they went to sleep.

At every boundary, and at the end of a run, those who were refused a resource so far
are those who were woken from it so far, in the same order, and then those who wait
for it, from the head of the queue (`woken_in_turn`). Every discipline and every
protocol keeps to this: each tick passes the waiters on in their order
(`SimulationM.Staged.passes`), whoever they are and however urgent. What counts as
a refusal can be read off the timeline, since a tick is blocked just when its
process was refused.
-/

namespace Uniprocessor

open Kernel (Silent)

/-- The pids refused by each resource so far are those woken from it so far, each once
and in this order, and then those who wait for it now. -/
structure Simulation.WakesInTurn (t : Simulation) : Prop where
  turn : ∀ r, numbersOf r t.kernel.refusals =
    numbersOf r t.kernel.wakings ++ t.kernel.waiters r
  /-- There is one refusal for each blocked line. -/
  blocked : t.kernel.refusals.map (·.2) =
    (t.timeline.toList.filter (·.event == .blocked)).filterMap (·.pid)

/-! ### The start of a run -/

namespace Simulation

variable {w : Workload} {policy : Policy} {resources : Int} {limit : Option Int}
  {s t u g e : Simulation} {chosen : Option Handle} {event : TickEvent}

/-- Nobody has been refused or woken when a simulation is made. -/
theorem silent_create (created : create w policy resources limit = .ok s) :
    s.kernel.refusals = [] ∧ s.kernel.wakings = [] := by
  obtain ⟨size, silent⟩ := along_create (fun k r ceiling => Silent.of_log rfl) created
  exact ⟨silent.refusals, silent.wakings⟩

theorem silent_startOnce {d : Discipline} {protocol : Protocol} (policy : s.policy = .of d protocol)
    (ran : EStateM.run SimulationM.startOnce s = .ok () t) : s.kernel.Silent t.kernel :=
  (SimulationM.along_startOnce (fun _ _ => .of_log rfl) (fun _ _ => .record ⟨rfl, rfl⟩) policy
    _ _ ran).kernel

/-! ### Ticks -/

namespace WakesInTurn

/-- Nobody waits at the start. -/
theorem of_nobody (refusals : t.kernel.refusals = []) (wakings : t.kernel.wakings = [])
    (fresh : t.kernel.Fresh) (lines : t.timeline.toList = []) : t.WakesInTurn := by
  constructor
  · intro r
    simp [refusals, wakings, Kernel.waiters, fresh.queue]
  · simp [refusals, lines]

/-- Every tick passes the waiters on. -/
theorem tick (serves : t.WakesInTurn) (sound : Sound ⟨.arriving, t⟩)
    (staged : SimulationM.Staged t g e chosen event) :
    (e.close (e.line chosen event)).WakesInTurn := by
  obtain ⟨refused, passes, pids⟩ := staged.passes sound
  constructor
  · intro r
    obtain ⟨woken, wakings, order⟩ := passes.turn r
    calc
      numbersOf r e.kernel.refusals
        = numbersOf r t.kernel.refusals ++ numbersOf r refused := by
          rw [passes.refusals, numbersOf_append]
      _ = numbersOf r t.kernel.wakings ++ (t.kernel.waiters r ++ numbersOf r refused) := by
          rw [serves.turn, List.append_assoc]
      _ = numbersOf r e.kernel.wakings ++ e.kernel.waiters r := by
          rw [order, wakings, List.append_assoc]
  · have lines : e.timeline = t.timeline := congrArg (·.timeline) staged.reaches.unchanged
    have noted : (e.close (e.line chosen event)).timeline.toList =
        t.timeline.toList ++ [e.line chosen event] := by
      simp [close, lines]
    have last : ([e.line chosen event].filter (·.event == .blocked)).filterMap (·.pid) =
        if event = .blocked then (e.line chosen event).pid.toList else [] := by
      by_cases blocked : event = .blocked <;> cases chosen <;> simp [line, blocked]
    rw [noted, List.filter_append, List.filterMap_append, last, ← pids, ← serves.blocked,
      ← List.map_append, ← passes.refusals]
    rfl

/-- The end of a run refuses and wakes nobody. -/
theorem ended (serves : t.WakesInTurn) : t.ended.WakesInTurn := by
  have calm := t.aside_ended.calm
  have lines : t.ended.timeline = t.timeline := congrArg (·.timeline) t.ends_ended.rest
  constructor
  · intro r
    rw [calm.refusals, calm.wakings, calm.waiters]
    exact serves.turn r
  · rw [calm.refusals, lines]
    exact serves.blocked

end WakesInTurn

/-- At every boundary the waiters have been woken in turn. -/
theorem MadeOf.wakesInTurn (made : s.MadeOf w) (refusals : s.kernel.refusals = [])
    (wakings : s.kernel.wakings = []) (reached : s.Boundary t) : t.WakesInTurn := by
  have early : s.started = false := by rw [made.is]
  have lines : s.timeline.toList = [] := by rw [made.is]; rfl
  induction reached with
  | made => exact .of_nobody refusals wakings made.fresh.kernel lines
  | begun ran =>
      obtain ⟨fresh, is⟩ := made.begun ran
      obtain ⟨d, protocol, policy⟩ := made.fresh.policy
      have silent := silent_startOnce policy ran
      refine .of_nobody (silent.refusals.trans refusals) (silent.wakings.trans wakings)
        fresh.kernel ?_
      rw [is]
      exact lines
  | @ticked t u line before started ran ih =>
      have sound := before.sound made.fresh early
      obtain ⟨g, e, chosen, event, staged⟩ := SimulationM.run_staged sound
      have same := staged.ended.symm.trans ran
      cases same
      exact ih.tick sound staged

end Simulation

/-- In every run of a parsed workload, under every discipline and every protocol, the
processes refused a resource so far are at every boundary those that have been woken from
it, in the order of their refusals and once for each, followed by those in its wait
queue, from head to tail. So it is when the run has ended. -/
theorem woken_in_turn {text : Text} {w : Workload} {resources : Int}
    (parsed : Workload.ofText text = .ok w) (positive : 0 < resources)
    (fits : ∀ r ∈ w.resourceIds, r < resources) (d : Discipline) (protocol : Protocol)
    (limit : Option Int) :
    ∃ s, Simulation.create w (.of d protocol) resources limit = .ok s ∧
      (∀ t, s.Boundary t → t.WakesInTurn) ∧
      (∀ n, ∃ t, EStateM.run (SimulationM.steps n) s = .ok () t ∧ s.Boundary t) ∧
      ∃ report t, s.run = .ok report t ∧ t.WakesInTurn := by
  obtain ⟨k, s, created, fresh, is⟩ := Simulation.create_of_valid (Workload.valid_ofText parsed)
    positive fits d protocol limit
  have early : s.started = false := by rw [is]
  have made : s.MadeOf w := ⟨fresh, by rw [is]⟩
  obtain ⟨refusals, wakings⟩ := Simulation.silent_create created
  have always : ∀ t, s.Boundary t → t.WakesInTurn := fun t => made.wakesInTurn refusals wakings
  refine ⟨s, created, always, SimulationM.run_steps fresh early, ?_⟩
  obtain ⟨s₀, n, t, course⟩ := made.course
  have reached := course.goes.boundary course.sound course.started (.begun course.begun)
  exact ⟨_, _, course.run, (always t reached).ended⟩

theorem woken_in_turn_contended :
    ∃ s, Simulation.create .contended (.of .priorityInheritance .inheritance) 1 none = .ok s ∧
      (∀ t, s.Boundary t → t.WakesInTurn) ∧
      (∀ n, ∃ t, EStateM.run (SimulationM.steps n) s = .ok () t ∧ s.Boundary t) ∧
      ∃ report t, s.run = .ok report t ∧ t.WakesInTurn :=
  woken_in_turn Workload.ofText_contention (by decide)
    (by simp [Workload.resourceIds_contended]) .priorityInheritance .inheritance none

end Uniprocessor
