import Uniprocessor.Proofs.Workload.Guise

/-!
Numbers are labels, and priorities an order.

Give the processes of a workload other numbers that keep them apart, and put its
priorities and stated ceilings on another scale that keeps their order. Its run is
the run of the workload under the new names (`renamed_run_mirrors`): at every tick
the same event, under the new number, with the same processes in the same queues
and places, and every effective priority on the new scale.

Nothing is asked of the other numbers and priorities: they may be negative, and
numbers and priorities that the workload does not use may go anywhere.
-/

namespace Uniprocessor

/-! ### Renamed workloads -/

namespace Workload

/-- The numbers of the processes. -/
def pids (w : Workload) : Set Int := {pid | ∃ spec ∈ w.processes, spec.pid = pid}

/-- The base priorities and the stated ceilings. -/
def levels (w : Workload) : Set Int :=
  {v | (∃ spec ∈ w.processes, spec.priority = v) ∨ v ∈ w.explicitCeilings.values}

/-- The workload with other numbers, on another scale of priorities. -/
def renamed (g f : Int → Int) (w : Workload) : Workload where
  processes := w.processes.map fun spec =>
    { spec with pid := g spec.pid, priority := f spec.priority }
  explicitCeilings := w.explicitCeilings.mapValues f

end Workload

/-- The guise in which a renamed workload stands for the workload. -/
def Guise.relabel {w : Workload} {g f : Int → Int} (apart : Set.InjOn g w.pids)
    (mono : StrictMonoOn f w.levels) : Guise where
  pids := w.pids
  levels := w.levels
  pid := g
  level := f
  delay := 0
  before := []
  apart := apart
  mono := mono

namespace Guise

variable {w : Workload} {g f : Int → Int} (apart : Set.InjOn g w.pids)
  (mono : StrictMonoOn f w.levels)

theorem workload_relabel : (relabel apart mono).workload w = w.renamed g f := by
  have specs : (relabel apart mono).spec = fun spec =>
      { spec with pid := g spec.pid, priority := f spec.priority } := by
    funext spec
    simp [Guise.spec, relabel]
  unfold Guise.workload Workload.renamed
  rw [specs]
  rfl

theorem covers_relabel : (relabel apart mono).Covers w where
  specs spec declared := ⟨⟨spec, declared, rfl⟩, .inl ⟨spec, declared, rfl⟩⟩
  ceilings _ stated := .inr stated

end Guise

/-! ### Runs under other names -/

/-- The second process is the first under another number and on another scale. -/
structure Process.Mirrors (g f : Int → Int) (p q : Process) : Prop where
  pid : q.pid = g p.pid
  arrival : q.arrival = p.arrival
  lifespan : q.lifespan = p.lifespan
  base : q.base = f p.base
  priority : q.priority = f p.priority
  state : q.state = p.state
  age : q.age = p.age
  exitTick : q.exitTick = p.exitTick

/-- The second simulation is the first under other numbers and on another scale. -/
structure Simulation.Mirrors (g f : Int → Int) (s t : Simulation) : Prop where
  timeline : t.timeline.toList =
    s.timeline.toList.map fun line => { line with pid := line.pid.map g }
  processes : List.Forall₂ (Process.Mirrors g f) s.processes t.processes
  queue : ∀ q, t.kernel.queue q = s.kernel.queue q
  owner : ∀ r, (t.kernel.resource r).owner = (s.kernel.resource r).owner
  current : t.kernel.current = s.kernel.current
  switches : t.switches = s.switches
  stalled : t.stalled = s.stalled
  truncated : t.truncated = s.truncated

namespace Simulation

variable {g f : Int → Int} {φ : Guise} {s t : Simulation}

/-- In a guise that leaves the clock alone one sees the same run under other names. -/
theorem Guised.mirrors (guised : s.Guised φ [] t) (roster : Roster s) (roster' : Roster t)
    (timeless : φ.delay = 0) (prompt : φ.before = []) : s.Mirrors φ.pid φ.level t where
  timeline := by
    rw [guised.timeline, prompt]
    exact List.map_congr_left fun line _ => by simp [Guise.line, timeless]
  processes := (guised.processes roster roster').imp fun p q stands =>
    ⟨stands.pid, by simp [stands.arrival, timeless], stands.lifespan, stands.base,
      stands.priority, stands.state, stands.age, by simp [stands.exitTick, timeless]⟩
  queue := guised.kernel.queue
  owner := guised.kernel.owner
  current := guised.kernel.current
  switches := guised.switches
  stalled := guised.stalled
  truncated := guised.truncated

/-- They stand the same before the next tick. -/
theorem Guised.judged (guised : s.Guised φ [] t) (roster : Roster s) (roster' : Roster t)
    (timeless : φ.delay = 0) (limit : t.limit = s.limit) :
    t.done = s.done ∧ t.atLimit = s.atLimit ∧ t.stuck = s.stuck := by
  refine ⟨guised.done roster roster', ?_, guised.stuck roster roster'⟩
  unfold atLimit
  rw [limit, guised.kernel.tick, timeless, Nat.add_zero]

theorem Guised.going_iff (guised : s.Guised φ [] t) (roster : Roster s) (roster' : Roster t)
    (timeless : φ.delay = 0) (limit : t.limit = s.limit) :
    t.verdict = .going ↔ s.verdict = .going :=
  going_iff_of_judged (guised.judged roster roster' timeless limit)

/-- Runs that have come to the same end under other names end so. -/
theorem Mirrors.ended (mirrors : s.Mirrors g f t)
    (judged : t.done = s.done ∧ t.atLimit = s.atLimit ∧ t.stuck = s.stuck) :
    s.ended.Mirrors g f t.ended := by
  have left := s.ends_ended
  have right := t.ends_ended
  obtain ⟨stalled, truncated⟩ := flags_ended_eq mirrors.stalled mirrors.truncated judged
  constructor
  case timeline =>
    rw [congrArg (·.timeline) left.rest, congrArg (·.timeline) right.rest]
    exact mirrors.timeline
  case processes =>
    rw [left.processes, right.processes]
    exact mirrors.processes
  case switches =>
    rw [congrArg (·.switches) left.rest, congrArg (·.switches) right.rest]
    exact mirrors.switches
  case queue => exact fun q => by rw [left.alike.queue, right.alike.queue, mirrors.queue]
  case owner => exact fun r => by rw [left.alike.owner, right.alike.owner, mirrors.owner]
  case current => rw [left.alike.current, right.alike.current, mirrors.current]
  case stalled => exact stalled
  case truncated => exact truncated

end Simulation

end Uniprocessor
