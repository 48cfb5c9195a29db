import Uniprocessor.Proofs.Simulation.Life

/-!
The process table, the queues and the owners agree.

Between two ticks every process of the table is in one of four situations
(`Situation`): ready and linked in the ready queue, waiting and linked in the queue
of one resource, running, or gone. `Kernel.Stands` says what goes with each:
the mark, the one place in a queue, the current process, what is owned and how
much work is done. `Simulation.Agrees` adds that nobody else is in a queue or owns
anything.

The order of the kernel says where a process is (`Kernel.Placed`), the books that
a running process has work left, and its life that one that has left has none.
-/

namespace Uniprocessor

/-- What a process can be at between two ticks. -/
inductive Situation where
  | ready
  | waiting (r : Int)
  | running
  | exited

namespace Kernel

variable {k k' : Kernel} {h : Handle} {q : QueueId} {x y : Situation}

/-- The mark of the process names the queue, where it stands once, and it stands
in no other one. -/
def LinkedIn (k : Kernel) (h : Handle) (q : QueueId) : Prop :=
  (k.process h).queue = some q ∧ (k.queue q).count h = 1 ∧ ∀ p, h ∈ k.queue p → p = q

/-- The process has no mark and stands in no queue. -/
def Unlinked (k : Kernel) (h : Handle) : Prop :=
  (k.process h).queue = none ∧ ∀ q, h ∉ k.queue q

/-- The process is in the situation, with all that goes with it. -/
def Stands (k : Kernel) (h : Handle) : Situation → Prop
  | .ready => (k.process h).state = .ready ∧ k.LinkedIn h .ready
  | .waiting r => (k.process h).state = .waiting ∧ k.LinkedIn h (.waiting r) ∧
      (0 ≤ r ∧ r < k.size) ∧ (k.resource r).owner ≠ some h
  | .running => (k.process h).state = .running ∧ k.Unlinked h ∧ k.current = some h ∧
      (k.process h).age < (k.process h).lifespan
  | .exited => (k.process h).state = .exited ∧ k.Unlinked h ∧
      (∀ r, (k.resource r).owner ≠ some h) ∧ (k.process h).age = (k.process h).lifespan

theorem Linked.linkedIn (linked : k.Linked) (marked : (k.process h).queue = some q) :
    k.LinkedIn h q := by
  have mem := (linked.mark h q).mp marked
  refine ⟨marked, List.count_eq_one_of_mem (linked.nodup q) mem, ?_⟩
  intro p mem'
  have marked' := (linked.mark h p).mpr mem'
  rw [marked] at marked'
  exact (Option.some.inj marked').symm

theorem Linked.unlinked (linked : k.Linked) (free : (k.process h).queue = none) : k.Unlinked h :=
  ⟨free, linked.not_mem free⟩

/-- Whoever has a place is in a situation, if it has work left while it runs and
none when it has left. -/
theorem Orderly.stands (order : k.Orderly) (used : h ∈ k.handles)
    (young : (k.process h).state = .running → (k.process h).age < (k.process h).lifespan)
    (aged : (k.process h).Aged) : ∃ x, k.Stands h x := by
  cases order.placed h used with
  | ready state marked => exact ⟨.ready, state, order.linked.linkedIn marked⟩
  | running state free current =>
      exact ⟨.running, state, order.linked.unlinked free, current, young state⟩
  | waiting r state marked inTable =>
      refine ⟨.waiting r, state, order.linked.linkedIn marked, inTable, ?_⟩
      intro owned
      exact (order.owners r h owned).2.2.2 marked
  | exited state free =>
      refine ⟨.exited, state, order.linked.unlinked free, ?_, aged.spent state⟩
      intro r owned
      exact (order.owners r h owned).2.2.1 state

/-- Nobody is in two situations. -/
theorem Stands.unique (first : k.Stands h x) (second : k.Stands h y) : x = y := by
  have state : ∀ {x}, k.Stands h x → (k.process h).state = match x with
      | .ready => .ready | .waiting _ => .waiting | .running => .running | .exited => .exited := by
    intro x stands
    cases x <;> exact stands.1
  have same := (state first).symm.trans (state second)
  cases x with
  | ready | running | exited => cases y <;> first | rfl | cases same
  | waiting r =>
      cases y with
      | ready | running | exited => cases same
      | waiting i =>
          have marked := first.2.1.1.symm.trans second.2.1.1
          cases marked
          rfl

/-- Processes, queues, owners and the current process decide it. -/
theorem Stands.congr (stands : k.Stands h x) (process : k'.process h = k.process h)
    (alike : k.Alike k') : k'.Stands h x := by
  cases x <;>
    simpa only [Stands, LinkedIn, Unlinked, process, alike.queue, alike.owner, alike.current,
      alike.size] using stands

end Kernel

namespace Simulation

variable {s t u : Simulation}

/-- The process table, the queues and the owners agree. -/
structure Agrees (t : Simulation) : Prop where
  situation : ∀ h ∈ t.table.values, ∃! x, t.kernel.Stands h x
  running : ∀ h ∈ t.table.values, ∀ j ∈ t.table.values, (t.kernel.process h).state = .running →
    (t.kernel.process j).state = .running → h = j
  unblocked : ∀ h ∈ t.table.values, (t.kernel.process h).state ≠ .blocked
  queues : ∀ q, ∀ h ∈ t.kernel.queue q, h ∈ t.table.values
  owners : ∀ r h, (t.kernel.resource r).owner = some h →
    h ∈ t.table.values ∧ (t.kernel.process h).state ≠ .exited

theorem agrees_of_sound (sound : Sound ⟨.arriving, t⟩)
    (aged : ∀ j, (t.kernel.process j).Aged) : t.Agrees := by
  have order := sound.order
  have listed := sound.roster.values
  have current : ∀ h ∈ t.kernel.handles, (t.kernel.process h).state = .running →
      t.kernel.current = some h := fun h used => (order.placed h used).current_of_running
  constructor
  · intro h mem
    have used : h ∈ t.kernel.handles := listed ▸ mem
    have young : (t.kernel.process h).state = .running →
        (t.kernel.process h).age < (t.kernel.process h).lifespan := by
      intro running
      exact ((sound.accounts h used).unfinished (by simp [running])).resolve_right nofun
    obtain ⟨x, stands⟩ := order.stands used young (aged h)
    exact ⟨x, stands, fun y other => other.unique stands⟩
  · intro h mem j mem' running running'
    have first := current h (listed ▸ mem) running
    rw [current j (listed ▸ mem') running'] at first
    exact (Option.some.inj first).symm
  · intro h mem blocked
    cases order.placed h (listed ▸ mem) with
    | ready state _ | running state _ _ | waiting _ state _ _ | exited state _ =>
        rw [state] at blocked
        cases blocked
  · intro q h mem
    rw [listed]
    exact order.linked.used mem
  · intro r h owned
    obtain ⟨_, used, present, _⟩ := order.owners r h owned
    exact ⟨listed ▸ used, present⟩

theorem Agrees.ends (agrees : t.Agrees) (ends : t.Ends u) : u.Agrees := by
  constructor
  · intro h mem
    rw [ends.table] at mem
    obtain ⟨x, stands, _⟩ := agrees.situation h mem
    have stands' := stands.congr (ends.process h) ends.alike
    exact ⟨x, stands', fun y other => other.unique stands'⟩
  · simpa only [ends.table, ends.process] using agrees.running
  · simpa only [ends.table, ends.process] using agrees.unblocked
  · simpa only [ends.table, ends.alike.queue] using agrees.queues
  · simpa only [ends.table, ends.alike.owner, ends.process] using agrees.owners

end Simulation

/-- Between the ticks of every run of a parsed workload, whichever built-in
policy and protocol are in charge, every process of the table is in just one
situation, at most one is running and none is blocked, and whoever is in a queue
or owns a resource is in the table, an owner without having left. So it is when
the run has ended. -/
theorem table_queues_owners_agree {text : Text} {w : Workload} {resources : Int}
    (parsed : Workload.ofText text = .ok w) (positive : 0 < resources)
    (fits : ∀ r ∈ w.resourceIds, r < resources) (d : Discipline) (protocol : Protocol)
    (limit : Option Int) :
    ∃ s, Simulation.create w (.of d protocol) resources limit = .ok s ∧
      (∀ t, s.Boundary t → t.Agrees) ∧
      (∀ n, ∃ t, EStateM.run (SimulationM.steps n) s = .ok () t ∧ s.Boundary t) ∧
      ∃ report t, s.run = .ok report t ∧ t.Agrees := by
  obtain ⟨k, s, created, fresh, is⟩ := Simulation.create_of_valid (Workload.valid_ofText parsed)
    positive fits d protocol limit
  have early : s.started = false := by rw [is]
  have always : ∀ t, s.Boundary t → t.Agrees := by
    intro t reached
    obtain ⟨sound, aged⟩ :=
      lasting_aged.boundary fresh early (fun _ fresh' _ => fresh'.aged) reached
    exact Simulation.agrees_of_sound sound aged
  obtain ⟨t, u, reached, ends, ran⟩ := SimulationM.run_ended fresh early
  exact ⟨s, created, always, SimulationM.run_steps fresh early, _, _, ran,
    (always t reached).ends ends⟩

theorem table_queues_owners_agree_contended :
    ∃ s, Simulation.create .contended (.of (.roundRobin 1) .inheritance) 1 none = .ok s ∧
      (∀ t, s.Boundary t → t.Agrees) ∧
      (∀ n, ∃ t, EStateM.run (SimulationM.steps n) s = .ok () t ∧ s.Boundary t) ∧
      ∃ report t, s.run = .ok report t ∧ t.Agrees :=
  table_queues_owners_agree Workload.ofText_contention (by decide)
    (by simp [Workload.resourceIds_contended]) (.roundRobin 1) .inheritance none

end Uniprocessor
