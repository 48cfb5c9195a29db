import Uniprocessor.Proofs.Simulation.Custody

/-!
The log is a faithful trail of ownership.

Whoever reads the log from its beginning, with a table in which everything is free and
nobody waits, finds that every entry can have happened when its turn comes, and knows at
every boundary and at the end of a run who owns each resource and who waits for it, in
order (`log_traces_custody`). Nothing has been logged when a simulation is made
(`Simulation.told_create`), and whatever happens from one boundary to the next is told in
full (`SimulationM.Staged.told`), under every discipline and every protocol.
-/

namespace Uniprocessor

open Kernel (Told)

/-- The events of the log can be followed from the beginning and lead to the owners and the
waiters as they are now. The ticks of the log never decrease. -/
structure Kernel.Traced (k : Kernel) : Prop where
  replay : ∃ c, Custody.replay {} (k.log.toList.map (·.event)) = some c ∧
    (∀ r, c.owner r = (k.resource r).owner.map fun h => (k.process h).pid) ∧
    ∀ r, c.waiters r = (k.queue (.waiting r)).map fun h => (k.process h).pid
  ordered : k.log.toList.Pairwise fun e e' => e.tick ≤ e'.tick

/-- What has been told since nothing was, is a trail. -/
theorem Kernel.Told.traced {k : Kernel} {size : Nat} (told : Told { size } k) : k.Traced := by
  obtain ⟨l, tells⟩ := told
  have log : k.log.toList = l := tells.log
  obtain ⟨freed, replayed⟩ := tells.replay none
  refine ⟨⟨k.custody freed, ?_, fun _ => rfl, fun _ => rfl⟩, log ▸ tells.ordered⟩
  rw [log]
  exact replayed

namespace Simulation

variable {w : Workload} {policy : Policy} {resources : Int} {limit : Option Int}
  {s t : Simulation}

/-- Nothing has to be told when a simulation is made. -/
theorem told_create (created : create w policy resources limit = .ok s) :
    ∃ size, Told { size } s.kernel := by
  refine along_create (fun k r ceiling => ?_) created
  refine .of_same rfl le_rfl (funext fun i => ?_) (funext fun i => ?_)
  · simp [Kernel.holder]
  · simp [Kernel.waiters]

/-- From the start to any boundary everything is told. -/
theorem MadeOf.told (made : s.MadeOf w) (reached : s.Boundary t) :
    s.kernel.Told t.kernel := by
  induction reached with
  | made => exact refl_of Told _
  | begun ran =>
      obtain ⟨d, protocol, policy⟩ := made.fresh.policy
      exact (SimulationM.along_startOnce (fun _ _ => .of_same rfl le_rfl rfl rfl)
        (fun _ _ => Kernel.told_record rfl) policy _ _ ran).kernel
  | @ticked t u line before started ran ih =>
      have sound := before.sound made.fresh made.early
      obtain ⟨g, e, chosen, event, staged⟩ := SimulationM.run_staged sound
      cases staged.ended.symm.trans ran
      have later : e.kernel.Told e.kernel.later := .of_same rfl (Nat.le_succ _) rfl rfl
      exact trans_of Told ih (trans_of Told (staged.told sound) later)

end Simulation

/-- In every run of a parsed workload, under every discipline and every protocol, the log is
at every boundary a trail of the resources: from a table where all is free, whatever is
acquired is free, whoever waits names the owner, only the owner releases, only the head of
the queue of what was released right before is woken, and the table so kept shows the owner
and the wait queue of every resource. So it is when the run has ended. -/
theorem log_traces_custody {text : Text} {w : Workload} {resources : Int}
    (parsed : Workload.ofText text = .ok w) (positive : 0 < resources)
    (fits : ∀ r ∈ w.resourceIds, r < resources) (d : Discipline) (protocol : Protocol)
    (limit : Option Int) :
    ∃ s, Simulation.create w (.of d protocol) resources limit = .ok s ∧
      (∀ t, s.Boundary t → t.kernel.Traced) ∧
      (∀ n, ∃ t, EStateM.run (SimulationM.steps n) s = .ok () t ∧ s.Boundary t) ∧
      ∃ report t, s.run = .ok report t ∧ t.kernel.Traced := by
  obtain ⟨k, s, created, fresh, is⟩ := Simulation.create_of_valid (Workload.valid_ofText parsed)
    positive fits d protocol limit
  have made : s.MadeOf w := ⟨fresh, by rw [is]⟩
  obtain ⟨size, before⟩ := Simulation.told_create created
  have always : ∀ t, s.Boundary t → Told { size } t.kernel := fun t reached =>
    trans_of Told before (made.told reached)
  refine ⟨s, created, fun t reached => (always t reached).traced,
    SimulationM.run_steps fresh made.early, ?_⟩
  obtain ⟨s₀, n, t, course⟩ := made.course
  have reached := course.goes.boundary course.sound course.started (.begun course.begun)
  exact ⟨_, _, course.run, (trans_of Told (always t reached) t.aside_ended.told).traced⟩

theorem log_traces_custody_contended :
    ∃ s, Simulation.create .contended (.of .priorityInheritance .inheritance) 1 none = .ok s ∧
      (∀ t, s.Boundary t → t.kernel.Traced) ∧
      (∀ n, ∃ t, EStateM.run (SimulationM.steps n) s = .ok () t ∧ s.Boundary t) ∧
      ∃ report t, s.run = .ok report t ∧ t.kernel.Traced :=
  log_traces_custody Workload.ofText_contention (by decide)
    (by simp [Workload.resourceIds_contended]) .priorityInheritance .inheritance none

end Uniprocessor
