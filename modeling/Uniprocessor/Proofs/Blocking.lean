import Uniprocessor.Proofs.Inheritance
import Uniprocessor.Proofs.Situations

/-!
The two records of who waits for what agree.

Inheritance notes by process number on what a process is blocked, and the table
of resources finds it by the mark of the process. Between any two ticks both give
the resource in whose queue the process waits, and nothing if it does not wait
(`records_of_blocking_agree`). The notes are right because a request that is
refused and a release that wakes write them together with the queue
(`Kernel.PassedOn.noted`), and name one process each because numbers differ.
-/

namespace Uniprocessor

namespace Kernel

variable {k : Kernel} {h : Handle} {r : Int}

/-- The resource found for a process is the one that its mark names. -/
theorem Orderly.blockedOn_eq_some_iff (order : k.Orderly) (used : h ∈ k.handles) :
    k.blockedOn h = some r ↔ (k.process h).queue = some (.waiting r) := by
  constructor
  · intro found
    simpa using List.find?_some found
  · intro marked
    have inTable : r ∈ k.resourceIds := by
      cases order.placed h used with
      | waiting i _ marked' inTable =>
          cases marked.symm.trans marked'
          exact mem_resourceIds_iff.mpr inTable
      | ready _ marked' | running _ marked' _ | exited _ marked' => cases marked.symm.trans marked'
    cases found : k.blockedOn h with
    | none =>
        have missed := List.find?_eq_none.mp found r inTable
        simp [marked] at missed
    | some i =>
        have named : (k.process h).queue = some (.waiting i) := by
          simpa using List.find?_some found
        cases marked.symm.trans named
        rfl

/-- Whoever waits is marked with the queue of a resource, and nobody else is. -/
theorem Orderly.waiting_iff (order : k.Orderly) (used : h ∈ k.handles) :
    (k.process h).state = .waiting ↔ ∃ r, (k.process h).queue = some (.waiting r) := by
  cases order.placed h used with
  | waiting r state marked _ => simp [state, marked]
  | ready state marked | running state marked _ | exited state marked => simp [state, marked]

/-- What is noted of a process number is said of the one process that has it. -/
theorem PassedOn.noted_iff {late : Handle → Int → Prop} (passed : k.PassedOn late)
    (linked : k.Linked) (distinct : k.Distinct) (used : h ∈ k.handles) :
    k.memory.blockedOn.get? (k.process h).pid = some r ↔
      (k.process h).queue = some (.waiting r) := by
  rw [passed.noted, linked.mark]
  constructor
  · rintro ⟨j, mem, same⟩
    rwa [← distinct j (linked.used mem) h used same]
  · intro mem
    exact ⟨h, mem, rfl⟩

end Kernel

/-- Between the ticks of every run under inheritance, for whatever process has been admitted,
the resource noted for its number, the one found in the table of resources, and the one in
whose queue it is linked while it waits are the same; and none is noted if and only if it
does not wait. -/
theorem records_of_blocking_agree {text : Text} {w : Workload} {resources : Int}
    (parsed : Workload.ofText text = .ok w) (positive : 0 < resources)
    (fits : ∀ r ∈ w.resourceIds, r < resources) (d : Discipline) (limit : Option Int) :
    ∃ s, Simulation.create w (.of d .inheritance) resources limit = .ok s ∧
      (∀ n, ∃ t, EStateM.run (SimulationM.steps n) s = .ok () t ∧ s.Boundary t) ∧
      ∀ t, s.Boundary t → ∀ h ∈ t.table.values,
        (∀ r, (t.kernel.memory.blockedOn.get? (t.kernel.process h).pid = some r ↔
            t.kernel.blockedOn h = some r) ∧
          (t.kernel.blockedOn h = some r ↔
            (t.kernel.process h).state = .waiting ∧ t.kernel.LinkedIn h (.waiting r))) ∧
        (t.kernel.memory.blockedOn.get? (t.kernel.process h).pid = none ↔
          (t.kernel.process h).state ≠ .waiting) := by
  obtain ⟨k, s, created, fresh, is⟩ := Simulation.create_of_valid (Workload.valid_ofText parsed)
    positive fits d .inheritance limit
  have early : s.started = false := by rw [is]
  have protocol : s.policy.protocol = .inheritance := by rw [is]; rfl
  refine ⟨s, created, SimulationM.run_steps fresh early, ?_⟩
  intro t reached h mem
  obtain ⟨sound, inherits⟩ := reached.inherits fresh early protocol
  have order := sound.order
  have used : h ∈ t.kernel.handles := sound.roster.values ▸ mem
  have noted (r : Int) := inherits.passed.noted_iff (r := r) order.linked sound.distinct used
  have found (r : Int) := order.blockedOn_eq_some_iff (r := r) used
  have waits := order.waiting_iff used
  -- What is noted and what is found are both the queue whose mark the process bears.
  refine ⟨fun r => ⟨(noted r).trans (found r).symm, (found r).trans ⟨fun marked => ?_, ?_⟩⟩, ?_⟩
  · exact ⟨waits.mpr ⟨r, marked⟩, order.linked.linkedIn marked⟩
  · rintro ⟨_, linked⟩
    exact linked.1
  · rw [Option.eq_none_iff_forall_ne_some, ne_eq, waits, not_exists]
    exact forall_congr' fun r => not_congr (noted r)

theorem records_of_blocking_agree_contended :
    ∃ s, Simulation.create .contended (.of .priority .inheritance) 1 none = .ok s ∧
      (∀ n, ∃ t, EStateM.run (SimulationM.steps n) s = .ok () t ∧ s.Boundary t) ∧
      ∀ t, s.Boundary t → ∀ h ∈ t.table.values,
        (∀ r, (t.kernel.memory.blockedOn.get? (t.kernel.process h).pid = some r ↔
            t.kernel.blockedOn h = some r) ∧
          (t.kernel.blockedOn h = some r ↔
            (t.kernel.process h).state = .waiting ∧ t.kernel.LinkedIn h (.waiting r))) ∧
        (t.kernel.memory.blockedOn.get? (t.kernel.process h).pid = none ↔
          (t.kernel.process h).state ≠ .waiting) :=
  records_of_blocking_agree Workload.ofText_contention (by decide)
    (by simp [Workload.resourceIds_contended]) .priority none

end Uniprocessor
