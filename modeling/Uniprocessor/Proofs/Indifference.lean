import Uniprocessor.Proofs.Simulation.Twin
import Uniprocessor.Proofs.Workload.Validity

/-!
Disciplines that ignore priorities are indifferent to the protocol.

The protocols differ in boosts only, and in what they log. A discipline that
does not look at priorities therefore makes the same run of a workload under
each of them: after any number of steps the simulations show the same
(`Simulation.Matches`), and the reports of the runs are equal
(`protocols_agree`).
-/

namespace Uniprocessor

namespace Simulation

/-- The simulations agree in the timeline, in who has arrived, in every process but for its
boosts, in the ready queue, and in the owner and the queue of every resource. -/
structure Matches (s t : Simulation) : Prop where
  timeline : t.timeline = s.timeline
  table : t.table = s.table
  process : ∀ h, (t.kernel.process h).clearBoosts = (s.kernel.process h).clearBoosts
  ready : t.kernel.ready = s.kernel.ready
  owner : ∀ r, (t.kernel.resource r).owner = (s.kernel.resource r).owner
  waiting : ∀ r, (t.kernel.resource r).waiting = (s.kernel.resource r).waiting

theorem Twin.matches {paced : Prop} {others : List Handle} {s t : Simulation}
    (twin : s.Twin paced others t) : s.Matches t where
  timeline := twin.timeline
  table := twin.table
  process := twin.kernel.process
  ready := twin.kernel.queue .ready
  owner := twin.kernel.owner
  waiting r := twin.kernel.queue (.waiting r)

/-- Only the entry for the policy depends on the policy. -/
theorem create_policy (w : Workload) (policy policy' : Policy) (resources : Int)
    (limit : Option Int) :
    create w policy' resources limit =
      (fun s => { s with policy := policy' }) <$> create w policy resources limit := by
  unfold create
  cases (Kernel.checkSize resources).mapError SetUpError.fault with
  | error e => rfl
  | ok size =>
      cases w.resourceIds.find? (fun r => resources ≤ r) with
      | some r => rfl
      | none =>
          dsimp only [bind, Except.bind]
          cases (placeCeilings w.ceilings.entries).run { size := size } <;> rfl

/-- Two simulations of a workload start as twins, which keep pace if the disciplines are the
same one that ignores priorities. -/
theorem Fresh.twin {paced : Prop} {s : Simulation} {d d' : Discipline} {p : Protocol}
    (fresh : s.Fresh) (policy : s.policy = .of d p) (q : Protocol)
    (same : paced → d' = d ∧ d.ignoresPriority) :
    s.Twin paced [] { s with policy := .of d' q } := by
  have known : s.kernel.Known [] := by
    refine ⟨?_, ?_, nofun⟩
    · simp [fresh.kernel.current]
    · simp [fresh.kernel.owner]
  exact ⟨⟨d, d', p, q, policy, rfl, same⟩, .refl known, rfl⟩

end Simulation

/-- A discipline that ignores priorities makes the same run of a parsed workload
under any two protocols: the simulations agree after any number of steps, and the
runs end with the same report. -/
theorem protocols_agree {text : Text} {w : Workload} {resources : Int} {d : Discipline}
    (parsed : Workload.ofText text = .ok w) (positive : 0 < resources)
    (fits : ∀ r ∈ w.resourceIds, r < resources) (blind : d.ignoresPriority) (p q : Protocol)
    (limit : Option Int) :
    ∃ s t, Simulation.create w (.of d p) resources limit = .ok s ∧
      Simulation.create w (.of d q) resources limit = .ok t ∧
      (∀ n, ∃ s' t', EStateM.run (SimulationM.steps n) s = .ok () s' ∧
        EStateM.run (SimulationM.steps n) t = .ok () t' ∧ s'.Matches t') ∧
      ∃ report s' t', s.run = .ok report s' ∧ t.run = .ok report t' ∧ s'.Matches t' := by
  obtain ⟨k, s, created, fresh, is⟩ :=
    Simulation.create_of_valid (Workload.valid_ofText parsed) positive fits d p limit
  let t : Simulation := { s with policy := .of d q }
  have created' : Simulation.create w (.of d q) resources limit = .ok t := by
    rw [Simulation.create_policy w (.of d p), created]
    rfl
  have early : s.started = false := by rw [is]
  have fresh' : t.Fresh := ⟨fresh.kernel, ⟨d, q, rfl⟩, fresh.table, fresh.pids, fresh.pending⟩
  have twin : s.Twin True [] t := fresh.twin (by rw [is]) q fun _ => ⟨rfl, blind⟩
  refine ⟨s, t, created, created', fun n => ?_, ?_⟩
  · obtain ⟨s', stepped, _⟩ := SimulationM.run_steps fresh early n
    obtain ⟨t', stepped', _⟩ := SimulationM.run_steps fresh' early n
    have twin' := (SimulationM.together_steps trivial n twin _ _ _ _ stepped stepped').2
    exact ⟨s', t', stepped, stepped', twin'.matches⟩
  · obtain ⟨_, s', _, _, ran⟩ := SimulationM.run_ended fresh early
    obtain ⟨_, t', _, _, ran'⟩ := SimulationM.run_ended fresh' early
    obtain ⟨same, twin'⟩ := SimulationM.together_run trivial twin _ _ _ _ ran ran'
    exact ⟨s'.report, s', t', ran, by rw [same]; exact ran', twin'.matches⟩

theorem protocols_agree_contended :
    ∃ s t, Simulation.create .contended (.of (.roundRobin 2) .ceiling) 1 none = .ok s ∧
      Simulation.create .contended (.of (.roundRobin 2) .inheritance) 1 none = .ok t ∧
      (∀ n, ∃ s' t', EStateM.run (SimulationM.steps n) s = .ok () s' ∧
        EStateM.run (SimulationM.steps n) t = .ok () t' ∧ s'.Matches t') ∧
      ∃ report s' t', s.run = .ok report s' ∧ t.run = .ok report t' ∧ s'.Matches t' :=
  protocols_agree Workload.ofText_contention (by decide)
    (by simp [Workload.resourceIds_contended]) (by decide) .ceiling .inheritance none

end Uniprocessor
