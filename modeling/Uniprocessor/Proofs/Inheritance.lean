import Uniprocessor.Proofs.Protocol.Donation
import Uniprocessor.Proofs.Simulation.Run

/-!
Priority inheritance is exact.

After any number of steps under inheritance, the effective priority of a process
is the most urgent base priority among itself and those who wait on it, directly
or through others, and it is boosted only on account of what it owns
(`inheritance_exact`). The moves of a tick that ask for a resource or give one
back keep priorities passed on because the protocol does; no other move concerns
priorities.
-/

namespace Uniprocessor

/-- Inheritance is in charge, and nobody is late to pass its priority on. -/
structure Moment.Inherits (m : Moment) : Prop where
  protocol : m.sim.policy.protocol = .inheritance
  passed : m.sim.kernel.PassedOn fun _ _ => False

variable {m m' : Moment} {s : Simulation}

theorem Sound.distinct (sound : Sound m) : m.sim.kernel.Distinct := by
  intro a used b used' same
  by_contra other
  exact sound.roster.pid_ne used used' other same

/-- A move keeps priorities passed on. -/
theorem Sound.passedOn (sound : Sound m) (inherits : m.Inherits) (move : Move m m') :
    m'.sim.kernel.PassedOn fun _ _ => False := by
  obtain ⟨protocol, passed⟩ := inherits
  -- An answer to a request and a resource given back change who waits for whom; the other moves
  -- leave that and all boosts as they are.
  cases move with
  | @arrive s spec later p k next due built same =>
      have fresh := sound.roster.fresh
      refine passed.congr sound.order ?_ ?_ ?_ ?_ ?_
      · simp [same.owner]
      · simp [same.queue]
      · simp [same.blockedOn]
      · intro h used
        have old : s.kernel.nextHandle ≠ h := fun is => fresh (is ▸ used)
        simp [same.process, old]
      · intro h unused
        by_cases new : s.kernel.nextHandle = h
        · simp [same.process, new, ProcessSpec.boosts_of_build built]
        · have nobody : (s.kernel.process h).boosts = {} := by
            rw [Kernel.process_of_unused unused]
            rfl
          simp [same.process, new, nobody]
  | settle | elapse | yield => exact passed
  | preempt _ same | idle _ _ same | resume _ same | take _ _ same | leave _ same =>
      refine passed.same sound.order ?_ ?_ ?_ ?_ <;>
        simp [same.owner, same.queue, same.blockedOn, same.process]
  | work =>
      refine passed.same sound.order ?_ ?_ ?_ ?_ <;> simp
  | @grant s h q later k next due free ran alike memory =>
      obtain ⟨current, running, used, unmarked⟩ := sound.running rfl
      have protocol : s.policy.protocol = .inheritance := protocol
      rw [protocol] at ran
      exact passed.acquired current (sound.inTable_of_outstanding used next) free
        (fun i => sound.order.linked.not_mem unmarked _) ran
  | @refuse s h owner q later k next due owned ran alike tracked =>
      obtain ⟨current, running, used, unmarked⟩ := sound.running rfl
      have protocol : s.policy.protocol = .inheritance := protocol
      rw [protocol] at ran
      exact passed.refused sound.order sound.tracked sound.distinct used current running owned
        (sound.owner_ne next due owned) ran
  | @giveBack s h r left todo k found last ran alike tracked =>
      obtain ⟨current, running, used, unmarked⟩ := sound.running rfl
      have protocol : s.policy.protocol = .inheritance := protocol
      rw [protocol] at ran
      exact passed.released sound.order sound.distinct current sound.owned_of_todo
        (fun i => sound.order.linked.not_mem unmarked _) ran

theorem lasting_inherits : Lasting Moment.Inherits where
  move {m m'} sound inherits move := by
    refine ⟨?_, sound.passedOn inherits move⟩
    have same : m'.sim.policy = m.sim.policy := congrArg (·.policy) move.unchanged
    rw [same]
    exact inherits.protocol
  close _ inherits := by
    obtain ⟨protocol, passed⟩ := inherits
    exact ⟨protocol, passed.owned, passed.earned, passed.passed, passed.noted⟩

/-- At the start nobody waits and nobody is boosted. -/
theorem Simulation.Fresh.passedOn (fresh : s.Fresh) : s.kernel.PassedOn fun _ _ => False := by
  have nobody : ∀ p, (s.kernel.process p).boosts = {} := by
    intro p
    rw [Kernel.process_of_unused (by simp [fresh.kernel.handles])]
    rfl
  constructor
  · intro p r mem
    rw [nobody] at mem
    cases mem
  · intro p v mem
    rw [nobody] at mem
    cases mem
  · intro r p _ q mem
    rw [fresh.kernel.queue] at mem
    cases mem
  · intro pid r
    simp [fresh.kernel.blockedOn, fresh.kernel.queue]

/-- Under inheritance priorities are passed on between any two ticks. -/
theorem Simulation.Boundary.inherits {t : Simulation} (reached : s.Boundary t) (fresh : s.Fresh)
    (early : s.started = false) (protocol : s.policy.protocol = .inheritance) :
    Sound ⟨.arriving, t⟩ ∧ Moment.Inherits ⟨.arriving, t⟩ := by
  refine lasting_inherits.boundary fresh early
    (fun u fresh' policy => ⟨?_, fresh'.passedOn⟩) reached
  show u.policy.protocol = .inheritance
  rw [policy, protocol]

/-- Under inheritance, after any number of steps, every process has the most
urgent base priority among itself and those who wait on it, directly or through
others, and every boost that it carries is on account of a resource it owns. -/
theorem inheritance_exact {text : Text} {w : Workload} {resources : Int}
    (parsed : Workload.ofText text = .ok w) (positive : 0 < resources)
    (fits : ∀ r ∈ w.resourceIds, r < resources) (d : Discipline) (limit : Option Int) (n : Nat) :
    ∃ s t, Simulation.create w (.of d .inheritance) resources limit = .ok s ∧
      EStateM.run (SimulationM.steps n) s = .ok () t ∧
      ∀ p ∈ t.kernel.handles,
        IsLeast {b | ∃ q, t.kernel.Behind q p ∧ (t.kernel.process q).base = b}
          (t.kernel.process p).priority ∧
        ∀ r ∈ (t.kernel.process p).boosts.keys, (t.kernel.resource r).owner = some p := by
  obtain ⟨k, s, created, fresh, is⟩ := Simulation.create_of_valid (Workload.valid_ofText parsed)
    positive fits d .inheritance limit
  have early : s.started = false := by rw [is]
  have protocol : s.policy.protocol = .inheritance := by rw [is]; rfl
  obtain ⟨t, ran, reached⟩ := SimulationM.run_steps fresh early n
  obtain ⟨_, _, passed⟩ := reached.inherits fresh early protocol
  exact ⟨s, t, created, ran, fun p _ => ⟨passed.isLeast p, passed.owned p⟩⟩

theorem inheritance_exact_contended :
    ∃ s t, Simulation.create .contended (.of .priority .inheritance) 1 none = .ok s ∧
      EStateM.run (SimulationM.steps 2) s = .ok () t ∧
      ∀ p ∈ t.kernel.handles,
        IsLeast {b | ∃ q, t.kernel.Behind q p ∧ (t.kernel.process q).base = b}
          (t.kernel.process p).priority ∧
        ∀ r ∈ (t.kernel.process p).boosts.keys, (t.kernel.resource r).owner = some p :=
  inheritance_exact Workload.ofText_contention (by decide)
    (by simp [Workload.resourceIds_contended]) .priority none 2

end Uniprocessor
