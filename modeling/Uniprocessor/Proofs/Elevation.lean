import Uniprocessor.Proofs.Protocol.Elevation
import Uniprocessor.Proofs.Simulation.Run

/-!
Ceiling boosts are exactly the ceilings that are held.

Where the protocol passes nothing on, everybody is boosted just by the levels of
what it owns, at every moment of a run (`Moment.Elevates`). Only a grant and a
release change boosts or owners, and each of them adds or removes the level of
its one resource; in between nested resources may be taken and given back in
any order. Levels do not change, since no move sets a ceiling.

Under ceilings this says which boosts a process has, and so its priority, between
any two ticks (`ceiling_boosts_exact`).
-/

namespace Uniprocessor

/-- The protocol passes nothing on, and everybody is boosted by the levels of what
it owns, which are fixed. -/
structure Moment.Elevates (level : Int → Option Int) (m : Moment) : Prop where
  plain : m.sim.policy.protocol ≠ .inheritance
  fixed : m.sim.policy.protocol.level m.sim.kernel = level
  boosts : m.sim.kernel.Elevated level
  once : m.sim.kernel.BoostedOnce

/-- A protocol raises to what the ceilings say. -/
theorem Protocol.level_congr {protocol : Protocol} {k k' : Kernel}
    (ceiling : ∀ r, (k'.resource r).ceiling = (k.resource r).ceiling) :
    protocol.level k' = protocol.level k := by
  funext r
  cases protocol with
  | ceiling => exact ceiling r
  | fifo | inheritance => rfl

variable {m m' : Moment} {s t u : Simulation} {level : Int → Option Int}

/-! ### Moves -/

/-- A move that touches no boost, no owner and no owner's base priority. -/
theorem Moment.Elevates.keep (elevates : m.Elevates level)
    (boosts : ∀ p, (m'.sim.kernel.process p).boosts = (m.sim.kernel.process p).boosts)
    (owner : ∀ r, (m'.sim.kernel.resource r).owner = (m.sim.kernel.resource r).owner)
    (base : ∀ r p, (m.sim.kernel.resource r).owner = some p →
      (m'.sim.kernel.process p).base = (m.sim.kernel.process p).base) :
    m'.sim.kernel.Elevated level ∧ m'.sim.kernel.BoostedOnce :=
  ⟨elevates.boosts.congr boosts owner base, fun p => by rw [boosts]; exact elevates.once p⟩

/-- A move keeps everybody boosted by the levels of what it owns. -/
theorem Sound.elevated (sound : Sound m) (elevates : m.Elevates level) (move : Move m m') :
    m'.sim.kernel.Elevated level ∧ m'.sim.kernel.BoostedOnce := by
  have ⟨plain, fixed, boosts, once⟩ := elevates
  have based : ∀ r p, (m.sim.kernel.resource r).owner = some p →
      (m'.sim.kernel.process p).base = (m.sim.kernel.process p).base := by
    intro r p owned
    have used := (sound.order.owners r p owned).2.1
    exact congrArg (·.base) (sound.stays move used).2
  cases move with
  | @arrive s spec later p k next due built same =>
      refine elevates.keep (fun h => ?_) (by simp [same.owner]) based
      by_cases new : s.kernel.nextHandle = h
      · -- Neither a newcomer nor the handle that it gets has a boost.
        have unused := Kernel.process_of_unused sound.roster.fresh
        have nobody : (default : Process).boosts = {} := rfl
        simp [same.process, ← new, ProcessSpec.boosts_of_build built, unused, nobody]
      · simp [same.process, new]
  | settle | elapse | yield => exact elevates.keep (fun _ => rfl) (fun _ => rfl) based
  | preempt _ same | idle _ _ same | resume _ same | take _ _ same | leave _ same =>
      exact elevates.keep (by simp [same.process, apply_ite]) (by simp [same.owner]) based
  | work => exact elevates.keep (by simp) (by simp) based
  | @grant s h q later k next due free ran alike memory =>
      obtain ⟨current, running, used, _⟩ := sound.running rfl
      have boosts : s.kernel.Elevated (s.policy.protocol.level s.kernel) := by
        rw [show s.policy.protocol.level s.kernel = level from fixed]
        exact boosts
      rw [← fixed]
      exact Protocol.elevated_of_granted plain boosts once used current
        (sound.inTable_of_outstanding used next) free ran
  | @refuse s h owner q later k next due owned ran alike tracked =>
      obtain ⟨current, running, _, unmarked⟩ := sound.running rfl
      exact elevates.keep (Protocol.boosts_of_refused plain current (sound.order.owners _ _ owned).1
        owned (sound.owner_ne next due owned) running unmarked ran) (by simp [alike.owner]) based
  | @giveBack s h r left todo k found last ran alike tracked =>
      obtain ⟨current, _, used, _⟩ := sound.running rfl
      have boosts : s.kernel.Elevated (s.policy.protocol.level s.kernel) := by
        rw [show s.policy.protocol.level s.kernel = level from fixed]
        exact boosts
      rw [← fixed]
      exact Protocol.elevated_of_released plain boosts once sound.order used current
        sound.owned_of_todo ran

theorem lasting_elevates : Lasting (Moment.Elevates level) where
  move {m m'} sound elevates move := by
    obtain ⟨boosts, once⟩ := sound.elevated elevates move
    have policy : m'.sim.policy = m.sim.policy := congrArg (·.policy) move.unchanged
    refine ⟨?_, ?_, boosts, once⟩
    · rw [policy]
      exact elevates.plain
    · rw [policy, Protocol.level_congr move.ceiling]
      exact elevates.fixed
  close _ elevates := ⟨elevates.plain, elevates.fixed, elevates.boosts, elevates.once⟩

/-- At the start nobody is boosted and nothing is owned. -/
theorem Simulation.Fresh.elevates (fresh : s.Fresh) (plain : s.policy.protocol ≠ .inheritance) :
    Moment.Elevates (s.policy.protocol.level s.kernel) ⟨.arriving, s⟩ := by
  have nobody : ∀ p, (s.kernel.process p).boosts = {} := by
    intro p
    rw [Kernel.process_of_unused (by simp [fresh.kernel.handles])]
    rfl
  refine ⟨plain, rfl, ?_, ?_⟩
  · intro p r v
    show (r, v) ∈ (s.kernel.process p).boosts.entries ↔ (s.kernel.resource r).owner = some p ∧ _
    simp [nobody, fresh.kernel.owner]
  · intro p
    show (s.kernel.process p).boosts.keys.Nodup
    simp [nobody, Table.keys]

/-- Where the protocol passes nothing on, everybody is boosted between the ticks
of a run by the levels of what it owns. -/
theorem Simulation.Boundary.elevates (fresh : s.Fresh) (early : s.started = false)
    (plain : s.policy.protocol ≠ .inheritance) (reached : s.Boundary t) :
    Moment.Elevates (s.policy.protocol.level s.kernel) ⟨.arriving, t⟩ := by
  refine (lasting_elevates.boundary_of_begun fresh early (fresh.elevates plain) ?_ reached).2
  intro k alike fresh'
  have same : s.policy.protocol.level k = s.policy.protocol.level s.kernel :=
    Protocol.level_congr alike.ceiling
  have elevates : Moment.Elevates (s.policy.protocol.level k)
      ⟨.arriving, { s with started := true }.onto k⟩ := fresh'.elevates plain
  rwa [same] at elevates

/-! ### Ceilings -/

/-- The boosts of a process are the ceilings of what it owns that are below its
base priority, and its priority is the least of all these. -/
structure Simulation.Ceiled (t : Simulation) (w : Workload) (p : Handle) : Prop where
  once : (t.kernel.process p).boosts.keys.Nodup
  boosts : ∀ r v, (t.kernel.process p).boosts.get? r = some v ↔
    (t.kernel.resource r).owner = some p ∧ w.ceilings.get? r = some v ∧
      v < (t.kernel.process p).base
  priority : IsLeast {b | b = (t.kernel.process p).base ∨
    ∃ r, (t.kernel.resource r).owner = some p ∧ w.ceilings.get? r = some b}
      (t.kernel.process p).priority
  restored : (∀ r, (t.kernel.resource r).owner ≠ some p) →
    (t.kernel.process p).priority = (t.kernel.process p).base
  shields : w.explicitCeilings = {} → ∀ r, (t.kernel.resource r).owner = some p →
    ∀ spec ∈ w.processes, (∃ q ∈ spec.requests, q.resource = r) →
      (t.kernel.process p).priority ≤ spec.priority

theorem Moment.Elevates.ceiled {w : Workload}
    (elevates : Moment.Elevates w.ceilings.get? ⟨.arriving, t⟩) (p : Handle) : t.Ceiled w p where
  once := elevates.once p
  boosts r v := elevates.boosts.get?_iff elevates.once
  priority := elevates.boosts.isLeast p
  restored := elevates.boosts.priority_of_nothing
  shields implied r owned spec declared asked := by
    obtain ⟨q, mem, rfl⟩ := asked
    obtain ⟨v, ceiling, below⟩ := w.exists_ceiling implied declared mem
    exact (elevates.boosts.priority_le_level owned ceiling).trans below

theorem Simulation.Ceiled.ends {w : Workload} {p : Handle} (ceiled : t.Ceiled w p)
    (ends : t.Ends u) : u.Ceiled w p := by
  constructor <;> simp only [ends.process, ends.alike.owner]
  · exact ceiled.once
  · exact ceiled.boosts
  · exact ceiled.priority
  · exact ceiled.restored
  · exact ceiled.shields

/-- Between the ticks of every run of a parsed workload under ceilings, whichever
built-in policy is in charge, the boosts of every process are the ceilings of what
it owns that are below its base priority. So its priority is the least of its
base priority and those ceilings, and the base priority again where it owns
nothing. Where no ceilings are stated it is at least as urgent as everybody who
requests what it owns. So it is when the run has ended. -/
theorem ceiling_boosts_exact {text : Text} {w : Workload} {resources : Int}
    (parsed : Workload.ofText text = .ok w) (positive : 0 < resources)
    (fits : ∀ r ∈ w.resourceIds, r < resources) (d : Discipline) (limit : Option Int) :
    ∃ s, Simulation.create w (.of d .ceiling) resources limit = .ok s ∧
      (∀ t, s.Boundary t → ∀ p ∈ t.table.values, t.Ceiled w p) ∧
      (∀ n, ∃ t, EStateM.run (SimulationM.steps n) s = .ok () t ∧ s.Boundary t) ∧
      ∃ report t, s.run = .ok report t ∧ ∀ p ∈ t.table.values, t.Ceiled w p := by
  obtain ⟨k, s, created, fresh, is, ceilings⟩ := Simulation.create_of_valid_capped
    (Workload.valid_ofText parsed) positive fits d .ceiling limit
  have early : s.started = false := by rw [is]
  have plain : s.policy.protocol ≠ .inheritance := by
    rw [is]
    nofun
  have level : s.policy.protocol.level s.kernel = w.ceilings.get? := by
    rw [is]
    exact funext ceilings
  have always : ∀ t, s.Boundary t → ∀ p, t.Ceiled w p := by
    intro t reached p
    have elevates := reached.elevates fresh early plain
    rw [level] at elevates
    exact elevates.ceiled p
  obtain ⟨t, u, reached, ends, ran⟩ := SimulationM.run_ended fresh early
  exact ⟨s, created, fun t reached p _ => always t reached p, SimulationM.run_steps fresh early,
    _, _, ran, fun p _ => (always t reached p).ends ends⟩

theorem ceiling_boosts_exact_contended :
    ∃ s, Simulation.create .contended (.of .shortestRemaining .ceiling) 1 none = .ok s ∧
      (∀ t, s.Boundary t → ∀ p ∈ t.table.values, t.Ceiled .contended p) ∧
      (∀ n, ∃ t, EStateM.run (SimulationM.steps n) s = .ok () t ∧ s.Boundary t) ∧
      ∃ report t, s.run = .ok report t ∧ ∀ p ∈ t.table.values, t.Ceiled .contended p :=
  ceiling_boosts_exact Workload.ofText_contention (by decide)
    (by simp [Workload.resourceIds_contended]) .shortestRemaining none

end Uniprocessor
