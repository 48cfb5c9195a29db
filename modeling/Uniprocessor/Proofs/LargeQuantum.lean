import Uniprocessor.Proofs.Simulation.Accord

/-!
A large quantum turns round robin into first come, first served.

Between two choices the slice grows no faster than the running process does. It starts
at one with every turn, and whoever goes on has worked since (`Simulation.Follows`). So
the slice in use is at most the age of the process that goes on
(`Simulation.PicksAt.slice_le_age`), which has work left: a quantum of all its work is
never used up, and nobody is ever preempted.
-/

namespace Uniprocessor

open Policy (continuing lasts)

namespace Discipline

variable {q : Nat} {k : Kernel}

/-- Round robin goes in turn where whoever goes on has some of its slice left. -/
theorem inTurn_roundRobin (left : ∀ h, continuing k = some h → k.memory.sliceUsed < q) :
    (roundRobin q).InTurn k := by
  unfold InTurn
  cases goes : continuing k with
  | none => simp [decision, lasts, goes, Policy.candidates]
  | some h => simp [decision, lasts, goes, left h goes, Policy.candidates]

end Discipline

namespace Simulation

variable {s g : Simulation} {chosen : Option Handle} {n q : Nat} {h : Handle}
  {protocol : Protocol} {w : Workload}

/-- The slice in use is at most the age of the process that goes on. -/
theorem PicksAt.slice_le_age (fresh : s.Fresh) (early : s.started = false)
    (policy : s.policy = .of (.roundRobin q) protocol) (picks : s.PicksAt n g chosen)
    (goes : continuing g.kernel = some h) :
    g.kernel.memory.sliceUsed ≤ (g.kernel.process h).age := by
  induction n generalizing g chosen with
  | zero =>
      rw [picks.continuing_first fresh early] at goes
      cases goes
  | succ n ih =>
      obtain ⟨u, g₀, e, chosen₀, event, ticks⟩ := exists_ticks fresh early n
      have follows := ticks.picksAt.follows fresh early policy picks
      obtain ⟨named, older⟩ := follows.continuing h goes
      rw [follows.slice, older]
      cases went : lasts q g₀.kernel with
      | false => exact (Discipline.slice_le_one_of_turn went).trans (Nat.le_add_left 1 _)
      | true =>
          rw [Discipline.decision_of_lasts went] at named ⊢
          exact Nat.succ_le_succ (ih ticks.picksAt named)

/-- Whoever goes on never uses up a quantum of all its work. -/
theorem goesInTurn_of_large (fresh : s.Fresh) (early : s.started = false)
    (pending : s.pending = inOrderOfArrival w.processes)
    (policy : s.policy = .of (.roundRobin q) protocol)
    (large : ∀ spec ∈ w.processes, spec.lifespan ≤ q) : s.GoesInTurn (.roundRobin q) := by
  intro n g chosen picks
  refine Discipline.inTurn_roundRobin fun h goes => ?_
  obtain ⟨u, e, event, ticks⟩ := picks.ticks fresh early
  have used := Policy.used_of_running (Policy.running_of_continuing goes)
  obtain ⟨spec, mem, declares⟩ := ticks.declaration fresh early pending used
  have whole : ((g.kernel.process h).lifespan : Int) = spec.lifespan := declares.lifespan
  have enough := large spec mem
  have young : (g.kernel.process h).age < (g.kernel.process h).lifespan := by
    have able := (Policy.continuing_eq_some_iff.mp goes).2
    simp [Process.canContinue, Process.finished] at able
    exact able.2
  have slice := picks.slice_le_age fresh early policy goes
  omega

end Simulation

/-- Round robin with a quantum of at least every lifespan makes the same run of a parsed
workload as first come, first served, under any protocols: the simulations agree after any
number of steps, and the reports of the runs differ in the name of the policy only. -/
theorem large_quantum_firstCome {text : Text} {w : Workload} {resources : Int} {q : Nat}
    (parsed : Workload.ofText text = .ok w) (positive : 0 < resources)
    (fits : ∀ r ∈ w.resourceIds, r < resources)
    (large : ∀ spec ∈ w.processes, spec.lifespan ≤ q) (p p' : Protocol) (limit : Option Int) :
    ∃ s t, Simulation.create w (.of (.roundRobin q) p) resources limit = .ok s ∧
      Simulation.create w (.of .firstCome p') resources limit = .ok t ∧ s.RunsAlike t := by
  obtain ⟨_, s, created, fresh, is⟩ := Simulation.create_of_valid (Workload.valid_ofText parsed)
    positive fits (.roundRobin q) p limit
  have early : s.started = false := by rw [is]
  have policy : s.policy = .of (.roundRobin q) p := by rw [is]
  have turns := Simulation.goesInTurn_of_large fresh early (by rw [is]) policy large
  obtain ⟨t, created', alike⟩ := Simulation.runsAlike_of_created created fresh policy early
    (by rw [is]; rfl) turns p'
  exact ⟨s, t, created, created', alike⟩

theorem large_quantum_firstCome_contended :
    ∃ s t, Simulation.create .contended (.of (.roundRobin 3) .ceiling) 1 none = .ok s ∧
      Simulation.create .contended (.of .firstCome .ceiling) 1 none = .ok t ∧ s.RunsAlike t :=
  large_quantum_firstCome Workload.ofText_contention (by decide)
    (by simp [Workload.resourceIds_contended]) (by decide) .ceiling .ceiling none

end Uniprocessor
