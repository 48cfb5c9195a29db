import Uniprocessor.Proofs.Simulation.Backlog
import Uniprocessor.Proofs.Simulation.Course

/-!
Runs of processes that ask for nothing.

Nobody ever waits in such a run, so it is never stuck
(`Simulation.Steady.stuck_eq_false`), and without a limit it ends when everybody has
left (`Simulation.MadeOf.ends`).
-/

namespace Uniprocessor.Simulation

variable {w : Workload} {s t : Simulation}

namespace MadeOf

theorem logged (made : s.MadeOf w) (reached : s.Boundary t) : t.Logged :=
  reached.logged made.fresh made.early made.pending made.timeline made.switches

theorem steady (made : s.MadeOf w) (reached : s.Boundary t) : t.Steady w :=
  reached.steady made.fresh made.early made.pending made.timeline made.switches

/-- What holds at the start, and again after every tick before which it held, holds between
any two ticks. -/
theorem along {P : Simulation → Prop} (made : s.MadeOf w)
    (start : ∀ u : Simulation, u.Fresh →
      u = { s with started := u.started, kernel := u.kernel } → P u)
    (ticked : ∀ {t g e : Simulation} {chosen : Option Handle} {event : TickEvent},
      s.Boundary t → t.Steady w → P t → SimulationM.Staged t g e chosen event →
        (e.close (e.line chosen event)).Steady w → P (e.close (e.line chosen event)))
    (reached : s.Boundary t) : P t := by
  induction reached with
  | made => exact start s made.fresh rfl
  | begun ran =>
      obtain ⟨k, ran', fresh⟩ := SimulationM.run_startOnce made.fresh made.early
      rw [ran'] at ran
      cases ran
      exact start _ fresh rfl
  | ticked before started ran ih =>
      have steady := made.steady before
      obtain ⟨g, e, chosen, event, staged⟩ := SimulationM.run_staged steady.sound
      have same := staged.ended.symm.trans ran
      cases same
      exact ticked before steady ih staged (made.steady (.ticked before started ran))

end MadeOf

theorem exists_madeOf {text : Text} {resources : Int} (parsed : Workload.ofText text = .ok w)
    (positive : 0 < resources) (fits : ∀ r ∈ w.resourceIds, r < resources) (d : Discipline)
    (protocol : Protocol) (limit : Option Int) :
    ∃ s, create w (.of d protocol) resources limit = .ok s ∧ s.MadeOf w ∧
      s.policy = .of d protocol ∧ s.limit = limit := by
  obtain ⟨k, s, created, fresh, is⟩ :=
    create_of_valid (Workload.valid_ofText parsed) positive fits d protocol limit
  exact ⟨s, created, ⟨fresh, by rw [is]⟩, by rw [is], by rw [is]⟩

namespace Steady

/-- Where nobody is still to come, everybody is in the kernel. -/
theorem everybody (steady : t.Steady w) (nobody : t.pending = []) :
    t.kernel.handles.length = w.processes.length := by
  obtain ⟨arrived, admits⟩ := steady.admits
  have order := congrArg List.length admits.order
  rw [nobody, List.append_nil, inOrderOfArrival, List.length_mergeSort] at order
  rw [admits.length_handles, order]

theorem stuck_eq_false (bare : ∀ spec ∈ w.processes, spec.requests = [])
    (steady : t.Steady w) : t.stuck = false := by
  obtain ⟨arrived, admits⟩ := steady.admits
  have awake : ∀ h ∈ t.kernel.handles, asleep (t.kernel.process h) = false :=
    fun h used => awake_of_bare steady.sound admits.toEnlists bare used
  have processes : t.processes = t.kernel.handles.map t.kernel.process :=
    steady.sound.roster.processes
  have nobody : t.processes.any asleep = false := by
    simpa [processes, List.any_eq_false] using awake
  simp [Simulation.stuck, nobody]

end Steady

/-- Where processes ask for nothing a run without a limit ends when everybody has left. -/
theorem MadeOf.ends (made : s.MadeOf w) (unlimited : s.limit = none)
    (bare : ∀ spec ∈ w.processes, spec.requests = []) :
    ∃ t u, s.Boundary t ∧ t.done = true ∧ t.Ends u ∧ s.run = .ok u.report u := by
  obtain ⟨t, u, reached, ends, ran, ended⟩ := SimulationM.run_done made.fresh made.early
    (congrArg (·.workload) made.is) made.pending
  obtain ⟨limit, stalled, truncated⟩ := reached.flags made.fresh made.early
  have going := (made.steady reached).stuck_eq_false bare
  have unstalled : u.stalled = false := by
    rw [Bool.eq_false_iff]
    intro stops
    rcases ends.stalled stops with before | stuck
    · rw [stalled, made.is] at before
      cases before
    · rw [going] at stuck
      cases stuck
  have untruncated : u.truncated = false := by
    rw [Bool.eq_false_iff]
    intro stops
    rcases ends.truncated stops with before | limited
    · rw [truncated, made.is] at before
      cases before
    · exact limited (limit.trans unlimited)
  exact ⟨t, u, reached, ended unstalled untruncated, ends, ran⟩

end Uniprocessor.Simulation
