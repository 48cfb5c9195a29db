import Uniprocessor.CommandLine
import Uniprocessor.Proofs.Termination

/-!
Valid input never aborts a run.

A configuration in range names a built-in policy or none, a text is a workload
or is refused by its reader, and a workload fits the table or is refused when
the simulation is set up. Whatever is not refused runs to its end
(`CommandLine.valid_input_runs`).
-/

namespace Uniprocessor

/-- The values of a checked configuration are in range. -/
theorem Config.inRange_of_check {config : Config} (checked : config.check = .ok config) :
    0 < config.quantum ∧ 0 < config.resources := by
  unfold check at checked
  split at checked
  · cases checked
  · split at checked
    · cases checked
    · omega

/-- A positive quantum makes every registered policy. -/
theorem Descriptor.policy_of_positive (d : Descriptor) {quantum : Int} (positive : 0 < quantum) :
    d.policy (some quantum) none =
      .ok (.of (d.discipline quantum.toNat) (d.discipline quantum.toNat).protocol) := by
  have taken : d.withQuantum (some quantum) = .ok (d.discipline quantum.toNat) :=
    if_neg fun refused => by
      have small : quantum ≤ 0 := refused.2
      omega
  simp [policy, taken]

/-- A workload that does not fit the table is refused. -/
theorem Simulation.create_of_outside {w : Workload} {resources r : Int} (positive : 0 < resources)
    (mem : r ∈ w.resourceIds) (outside : resources ≤ r) (policy : Policy) (limit : Option Int) :
    ∃ e, create w policy resources limit = .error (.workload e) := by
  have checked : Kernel.checkSize resources = .ok resources.toNat := if_neg (by omega)
  cases found : w.resourceIds.find? (fun r => resources ≤ r) with
  | none =>
      have inside := List.find?_eq_none.mp found r mem
      exact absurd (by simpa using outside) inside
  | some first =>
      refine ⟨⟨none, .outsideTable first resources⟩, ?_⟩
      unfold create
      rw [checked, found]
      rfl

namespace CommandLine

/-- What becomes of a configuration and a text: one of them is refused before
the run, or the run ends. -/
inductive Settled (config : Config) (text : Text) : Prop where
  | noPolicy (e : Registry.NotFound) (refused : registered config = .error (.invalid e))
  | noWorkload (e : WorkloadError) (refused : Workload.ofText text = .error e)
  | noRoom (policy : Policy) (w : Workload) (e : WorkloadError)
      (found : registered config = .ok policy) (parsed : Workload.ofText text = .ok w)
      (refused : Simulation.create w policy config.resources config.maxTicks =
        .error (.workload e))
  | ran (policy : Policy) (w : Workload) (s t : Simulation) (report : Report)
      (found : registered config = .ok policy) (parsed : Workload.ofText text = .ok w)
      (created : Simulation.create w policy config.resources config.maxTicks = .ok s)
      (ended : s.run = .ok report t)
      (why : t.done = true ∨ t.stalled = true ∨ t.truncated = true)

theorem registered_of_checked {config : Config} (checked : config.check = .ok config) :
    (∃ e, registered config = .error (.invalid e)) ∨
      ∃ d protocol, registered config = .ok (.of d protocol) := by
  obtain ⟨positive, _⟩ := Config.inRange_of_check checked
  cases found : Registry.find config.policy with
  | error e => exact .inl ⟨e, by simp [registered, found]; rfl⟩
  | ok d =>
      refine .inr ⟨d.discipline config.quantum.toNat,
        (d.discipline config.quantum.toNat).protocol, ?_⟩
      have made := d.policy_of_positive positive
      unfold registered
      rw [found]
      show (d.policy (some config.quantum) none).mapError _ = _
      rw [made]
      rfl

/-- Whatever the policy's name and the text, no run of a checked configuration
faults: nobody breaks the rules or makes a move out of turn, and every entry that
is looked for is in the books. -/
theorem valid_input_runs {config : Config} (checked : config.check = .ok config) (text : Text) :
    Settled config text := by
  obtain ⟨_, positive⟩ := Config.inRange_of_check checked
  rcases registered_of_checked checked with ⟨e, refused⟩ | ⟨d, protocol, found⟩
  · exact .noPolicy e refused
  cases parsed : Workload.ofText text with
  | error e => exact .noWorkload e parsed
  | ok w =>
      by_cases fits : ∀ r ∈ w.resourceIds, r < config.resources
      · obtain ⟨k, s, created, fresh, is⟩ := Simulation.create_of_valid
          (Workload.valid_ofText parsed) positive fits d protocol config.maxTicks
        obtain ⟨report, t, ran, _, why⟩ := SimulationM.run_ends (w := w) fresh
          (by rw [is]) (by rw [is]) (by rw [is])
        exact .ran _ w s t report found parsed created ran (why.imp_right (.imp_right (·.1)))
      · obtain ⟨r, mem, outside⟩ : ∃ r ∈ w.resourceIds, config.resources ≤ r := by simpa using fits
        obtain ⟨e, refused⟩ := Simulation.create_of_outside positive mem outside (.of d protocol)
          config.maxTicks
        exact .noRoom _ w e found parsed refused

theorem valid_input_runs_contention :
    Settled { policy := "round-robin", quantum := 2 } Workload.contention :=
  valid_input_runs (by decide) Workload.contention

end CommandLine

end Uniprocessor
