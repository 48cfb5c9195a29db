import Mathlib.Tactic.Ring
import Uniprocessor.Proofs.Simulation.Allowance

/-!
Every run ends by its verdict.

A verdict to go on means that somebody is still to come or can run, so the tick
that follows takes something from the allowance (`Simulation.Goes.allowance`).
What a workload allows its run is the latest arrival, the work, the requests,
and a tick for each process (`Workload.allowance`). The fuel of the loop is more
than that, so it never decides when a run ends (`SimulationM.run_ends`).
-/

namespace Uniprocessor

variable {s : Simulation}

/-! ### What the ticks of a run take -/

/-- A simulation whose verdict is to go on is lively. -/
theorem Sound.lively_of_going (sound : Sound ⟨.arriving, s⟩) (going : s.verdict = .going) :
    s.Lively := by
  by_contra still
  obtain ⟨everybody, nobodyReady, nobodyRuns⟩ : s.pending = [] ∧ s.kernel.queue .ready = [] ∧
      Policy.continuing s.kernel = none := by
    simpa [Simulation.Lively] using still
  -- Nobody runs and nobody is ready, so whoever has not left sleeps.
  have places : ∀ j ∈ s.kernel.handles,
      (s.kernel.process j).state = .waiting ∨ (s.kernel.process j).state = .exited := by
    intro j used
    cases sound.order.placed j used with
    | waiting _ asleep => exact .inl asleep
    | exited gone => exact .inr gone
    | running running => exact absurd running (sound.idle_of_free rfl nobodyRuns j used)
    | ready _ marked =>
        have mem := (sound.order.linked.mark j _).mp marked
        rw [nobodyReady] at mem
        cases mem
  have unfinished : s.done = false := by
    cases finished : s.done with
    | false => rfl
    | true => simp [Simulation.verdict, finished] at going
  have stuck : s.stuck = true := by
    obtain ⟨j, used, present⟩ : ∃ j ∈ s.kernel.handles, (s.kernel.process j).state ≠ .exited := by
      simpa [Simulation.done, everybody, sound.roster.processes] using unfinished
    have asleep := (places j used).resolve_right present
    have sleeper : ∃ j ∈ s.kernel.handles, Simulation.asleep (s.kernel.process j) = true :=
      ⟨j, used, by simp [Simulation.asleep, asleep]⟩
    simpa [Simulation.stuck, everybody, nobodyRuns, sound.roster.processes] using
      ⟨nobodyReady, sleeper⟩
  unfold Simulation.verdict at going
  rw [unfinished, stuck] at going
  split at going
  · cases going
  · split at going <;> cases going

namespace Simulation.Goes

variable {t : Simulation} {n : Nat}

/-- The ticks of a run come out of its allowance. -/
theorem allowance (goes : Goes n s t) (sound : Sound ⟨.arriving, s⟩) :
    n + t.allowance ≤ s.allowance := by
  induction goes with
  | stay => omega
  | go going ran rest ih =>
      have less := SimulationM.allowance_tick sound (sound.lively_of_going going) ran
      have least := ih (sound.tick ran)
      omega

/-- Every tick has its line, and the limit stays. -/
theorem settings (goes : Goes n s t) (sound : Sound ⟨.arriving, s⟩) :
    t.limit = s.limit ∧ t.timeline.size = s.timeline.size + n := by
  induction goes with
  | stay => exact ⟨rfl, rfl⟩
  | go going ran rest ih =>
      obtain ⟨_, _, _, limit, lines⟩ := SimulationM.run_tick_settings sound ran
      obtain ⟨limit', lines'⟩ := ih (sound.tick ran)
      exact ⟨limit'.trans limit, by omega⟩

end Simulation.Goes

/-! ### What a workload allows -/

/-- The latest arrival, the work, the requests, and a tick for each process. -/
def Workload.allowance (w : Workload) : Nat :=
  latestArrival w.processes + (w.processes.map (fun spec => spec.lifespan.toNat)).sum +
    (w.processes.map (fun spec => spec.requests.length)).sum + w.processes.length

theorem Workload.allowance_le_horizon (w : Workload) : w.allowance ≤ w.horizon := by
  have sums : ∀ (f : ProcessSpec → Nat) (l : List ProcessSpec),
      l.foldr (fun spec n => f spec + n) 0 = (l.map f).sum := by
    intro f l
    induction l with
    | nil => rfl
    | cons spec l ih => simp [ih]
  unfold allowance horizon
  rw [sums (fun spec => spec.lifespan.toNat), sums (fun spec => spec.requests.length)]
  generalize (w.processes.map fun spec => spec.requests.length).sum = requests
  have product : (requests + 1) * (w.processes.length + 1) =
      requests * w.processes.length + requests + w.processes.length + 1 := by ring
  show latestArrival w.processes + _ + _ + _ ≤ latestArrival w.processes + _ + _
  omega

theorem sum_share (specs : List ProcessSpec) :
    (specs.map ProcessSpec.share).sum = (specs.map (fun spec => spec.lifespan.toNat)).sum +
      (specs.map (fun spec => spec.requests.length)).sum + specs.length := by
  induction specs with
  | nil => rfl
  | cons spec later ih =>
      simp only [List.map_cons, List.sum_cons, List.length_cons, ih, ProcessSpec.share]
      omega

namespace Simulation

theorem latestArrival_inOrderOfArrival (specs : List ProcessSpec) :
    latestArrival (inOrderOfArrival specs) ≤ latestArrival specs := by
  apply latestArrival_le_iff.mpr
  intro spec mem
  exact latestArrival_le_iff.mp le_rfl spec (List.mem_mergeSort.mp mem)

/-- At the start everything is allowed that the workload allows. -/
theorem Fresh.allowance_le {w : Workload} (fresh : s.Fresh)
    (pending : s.pending = inOrderOfArrival w.processes) : s.allowance ≤ w.allowance := by
  have latest := latestArrival_inOrderOfArrival w.processes
  have shares : ((inOrderOfArrival w.processes).map ProcessSpec.share).sum =
      (w.processes.map ProcessSpec.share).sum :=
    ((List.mergeSort_perm _ _).map _).sum_eq
  have nobody : s.kernel.handles = [] := fresh.kernel.handles
  unfold Simulation.allowance Workload.allowance
  rw [pending, nobody, shares, sum_share]
  simp only [List.toFinset_nil, Finset.sum_empty]
  omega

theorem done_onto {k : Kernel} (alike : s.kernel.Alike k) : (s.onto k).done = s.done := by
  have same : (s.onto k).processes.map (·.state) = s.processes.map (·.state) := by
    simp [processes, alike.state]
  have all : ∀ l : List Process,
      l.all (·.state == .exited) = (l.map (·.state)).all (· == .exited) := by
    simp [Function.comp_def]
  unfold done
  rw [all, all, same]
  rfl

theorem done_of_finished (is : s.verdict = .finished) : s.done = true := by
  unfold verdict at is
  split at is
  · assumption
  · split at is
    · cases is
    · split at is <;> cases is

/-- A verdict other than to go on says why. -/
theorem ended_of_verdict (judged : s.verdict ≠ .going) :
    s.conclude.done = true ∨ s.conclude.stalled = true ∨
      s.conclude.truncated = true ∧ s.limit ≠ none := by
  unfold conclude
  cases is : s.verdict with
  | going => exact absurd is judged
  | finished => exact .inl (done_of_finished is)
  | atLimit limit => exact .inr (.inr ⟨rfl, limit_of_atLimit is⟩)
  | stuck pids => exact .inr (.inl rfl)

end Simulation

namespace SimulationM

open Simulation

/-- A run ends well after as many ticks as are allowed at most, because
everybody has left, nobody can go on, or the limit is reached. -/
theorem run_ends {w : Workload} (fresh : s.Fresh) (early : s.started = false)
    (workload : s.workload = w) (pending : s.pending = inOrderOfArrival w.processes) :
    ∃ report t, s.run = .ok report t ∧ t.timeline.size ≤ s.timeline.size + w.allowance ∧
      (t.done = true ∨ t.stalled = true ∨ t.truncated = true ∧ s.limit ≠ none) := by
  obtain ⟨s₀, n, t, u, k, fresh₀, is, goes, _, ended, alike, ran⟩ := run_run fresh early
  have pending₀ : s₀.pending = inOrderOfArrival w.processes := by rw [is, pending]
  have workload₀ : s₀.workload = w := by rw [is, workload]
  have limit₀ : s₀.limit = s.limit := by rw [is]
  have lines₀ : s₀.timeline = s.timeline := by rw [is]
  have taken := goes.allowance fresh₀.sound
  have allowed := fresh₀.allowance_le pending₀
  obtain ⟨limit, lines⟩ := goes.settings fresh₀.sound
  -- There is more fuel than ticks that are allowed, so the loop has ended by its verdict.
  have enough : n < s₀.fuel := by
    have horizon := w.allowance_le_horizon
    unfold fuel
    rw [workload₀]
    omega
  obtain ⟨judged, rfl⟩ : t.verdict ≠ .going ∧ u = t.conclude := by
    rcases ended with ended | ⟨spent, _⟩
    · exact ended
    · omega
  refine ⟨_, _, ran, ?_, ?_⟩
  · show t.conclude.timeline.size ≤ _
    have same : t.conclude.timeline = t.timeline := by simp
    rw [same, lines, lines₀]
    omega
  · rw [done_onto alike, ← limit₀, ← limit]
    exact ended_of_verdict judged

/-- A run that is neither stalled nor truncated ends because everybody has left. -/
theorem run_done {w : Workload} (fresh : s.Fresh) (early : s.started = false)
    (workload : s.workload = w) (pending : s.pending = inOrderOfArrival w.processes) :
    ∃ t u, s.Boundary t ∧ t.Ends u ∧ s.run = .ok u.report u ∧
      (u.stalled = false → u.truncated = false → t.done = true) := by
  obtain ⟨t, u, reached, ends, ran⟩ := run_ended fresh early
  obtain ⟨report, v, ran', _, ended⟩ := run_ends fresh early workload pending
  rw [ran] at ran'
  cases ran'
  refine ⟨t, u, reached, ends, ran, fun unstalled untruncated => ?_⟩
  rw [← ends.done]
  simpa [unstalled, untruncated] using ended

end SimulationM

/-- Without a limit a run ends because everybody has left or nobody can go on,
whichever built-in policy and protocol are in charge. It takes a tick at most for
each unit of work, for each request, for each process, and for the time until
the last arrival. -/
theorem run_terminates {text : Text} {w : Workload} {resources : Int}
    (parsed : Workload.ofText text = .ok w) (positive : 0 < resources)
    (fits : ∀ r ∈ w.resourceIds, r < resources) (d : Discipline) (protocol : Protocol) :
    ∃ s report t, Simulation.create w (.of d protocol) resources none = .ok s ∧
      s.run = .ok report t ∧ t.timeline.size ≤ w.allowance ∧
      (t.done = true ∨ t.stalled = true) := by
  obtain ⟨k, s, created, fresh, is⟩ := Simulation.create_of_valid (Workload.valid_ofText parsed)
    positive fits d protocol none
  obtain ⟨report, t, ran, lines, ended⟩ := SimulationM.run_ends (w := w) fresh
    (by rw [is]) (by rw [is]) (by rw [is])
  refine ⟨s, report, t, created, ran, ?_, ?_⟩
  · have nothing : s.timeline.size = 0 := by
      rw [is]
      rfl
    omega
  · rcases ended with done | stalled | ⟨_, limited⟩
    · exact .inl done
    · exact .inr stalled
    · exact absurd (by rw [is]) limited

theorem run_terminates_contended :
    ∃ s report t, Simulation.create .contended (.of .priority .fifo) 1 none = .ok s ∧
      s.run = .ok report t ∧ t.timeline.size ≤ Workload.contended.allowance ∧
      (t.done = true ∨ t.stalled = true) :=
  run_terminates Workload.ofText_contention (by decide)
    (by simp [Workload.resourceIds_contended]) .priority .fifo

end Uniprocessor
