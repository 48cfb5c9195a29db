import Uniprocessor.Proofs.Simulation.Bare

/-!
Shortest remaining time first is optimal.

Take a workload whose processes ask for nothing, and two runs of it, one under
shortest remaining time first and the other under any policy. At every tick the
first is ahead of the second with its backlog, so it has finished at least as many
jobs and its jobs have paid no more (`Simulation.Outpaces`); one tick keeps this
(`Simulation.Outpaces.tick`). At the end of a run the jobs have paid their times
of exit, and nothing is paid for ticks after that (`Simulation.MadeOf.linger`).
Since arrivals are the same, the sum of the turnarounds is least
(`shortest_remaining_optimal`).
-/

namespace Uniprocessor

variable {w : Workload} {s t u v : Simulation} {protocol : Protocol}

namespace Simulation

/-! ### Side by side -/

/-- The one simulation is ahead of the other, and its jobs have paid no more. -/
structure Outpaces (w : Workload) (s t : Simulation) : Prop where
  ahead : Backlog.Ahead s.kernel.handles.length (s.backlog w) (t.backlog w)
  paid : s.paid w ≤ t.paid w

/-- A tick that works on a job with the least work left keeps a simulation ahead,
whatever the other one does in that tick. -/
theorem Outpaces.tick {chosen chosen' : Option Handle} {event event' : TickEvent}
    (outpaces : s.Outpaces w t) (clock : s.kernel.tick = t.kernel.tick)
    (effect : s.Effect u chosen event) (effect' : t.Effect v chosen' event')
    (before : s.Steady w) (before' : t.Steady w) (after : u.Steady w)
    (backlog : u.backlog w = (s.backlog w).serve chosen)
    (shortest : Backlog.Shortest u.kernel.handles.length (s.backlog w) chosen) :
    u.Outpaces w v := by
  have count : t.kernel.handles.length = s.kernel.handles.length := by
    rw [before.length_handles, before'.length_handles, clock]
  constructor
  · rw [backlog, effect'.backlog]
    refine Backlog.Ahead.serve ?_ shortest
    refine outpaces.ahead.join_all (effect.length_handles_le before after) fun i absent _ => ?_
    rw [before.backlog_of_absent absent, before'.backlog_of_absent (by rw [count]; exact absent)]
  · have finished := outpaces.ahead.card_finished_le
    have staying := before.card_staying
    have staying' := before'.card_staying
    have paid := outpaces.paid
    rw [count] at staying'
    rw [effect.paid before, effect'.paid before']
    omega

/-! ### Runs -/

/-- Before the first tick no simulation is behind another. -/
theorem Fresh.outpaces (fresh : s.Fresh) (fresh' : t.Fresh) : s.Outpaces w t := by
  have idle : ∀ i, s.kernel.process i = t.kernel.process i := by
    intro i
    rw [Kernel.process_of_unused (by simp [fresh.kernel.handles]),
      Kernel.process_of_unused (by simp [fresh'.kernel.handles])]
  have backlog : s.backlog w = t.backlog w := by
    funext i
    rw [Simulation.backlog, Simulation.backlog, idle]
  have paid : s.paid w = t.paid w := by
    unfold Simulation.paid
    rw [fresh.kernel.tick, fresh'.kernel.tick]
    simp only [idle]
  exact ⟨backlog ▸ .refl _ _, paid.le⟩

/-- After any number of ticks a run under shortest remaining time first is ahead. -/
theorem MadeOf.outpaces {s₀ t₀ : Simulation} (bare : ∀ spec ∈ w.processes, spec.requests = [])
    (made : s₀.MadeOf w) (made' : t₀.MadeOf w)
    (policy : s₀.policy = .of .shortestRemaining protocol) (reached : s₀.Boundary s) (reached' : t₀.Boundary t)
    (clock : s.kernel.tick = t.kernel.tick) : s.Outpaces w t := by
  refine Boundary.side_by_side made.fresh made.early made'.fresh made'.early
    (fun _ _ fresh fresh' _ _ => fresh.outpaces fresh') ?_ reached reached' clock
  intro s t _ _ _ _ _ _ _ _ before before' same outpaces staged staged' after _
  have steady := made.steady before
  have steady' := made'.steady before'
  have policy' := (before.policy made.fresh made.early).trans policy
  exact outpaces.tick same (staged.effect steady.sound) (staged'.effect steady'.sound) steady
    steady' (made.steady after) (staged.backlog bare steady)
    (by simpa using staged.shortest bare steady policy')

/-! ### The end of a run -/

namespace Steady

/-- When everybody has left, the turnarounds are what has been paid since the arrivals. -/
theorem turnarounds (steady : t.Steady w) (done : t.done = true) :
    t.report.turnarounds.length = w.processes.length ∧
      t.report.turnarounds.sum = t.paid w - (w.processes.map (·.arrival)).sum := by
  obtain ⟨arrived, admits⟩ := steady.admits
  obtain ⟨nobody, left⟩ := steady.sound.roster.left_of_done done
  have everybody := steady.everybody nobody
  let exit (h : Handle) : Int := ((t.kernel.process h).exitTick.getD t.kernel.tick : Nat)
  have turnaround : ∀ h ∈ t.kernel.handles,
      (ProcessStats.ofProcess (t.kernel.process h)).turnaround =
        some (exit h - (t.kernel.process h).arrival) := by
    intro h used
    obtain ⟨n, is⟩ := steady.exitTick_of_left (left h used)
    simp [ProcessStats.turnaround, ProcessStats.ofProcess, exit, is]
  have listed : t.report.turnarounds =
      t.kernel.handles.map fun h => exit h - (t.kernel.process h).arrival := by
    have processes : t.processes = t.kernel.handles.map t.kernel.process :=
      steady.sound.roster.processes
    unfold Report.turnarounds Simulation.report
    rw [processes, List.map_map, List.filterMap_map]
    exact (List.filterMap_congr turnaround).trans (congrFun List.filterMap_eq_map _)
  refine ⟨by rw [listed, List.length_map, everybody], ?_⟩
  have paid : (t.paid w : Int) = (t.kernel.handles.map exit).sum := by
    have roster : t.kernel.handles = List.range t.kernel.handles.length :=
      steady.sound.roster.handles
    rw [roster, everybody, Simulation.paid, Nat.cast_sum]
    rfl
  have arrivals := admits.sum_eq (g := Process.arrival)
    (fun built => (ProcessSpec.declares_of_build built).arrival.symm) nobody
  have parts : (t.kernel.handles.map exit).sum =
      (t.kernel.handles.map fun h => exit h - (t.kernel.process h).arrival).sum +
        (t.kernel.handles.map fun h => (t.kernel.process h).arrival).sum := by
    rw [← List.sum_map_add]
    simp only [Int.sub_add_cancel]
  rw [listed, paid, arrivals]
  omega

end Steady

/-- After everybody has left nothing changes in a tick but the time. -/
theorem MadeOf.rest (made : s.MadeOf w) (reached : s.Boundary t) (nobody : t.pending = [])
    (left : ∀ h ∈ t.kernel.handles, (t.kernel.process h).state = .exited) :
    ∃ u, s.Boundary u ∧ u.kernel.tick = t.kernel.tick + 1 ∧ u.pending = [] ∧
      u.kernel.handles = t.kernel.handles ∧
      ∀ h, (u.kernel.process h).life = (t.kernel.process h).life := by
  obtain ⟨t', _, reached', started, alike, is⟩ := reached.begin made.fresh made.early
  have sound := (made.steady reached').sound
  have nobody' : t'.pending = [] := by
    rw [is]
    exact nobody
  obtain ⟨g, e, chosen, event, staged⟩ := SimulationM.run_staged sound
  have gathered : g = t' := by
    have ran := staged.gathered
    rw [nobody'] at ran
    cases ran
    rfl
  subst gathered
  have gathered : Sound ⟨.choosing, g⟩ := sound.reaches staged.arrived
  -- All who have come have left, so nobody can be chosen.
  cases chosen with
  | some h =>
      obtain ⟨k, _, choice⟩ := staged.chose
      obtain ⟨used, able⟩ := gathered.able_of_named choice
      have gone := left h (alike.handles ▸ used)
      rw [alike.state, gone] at able
      simp at able
  | none =>
      obtain ⟨rfl, move⟩ := staged.rests rfl
      obtain ⟨handles, pending⟩ := gathered.settled move nofun
      have effect := staged.effect sound
      refine ⟨_, .ticked reached' started staged.ended, ?_, ?_, ?_, ?_⟩
      · rw [effect.clock, alike.tick]
      · simpa using pending.trans nobody'
      · simpa using handles.trans alike.handles
      · intro h
        rw [effect.life, lifeIn_of_other (by simp), alike.life]

/-- However long a simulation lingers after everybody has left, nothing more is paid. -/
theorem MadeOf.linger (made : s.MadeOf w) (reached : s.Boundary t) (done : t.done = true)
    (m : Nat) : ∃ u, s.Boundary u ∧ u.kernel.tick = t.kernel.tick + m ∧ u.paid w = t.paid w := by
  have steady := made.steady reached
  obtain ⟨nobody, left⟩ := steady.sound.roster.left_of_done done
  have lingers : ∃ u, s.Boundary u ∧ u.kernel.tick = t.kernel.tick + m ∧ u.pending = [] ∧
      u.kernel.handles = t.kernel.handles ∧
      ∀ h, (u.kernel.process h).life = (t.kernel.process h).life := by
    induction m with
    | zero => exact ⟨t, reached, rfl, nobody, rfl, fun _ => rfl⟩
    | succ m ih =>
        obtain ⟨u, reached', clock, nobody', handles, life⟩ := ih
        have gone : ∀ h ∈ u.kernel.handles, (u.kernel.process h).state = .exited := by
          intro h used
          exact (Process.exited_of_life (life h)).mpr (left h (handles ▸ used))
        obtain ⟨v, reached'', clock', nobody'', handles', life'⟩ := made.rest reached' nobody' gone
        exact ⟨v, reached'', by omega, nobody'', handles'.trans handles,
          fun h => (life' h).trans (life h)⟩
  obtain ⟨u, reached', clock, _, _, life⟩ := lingers
  refine ⟨u, reached', clock, Finset.sum_congr rfl fun i mem => ?_⟩
  have used : i ∈ t.kernel.handles := by
    rw [steady.mem_handles_iff, steady.everybody nobody]
    exact Finset.mem_range.mp mem
  obtain ⟨n, is⟩ := steady.exitTick_of_left (left i used)
  have same : (u.kernel.process i).exitTick = (t.kernel.process i).exitTick :=
    congrArg (·.exitTick) (life i)
  rw [same, is]
  rfl

end Simulation

/-- On a parsed workload whose processes ask for nothing, the turnarounds of the run under
shortest remaining time first add up to no more than those of the run under any other
built-in policy. Both runs end when everybody has left, so every process has a turnaround. -/
theorem shortest_remaining_optimal {text : Text} {w : Workload} {resources : Int}
    (parsed : Workload.ofText text = .ok w) (positive : 0 < resources)
    (fits : ∀ r ∈ w.resourceIds, r < resources)
    (bare : ∀ spec ∈ w.processes, spec.requests = []) (p q : Protocol) (d : Discipline) :
    ∃ s t report report' s' t',
      Simulation.create w (.of .shortestRemaining p) resources none = .ok s ∧
      Simulation.create w (.of d q) resources none = .ok t ∧
      s.run = .ok report s' ∧ t.run = .ok report' t' ∧
      report.turnarounds.length = w.processes.length ∧
      report'.turnarounds.length = w.processes.length ∧
      report.turnarounds.sum ≤ report'.turnarounds.sum := by
  obtain ⟨s, created, made, policy, unlimited⟩ :=
    Simulation.exists_madeOf parsed positive fits .shortestRemaining p none
  obtain ⟨t, created', made', _, unlimited'⟩ :=
    Simulation.exists_madeOf parsed positive fits d q none
  obtain ⟨e, u, reached, done, ends, ran⟩ := made.ends unlimited bare
  obtain ⟨e', v, reached', done', ends', ran'⟩ := made'.ends unlimited' bare
  -- The run that ends earlier lingers until the other one has ended too.
  obtain ⟨l, later, clock, paid⟩ := made.linger reached done e'.kernel.tick
  obtain ⟨l', later', clock', paid'⟩ := made'.linger reached' done' e.kernel.tick
  have outpaces := made.outpaces bare made' policy later later' (by omega)
  have least := outpaces.paid
  obtain ⟨count, sum⟩ := (made.steady reached).turnarounds done
  obtain ⟨count', sum'⟩ := (made'.steady reached').turnarounds done'
  have same : u.report.turnarounds = e.report.turnarounds := by rw [ends.report]; rfl
  have same' : v.report.turnarounds = e'.report.turnarounds := by rw [ends'.report]; rfl
  refine ⟨s, t, _, _, u, v, created, created', ran, ran', ?_, ?_, ?_⟩
  · rw [same, count]
  · rw [same', count']
  · rw [same, same', sum, sum']
    omega

/-- A workload in which a short process comes while a long one has the processor. -/
def Workload.overlap : Text :=
  Text.ofString ("process 1 \x7b\n lifespan 3\n\x7d\n" ++
    "process 2 \x7b\n start 1\n lifespan 1\n\x7d\n")

def Workload.overlapping : Workload where
  processes := [{ pid := 1, lifespan := 3 }, { pid := 2, lifespan := 1, arrival := 1 }]

theorem Workload.ofText_overlap : Workload.ofText overlap = .ok overlapping := by decide +kernel

theorem shortest_remaining_optimal_overlap :
    ∃ s t report report' s' t',
      Simulation.create .overlapping (.of .shortestRemaining .fifo) 1 none = .ok s ∧
      Simulation.create .overlapping (.of .firstCome .fifo) 1 none = .ok t ∧
      s.run = .ok report s' ∧ t.run = .ok report' t' ∧
      report.turnarounds.length = Workload.overlapping.processes.length ∧
      report'.turnarounds.length = Workload.overlapping.processes.length ∧
      report.turnarounds.sum ≤ report'.turnarounds.sum :=
  shortest_remaining_optimal Workload.ofText_overlap (by decide) (by decide +kernel) (by decide)
    .fifo .fifo .firstCome

end Uniprocessor
