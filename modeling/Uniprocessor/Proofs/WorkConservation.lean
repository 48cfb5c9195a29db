import Uniprocessor.Proofs.Simulation.Bare

/-!
Every policy conserves work in the same way.

Take a workload whose processes ask for nothing, and two runs of it under any two
policies. After as many ticks the same processes have arrived and as much work is
left on both sides, though not of the same processes, and both have been idle in the
same ticks (`Simulation.Level`). A tick keeps this, because it is idle just when no
work is left and otherwise takes one off it, whoever is chosen
(`Simulation.Level.tick`). A run ends once nobody is to come and no work is left, so
both take as many ticks (`work_conserving`).
-/

namespace Uniprocessor

/-- The ticks that were idle. -/
def Report.idling (r : Report) : List Int :=
  (r.timeline.filter (·.event == .idle)).map (·.tick)

namespace Simulation

/-- The work left of the processes that have arrived. -/
def workLeft (t : Simulation) : Nat := (t.processes.map Process.remaining).sum

/-- As much work is left on both sides, and both have been idle in the same ticks. -/
structure Level (s t : Simulation) : Prop where
  left : t.workLeft = s.workLeft
  idle : t.report.idling = s.report.idling

variable {w : Workload} {s t u v g e : Simulation} {chosen chosen' : Option Handle}
  {event event' : TickEvent}

/-! ### The work that is left -/

theorem Steady.workLeft_eq (steady : t.Steady w) :
    t.workLeft = ∑ i ∈ Finset.range t.kernel.handles.length, t.backlog w i := by
  obtain ⟨arrived, admits⟩ := steady.admits
  have roster := steady.sound.roster
  have listed : t.kernel.handles = List.range t.kernel.handles.length := roster.handles
  have remaining : ∀ h ∈ t.kernel.handles, (t.kernel.process h).remaining = t.backlog w h := by
    intro h used
    rw [Simulation.backlog, Process.remaining, admits.lifespan_eq roster used]
  have whole : t.workLeft = (t.kernel.handles.map fun h => t.backlog w h).sum := by
    unfold workLeft
    rw [roster.processes, List.map_map]
    exact congrArg List.sum (List.map_congr_left remaining)
  rw [whole, listed, List.length_range]
  rfl

/-- Those who arrive in a tick bring their work with them. -/
theorem Effect.sum_backlog (effect : s.Effect u chosen event) (before : s.Steady w)
    (after : u.Steady w) :
    ∑ i ∈ Finset.range u.kernel.handles.length, s.backlog w i = s.workLeft +
      ∑ i ∈ Finset.Ico s.kernel.handles.length u.kernel.handles.length, w.work i := by
  rw [before.workLeft_eq,
    ← Finset.sum_range_add_sum_Ico _ (effect.length_handles_le before after)]
  congr 1
  refine Finset.sum_congr rfl fun i mem => ?_
  exact before.backlog_of_absent (Finset.mem_Ico.mp mem).1

/-- All is done once everybody has arrived and no work is left. -/
theorem Steady.done_iff (steady : t.Steady w) :
    t.done = true ↔ (w.arrivedBy t.kernel.tick).length = w.processes.length ∧ t.workLeft = 0 := by
  obtain ⟨arrived, admits⟩ := steady.admits
  have roster := steady.sound.roster
  have order := congrArg List.length admits.order
  rw [inOrderOfArrival, List.length_mergeSort, List.length_append, admits.arrived_eq] at order
  have come : t.pending = [] ↔ (w.arrivedBy t.kernel.tick).length = w.processes.length := by
    rw [← List.length_eq_zero_iff]
    omega
  have gone : (∀ h ∈ t.kernel.handles, (t.kernel.process h).state = .exited) ↔
      t.workLeft = 0 := by
    rw [steady.workLeft_eq, Finset.sum_eq_zero_iff]
    refine forall_congr' fun h => ?_
    rw [Finset.mem_range, ← steady.mem_handles_iff]
    refine forall_congr' fun used => ?_
    rw [steady.backlog_eq_zero_iff used, ne_eq, steady.left, not_not]
  rw [← come, ← gone]
  simp [Simulation.done, roster.processes]

/-- The line of a tick tells whether it was idle. -/
theorem Effect.idling (effect : s.Effect u chosen event) :
    u.report.idling =
      s.report.idling ++ if event = .idle then [(s.kernel.tick : Int)] else [] := by
  have timeline := congrArg Array.toList effect.timeline
  rw [Array.toList_push] at timeline
  simp only [Report.idling, Simulation.report, timeline, List.filter_append, List.map_append]
  congr 1
  cases event <;> rfl

/-! ### Side by side -/

/-- Before the first tick two runs are level. -/
theorem Fresh.level (fresh : s.Fresh) (fresh' : t.Fresh) (empty : s.timeline = #[])
    (empty' : t.timeline = #[]) : s.Level t := by
  constructor
  · rw [workLeft, workLeft, fresh.sound.roster.processes, fresh'.sound.roster.processes,
      fresh.kernel.handles, fresh'.kernel.handles]
    rfl
  · simp [Report.idling, Simulation.report, empty, empty']

/-- A tick keeps two runs level, whoever is chosen. -/
theorem Level.tick (level : s.Level t) (clock : s.kernel.tick = t.kernel.tick)
    (before : s.Steady w) (before' : t.Steady w) (after : u.Steady w) (after' : v.Steady w)
    (effect : s.Effect u chosen event) (effect' : t.Effect v chosen' event')
    (served : Backlog.Served u.kernel.handles.length (s.backlog w) chosen)
    (served' : Backlog.Served v.kernel.handles.length (t.backlog w) chosen')
    (backlog : u.backlog w = (s.backlog w).serve chosen)
    (backlog' : v.backlog w = (t.backlog w).serve chosen')
    (idle : event = .idle ↔ chosen = none) (idle' : event' = .idle ↔ chosen' = none) :
    u.Level v := by
  have later := effect.clock
  have later' := effect'.clock
  have count : t.kernel.handles.length = s.kernel.handles.length := by
    rw [before.length_handles, before'.length_handles, clock]
  have count' : v.kernel.handles.length = u.kernel.handles.length := by
    rw [after.length_handles, after'.length_handles, later, later', clock]
  have gathered : ∑ i ∈ Finset.range v.kernel.handles.length, t.backlog w i =
      ∑ i ∈ Finset.range u.kernel.handles.length, s.backlog w i := by
    rw [effect.sum_backlog before after, effect'.sum_backlog before' after', level.left, count,
      count']
  have rests : chosen' = none ↔ chosen = none := by
    rw [served.eq_none_iff, served'.eq_none_iff, gathered]
  constructor
  · rw [after.workLeft_eq, after'.workLeft_eq, backlog, backlog', served.sum, served'.sum, gathered]
  · rw [effect.idling, effect'.idling, level.idle, clock]
    simp only [idle, idle', rests]

/-- After as many ticks two runs of processes that ask for nothing are level. -/
theorem MadeOf.level {s₀ t₀ : Simulation} (bare : ∀ spec ∈ w.processes, spec.requests = [])
    (made : s₀.MadeOf w) (made' : t₀.MadeOf w) (reached : s₀.Boundary s)
    (reached' : t₀.Boundary t) (clock : s.kernel.tick = t.kernel.tick) : s.Level t := by
  refine Boundary.side_by_side made.fresh made.early made'.fresh made'.early ?_ ?_ reached
    reached' clock
  · intro s t fresh fresh' is is'
    exact fresh.level fresh' (by rw [is, made.timeline]) (by rw [is', made'.timeline])
  · intro s t _ _ _ _ _ _ _ _ before before' same level staged staged' after after'
    have steady := made.steady before
    have steady' := made'.steady before'
    exact level.tick same steady steady' (made.steady after) (made'.steady after')
      (staged.effect steady.sound) (staged'.effect steady'.sound)
      (by simpa using staged.served bare steady) (by simpa using staged'.served bare steady')
      (staged.backlog bare steady) (staged'.backlog bare steady') (staged.idle_iff bare steady)
      (staged'.idle_iff bare steady')

/-! ### Whole runs -/

variable {s' s₀ s₀' t' : Simulation} {n n' : Nat}

/-- Where two runs are level, both go on or neither does. -/
theorem Level.going (level : s.Level t) (clock : s.kernel.tick = t.kernel.tick)
    (bare : ∀ spec ∈ w.processes, spec.requests = []) (steady : s.Steady w) (steady' : t.Steady w)
    (limit : t.limit = s.limit) (going : t.verdict = .going) : s.verdict = .going := by
  obtain ⟨unfinished, within, _⟩ := verdict_eq_going_iff.mp going
  refine verdict_eq_going_iff.mpr ⟨?_, ?_, steady.stuck_eq_false bare⟩
  · rw [Bool.eq_false_iff, ne_eq, steady.done_iff, clock, ← level.left, ← steady'.done_iff,
      ← ne_eq, ← Bool.eq_false_iff]
    exact unfinished
  · rw [atLimit, clock, ← limit]
    exact within

/-- What a run is judged at is a boundary, after as many ticks. -/
theorem MadeOf.boundary (made : s.MadeOf w)
    (begun : EStateM.run SimulationM.startOnce s = .ok () s₀) (goes : Goes n s₀ t) :
    s.Boundary t ∧ t.kernel.tick = n := by
  obtain ⟨fresh, is⟩ := made.begun begun
  have clock := (goes.lines fresh.sound).2
  have start := fresh.kernel.tick
  exact ⟨goes.boundary fresh.sound (by rw [is]) (.begun begun), by omega⟩

/-- The end of a run changes nothing about how level it is. -/
theorem Level.ends (level : s.Level t) (ends : s.Ends u) (ends' : t.Ends v) : u.Level v := by
  constructor
  · rw [workLeft, workLeft, ends.processes, ends'.processes]
    exact level.left
  · rw [ends.report, ends'.report]
    exact level.idle

/-- The report of a run has a line for each tick. -/
theorem Course.totalTicks (course : s.Course s₀ n t) (made : s.MadeOf w) :
    t.ended.report.totalTicks = n := by
  rw [t.ends_ended.report]
  exact made.timeline_length course.begun course.goes

/-- The one run takes no more ticks than the other. -/
theorem Course.ticks_le (bare : ∀ spec ∈ w.processes, spec.requests = [])
    (made : s.MadeOf w) (made' : s'.MadeOf w) (limit : s'.limit = s.limit)
    (course : s.Course s₀ n t) (course' : s'.Course s₀' n' t') : n' ≤ n := by
  by_contra more
  -- Where the first run has ended, the second one has ticks left to make.
  obtain ⟨u, first, last⟩ := course'.goes.split (Nat.le_of_lt (Nat.not_le.mp more))
  have going := last.going (by omega)
  obtain ⟨reached, clock⟩ := made.boundary course.begun course.goes
  obtain ⟨reached', clock'⟩ := made'.boundary course'.begun first
  have level := made.level bare made' reached reached' (clock.trans clock'.symm)
  refine course.judged (level.going (clock.trans clock'.symm) bare (made.steady reached)
    (made'.steady reached') ?_ going)
  rw [(reached.flags made.fresh made.early).1, (reached'.flags made'.fresh made'.early).1, limit]

/-- The clock counts the steps from the start. -/
theorem MadeOf.steps (made : s.MadeOf w) (n : Nat) :
    ∃ t, EStateM.run (SimulationM.steps n) s = .ok () t ∧ s.Boundary t ∧ t.kernel.tick = n := by
  obtain ⟨t, ran, reached⟩ := SimulationM.run_steps made.fresh made.early n
  have logged := made.logged reached
  have size := Boundary.made.size_timeline_steps made.fresh made.early ran
  refine ⟨t, ran, reached, ?_⟩
  rw [logged.clock, Array.length_toList, size, made.timeline]
  simp

end Simulation

/-- On a parsed workload whose processes ask for nothing, the runs under any two built-in
policies take as many ticks and are idle in the same ones, and after as many ticks the
processes that have arrived have as much work left on both sides. -/
theorem work_conserving {text : Text} {w : Workload} {resources : Int}
    (parsed : Workload.ofText text = .ok w) (positive : 0 < resources)
    (fits : ∀ r ∈ w.resourceIds, r < resources)
    (bare : ∀ spec ∈ w.processes, spec.requests = []) (d d' : Discipline) (p q : Protocol)
    (limit : Option Int) :
    ∃ s s', Simulation.create w (.of d p) resources limit = .ok s ∧
      Simulation.create w (.of d' q) resources limit = .ok s' ∧
      (∀ n, ∃ t t', EStateM.run (SimulationM.steps n) s = .ok () t ∧
        EStateM.run (SimulationM.steps n) s' = .ok () t' ∧ t.Level t') ∧
      ∃ t t', s.run = .ok t.report t ∧ s'.run = .ok t'.report t' ∧
        t.report.totalTicks = t'.report.totalTicks ∧ t.Level t' := by
  obtain ⟨s, created, made, _, limited⟩ :=
    Simulation.exists_madeOf parsed positive fits d p limit
  obtain ⟨s', created', made', _, limited'⟩ :=
    Simulation.exists_madeOf parsed positive fits d' q limit
  refine ⟨s, s', created, created', fun n => ?_, ?_⟩
  · obtain ⟨t, ran, reached, clock⟩ := made.steps n
    obtain ⟨t', ran', reached', clock'⟩ := made'.steps n
    exact ⟨t, t', ran, ran', made.level bare made' reached reached' (clock.trans clock'.symm)⟩
  · obtain ⟨s₀, n, t, course⟩ := made.course
    obtain ⟨s₀', n', t', course'⟩ := made'.course
    -- Neither run ends while the other one goes on.
    have same : n' = n := Nat.le_antisymm
      (course.ticks_le bare made made' (limited'.trans limited.symm) course')
      (course'.ticks_le bare made' made (limited.trans limited'.symm) course)
    subst same
    obtain ⟨reached, clock⟩ := made.boundary course.begun course.goes
    obtain ⟨reached', clock'⟩ := made'.boundary course'.begun course'.goes
    have level := made.level bare made' reached reached' (clock.trans clock'.symm)
    exact ⟨t.ended, t'.ended, course.run, course'.run,
      (course.totalTicks made).trans (course'.totalTicks made').symm,
      level.ends t.ends_ended t'.ends_ended⟩

/-- A workload with an idle tick, after which a short process comes while a long one has the
processor. -/
def Workload.delay : Text :=
  Text.ofString ("process 1 \x7b\n start 1\n lifespan 3\n\x7d\n" ++
    "process 2 \x7b\n start 2\n lifespan 1\n\x7d\n")

def Workload.delayed : Workload where
  processes := [{ pid := 1, lifespan := 3, arrival := 1 },
    { pid := 2, lifespan := 1, arrival := 2 }]

theorem Workload.ofText_delay : Workload.ofText delay = .ok delayed := by decide +kernel

theorem work_conserving_delay :
    ∃ s s', Simulation.create .delayed (.of .shortestRemaining .fifo) 1 none = .ok s ∧
      Simulation.create .delayed (.of (.roundRobin 1) .fifo) 1 none = .ok s' ∧
      (∀ n, ∃ t t', EStateM.run (SimulationM.steps n) s = .ok () t ∧
        EStateM.run (SimulationM.steps n) s' = .ok () t' ∧ t.Level t') ∧
      ∃ t t', s.run = .ok t.report t ∧ s'.run = .ok t'.report t' ∧
        t.report.totalTicks = t'.report.totalTicks ∧ t.Level t' :=
  work_conserving Workload.ofText_delay (by decide) (by decide +kernel) (by decide)
    .shortestRemaining (.roundRobin 1) .fifo .fifo none

end Uniprocessor
