import Uniprocessor.Proofs.Policy.Decision
import Uniprocessor.Proofs.Simulation.Parts
import Uniprocessor.Proofs.Stepping

/-!
Starting later only delays.

A workload whose processes all arrive later by as many ticks has nothing to do at
first: its simulation idles, and is then as it was but for the clock and the idle
lines (`SimulationM.run_tick_waiting`, `Simulation.goes_waited`). From there on it
stands for the simulation of the workload in the guise that only starts the clock
later (`Guise.postpone`), so both make the same ticks. The report is that of the
workload, later by as many ticks (`later_start_delays`).
-/

namespace Uniprocessor

/-! ### The same, later -/

/-- The lines of so many ticks at the start in which nothing happens. -/
def idleLines (delay : Nat) : List TickRecord :=
  (List.range delay).map fun i => ⟨i, none, .idle⟩

theorem idleLines_succ (delay : Nat) :
    idleLines (delay + 1) = idleLines delay ++ [⟨delay, none, .idle⟩] := by
  simp [idleLines, List.range_succ]

/-- The workload with all arrivals later by as many ticks. -/
def Workload.postponed (delay : Nat) (w : Workload) : Workload :=
  { w with processes := w.processes.map fun spec => { spec with arrival := spec.arrival + delay } }

/-- The line, later by as many ticks. -/
def TickRecord.postponed (delay : Nat) (line : TickRecord) : TickRecord :=
  { line with tick := line.tick + delay }

/-- What becomes of the process if it arrives and leaves later by as many ticks. -/
def ProcessStats.postponed (delay : Nat) (p : ProcessStats) : ProcessStats :=
  { p with arrival := p.arrival + delay, exitTick := p.exitTick.map (· + delay) }

/-- The report of the same run, after as many idle ticks. -/
def Report.postponed (delay : Nat) (r : Report) : Report :=
  { r with
    timeline := idleLines delay ++ r.timeline.map (·.postponed delay)
    processes := r.processes.map (·.postponed delay) }

/-- Whoever arrives and leaves later is not there for longer. -/
theorem ProcessStats.turnaround_postponed (delay : Nat) (p : ProcessStats) :
    (p.postponed delay).turnaround = p.turnaround := by
  unfold turnaround postponed
  rw [Option.map_map]
  congr 1
  funext exit
  simp only [Function.comp_apply]
  omega

theorem ProcessStats.waiting_postponed (delay : Nat) (p : ProcessStats) :
    (p.postponed delay).waiting = p.waiting := by
  unfold waiting
  rw [p.turnaround_postponed delay]
  rfl

namespace Report

theorem turnarounds_postponed (delay : Nat) (r : Report) :
    (r.postponed delay).turnarounds = r.turnarounds := by
  simp [turnarounds, postponed, List.filterMap_map, ProcessStats.turnaround_postponed]

theorem waitings_postponed (delay : Nat) (r : Report) :
    (r.postponed delay).waitings = r.waitings := by
  simp [waitings, postponed, List.filterMap_map, ProcessStats.waiting_postponed]

end Report

/-! ### The guise that starts the clock later -/

/-- Every number and every priority as it is, after so many idle ticks. -/
def Guise.postpone (delay : Nat) : Guise :=
  { Guise.same with delay, before := idleLines delay }

namespace Guise

variable (delay : Nat) (w : Workload)

theorem workload_postpone : (postpone delay).workload w = w.postponed delay := by
  simp [workload, Workload.postponed, spec, postpone, same, Table.mapValues]

theorem covers_postpone : (postpone delay).Covers w :=
  ⟨fun _ _ => ⟨trivial, trivial⟩, fun _ _ => trivial⟩

/-- The arrival of a process has no part in the ceilings. -/
theorem ceilings_postponed : (w.postponed delay).ceilings = w.ceilings := by
  rw [← workload_postpone, (covers_postpone delay w).ceilings_workload]
  simp [postpone, same, Table.mapValues]

theorem line_postpone : (postpone delay).line = TickRecord.postponed delay := by
  funext record
  simp [Guise.line, postpone, same, TickRecord.postponed]

variable {delay}

theorem ofProcess_postpone {p q : Process} (stands : p.Guised (postpone delay) q) :
    ProcessStats.ofProcess q = (ProcessStats.ofProcess p).postponed delay := by
  have pid : q.pid = p.pid := stands.pid
  have name : q.name = p.name := stands.name rfl
  have exitTick : q.exitTick = p.exitTick.map (· + delay) := stands.exitTick
  have arrival : q.arrival = p.arrival + delay := stands.arrival
  simp [ProcessStats.ofProcess, ProcessStats.postponed, pid, name, exitTick, arrival,
    stands.lifespan, stands.age, Function.comp_def]

end Guise

/-! ### Waiting for the first one -/

/-- Where nobody could be chosen, a discipline that has used nothing of a slice leaves
everything as it is. -/
theorem Discipline.run_schedule_of_nobody {d : Discipline} {k : Kernel} (order : k.Orderly)
    (nobody : Policy.candidates k = [])
    (unused : ∀ q, d = .roundRobin q → k.memory.sliceUsed = 0) :
    d.schedule.run k = .ok none k := by
  obtain ⟨k', ran, scheduled⟩ := d.scheduled order.schedulable
  obtain ⟨free, empty⟩ := List.append_eq_nil_iff.mp nobody
  rw [Option.toList_eq_nil_iff] at free
  have decides : d.decision k = ⟨none, none, k.memory.sliceUsed⟩ := by
    cases d with
    | firstCome | shortestJob => simp [decision, Policy.candidates, free, empty]
    | shortestRemaining | priority | priorityCeiling | priorityInheritance =>
        simp [decision, Policy.leastOf_of_free free, Kernel.least?, empty]
    | roundRobin q => simp [decision, Policy.lasts, free, empty, unused q rfl]
  rw [decides] at ran scheduled
  obtain ⟨chosen, k'', ran', choice⟩ := d.run_schedule order
  rw [ran] at ran'
  cases ran'
  obtain ⟨_, _, used, rfl⟩ := choice.of_none
  have slice : used = k.memory.sliceUsed := congrArg (·.sliceUsed) scheduled.memory
  rw [Policy.withSlice_of_eq slice.symm] at ran
  exact ran

namespace SimulationM

variable {s : Simulation} {d : Discipline} {protocol : Protocol}

theorem run_arrivals_of_early {l : List ProcessSpec}
    (early : ∀ spec ∈ l, (s.kernel.tick : Int) < spec.arrival) :
    EStateM.run (arrivals l) s = .ok () s := by
  cases l with
  | nil => rfl
  | cons spec later =>
      have late := Int.not_le.mpr (early spec List.mem_cons_self)
      simp [arrivals, late]

/-- A tick in which nobody is there or arrives is idle, and only moves the clock. -/
theorem run_tick_waiting (order : s.kernel.Orderly) (policy : s.policy = .of d protocol)
    (early : ∀ spec ∈ s.pending, (s.kernel.tick : Int) < spec.arrival)
    (current : s.kernel.current = none) (ready : s.kernel.queue .ready = [])
    (unused : ∀ q, d = .roundRobin q → s.kernel.memory.sliceUsed = 0) :
    EStateM.run tick s = .ok ⟨s.kernel.tick, none, .idle⟩
      (s.close ⟨s.kernel.tick, none, .idle⟩) := by
  have nobody : Policy.candidates s.kernel = [] := by
    simp [Policy.candidates, Policy.continuing, current, ready]
  have chose : s.policy.schedule.run s.kernel = .ok none s.kernel := by
    rw [policy]
    exact d.run_schedule_of_nobody order nobody unused
  have same : s.kernel.turnTo none = s.kernel := by
    rw [← current]
    rfl
  rw [run_tick_idle (run_arrivals_of_early early) chose, same]
  rfl

/-- Once a run under round robin has started nothing of the slice is used. -/
theorem slice_of_setUp {q : Nat} {k k' : Kernel}
    (prepared : (Policy.of (.roundRobin q) protocol).setUp.run k = .ok true k') :
    k'.memory.sliceUsed = 0 := by
  cases protocol <;> (cases prepared; rfl)

/-- The policy prepares the same kernel in the same way, and starts with nothing of the slice
used. -/
theorem run_startOnce_together {t s₀ t₀ : Simulation} (policy : s.policy = .of d protocol)
    (policy' : t.policy = .of d protocol) (kernel : t.kernel = s.kernel)
    (early : s.started = false) (early' : t.started = false)
    (begun : EStateM.run startOnce s = .ok () s₀) (begun' : EStateM.run startOnce t = .ok () t₀) :
    t₀.kernel = s₀.kernel ∧ ∀ q, d = .roundRobin q → t₀.kernel.memory.sliceUsed = 0 := by
  obtain ⟨k, prepared, _⟩ := run_setUp d protocol s.kernel
  rw [run_startOnce_of_setUp early (by rw [policy]; exact prepared)] at begun
  rw [run_startOnce_of_setUp early' (by rw [policy', kernel]; exact prepared)] at begun'
  cases begun
  cases begun'
  refine ⟨by rw [policy, policy']; rfl, ?_⟩
  rintro q rfl
  have unused : k.memory.sliceUsed = 0 := slice_of_setUp prepared
  exact unused

end SimulationM

namespace Simulation

variable {w : Workload} {s t u : Simulation} {d : Discipline} {protocol : Protocol} {delay : Nat}

/-- The simulation after so many ticks from the start in which nothing has happened. -/
def waited (t : Simulation) (ticks : Nat) : Simulation :=
  { t with
    kernel := t.kernel.after ticks
    timeline := t.timeline ++ (idleLines ticks).toArray }

/-- As long as somebody is to come and nobody has, the simulation goes on and waits. -/
theorem goes_waited (fresh : t.Fresh) (policy : t.policy = .of d protocol)
    (unused : ∀ q, d = .roundRobin q → t.kernel.memory.sliceUsed = 0)
    (unlimited : t.limit = none) (somebody : t.pending ≠ []) {ticks : Nat}
    (early : ∀ spec ∈ t.pending, (ticks : Int) ≤ spec.arrival) : Goes ticks t (t.waited ticks) := by
  -- On the ticks. Nobody is due yet, so each of them is idle and changes the time only.
  induction ticks with
  | zero =>
      have same : t.waited 0 = t := by
        show { t with kernel := t.kernel.after 0, timeline := t.timeline ++ #[] } = t
        rw [Array.append_empty]
        rfl
      rw [same]
      exact .stay
  | succ ticks ih =>
      have goes := ih fun spec mem => by
        have late := early spec mem
        omega
      have clock : (t.waited ticks).kernel.tick = ticks := by
        show t.kernel.tick + ticks = ticks
        rw [fresh.kernel.tick, Nat.zero_add]
      have going : (t.waited ticks).verdict = .going := by
        have pending : (t.waited ticks).pending.isEmpty = false := by
          simpa [waited] using somebody
        have limit : (t.waited ticks).limit = none := unlimited
        refine verdict_eq_going_iff.mpr ⟨?_, ?_, ?_⟩
        · simp [done, pending]
        · simp [atLimit, limit]
        · simp [stuck, pending]
      have ran := SimulationM.run_tick_waiting (goes.sound fresh.sound).order
        (s := t.waited ticks) policy (fun spec mem => ?_) fresh.kernel.current ?_ unused
      · have next : (t.waited ticks).close ⟨(t.waited ticks).kernel.tick, none, .idle⟩ =
            t.waited (ticks + 1) := by
          have lines : t.timeline ++ (idleLines (ticks + 1)).toArray =
              (t.timeline ++ (idleLines ticks).toArray).push ⟨ticks, none, .idle⟩ := by
            simp [idleLines_succ]
          unfold waited close
          rw [lines]
          unfold waited at clock
          rw [clock]
          rfl
        rw [next] at ran
        exact goes.append (.go going ran .stay)
      · have late := early spec mem
        rw [clock]
        omega
      · exact (t.kernel.queue_after ticks .ready).trans (fresh.kernel.queue .ready)

/-- The simulation of a workload that starts later waits as long as that. -/
theorem MadeOf.waits (made : t.MadeOf (w.postponed delay)) {t₀ : Simulation}
    (begun : EStateM.run SimulationM.startOnce t = .ok () t₀) (valid : w.Valid)
    (somebody : w.processes ≠ []) (policy : t.policy = .of d protocol)
    (unused : ∀ q, d = .roundRobin q → t₀.kernel.memory.sliceUsed = 0)
    (unlimited : t.limit = none) : Goes delay t₀ (t₀.waited delay) := by
  obtain ⟨fresh, is⟩ := made.begun begun
  have pending : t₀.pending = inOrderOfArrival (w.postponed delay).processes :=
    (congrArg (·.pending) is).trans made.pending
  refine goes_waited fresh (by rw [is, policy]) unused (by rw [is, unlimited]) ?_ ?_
  · intro nobody
    have length := congrArg List.length (pending.symm.trans nobody)
    rw [inOrderOfArrival, List.length_mergeSort] at length
    exact somebody (by simpa [Workload.postponed] using length)
  · intro spec mem
    rw [pending] at mem
    obtain ⟨own, declared, rfl⟩ := List.mem_map.mp (List.mem_mergeSort.mp mem)
    have start := (valid.specs own declared).arrival
    show (delay : Int) ≤ own.arrival + delay
    omega

/-- After the delay a simulation that starts later stands for the one that does not. -/
theorem MadeOf.guised_waited (made : s.MadeOf w) (made' : t.MadeOf (w.postponed delay))
    {s₀ t₀ : Simulation} (begun : EStateM.run SimulationM.startOnce s = .ok () s₀)
    (begun' : EStateM.run SimulationM.startOnce t = .ok () t₀) (policy : t.policy = s.policy)
    (kernel : t₀.kernel = s₀.kernel) : s₀.Guised (.postpone delay) [] (t₀.waited delay) := by
  obtain ⟨fresh, is⟩ := made.begun begun
  have is' := (made'.begun begun').2
  have same : t₀ = { s₀ with
      workload := w.postponed delay
      limit := t.limit
      pending := s₀.pending.map (Guise.postpone delay).spec } := by
    have pending : inOrderOfArrival (w.postponed delay).processes =
        (inOrderOfArrival w.processes).map (Guise.postpone delay).spec := by
      rw [← Guise.workload_postpone]
      exact Guise.inOrderOfArrival_map w.processes
    rw [is', is, made.is, made'.is, pending, policy, kernel]
  have waits : (t₀.waited delay).kernel = s₀.kernel.after delay := by rw [waited, kernel]
  have blank : s₀.timeline = #[] :=
    (congrArg (·.timeline) is).trans made.timeline
  constructor
  case policy =>
    obtain ⟨d, protocol, is⟩ := fresh.policy
    exact ⟨d, protocol, is, by rw [same]; exact is⟩
  case kernel =>
    rw [waits]
    exact fresh.kernel.guised_after fun _ _ _ => ⟨trivial, rfl⟩
  case declared => exact fun _ _ => ⟨trivial, trivial⟩
  case timeline => rw [same]; simp [waited, blank, Guise.postpone]
  all_goals (rw [same]; first | rfl | exact fun _ _ => rfl)

/-! ### The same run, later -/

theorem Guised.report_postpone (guised : s.Guised (.postpone delay) [] t) (roster : Roster s)
    (roster' : Roster t) : t.report = s.report.postponed delay := by
  obtain ⟨d, protocol, left, right⟩ := guised.policy
  have processes : t.processes.map ProcessStats.ofProcess =
      s.processes.map fun p => (ProcessStats.ofProcess p).postponed delay :=
    guised.map_processes roster roster' fun p q stands => Guise.ofProcess_postpone stands
  unfold report Report.postponed
  rw [left, right, guised.timeline, Guise.line_postpone, processes, guised.switches,
    guised.stalled, guised.truncated, List.map_map]
  rfl

/-- Without a limit the two are judged alike. -/
theorem Guised.judged_unlimited {φ : Guise} (guised : s.Guised φ [] t) (roster : Roster s)
    (roster' : Roster t) (unlimited : s.limit = none) (unlimited' : t.limit = none) :
    t.done = s.done ∧ t.atLimit = s.atLimit ∧ t.stuck = s.stuck :=
  ⟨guised.done roster roster', by simp [atLimit, unlimited, unlimited'],
    guised.stuck roster roster'⟩

/-- The run of the workload, after the delay, is the run of the one that starts later. -/
theorem Course.postponed {s₀ : Simulation} {n : Nat} (course : s.Course s₀ n u)
    (made : s.MadeOf w) (made' : t.MadeOf (w.postponed delay)) (valid : w.Valid)
    (somebody : w.processes ≠ []) (policy : s.policy = .of d protocol)
    (policy' : t.policy = .of d protocol) (kernel : t.kernel = s.kernel)
    (unlimited : s.limit = none) (unlimited' : t.limit = none) :
    ∃ t₀ v, t.Course t₀ (delay + n) v ∧ v.ended.report = u.ended.report.postponed delay := by
  obtain ⟨t₀, begun', fresh', is'⟩ := made'.startOnce
  obtain ⟨kernel₀, unused⟩ := SimulationM.run_startOnce_together policy policy' kernel made.early
    made'.early course.begun begun'
  have waits := made'.waits begun' valid somebody policy' unused unlimited'
  have guised := made.guised_waited made' course.begun begun' (policy'.trans policy.symm) kernel₀
  have limit : s₀.limit = none := by rw [(made.begun course.begun).2, unlimited]
  have limit' : (t₀.waited delay).limit = none := by
    show t₀.limit = none
    rw [is', unlimited']
  have sound' := waits.sound fresh'.sound
  obtain ⟨v, goes', guised⟩ := course.goes.alongside guised course.sound sound'
    fun a b both sound sound' same same' _ going =>
      (going_iff_of_judged (both.judged_unlimited sound.roster sound'.roster (same.trans limit)
        (same'.trans limit'))).mpr going
  have roster := (course.goes.sound course.sound).roster
  have roster' := (goes'.sound sound').roster
  have judged := guised.judged_unlimited roster roster'
    ((course.goes.setAlike course.sound).limit.trans limit)
    ((goes'.setAlike sound').limit.trans limit')
  refine ⟨t₀, v, made'.course_of_goes begun' (waits.append goes')
    fun going => course.judged ((going_iff_of_judged judged).mp going), ?_⟩
  obtain ⟨stalled, truncated⟩ := flags_ended_eq guised.stalled guised.truncated judged
  rw [v.ends_ended.report, u.ends_ended.report, guised.report_postpone roster roster', stalled,
    truncated]
  rfl

end Simulation

/-- Where the processes of a parsed workload, at least one, all arrive later by as many ticks,
the run under the same policy without a limit reports as many idle ticks and then the same,
later by as many ticks. It stalls if the other does, switches as often, and everybody is there
and waits for as long. -/
theorem later_start_delays {text : Text} {w : Workload} {resources : Int}
    (parsed : Workload.ofText text = .ok w) (positive : 0 < resources)
    (fits : ∀ r ∈ w.resourceIds, r < resources) (somebody : w.processes ≠ []) (d : Discipline)
    (protocol : Protocol) (delay : Nat) :
    ∃ s t report s' t', Simulation.create w (.of d protocol) resources none = .ok s ∧
      Simulation.create (w.postponed delay) (.of d protocol) resources none = .ok t ∧
      s.run = .ok report s' ∧ t.run = .ok (report.postponed delay) t' ∧
      (report.postponed delay).turnarounds = report.turnarounds ∧
      (report.postponed delay).waitings = report.waitings := by
  have valid := Workload.valid_ofText parsed
  have valid' : (w.postponed delay).Valid :=
    Guise.workload_postpone delay w ▸ (Guise.covers_postpone delay w).valid valid
  have fits' : ∀ r ∈ (w.postponed delay).resourceIds, r < resources := by
    rwa [← Guise.workload_postpone, Guise.resourceIds_workload]
  obtain ⟨k, s, created, fresh, is⟩ :=
    Simulation.create_of_valid valid positive fits d protocol none
  obtain ⟨l, t, created', fresh', is'⟩ :=
    Simulation.create_of_valid valid' positive fits' d protocol none
  have made : s.MadeOf w := ⟨fresh, by rw [is]⟩
  have made' : t.MadeOf (w.postponed delay) := ⟨fresh', by rw [is']⟩
  have kernel : t.kernel = s.kernel := by
    have placed := Simulation.placed_of_create created
    have placed' := Simulation.placed_of_create created'
    rw [Guise.ceilings_postponed, placed] at placed'
    exact (EStateM.Result.ok.inj placed').2.symm
  obtain ⟨s₀, n, u, course⟩ := made.course
  obtain ⟨t₀, v, course', report⟩ := course.postponed made made' valid somebody (by rw [is])
    (by rw [is']) kernel (by rw [is]) (by rw [is'])
  refine ⟨s, t, u.ended.report, u.ended, v.ended, created, created', course.run, ?_,
    Report.turnarounds_postponed _ _, Report.waitings_postponed _ _⟩
  rw [← report]
  exact course'.run

theorem later_start_delays_contended :
    ∃ s t report s' t',
      Simulation.create .contended (.of (.roundRobin 2) .inheritance) 1 none = .ok s ∧
      Simulation.create (Workload.contended.postponed 3) (.of (.roundRobin 2) .inheritance) 1 none =
        .ok t ∧
      s.run = .ok report s' ∧ t.run = .ok (report.postponed 3) t' ∧
      (report.postponed 3).turnarounds = report.turnarounds ∧
      (report.postponed 3).waitings = report.waitings :=
  later_start_delays Workload.ofText_contention (by decide)
    (by simp [Workload.resourceIds_contended]) (by decide) (.roundRobin 2) .inheritance 3

end Uniprocessor
