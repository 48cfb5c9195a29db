import Uniprocessor.Proofs.Simulation.Effect
import Uniprocessor.Proofs.Simulation.Enlistment
import Uniprocessor.Proofs.Termination
import Uniprocessor.Proofs.Timeline

/-!
The report accounts for every tick.

Between two ticks the timeline has a line for each tick so far, and tells of every
process how it has lived (`Simulation.Logged`). A tick keeps this up: its line is
about whoever was chosen, and says just what the tick adds to that life
(`Logged.tick`). Nobody is chosen before it has arrived, or after it has left.

So the statistics of the report can be read off its timeline: the work, the exit
and the waiting of every process, and the switches (`Simulation.Accounts`). Where
a run ends because everybody has left, every line is idle, blocked or one of
somebody's lifespan (`report_accounts_for_every_tick`).
-/

namespace Uniprocessor

variable {s t u : Simulation} {h : Handle} {chosen : Option Handle} {event : TickEvent}
  {w : Workload}

namespace Simulation

/-- The timeline tells how everybody has lived, who is current, and how often that
has changed. -/
structure Logged (t : Simulation) : Prop where
  clock : t.kernel.tick = t.timeline.toList.length
  numbered : Numbered t.timeline.toList
  known : ∀ line ∈ t.timeline.toList, line.pid = none ∧ line.event = .idle ∨
    ∃ h ∈ t.kernel.handles, line.pid = some (t.kernel.process h).pid
  recorded : ∀ h ∈ t.kernel.handles,
    Recorded t.timeline.toList (t.kernel.process h).pid (t.kernel.process h).life
  since : ∀ h ∈ t.kernel.handles, ∀ line ∈ t.timeline.toList,
    line.pid = some (t.kernel.process h).pid → (t.kernel.process h).arrival ≤ line.tick
  current : ∀ h, t.kernel.current = some h → h ∈ t.kernel.handles
  latest : latest t.timeline.toList = t.kernel.current.map fun h => (t.kernel.process h).pid
  switches : t.switches = turns t.timeline.toList

namespace Logged

/-- No line tells of somebody who has only just arrived. -/
theorem unknown (logged : s.Logged) (effect : s.Effect u chosen event)
    (sound : Sound ⟨.arriving, u⟩) (used : h ∈ u.kernel.handles) (new : h ∉ s.kernel.handles) :
    ∀ line ∈ s.timeline.toList, line.pid ≠ some (u.kernel.process h).pid := by
  intro line mem own
  rcases logged.known line mem with ⟨nobody, _⟩ | ⟨j, old, somebody⟩
  · rw [nobody] at own
    cases own
  · have other : j ≠ h := fun is => new (is ▸ old)
    rw [somebody, ← effect.pid old] at own
    exact sound.roster.pid_ne (effect.stays j old).1 used other (Option.some.inj own)

/-- Before the tick the timeline told how everybody had lived who is there after it. -/
theorem recorded_before (logged : s.Logged) (effect : s.Effect u chosen event)
    (sound : Sound ⟨.arriving, u⟩) (used : h ∈ u.kernel.handles) :
    Recorded s.timeline.toList (u.kernel.process h).pid (s.kernel.process h).life := by
  by_cases old : h ∈ s.kernel.handles
  · rw [effect.pid old]
    exact logged.recorded h old
  · rw [Kernel.process_of_unused old]
    exact .blank (logged.unknown effect sound used old)

/-- A tick carries on the record of everybody. -/
theorem recorded_after (logged : s.Logged) (effect : s.Effect u chosen event)
    (sound : Sound ⟨.arriving, u⟩) (used : h ∈ u.kernel.handles) :
    Recorded u.timeline.toList (u.kernel.process h).pid (u.kernel.process h).life := by
  have before := logged.recorded_before effect sound used
  rw [effect.timeline, Array.toList_push, effect.life]
  by_cases own : chosen = some h
  · subst own
    have present := (effect.able h rfl).2
    rw [lifeIn_own present]
    refine before.own (by simpa [Process.life] using present) rfl rfl ?_
    intro line mem
    have earlier := logged.numbered.lt_length mem
    rw [← logged.clock] at earlier
    exact earlier.le
  · rw [lifeIn_of_other own]
    refine before.other fun about => ?_
    obtain ⟨j, named, alike⟩ := Option.map_eq_some_iff.mp about
    have other : j ≠ h := fun is => own (is ▸ named)
    exact sound.roster.pid_ne (effect.able j named).1 used other alike

/-- The switches of the tick are the turns of its line. -/
theorem switch_eq (logged : s.Logged) (effect : s.Effect u chosen event)
    (sound : Sound ⟨.arriving, u⟩) :
    switch s.kernel.current chosen =
      if chosen.map (fun h => (u.kernel.process h).pid) = none ∨
        chosen.map (fun h => (u.kernel.process h).pid) = Uniprocessor.latest s.timeline.toList
      then 0 else 1 := by
  unfold switch
  rw [logged.latest]
  congr 1
  cases chosen with
  | none => simp
  | some h =>
      have used := (effect.able h rfl).1
      cases current : s.kernel.current with
      | none => simp
      | some j =>
          have old := logged.current j current
          have used' := (effect.stays j old).1
          simp only [Option.map_some, reduceCtorEq, false_or, Option.some.injEq, eq_iff_iff,
            ← effect.pid old]
          -- Numbers tell processes apart, so the line shows whether the processor has changed
          -- hands.
          constructor
          · rintro rfl
            rfl
          · intro alike
            by_contra other
            exact sound.roster.pid_ne used used' other alike

/-- A tick keeps the log up. -/
theorem tick (logged : s.Logged) (effect : s.Effect u chosen event)
    (sound : Sound ⟨.arriving, u⟩)
    (due : ∀ h ∈ u.kernel.handles, (u.kernel.process h).arrival ≤ s.kernel.tick) : u.Logged := by
  have timeline := congrArg Array.toList effect.timeline
  rw [Array.toList_push] at timeline
  constructor
  · rw [effect.clock, timeline, logged.clock, List.length_append, List.length_singleton]
  · rw [timeline]
    exact logged.numbered.append (congrArg Int.ofNat logged.clock)
  · rw [timeline]
    intro line mem
    rcases List.mem_append.mp mem with old | new
    · rcases logged.known line old with idle | ⟨j, used, own⟩
      · exact .inl idle
      · exact .inr ⟨j, (effect.stays j used).1, by rw [own, effect.pid used]⟩
    · rw [List.mem_singleton.mp new]
      cases chosen with
      | none => exact .inl ⟨rfl, effect.rests rfl⟩
      | some j => exact .inr ⟨j, (effect.able j rfl).1, rfl⟩
  · exact fun h used => logged.recorded_after effect sound used
  · rw [timeline]
    intro h used line mem own
    rcases List.mem_append.mp mem with old | new
    -- Lines from before its arrival are not about a newcomer, whose number nobody had.
    · by_cases here : h ∈ s.kernel.handles
      · rw [effect.pid here] at own
        rw [effect.arrival here]
        exact logged.since h here line old own
      · exact absurd own (logged.unknown effect sound used here line old)
    · rw [List.mem_singleton.mp new]
      exact due h used
  · rw [effect.current]
    exact fun h is => (effect.able h is).1
  · rw [effect.current, timeline]
    simp [Uniprocessor.latest]
  · rw [effect.switches, timeline, turns_append, logged.switches,
      logged.switch_eq effect sound]

end Logged

/-- At the start there is nothing to log. -/
theorem Fresh.logged (fresh : s.Fresh) (empty : s.timeline = #[]) (none : s.switches = 0) :
    s.Logged := by
  have nobody := fresh.kernel.handles
  constructor <;> simp [empty, nobody, fresh.kernel.tick, fresh.kernel.current, Numbered,
    Uniprocessor.latest, none]
  rfl

/-- Between its ticks a run is logged. -/
theorem Boundary.logged (fresh : s.Fresh) (early : s.started = false)
    (pending : s.pending = inOrderOfArrival w.processes) (empty : s.timeline = #[])
    (none : s.switches = 0) (reached : s.Boundary t) : t.Logged := by
  refine (reached.along (P := fun t => (∃ arrived, t.Admits w arrived) ∧ t.Logged)
    fresh early ?_ ?_).2
  · intro u fresh' is
    exact ⟨⟨[], fresh'.admits (by rw [is, pending])⟩, fresh'.logged (by rw [is, empty])
      (by rw [is, none])⟩
  · intro t g e chosen event sound before staged
    obtain ⟨admits, logged⟩ := before
    obtain ⟨arrived, closing⟩ := Simulation.Admits.tick admits sound staged
    have sound' : Sound ⟨.closing chosen event, e⟩ := sound.reaches staged.reaches
    refine ⟨⟨arrived, closing.close _⟩,
      logged.tick (staged.effect sound) (sound'.close _) ?_⟩
    intro h used
    have clock : e.kernel.tick = t.kernel.tick := Moment.Reaches.tick staged.reaches
    obtain ⟨spec, here, built⟩ := closing.declaration (h := h) (by simpa using used)
    have arrival : (e.kernel.process h).arrival = spec.arrival :=
      (ProcessSpec.declares_of_build built).arrival
    have due : spec.arrival ≤ e.kernel.tick := closing.due spec here
    rw [clock] at due
    simpa [arrival] using due

/-! ### The report -/

/-- The timeline of the report accounts for a process as it was declared. -/
structure Accounted (t : Simulation) (w : Workload) (h : Handle) : Prop where
  declared : ∃ spec ∈ w.processes, spec.pid = (t.kernel.process h).pid ∧
    spec.arrival = (t.kernel.process h).arrival ∧ spec.lifespan = (t.kernel.process h).lifespan
  work : t.report.timeline.countP (·.worked (t.kernel.process h).pid) = (t.kernel.process h).age
  left : (∃ line ∈ t.report.timeline, line.left (t.kernel.process h).pid = true) ↔
    (t.kernel.process h).state = .exited
  last : ∀ line ∈ t.report.timeline, line.left (t.kernel.process h).pid = true →
    (∃ exitTick, (t.kernel.process h).exitTick = some exitTick ∧
      line.tick = (exitTick : Int) - 1) ∧
      ∀ other ∈ t.report.timeline, other.pid = some (t.kernel.process h).pid →
        other.tick ≤ line.tick
  since : ∀ line ∈ t.report.timeline, line.pid = some (t.kernel.process h).pid →
    (t.kernel.process h).arrival ≤ line.tick
  waiting : ∀ n, (ProcessStats.ofProcess (t.kernel.process h)).waiting = some n →
    0 ≤ n ∧ ∃ exitTick, (t.kernel.process h).exitTick = some exitTick ∧
      n = restTicks t.report.timeline (t.kernel.process h).pid (t.kernel.process h).arrival
        exitTick

/-- The report accounts for every tick so far. -/
structure Accounts (t : Simulation) (w : Workload) : Prop where
  clock : t.kernel.tick = t.report.totalTicks
  numbered : Numbered t.report.timeline
  processes : ∀ h ∈ t.table.values, t.Accounted w h
  admitted : ∀ spec ∈ w.processes, spec.pid ∈ t.table.keys ↔ spec.arrival < t.kernel.tick
  switches : t.report.switches = turns t.report.timeline

/-- The waiting time of a process is the rest between its arrival and its exit. -/
theorem Logged.waiting (logged : t.Logged) (aged : (t.kernel.process h).Aged)
    (used : h ∈ t.kernel.handles) {n : Int}
    (is : (ProcessStats.ofProcess (t.kernel.process h)).waiting = some n) :
    0 ≤ n ∧ ∃ exitTick, (t.kernel.process h).exitTick = some exitTick ∧
      n = restTicks t.report.timeline (t.kernel.process h).pid (t.kernel.process h).arrival
        exitTick := by
  have recorded := logged.recorded h used
  obtain ⟨exitTick, exits, is⟩ : ∃ exitTick, (t.kernel.process h).exitTick = some exitTick ∧
      (exitTick : Int) - (t.kernel.process h).arrival - (t.kernel.process h).lifespan = n := by
    simpa [ProcessStats.waiting, ProcessStats.turnaround, ProcessStats.ofProcess] using is
  obtain ⟨line, mem, left, tick, before⟩ := recorded.line_of_exitTick exits
  have gone : (t.kernel.process h).state = .exited := by
    simpa [Process.life] using recorded.left.mp ⟨line, mem, left⟩
  have lived := aged.spent gone
  have arrived := logged.since h used line mem (TickRecord.pid_of_left left)
  have rest := restTicks_add_countP logged.numbered fun i mem' worked =>
    ⟨logged.since h used i mem' (TickRecord.pid_of_worked worked),
      before i mem' (TickRecord.pid_of_worked worked)⟩
  have work : t.timeline.toList.countP (·.worked (t.kernel.process h).pid) =
      (t.kernel.process h).age := recorded.work
  have count : n = restTicks t.report.timeline (t.kernel.process h).pid
      (t.kernel.process h).arrival exitTick := by
    show n = restTicks t.timeline.toList (t.kernel.process h).pid _ _
    omega
  exact ⟨by omega, exitTick, exits, count⟩

theorem Logged.accounts {arrived : List ProcessSpec} (logged : t.Logged)
    (sound : Sound ⟨.arriving, t⟩) (aged : ∀ h, (t.kernel.process h).Aged)
    (admits : t.Admits w arrived) : t.Accounts w where
  clock := logged.clock
  numbered := logged.numbered
  processes h mem := by
    have used : h ∈ t.kernel.handles := sound.roster.values ▸ mem
    have recorded := logged.recorded h used
    refine ⟨?_, recorded.work, ?_, ?_, logged.since h used, fun n => logged.waiting (aged h) used⟩
    · obtain ⟨spec, here, built⟩ := admits.declaration used
      have declares := ProcessSpec.declares_of_build built
      exact ⟨spec, admits.mem_iff.mpr (.inl here), declares.pid.symm, declares.arrival.symm,
        declares.lifespan.symm⟩
    · exact recorded.left.trans (by simp [Process.life])
    · intro line mem' left
      obtain ⟨⟨n, exits, tick⟩, last⟩ := recorded.last line mem' left
      exact ⟨⟨n, exits, by omega⟩, last⟩
  admitted spec declared := admits.mem_table_iff sound declared
  switches := congrArg Int.ofNat logged.switches

theorem Accounts.ends (accounts : t.Accounts w) (ends : t.Ends u) : u.Accounts w := by
  constructor
  · rw [ends.alike.tick, ends.report]
    exact accounts.clock
  · rw [ends.report]
    exact accounts.numbered
  · intro h mem
    rw [ends.table] at mem
    have accounted := accounts.processes h mem
    constructor <;> simp only [ends.report, ends.process]
    · exact accounted.declared
    · exact accounted.work
    · exact accounted.left
    · exact accounted.last
    · exact accounted.since
    · exact accounted.waiting
  · rw [ends.table, ends.alike.tick]
    exact accounts.admitted
  · rw [ends.report]
    exact accounts.switches

/-- The lines of work are the work of all processes. -/
theorem Logged.countP_busy (logged : t.Logged) (sound : Sound ⟨.arriving, t⟩) :
    t.timeline.toList.countP (·.busy) =
      (t.kernel.handles.map fun h => (t.kernel.process h).age).sum := by
  have apart : (t.kernel.handles.map fun h => (t.kernel.process h).pid).Nodup :=
    (List.nodup_append.mp sound.roster.pids).1
  rw [Uniprocessor.countP_busy apart, List.map_map]
  · congr 1
    exact List.map_congr_left fun h used => (logged.recorded h used).work
  · intro line mem busy
    rcases logged.known line mem with ⟨_, idle⟩ | ⟨h, used, own⟩
    · simp [TickRecord.busy, idle] at busy
    · exact ⟨_, List.mem_map.mpr ⟨h, used, rfl⟩, own⟩

/-- Everybody who was declared is in the report and has worked for all of its
lifespan, and every tick that was not that work was idle or blocked. -/
structure Completes (t : Simulation) (w : Workload) : Prop where
  everybody : ∀ spec ∈ w.processes, ∃ p ∈ t.report.processes,
    p.pid = spec.pid ∧ p.lifespan = spec.lifespan
  worked : ∀ p ∈ t.report.processes, p.age = p.lifespan
  ticks : (t.report.totalTicks : Int) = t.report.idleTicks +
    t.report.timeline.countP (·.event == .blocked) + (w.processes.map (·.lifespan)).sum

theorem Completes.ends (completes : t.Completes w) (ends : t.Ends u) : u.Completes w := by
  constructor <;> rw [ends.report]
  · exact completes.everybody
  · exact completes.worked
  · exact completes.ticks

/-- Where everybody is done the timeline is complete. -/
theorem Logged.completes {arrived : List ProcessSpec} (logged : t.Logged)
    (sound : Sound ⟨.arriving, t⟩) (aged : ∀ h, (t.kernel.process h).Aged)
    (enlists : t.Enlists w arrived) (done : t.done = true) : t.Completes w := by
  have listed : t.processes = t.kernel.handles.map t.kernel.process := sound.roster.processes
  obtain ⟨nobody, left⟩ := sound.roster.left_of_done done
  have spent : ∀ h ∈ t.kernel.handles, (t.kernel.process h).age = (t.kernel.process h).lifespan :=
    fun h used => (aged h).spent (left h used)
  refine ⟨?_, ?_, ?_⟩
  · intro spec declared
    obtain ⟨h, used, built⟩ := enlists.everybody nobody declared
    have declares := ProcessSpec.declares_of_build built
    refine ⟨.ofProcess (t.kernel.process h), ?_, declares.pid, declares.lifespan⟩
    show _ ∈ t.processes.map ProcessStats.ofProcess
    rw [listed]
    exact List.mem_map_of_mem (List.mem_map_of_mem used)
  · show ∀ p ∈ t.processes.map ProcessStats.ofProcess, p.age = p.lifespan
    simpa [listed, ProcessStats.ofProcess] using spent
  · have work : (t.report.timeline.countP (·.busy) : Int) =
        (w.processes.map (·.lifespan)).sum := by
      have declared := enlists.sum_eq (g := fun p => (p.lifespan : Int))
        (fun built => (ProcessSpec.declares_of_build built).lifespan.symm) nobody
      rw [declared, show t.report.timeline.countP (·.busy) = _ from
        logged.countP_busy sound, List.map_congr_left spent, Nat.cast_list_sum, List.map_map]
      rfl
    rw [← work]
    exact_mod_cast length_eq_countP t.report.timeline

end Simulation

/-- Between the ticks of every run of a parsed workload, whichever built-in policy
and protocol are in charge, the report accounts for every tick so far, and so it
does when the run has ended. If the run was neither stalled nor truncated everybody
has worked for all of its lifespan, and the ticks are those that were idle or
blocked and that work. -/
theorem report_accounts_for_every_tick {text : Text} {w : Workload} {resources : Int}
    (parsed : Workload.ofText text = .ok w) (positive : 0 < resources)
    (fits : ∀ r ∈ w.resourceIds, r < resources) (d : Discipline) (protocol : Protocol)
    (limit : Option Int) :
    ∃ s, Simulation.create w (.of d protocol) resources limit = .ok s ∧
      (∀ t, s.Boundary t → t.Accounts w) ∧
      (∀ n, ∃ t, EStateM.run (SimulationM.steps n) s = .ok () t ∧ s.Boundary t) ∧
      ∃ t, s.run = .ok t.report t ∧ t.Accounts w ∧
        (t.report.stalled = false → t.report.truncated = false → t.Completes w) := by
  obtain ⟨k, s, created, fresh, is⟩ := Simulation.create_of_valid (Workload.valid_ofText parsed)
    positive fits d protocol limit
  have early : s.started = false := by rw [is]
  have pending : s.pending = Simulation.inOrderOfArrival w.processes := by rw [is]
  obtain ⟨empty, none⟩ : s.timeline = #[] ∧ s.switches = 0 := by
    rw [is]
    exact ⟨rfl, rfl⟩
  have logged : ∀ t, s.Boundary t → t.Logged := fun t reached =>
    reached.logged fresh early pending empty none
  have lived : ∀ t, s.Boundary t → Sound ⟨.arriving, t⟩ ∧ ∀ h, (t.kernel.process h).Aged :=
    fun t reached => lasting_aged.boundary fresh early (fun _ fresh' _ => fresh'.aged) reached
  have always : ∀ t, s.Boundary t → t.Accounts w := by
    intro t reached
    obtain ⟨sound, aged⟩ := lived t reached
    obtain ⟨arrived, admits⟩ := reached.admits fresh early pending
    exact (logged t reached).accounts sound aged admits
  obtain ⟨t, u, reached, ends, ran, ended⟩ := SimulationM.run_done (w := w) fresh early
    (by rw [is]) pending
  refine ⟨s, created, always, SimulationM.run_steps fresh early, u, ran,
    (always t reached).ends ends, ?_⟩
  intro unstalled untruncated
  obtain ⟨sound, aged⟩ := lived t reached
  obtain ⟨arrived, admits⟩ := reached.admits fresh early pending
  have done := ended unstalled untruncated
  exact ((logged t reached).completes sound aged admits.toEnlists done).ends ends

theorem report_accounts_for_every_tick_contended :
    ∃ s, Simulation.create .contended (.of (.roundRobin 1) .ceiling) 1 none = .ok s ∧
      (∀ t, s.Boundary t → t.Accounts .contended) ∧
      (∀ n, ∃ t, EStateM.run (SimulationM.steps n) s = .ok () t ∧ s.Boundary t) ∧
      ∃ t, s.run = .ok t.report t ∧ t.Accounts .contended ∧
        (t.report.stalled = false → t.report.truncated = false → t.Completes .contended) :=
  report_accounts_for_every_tick Workload.ofText_contention (by decide)
    (by simp [Workload.resourceIds_contended]) (.roundRobin 1) .ceiling none

end Uniprocessor
