import Uniprocessor.Proofs.Workload.Guise

/-!
A run is its steps, and a limit only cuts.

A run without a limit makes so many ticks and ends. Whoever makes some of them
by hand and then lets it run comes to the same end, log included; a run with a
limit makes the first of them, and stops there as truncated or for the same
reason; and a run that has ended adds nothing when it is run again
(`run_iterates_step`).

With another limit a simulation makes the same ticks, since no tick looks at the
limit: it stands for the first one in the guise that changes nothing
(`Guise.same`). Only the verdicts differ, and only from the limit on.
-/

namespace Uniprocessor

open SimulationM (steps startOnce)

/-! ### The guise that changes nothing -/

/-- Every number and every priority as it is, and no delay. -/
def Guise.same : Guise where
  pids := Set.univ
  levels := Set.univ
  pid := id
  level := id
  delay := 0
  before := []
  apart := Set.injOn_id _
  mono := strictMonoOn_id

@[simp] theorem Guise.line_same (line : TickRecord) : Guise.same.line line = line := by
  simp [Guise.line, Guise.same]

@[simp] theorem Guise.spec_same (spec : ProcessSpec) : Guise.same.spec spec = spec := by
  simp [Guise.spec, Guise.same]

theorem Guise.map_line_same (lines : List TickRecord) :
    Guise.same.before ++ lines.map Guise.same.line = lines := by
  have id : Guise.same.line = id := funext Guise.line_same
  rw [id, List.map_id]
  rfl

theorem Guise.workload_same (w : Workload) : Guise.same.workload w = w := by
  have id : Guise.same.spec = id := funext Guise.spec_same
  unfold Guise.workload
  rw [id, List.map_id]
  simp [Guise.same, Table.mapValues]

theorem Process.Guised.eq_of_same {p q : Process} (stands : p.Guised .same q) : q = p := by
  have name := stands.name rfl
  have fields := stands.process
  have plain : Guise.same.process p = p := by
    simp [Guise.process, Guise.same, Table.mapValues]
  rw [plain] at fields
  rw [← fields, ← name]

namespace Simulation

variable {s t : Simulation} {others : List Handle}

/-- A simulation with another limit. -/
def limited (s : Simulation) (limit : Option Int) : Simulation := { s with limit := limit }

theorem MadeOf.limited {w : Workload} (made : s.MadeOf w) (limit : Option Int) :
    (s.limited limit).MadeOf w :=
  ⟨⟨made.fresh.kernel, made.fresh.policy, made.fresh.table, made.fresh.pids, made.fresh.pending⟩,
    by
      conv_lhs => rw [made.is]
      rfl⟩

theorem MadeOf.guised_limited {w : Workload} (made : s.MadeOf w) (limit : Option Int) :
    s.Guised .same [] (s.limited limit) :=
  made.guised ((Guise.workload_same w).symm ▸ made.limited limit)
    ⟨fun _ _ => ⟨trivial, trivial⟩, fun _ _ => trivial⟩ rfl
    (made.fresh.kernel.guised rfl fun _ _ _ => ⟨trivial, rfl⟩) rfl

/-- Only the entry for the limit depends on the limit. -/
theorem create_limit (w : Workload) (policy : Policy) (resources : Int)
    (limit limit' : Option Int) :
    create w policy resources limit' = (·.limited limit') <$> create w policy resources limit := by
  unfold create
  cases (Kernel.checkSize resources).mapError SetUpError.fault with
  | error e => rfl
  | ok size =>
      cases w.resourceIds.find? (fun r => resources ≤ r) with
      | some r => rfl
      | none =>
          dsimp only [bind, Except.bind]
          cases (placeCeilings w.ceilings.entries).run { size := size } <;> rfl

namespace Guised

theorem processes_same (guised : s.Guised .same others t) (roster : Roster s)
    (roster' : Roster t) : t.processes = s.processes := by
  simpa using guised.map_processes (f := id) (g := id) roster roster'
    fun p q stands => stands.eq_of_same

/-- But for the flags, the reports are the same. -/
theorem report_same (guised : s.Guised .same others t) (roster : Roster s)
    (roster' : Roster t) :
    t.report = { s.report with stalled := t.stalled, truncated := t.truncated } := by
  obtain ⟨d, protocol, left, right⟩ := guised.policy
  have lines : t.timeline.toList = s.timeline.toList :=
    guised.timeline.trans (Guise.map_line_same _)
  unfold Simulation.report
  rw [left, right, lines, guised.processes_same roster roster', guised.switches]

/-- Before the limit, the verdict is the one without a limit. -/
theorem verdict_same (guised : s.Guised .same others t) (roster : Roster s) (roster' : Roster t)
    (unlimited : s.limit = none) (before : t.atLimit = false) : t.verdict = s.verdict := by
  have sleepers : t.sleepers = s.sleepers := by
    unfold Simulation.sleepers
    rw [guised.processes_same roster roster']
  have limit : t.limit.filter (fun (limit : Int) => limit ≤ (t.kernel.tick : Int)) = none := by
    unfold Simulation.atLimit at before
    cases given : t.limit with
    | none => rfl
    | some limit => simpa [given, Option.filter] using before
  unfold Simulation.verdict
  rw [guised.done roster roster', guised.stuck roster roster', sleepers, limit, unlimited]
  rfl

end Guised

/-- A run that has ended adds no tick when it is run again, and reports the same. -/
def Rests (u : Simulation) (report : Report) : Prop :=
  ∃ v, u.run = .ok report v ∧ v.timeline = u.timeline ∧ v.kernel.tick = u.kernel.tick

/-- A run of `n` ticks to `t` without a limit stands at `a` when the one with the limit
`m` ends at `b`. -/
structure Parting (m n : Nat) (s₀ a t b : Simulation) : Prop where
  first : Goes (min m n) s₀ a
  last : Goes (n - min m n) a t
  same : a.Guised .same [] b
  unlimited : s₀.limit = none
  atLimit : b.atLimit = true ↔ m ≤ n

namespace Course

variable {w : Workload} {s s₀ t : Simulation} {n : Nat}

theorem rests (course : s.Course s₀ n t) : t.ended.Rests t.ended.report := by
  have sound := course.goes.sound course.sound
  have ends := t.ends_ended
  have started : t.ended.started = true :=
    (congrArg (·.started) ends.rest).trans
      ((course.goes.setAlike course.sound).started.trans course.started)
  have policy : t.ended.policy = t.policy := congrArg (·.policy) ends.rest
  have timeline : t.ended.ended.timeline = t.ended.timeline :=
    congrArg (·.timeline) t.ended.ends_ended.rest
  have ran := SimulationM.run_of_goes (SimulationM.run_startOnce_of_started started) .stay
    (policy ▸ sound.policy) (ends.verdict ▸ course.judged) (Nat.succ_pos _)
  rw [report_ended_ended] at ran
  exact ⟨_, ran, timeline, t.ended.ends_ended.alike.tick⟩

/-- With a limit the course is the same up to there. -/
theorem limited (course : s.Course s₀ n t) (made : s.MadeOf w) (unlimited : s.limit = none)
    (m : Nat) :
    ∃ s₀' a b, (s.limited (some m)).Course s₀' (min m n) b ∧ Parting m n s₀ a t b := by
  have made' := made.limited (some m)
  obtain ⟨s₀', begun', fresh', is'⟩ := made'.startOnce
  obtain ⟨fresh, is⟩ := made.begun course.begun
  have guised := (SimulationM.guised_startOnce (made.guised_limited (some m)) _ _ _ _
    course.begun begun').2
  have limit : s₀.limit = none := by rw [is, unlimited]
  have limit' : s₀'.limit = some (m : Int) := by rw [is']; rfl
  have clock : s₀'.kernel.tick = 0 := fresh'.kernel.tick
  have most : min m n ≤ n := min_le_right m n
  obtain ⟨a, first, last⟩ := course.goes.split most
  -- Both clocks show the ticks made, so up to the `m`-th one the limit is not reached.
  obtain ⟨b, first', same⟩ := first.alongside guised fresh.sound fresh'.sound
    fun u v both sound sound' unlimited limited before going => by
      have early : v.atLimit = false := by
        simp only [atLimit, limited, limit', Option.any_some, decide_eq_false_iff_not]
        omega
      rwa [both.verdict_same sound.roster sound'.roster (unlimited.trans limit) early]
  have sound := first.sound fresh.sound
  have sound' := first'.sound fresh'.sound
  have alike := first'.setAlike fresh'.sound
  have atLimit : b.atLimit = true ↔ m ≤ n := by
    have now := (first'.lines fresh'.sound).2
    simp only [Simulation.atLimit, alike.limit, limit', Option.any_some, decide_eq_true_eq]
    omega
  refine ⟨s₀', a, b, made'.course_of_goes begun' first' ?_, ⟨first, last, same, limit, atLimit⟩⟩
  intro going
  have early := (verdict_eq_going_iff.mp going).2.1
  have beyond : n < m := by
    by_contra below
    rw [atLimit.mpr (by omega)] at early
    cases early
  rw [min_eq_right beyond.le, Nat.sub_self] at last
  cases last
  rw [same.verdict_same sound.roster sound'.roster
    ((first.setAlike fresh.sound).limit.trans limit) early] at going
  exact course.judged going

end Course

namespace Parting

variable {w w' : Workload} {s s' s₀ s₀' a b t : Simulation} {m n : Nat}

/-- A limit keeps the first lines. -/
theorem timeline (parting : Parting m n s₀ a t b) (course : s.Course s₀ n t) (made : s.MadeOf w) :
    b.timeline.toList = t.timeline.toList.take m := by
  obtain ⟨⟨lines, later, rest⟩, _⟩ := parting.last.lines (parting.first.sound course.sound)
  have kept := made.timeline_length course.begun parting.first
  rw [parting.same.timeline.trans (Guise.map_line_same _), later]
  rcases le_total m n with le | le
  · exact (List.take_left' (kept.trans (min_eq_left le))).symm
  · rw [min_eq_right le] at kept rest
    rw [List.length_eq_zero_iff.mp (rest.trans (Nat.sub_self n)), List.append_nil,
      List.take_of_length_le (kept.trans_le le)]

/-- A limit beyond the last line changes nothing in the report. -/
theorem report (parting : Parting m n s₀ a t b) (course : s.Course s₀ n t) (made : s.MadeOf w)
    (course' : s'.Course s₀' (min m n) b) (made' : s'.MadeOf w') (beyond : n < m) :
    b.ended.report = t.ended.report := by
  have last := parting.last
  rw [min_eq_right beyond.le, Nat.sub_self] at last
  cases last
  have roster := (course.goes.sound course.sound).roster
  have roster' := (course'.goes.sound course'.sound).roster
  have early : b.atLimit = false := by
    rw [← Bool.not_eq_true, parting.atLimit]
    omega
  have limit : a.limit = none :=
    (course.goes.setAlike course.sound).limit.trans parting.unlimited
  have verdict := parting.same.verdict_same roster roster' limit early
  obtain ⟨stalled, truncated⟩ := course.flags made
  obtain ⟨stalled', truncated'⟩ := course'.flags made'
  rw [b.ends_ended.report, a.ends_ended.report, parting.same.report_same roster roster', stalled,
    truncated, stalled', truncated', verdict]

/-- A limit before the last line truncates the run. -/
theorem flags (parting : Parting m n s₀ a t b) (course : s.Course s₀ n t)
    (course' : s'.Course s₀' (min m n) b) (made' : s'.MadeOf w') (before : m < n) :
    b.ended.truncated = true ∧ b.ended.stalled = false := by
  have last := parting.last
  rw [min_eq_left before.le] at last
  have going := last.going (Nat.sub_pos_of_lt before)
  have unfinished : b.done = false := by
    rw [parting.same.done (parting.first.sound course.sound).roster
      (course'.goes.sound course'.sound).roster]
    exact (verdict_eq_going_iff.mp going).1
  obtain ⟨limit, verdict⟩ := verdict_of_atLimit unfinished (parting.atLimit.mpr before.le)
  obtain ⟨stalled, truncated⟩ := course'.flags made'
  rw [stalled, truncated, verdict]
  exact ⟨rfl, rfl⟩

end Parting

end Simulation

/-- Without a limit a run of a parsed workload is its steps: whoever makes some of them
and then lets it run comes to the same end. A limit keeps the first lines of the
timeline; one beyond the last line changes nothing in the report, and one before it
truncates the run. A run that has ended stays as it is. -/
theorem run_iterates_step {text : Text} {w : Workload} {resources : Int}
    (parsed : Workload.ofText text = .ok w) (positive : 0 < resources)
    (fits : ∀ r ∈ w.resourceIds, r < resources) (d : Discipline) (protocol : Protocol) :
    ∃ s report u, Simulation.create w (.of d protocol) resources none = .ok s ∧
      s.run = .ok report u ∧ u.Rests report ∧
      (∀ k ≤ report.timeline.length, ∃ t, EStateM.run (steps k) s = .ok () t ∧ t.run = s.run) ∧
      ∀ m : Nat, ∃ s' report' u',
        Simulation.create w (.of d protocol) resources (some m) = .ok s' ∧
          s'.run = .ok report' u' ∧ u'.Rests report' ∧
          report'.timeline = report.timeline.take m ∧
          (report.timeline.length < m → report' = report) ∧
          (m < report.timeline.length → report'.truncated = true ∧ report'.stalled = false) := by
  obtain ⟨k, s, created, fresh, is⟩ := Simulation.create_of_valid (Workload.valid_ofText parsed)
    positive fits d protocol none
  have made : s.MadeOf w := ⟨fresh, by rw [is]⟩
  obtain ⟨s₀, n, t, course⟩ := made.course
  have length : t.ended.report.timeline.length = n := by
    rw [t.ends_ended.report]
    exact made.timeline_length course.begun course.goes
  refine ⟨s, _, _, created, course.run, course.rests, fun k most => ?_, fun m => ?_⟩
  · exact course.run_after_steps (length ▸ most)
  · have created' : Simulation.create w (.of d protocol) resources (some m) =
        .ok (s.limited (some m)) := by
      rw [Simulation.create_limit w _ _ none, created]
      rfl
    obtain ⟨s₀', a, b, course', parting⟩ := course.limited made (by rw [is]) m
    have made' := made.limited (some (m : Int))
    rw [length]
    refine ⟨_, _, _, created', course'.run, course'.rests, ?_,
      parting.report course made course' made', fun before => ?_⟩
    · rw [b.ends_ended.report, t.ends_ended.report]
      exact parting.timeline course made
    · rw [b.ends_ended.report]
      exact parting.flags course course' made' before

theorem run_iterates_step_contended :
    ∃ s report u, Simulation.create .contended (.of (.roundRobin 2) .inheritance) 1 none = .ok s ∧
      s.run = .ok report u ∧ u.Rests report ∧
      (∀ k ≤ report.timeline.length, ∃ t, EStateM.run (steps k) s = .ok () t ∧ t.run = s.run) ∧
      ∀ m : Nat, ∃ s' report' u',
        Simulation.create .contended (.of (.roundRobin 2) .inheritance) 1 (some m) = .ok s' ∧
          s'.run = .ok report' u' ∧ u'.Rests report' ∧
          report'.timeline = report.timeline.take m ∧
          (report.timeline.length < m → report' = report) ∧
          (m < report.timeline.length → report'.truncated = true ∧ report'.stalled = false) :=
  run_iterates_step Workload.ofText_contention (by decide)
    (by simp [Workload.resourceIds_contended]) (.roundRobin 2) .inheritance

end Uniprocessor
