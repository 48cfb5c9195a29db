import Uniprocessor.Proofs.Simulation.Guise
import Uniprocessor.Proofs.Termination

/-!
The course of a run.

A run makes so many ticks while its verdict is to go on, and then ends
(`Simulation.Course`); the simulation of a workload always takes such a course
(`Simulation.MadeOf.course`). What a run leaves is a function of the state that it has
come to (`Simulation.ended`), so wherever one comes to the same state a run ends in
the same way (`SimulationM.run_of_goes`). The ticks are steps
(`Simulation.Goes.steps`), and can be cut anywhere (`Simulation.Goes.split`). A
simulation in a guise makes the same ticks for as long as its verdicts are the same
(`Simulation.Goes.alongside`).
-/

namespace Uniprocessor

open SimulationM (steps startOnce tick untilVerdict)

/-! ### Verdicts -/

namespace Simulation

variable {s t u : Simulation}

/-- The limit of the run has been reached. -/
def atLimit (s : Simulation) : Bool := s.limit.any fun limit => limit ≤ (s.kernel.tick : Int)

/-- These three decide a verdict, one after another. -/
theorem verdict_kinds :
    (s.verdict = .going ↔ s.done = false ∧ s.atLimit = false ∧ s.stuck = false) ∧
      (s.verdict matches .atLimit _) = (!s.done && s.atLimit) ∧
      (s.verdict matches .stuck _) = (!s.done && !s.atLimit && s.stuck) := by
  unfold verdict atLimit
  cases s.done with
  | true => simp
  | false =>
      cases given : s.limit with
      | none => cases s.stuck <;> simp
      | some limit =>
          by_cases reached : limit ≤ (s.kernel.tick : Int)
          · simp [Option.filter, reached]
          · cases s.stuck <;> simp [Option.filter, reached]

theorem verdict_eq_going_iff :
    s.verdict = .going ↔ s.done = false ∧ s.atLimit = false ∧ s.stuck = false :=
  verdict_kinds.1

theorem going_iff_of_judged (judged : t.done = s.done ∧ t.atLimit = s.atLimit ∧ t.stuck = s.stuck) :
    t.verdict = .going ↔ s.verdict = .going := by
  obtain ⟨done, reached, stuck⟩ := judged
  rw [verdict_eq_going_iff, verdict_eq_going_iff, done, reached, stuck]

theorem verdict_of_atLimit (unfinished : s.done = false) (reached : s.atLimit = true) :
    ∃ limit, s.verdict = .atLimit limit := by
  unfold atLimit at reached
  cases given : s.limit with
  | none => simp [given] at reached
  | some limit =>
      have reached : limit ≤ (s.kernel.tick : Int) := by simpa [given] using reached
      exact ⟨limit, by simp [verdict, unfinished, given, Option.filter, reached]⟩

/-- The end of a run does not change how it stands. -/
theorem Ends.verdict (ends : t.Ends u) : u.verdict = t.verdict := by
  have limit : u.limit = t.limit := congrArg (·.limit) ends.rest
  have pending : u.pending = t.pending := congrArg (·.pending) ends.rest
  have goes : Policy.continuing u.kernel = Policy.continuing t.kernel := by
    unfold Policy.continuing
    rw [ends.alike.current]
    simp only [ends.process]
  have stuck : u.stuck = t.stuck := by
    unfold Simulation.stuck
    rw [pending, ends.processes, goes, Kernel.ready_eq, Kernel.ready_eq, ends.alike.queue]
  have sleepers : u.sleepers = t.sleepers := by
    unfold Simulation.sleepers
    rw [ends.processes]
  unfold Simulation.verdict
  rw [ends.done, limit, ends.alike.tick, stuck, sleepers]

end Simulation

/-! ### How a run ends -/

/-- The kernel after the policy has been torn down. -/
def Kernel.tornDown (k : Kernel) : Protocol → Kernel
  | .fifo | .ceiling => k
  | .inheritance => k.noteBlocked fun _ => {}

theorem Protocol.run_reset_eq (protocol : Protocol) (k : Kernel) :
    protocol.reset.run k = .ok () (k.tornDown protocol) := by
  cases protocol <;> rfl

namespace Simulation

variable {s t u : Simulation}

/-- What a run leaves that has come to this state. -/
def ended (s : Simulation) : Simulation :=
  s.conclude.onto (s.conclude.kernel.tornDown s.policy.protocol)

theorem ends_ended (s : Simulation) : s.Ends s.ended := by
  obtain ⟨k, ran, alike, process⟩ := Protocol.run_reset (k := s.conclude.kernel) s.policy.protocol
  rw [Protocol.run_reset_eq] at ran
  cases ran
  exact s.ends_conclude.onto alike process

/-- The flags of a run say how it has ended. -/
theorem flags_ended (s : Simulation) :
    s.ended.stalled = (s.stalled || s.verdict matches .stuck _) ∧
      s.ended.truncated = (s.truncated || s.verdict matches .atLimit _) := by
  unfold ended conclude
  cases s.verdict <;> simp [onto]

/-- Runs whose last states are judged alike are flagged alike. -/
theorem flags_ended_eq {v : Simulation} (stalled : v.stalled = s.stalled)
    (truncated : v.truncated = s.truncated)
    (judged : v.done = s.done ∧ v.atLimit = s.atLimit ∧ v.stuck = s.stuck) :
    v.ended.stalled = s.ended.stalled ∧ v.ended.truncated = s.ended.truncated := by
  obtain ⟨done, reached, asleep⟩ := judged
  obtain ⟨left, left'⟩ := s.flags_ended
  obtain ⟨right, right'⟩ := v.flags_ended
  obtain ⟨_, atLimit, stuck⟩ := s.verdict_kinds
  obtain ⟨_, atLimit', stuck'⟩ := v.verdict_kinds
  rw [left, left', right, right', stuck, stuck', atLimit, atLimit', stalled, truncated, done,
    reached, asleep]
  exact ⟨rfl, rfl⟩

/-- A run that has ended ends again in the same way. -/
theorem report_ended_ended (s : Simulation) : s.ended.ended.report = s.ended.report := by
  have again := s.ended.ends_ended.report
  have verdict := s.ends_ended.verdict
  obtain ⟨stalled, truncated⟩ := s.ended.flags_ended
  obtain ⟨stalled', truncated'⟩ := s.flags_ended
  rw [again, stalled, truncated, verdict]
  unfold report
  rw [stalled', truncated']
  simp

end Simulation

namespace SimulationM

open Simulation

variable {s s₀ t : Simulation} {n : Nat}

theorem run_tearDown {d : Discipline} {protocol : Protocol} (policy : t.policy = .of d protocol) :
    EStateM.run (onKernel t.conclude.policy.tearDown) t.conclude = .ok () t.ended := by
  have same : t.conclude.policy = .of d protocol := by simpa using policy
  have torn := run_onKernel (s := t.conclude)
    (Protocol.run_reset_eq protocol t.conclude.kernel)
  rw [same, ended, policy]
  exact torn

theorem run_untilVerdict_of_goes (goes : Goes n s t) (judged : t.verdict ≠ .going) {fuel : Nat}
    (enough : n < fuel) : EStateM.run (untilVerdict fuel) s = .ok () t.conclude := by
  induction goes generalizing fuel with
  | @stay s =>
      obtain ⟨fuel, rfl⟩ := Nat.exists_eq_succ_of_ne_zero (Nat.ne_of_gt enough)
      cases is : s.verdict with
      | going => exact absurd is judged
      | finished | atLimit limit | stuck pids => simp [untilVerdict, is, conclude]
  | go going ran rest ih =>
      obtain ⟨fuel, rfl⟩ := Nat.exists_eq_succ_of_ne_zero (Nat.ne_of_gt (Nat.zero_lt_of_lt enough))
      have looped := ih judged (Nat.lt_of_succ_lt_succ enough)
      simp [untilVerdict, going, ran, looped]

/-- The state that a run comes to decides how it ends. -/
theorem run_of_goes (begun : EStateM.run startOnce s = .ok () s₀) (goes : Goes n s₀ t)
    (policy : ∃ d protocol, t.policy = .of d protocol) (judged : t.verdict ≠ .going)
    (enough : n < s₀.fuel) : s.run = .ok t.ended.report t.ended := by
  obtain ⟨d, protocol, policy⟩ := policy
  have looped := run_untilVerdict_of_goes goes judged enough
  have attempt := (EStateM.run_bind_of_ok (EStateM.run_get s₀) fun s => untilVerdict s.fuel).trans
    looped
  have cleanUp := (EStateM.run_bind_of_ok (EStateM.run_get t.conclude)
    fun s => onKernel s.policy.tearDown).trans (run_tearDown policy)
  exact (EStateM.run_bind_of_ok begun _).trans
    ((EStateM.run_bind_of_ok (EStateM.run_tryFinally_of_ok attempt cleanUp) _).trans
      (EStateM.run_bind_of_ok (EStateM.run_get _) _))

end SimulationM

/-- The simulations have the same settings and flags. -/
structure Simulation.SetAlike (s t : Simulation) : Prop where
  policy : t.policy = s.policy
  workload : t.workload = s.workload
  limit : t.limit = s.limit
  started : t.started = s.started
  stalled : t.stalled = s.stalled
  truncated : t.truncated = s.truncated

/-- A tick notes its line, moves the clock on by one, and changes no setting. -/
theorem SimulationM.tick_effect {s t : Simulation} {line : TickRecord}
    (sound : Sound ⟨.arriving, s⟩) (ran : EStateM.run tick s = .ok line t) :
    t.timeline = s.timeline.push line ∧ t.kernel.tick = s.kernel.tick + 1 ∧ s.SetAlike t := by
  obtain ⟨chosen, event, e, ran', moves⟩ := SimulationM.run_tick sound
  rw [ran'] at ran
  cases ran
  have same := Moment.Reaches.unchanged moves
  have clock : e.kernel.tick = s.kernel.tick := moves.tick
  have before : e.timeline = s.timeline := congrArg (·.timeline) same
  refine ⟨?_, ?_, congrArg (·.policy) same, congrArg (·.workload) same, congrArg (·.limit) same,
    congrArg (·.started) same, congrArg (·.stalled) same, congrArg (·.truncated) same⟩
  · show e.timeline.push _ = _
    rw [before]
  · show e.kernel.tick + 1 = _
    rw [clock]

/-! ### Cutting a course -/

namespace Simulation.Goes

variable {s t u : Simulation} {k n : Nat}

theorem split (goes : Goes n s u) (most : k ≤ n) : ∃ t, Goes k s t ∧ Goes (n - k) t u := by
  induction k generalizing n s with
  | zero => exact ⟨s, .stay, goes⟩
  | succ k ih =>
      cases goes with
      | stay => cases most
      | go going ran rest =>
          obtain ⟨t, first, last⟩ := ih rest (Nat.le_of_succ_le_succ most)
          rw [Nat.add_sub_add_right]
          exact ⟨t, .go going ran first, last⟩

theorem append {m : Nat} (first : Goes m s t) (last : Goes n t u) : Goes (m + n) s u := by
  induction first with
  | stay => rwa [Nat.zero_add]
  | go going ran rest ih =>
      rw [Nat.add_right_comm]
      exact .go going ran (ih last)

/-- Before the last tick the verdict is to go on. -/
theorem going (goes : Goes n s t) (some : 0 < n) : s.verdict = .going := by
  cases goes with
  | stay => cases some
  | go going _ _ => exact going

/-- Every tick adds a line and moves the clock on. -/
theorem lines (goes : Goes n s t) (sound : Sound ⟨.arriving, s⟩) :
    (∃ lines, t.timeline.toList = s.timeline.toList ++ lines ∧ lines.length = n) ∧
      t.kernel.tick = s.kernel.tick + n := by
  induction goes with
  | stay => exact ⟨⟨[], by simp⟩, rfl⟩
  | @go s t u line n going ran rest ih =>
      obtain ⟨noted, clock, _⟩ := SimulationM.tick_effect sound ran
      obtain ⟨⟨lines, later, length⟩, clock'⟩ := ih (sound.tick ran)
      refine ⟨⟨line :: lines, ?_, by rw [List.length_cons, length]⟩, by omega⟩
      rw [later, noted, Array.toList_push, List.append_assoc]
      rfl

/-- No tick changes a setting. -/
theorem setAlike (goes : Goes n s t) (sound : Sound ⟨.arriving, s⟩) : s.SetAlike t := by
  induction goes with
  | stay => exact ⟨rfl, rfl, rfl, rfl, rfl, rfl⟩
  | go going ran rest ih =>
      have first := (SimulationM.tick_effect sound ran).2.2
      have later := ih (sound.tick ran)
      exact ⟨later.policy.trans first.policy, later.workload.trans first.workload,
        later.limit.trans first.limit, later.started.trans first.started,
        later.stalled.trans first.stalled, later.truncated.trans first.truncated⟩

theorem steps (goes : Goes n s t) (sound : Sound ⟨.arriving, s⟩) (started : s.started = true) :
    EStateM.run (SimulationM.steps n) s = .ok () t := by
  induction goes with
  | stay => rfl
  | go going ran rest ih =>
      have stepped := (SimulationM.run_step_of_begun
        (SimulationM.run_startOnce_of_started started)).trans ran
      exact (EStateM.run_bind_of_ok stepped _).trans
        (ih (sound.tick ran) ((SimulationM.tick_effect sound ran).2.2.started.trans started))

/-- A simulation in a guise makes as many ticks if it has to go on wherever the other one has. -/
theorem alongside {φ : Guise} {v : Simulation} (goes : Goes n s u) (guised : s.Guised φ [] v)
    (sound : Sound ⟨.arriving, s⟩) (sound' : Sound ⟨.arriving, v⟩)
    (follows : ∀ s' v' : Simulation, s'.Guised φ [] v' → Sound ⟨.arriving, s'⟩ →
      Sound ⟨.arriving, v'⟩ → s'.limit = s.limit → v'.limit = v.limit →
      v'.kernel.tick < v.kernel.tick + n → s'.verdict = .going → v'.verdict = .going) :
    ∃ w, Goes n v w ∧ u.Guised φ [] w := by
  induction goes generalizing v with
  | stay => exact ⟨v, .stay, guised⟩
  | @go s t u line n going ran rest ih =>
      obtain ⟨line', v', ran', sound'', _⟩ := Lasting.sound.run_tick sound' trivial
      have guised' := (SimulationM.guised_tick guised _ _ _ _ ran ran').2
      have limit := (SimulationM.tick_effect sound ran).2.2.limit
      obtain ⟨_, clock, alike⟩ := SimulationM.tick_effect sound' ran'
      have going' := follows s v guised sound sound' rfl rfl (by omega) going
      obtain ⟨w, goes', related⟩ := ih guised' (sound.tick ran) sound'' fun a b both left right
          same same' before =>
        follows a b both left right (same.trans limit) (same'.trans alike.limit) (by omega)
      exact ⟨w, .go going' ran' goes', related⟩

end Simulation.Goes

/-! ### Whole runs -/

namespace Simulation

variable {w : Workload} {s s₀ t u : Simulation} {k n : Nat}

/-- The simulation is as it is made of the workload. -/
structure MadeOf (w : Workload) (s : Simulation) : Prop where
  fresh : s.Fresh
  is : s = { policy := s.policy, workload := w, limit := s.limit, kernel := s.kernel,
             pending := inOrderOfArrival w.processes }

namespace MadeOf

theorem early (made : s.MadeOf w) : s.started = false := congrArg (·.started) made.is

theorem pending (made : s.MadeOf w) : s.pending = inOrderOfArrival w.processes :=
  congrArg (·.pending) made.is

theorem timeline (made : s.MadeOf w) : s.timeline = #[] := congrArg (·.timeline) made.is

theorem switches (made : s.MadeOf w) : s.switches = 0 := congrArg (·.switches) made.is

end MadeOf

/-- The simulation starts as `s₀`, goes on for `n` ticks, and is judged at `t`. -/
structure Course (s s₀ : Simulation) (n : Nat) (t : Simulation) : Prop where
  begun : EStateM.run startOnce s = .ok () s₀
  sound : Sound ⟨.arriving, s₀⟩
  started : s₀.started = true
  goes : Goes n s₀ t
  judged : t.verdict ≠ .going
  enough : n < s₀.fuel

/-- The simulation starts afresh. -/
theorem MadeOf.startOnce (made : s.MadeOf w) :
    ∃ s₀, EStateM.run startOnce s = .ok () s₀ ∧ s₀.Fresh ∧
      s₀ = { s with started := true, kernel := s₀.kernel } := by
  obtain ⟨k, begun, fresh⟩ := SimulationM.run_startOnce made.fresh (by rw [made.is])
  exact ⟨_, begun, fresh, rfl⟩

theorem MadeOf.begun (made : s.MadeOf w)
    (begun : EStateM.run SimulationM.startOnce s = .ok () s₀) :
    s₀.Fresh ∧ s₀ = { s with started := true, kernel := s₀.kernel } := by
  obtain ⟨_, begun', rest⟩ := made.startOnce
  rw [begun'] at begun
  cases begun
  exact rest

/-- The timeline has a line for each tick. -/
theorem MadeOf.timeline_length (made : s.MadeOf w)
    (begun : EStateM.run SimulationM.startOnce s = .ok () s₀) (goes : Goes n s₀ t) :
    t.timeline.toList.length = n := by
  obtain ⟨fresh, is⟩ := made.begun begun
  have nothing : s₀.timeline.toList = [] := by
    rw [is, made.is]
    rfl
  obtain ⟨lines, later, length⟩ := (goes.lines fresh.sound).1
  rwa [later, nothing, List.nil_append]

/-- The fuel never runs out. -/
theorem MadeOf.enough (made : s.MadeOf w)
    (begun : EStateM.run SimulationM.startOnce s = .ok () s₀) (goes : Goes n s₀ t) :
    n < s₀.fuel := by
  obtain ⟨fresh, is⟩ := made.begun begun
  have workload : s₀.workload = w := by rw [is, made.is]
  have pending : s₀.pending = inOrderOfArrival w.processes := by rw [is, made.is]
  have taken := goes.allowance fresh.sound
  have allowed := fresh.allowance_le pending
  have horizon := w.allowance_le_horizon
  unfold Simulation.fuel
  rw [workload]
  omega

theorem MadeOf.course_of_goes (made : s.MadeOf w)
    (begun : EStateM.run SimulationM.startOnce s = .ok () s₀) (goes : Goes n s₀ t)
    (judged : t.verdict ≠ .going) : s.Course s₀ n t := by
  obtain ⟨fresh, is⟩ := made.begun begun
  exact ⟨begun, fresh.sound, by rw [is], goes, judged, made.enough begun goes⟩

/-- Every run of a workload takes its course. -/
theorem MadeOf.course (made : s.MadeOf w) : ∃ s₀ n t, s.Course s₀ n t := by
  obtain ⟨s₀, begun, fresh, _⟩ := made.startOnce
  obtain ⟨n, t, u, goes, _, ended⟩ := SimulationM.run_untilVerdict fresh.sound s₀.fuel
  have enough := made.enough begun goes
  rcases ended with ⟨judged, _⟩ | ⟨spent, _⟩
  · exact ⟨s₀, n, t, made.course_of_goes begun goes judged⟩
  · omega

namespace Course

theorem run (course : s.Course s₀ n t) : s.run = .ok t.ended.report t.ended :=
  SimulationM.run_of_goes course.begun course.goes (course.goes.sound course.sound).policy
    course.judged course.enough

/-- The flags that a run leaves are what its last verdict says. -/
theorem flags (course : s.Course s₀ n t) (made : s.MadeOf w) :
    t.ended.stalled = (t.verdict matches .stuck _) ∧
      t.ended.truncated = (t.verdict matches .atLimit _) := by
  have is := (made.begun course.begun).2
  have alike := course.goes.setAlike course.sound
  have stalled : t.stalled = false := by rw [alike.stalled, is, made.is]
  have truncated : t.truncated = false := by rw [alike.truncated, is, made.is]
  have flags := t.flags_ended
  rwa [stalled, truncated, Bool.false_or, Bool.false_or] at flags

/-- The ticks of a run are steps from its start, which the first one makes. -/
theorem steps (course : s.Course s₀ n t) (goes : Goes (k + 1) s₀ u) :
    EStateM.run (SimulationM.steps (k + 1)) s = .ok () u := by
  have stepped : EStateM.run SimulationM.step s = EStateM.run SimulationM.step s₀ :=
    (SimulationM.run_step_of_begun course.begun).trans
      (SimulationM.run_step_of_begun
        (SimulationM.run_startOnce_of_started course.started)).symm
  rw [← goes.steps course.sound course.started]
  simp only [SimulationM.steps, EStateM.run_bind, stepped]

/-- Whoever makes a part of the ticks by hand and then lets it run comes to the same end. -/
theorem run_after_steps (course : s.Course s₀ n t) (most : k ≤ n) :
    ∃ u, EStateM.run (SimulationM.steps k) s = .ok () u ∧ u.run = s.run := by
  cases k with
  | zero => exact ⟨s, rfl, rfl⟩
  | succ k =>
      obtain ⟨u, first, last⟩ := course.goes.split most
      have alike := first.setAlike course.sound
      have started : u.started = true := alike.started.trans course.started
      have fuel : u.fuel = s₀.fuel := by
        unfold Simulation.fuel
        rw [alike.workload, alike.limit]
      have rest : u.Course u (n - (k + 1)) t :=
        ⟨SimulationM.run_startOnce_of_started started, first.sound course.sound, started, last,
          course.judged, by
            have enough := course.enough
            omega⟩
      exact ⟨u, course.steps first, rest.run.trans course.run.symm⟩

end Course

end Simulation

end Uniprocessor
