import Uniprocessor.Proofs.Indifference
import Uniprocessor.Proofs.Renaming
import Uniprocessor.Proofs.Simulation.Along
import Uniprocessor.Proofs.Simulation.Primed
import Uniprocessor.Proofs.Stepping

/-!
A policy that refuses to be set up is heard once.

The first call to a simulation whose policy refuses to be set up fails, and nothing has
happened by then. But the simulation counts as started, so nobody asks the policy again:
whatever is called next goes on as if any other set-up had been made. A discipline that refuses
to be set up therefore runs its workload all the same, only one call later (`refused_once`).
-/

namespace Uniprocessor

namespace Simulation

/-! ### Calls -/

/-- What can be asked of a simulation. -/
inductive Call where
  | step
  | run
  deriving DecidableEq, Repr

inductive Answer where
  | ticked (line : TickRecord)
  | reported (report : Report)
  | failed (fault : Fault)

/-- The answer to a call, and what the call leaves. One that fails leaves what it did before. -/
def Answer.of {α : Type} (answer : α → Answer) :
    EStateM.Result Fault Simulation α → Answer × Simulation
  | .ok a t => (answer a, t)
  | .error fault t => (.failed fault, t)

def call (s : Simulation) : Call → Answer × Simulation
  | .step => Answer.of .ticked s.step
  | .run => Answer.of .reported s.run

/-- Calls one after another, each with its answer and what it leaves. -/
def session : Simulation → List Call → List (Answer × Simulation)
  | _, [] => []
  | s, c :: later => s.call c :: (s.call c).2.session later

variable {s : Simulation}

/-! ### Once started -/

theorem Answer.of_mapState {α : Type} (answer : α → Answer) (f : Simulation → Simulation)
    (r : EStateM.Result Fault Simulation α) :
    of answer (r.mapState f) = ((of answer r).1, f (of answer r).2) := by
  cases r <;> rfl

/-- A call to a simulation that has been started is the same with any other set-up, and with any
other label. -/
theorem call_primed (started : s.started = true) (label : String) (setUp : KernelM Bool)
    (c : Call) :
    (s.primed label setUp).call c = ((s.call c).1, (s.call c).2.primed label setUp) := by
  cases c with
  | step =>
      have stepped : (s.primed label setUp).step = s.step.mapState (primed label setUp) :=
        SimulationM.carries_step started
      rw [call, stepped, Answer.of_mapState]
      rfl
  | run =>
      have ran : (s.primed label setUp).run = s.run.mapState (primed label setUp) :=
        SimulationM.carries_run started
      rw [call, ran, Answer.of_mapState]
      rfl

theorem started_call (started : s.started = true) (c : Call) : (s.call c).2.started = true := by
  have same : s.primed s.policy.label s.policy.setUp = s := by
    unfold primed
    rw [← started]
  have carried := call_primed started s.policy.label s.policy.setUp c
  rw [same] at carried
  rw [carried]
  rfl

theorem session_primed (started : s.started = true) (label : String) (setUp : KernelM Bool)
    (calls : List Call) :
    (s.primed label setUp).session calls =
      (s.session calls).map fun e => (e.1, e.2.primed label setUp) := by
  induction calls generalizing s with
  | nil => rfl
  | cons c calls ih =>
      rw [session, session, call_primed started, ih (started_call started c)]
      rfl

/-! ### The first call -/

theorem run_startOnce_of_refusal {k : Kernel} (early : s.started = false)
    (refuses : s.policy.setUp.run s.kernel = .ok false k) :
    EStateM.run SimulationM.startOnce s =
      .error (.setUpFailed (Text.quoted s.policy.title))
        { s with started := true, kernel := k } := by
  let begun := { s with started := true }
  have refused : EStateM.run (SimulationM.onKernel begun.policy.setUp) begun =
      .ok false (begun.onto k) := SimulationM.run_onKernel refuses
  have failed : EStateM.run SimulationM.start s =
      .error (.setUpFailed (Text.quoted s.policy.title)) (begun.onto k) :=
    (EStateM.run_bind_of_ok (EStateM.run_modify _ _) _).trans
      ((EStateM.run_bind_of_ok (EStateM.run_get _) _).trans
        (EStateM.run_bind_of_ok refused _))
  simp [SimulationM.startOnce, early, failed, begun, onto]

theorem call_of_refusal {k : Kernel} (early : s.started = false)
    (refuses : s.policy.setUp.run s.kernel = .ok false k) (c : Call) :
    s.call c =
      (.failed (.setUpFailed (Text.quoted s.policy.title)),
        { s with started := true, kernel := k }) := by
  have refused := run_startOnce_of_refusal early refuses
  cases c with
  | step =>
      have stepped : s.step = _ := EStateM.run_bind_of_error refused _
      rw [call, stepped]
      rfl
  | run =>
      have ran : s.run = _ := EStateM.run_bind_of_error refused _
      rw [call, ran]
      rfl

/-- A simulation is made of a workload and a policy, and nothing has happened in it. -/
theorem eq_of_create {w : Workload} {policy : Policy} {resources : Int} {limit : Option Int}
    (created : create w policy resources limit = .ok s) :
    s = { policy, workload := w, limit, kernel := s.kernel,
          pending := inOrderOfArrival w.processes } := by
  obtain ⟨size, _, rest⟩ := Except.bind_eq_ok_iff.mp created
  cases found : w.resourceIds.find? (fun r => resources ≤ r) with
  | some r =>
      rw [found] at rest
      cases rest
  | none =>
      rw [found] at rest
      dsimp only [bind, Except.bind] at rest
      cases placed : (placeCeilings w.ceilings.entries).run { size := size } with
      | error fault k =>
          rw [placed] at rest
          cases rest
      | ok _ k =>
          rw [placed] at rest
          cases rest
          rfl

/-! ### A discipline that refuses -/

/-- Where nothing is remembered, there is nothing to set up. -/
theorem run_setUp_of_blank (d : Discipline) (protocol : Protocol) {k : Kernel}
    (blank : k.memory = {}) : (Policy.of d protocol).setUp.run k = .ok true k := by
  obtain ⟨size, processes, resources, ready, named, current, tick, log, memory⟩ := k
  subst blank
  cases d <;> cases protocol <;> rfl

theorem memory_of_create {w : Workload} {policy : Policy} {resources : Int} {limit : Option Int}
    (created : create w policy resources limit = .ok s) : s.kernel.memory = {} := by
  let Same (k k' : Kernel) : Prop := k'.memory = k.memory
  have : IsPreorder Kernel Same :=
    { refl := fun _ => rfl, trans := fun _ _ _ first second => second.trans first }
  obtain ⟨size, same⟩ := along_create (R := Same) (fun k r ceiling => rfl) created
  exact same

/-- The entry for the policy in the log makes no difference. -/
theorem MadeOf.guised_started {w : Workload} (made : s.MadeOf w) (title : String) :
    Guised .same [] ({ s with started := true }.onto (s.kernel.record (.started title)))
      { s with started := true } := by
  have plain : s.kernel.Guised .same [] s.kernel :=
    made.fresh.kernel.guised rfl fun _ _ _ => ⟨trivial, rfl⟩
  obtain ⟨d, protocol, policy⟩ := made.fresh.policy
  exact {
    policy := ⟨d, protocol, policy, policy⟩
    kernel := { plain with known := { plain.known with } }
    pending := by
      show s.pending = s.pending.map Guise.same.spec
      rw [funext Guise.spec_same, List.map_id']
    declared := fun _ _ => ⟨trivial, trivial⟩
    holding := fun _ _ => rfl
    granted := fun _ _ => rfl
    timeline := (Guise.map_line_same _).symm
    switches := rfl
    started := rfl
    stalled := rfl
    truncated := rfl }

/-- A run that goes on without a set-up ends with the same report. -/
theorem MadeOf.report_started {w : Workload} (made : s.MadeOf w) (blank : s.kernel.memory = {}) :
    ∃ report u v, s.run = .ok report u ∧ { s with started := true }.run = .ok report v := by
  obtain ⟨d, protocol, policy⟩ := made.fresh.policy
  obtain ⟨s₀, n, e, course⟩ := made.course
  -- The set-up leaves all as it is, so the runs begin alike.
  have prepared : s.policy.setUp.run s.kernel = .ok true s.kernel :=
    policy ▸ run_setUp_of_blank d protocol blank
  cases course.begun.symm.trans (SimulationM.run_startOnce_of_setUp made.early prepared)
  have fresh : Fresh { s with started := true } :=
    ⟨made.fresh.kernel, made.fresh.policy, made.fresh.table, made.fresh.pids, made.fresh.pending⟩
  obtain ⟨e', goes, guised⟩ := course.goes.alongside (made.guised_started _) course.sound
    fresh.sound fun a b both sound sound' limit limit' _ going =>
      (both.going_iff sound.roster sound'.roster rfl (limit'.trans limit.symm)).mpr going
  have roster := (course.goes.sound course.sound).roster
  have roster' := (goes.sound fresh.sound).roster
  have limit : e'.limit = e.limit :=
    (goes.setAlike fresh.sound).limit.trans (course.goes.setAlike course.sound).limit.symm
  have judged := guised.judged roster roster' rfl limit
  have course' : Course { s with started := true } { s with started := true } n e' :=
    ⟨SimulationM.run_startOnce_of_started rfl, fresh.sound, rfl, goes,
      fun going => course.judged ((going_iff_of_judged judged).mp going), course.enough⟩
  have flags := flags_ended_eq guised.stalled guised.truncated judged
  have report : e'.ended.report = e.ended.report := by
    rw [e'.ends_ended.report, e.ends_ended.report, guised.report_same roster roster', flags.1,
      flags.2]
  exact ⟨e.ended.report, e.ended, e'.ended, course.run, report ▸ course'.run⟩

/-- The resources of a simulation are in its table. -/
theorem fits_of_create {w : Workload} {policy : Policy} {resources : Int} {limit : Option Int}
    (created : create w policy resources limit = .ok s) :
    0 < resources ∧ ∀ r ∈ w.resourceIds, r < resources := by
  obtain ⟨size, checked, rest⟩ := Except.bind_eq_ok_iff.mp created
  constructor
  · by_contra none
    rw [Kernel.checkSize, if_pos (Int.not_lt.mp none)] at checked
    cases checked
  · intro r mem
    cases found : w.resourceIds.find? (fun r => resources ≤ r) with
    | some r =>
        rw [found] at rest
        cases rest
    | none => simpa using List.find?_eq_none.mp found r mem

/-- A discipline that was not set up makes the run that it would have made. -/
theorem report_unprepared {w : Workload} {policy : Policy} {resources : Int} {limit : Option Int}
    (created : create w policy resources limit = .ok s) (valid : w.Valid) {d : Discipline}
    {protocol : Protocol}
    (is : policy = { Policy.of d protocol with label := policy.label, setUp := policy.setUp }) :
    ∃ u report v v', create w (.of d protocol) resources limit = .ok u ∧
      u.run = .ok report v ∧ { s with started := true }.run = .ok report v' := by
  obtain ⟨positive, fits⟩ := fits_of_create created
  obtain ⟨k, u, created', fresh, made⟩ := create_of_valid valid positive fits d protocol limit
  obtain ⟨report, v, v', ran, started⟩ := MadeOf.report_started (s := u) ⟨fresh, by rw [made]⟩
    (memory_of_create created')
  have instead : u = { s with policy := .of d protocol } := by
    rw [create_policy w policy, created] at created'
    exact (Except.ok.inj created').symm
  have same : s.policy = policy := by rw [eq_of_create created]
  let setUp := (Policy.of d protocol).setUp
  have restored : primed d.label setUp { s with started := true } =
      { u with started := true } := by
    unfold primed
    rw [instead, same, is]
    rfl
  have carried : EStateM.run SimulationM.run (primed d.label setUp { s with started := true }) =
      (EStateM.run SimulationM.run { s with started := true }).mapState (primed d.label setUp) :=
    SimulationM.carries_run rfl
  rw [restored] at carried
  obtain ⟨t, alone⟩ := EStateM.Result.of_mapState_eq_ok (carried.symm.trans started)
  exact ⟨u, report, v, t, created', ran, alone⟩

end Simulation

open Simulation (Call)

/-- A policy that refuses to be set up makes the first call fail, be it a step or a run, and all
that has happened by then is what the policy did to the kernel. The simulation has been started
all the same: further calls go on from there with no regard to the set-up, as if it were any other
one. If that and its label are all that is odd about the policy, a run now makes the report that it
was to make. -/
theorem refused_once {w : Workload} {policy : Policy} {resources : Int} {limit : Option Int}
    {s : Simulation} {k : Kernel} (created : Simulation.create w policy resources limit = .ok s)
    (refuses : policy.setUp.run s.kernel = .ok false k) (first : Call) :
    ∃ t, s.call first = (.failed (.setUpFailed (Text.quoted policy.title)), t) ∧
      t = { s with started := true, kernel := k } ∧
      (∀ later label setUp, (t.primed label setUp).session later =
        (t.session later).map fun e => (e.1, e.2.primed label setUp)) ∧
      (k = s.kernel → w.Valid →
        ∀ d protocol,
          policy = { Policy.of d protocol with label := policy.label, setUp := policy.setUp } →
          ∃ u report v v', Simulation.create w (.of d protocol) resources limit = .ok u ∧
            u.run = .ok report v ∧ t.run = .ok report v') := by
  have is := Simulation.eq_of_create created
  have early : s.started = false := by rw [is]
  have same : s.policy = policy := by rw [is]
  have failed := Simulation.call_of_refusal early (same ▸ refuses) first
  refine ⟨_, same ▸ failed, rfl, fun later label setUp => ?_, ?_⟩
  · exact Simulation.session_primed rfl label setUp later
  · rintro rfl valid d protocol odd
    exact Simulation.report_unprepared created valid odd

theorem refused_once_contended :
    ∃ s t, Simulation.create .contended (.refusing .fifo) 1 none = .ok s ∧
      s.call .run = (.failed (.setUpFailed (Text.quoted (Text.ofString "FCFS"))), t) ∧
      ∃ u report v v', Simulation.create .contended (.of .firstCome .fifo) 1 none = .ok u ∧
        u.run = .ok report v ∧ t.run = .ok report v' := by
  have valid := Workload.valid_ofText Workload.ofText_contention
  obtain ⟨_, u, made, _⟩ := Simulation.create_of_valid valid (by decide : (0 : Int) < 1)
    (by simp [Workload.resourceIds_contended]) .firstCome .fifo none
  have created := Simulation.create_policy .contended (.of .firstCome .fifo) (.refusing .fifo) 1
    none
  rw [made] at created
  obtain ⟨t, failed, _, _, same⟩ := refused_once created rfl .run
  exact ⟨_, t, created, failed, same rfl valid .firstCome .fifo rfl⟩

set_option maxRecDepth 10000 in
/-- The second of two steps lets a process arrive and run. -/
theorem resumes_contended :
    ((Simulation.create .contended (.refusing .fifo) 1 none).toOption.any fun s =>
      match s.session [.step, .step] with
      | [(.failed _, t), (.ticked line, u)] =>
          decide ((t.kernel.tick, t.timeline.toList, t.pending.map (·.pid)) = (0, [], [1, 2]) ∧
            (u.kernel.tick, u.timeline.toList, u.pending.map (·.pid)) = (1, [line], [2]))
      | _ => false) = true := by
  decide_cbv

/-- A simulation whose policy refuses to be set up fails in its first step only. The next one is
the first tick of a run. -/
theorem fails_once :
    ∃ s t line u, Workload.ofText Workload.contention = .ok .contended ∧
      Simulation.create .contended (.refusing .fifo) 1 none = .ok s ∧
      (Policy.refusing .fifo).setUp.run s.kernel = .ok false s.kernel ∧
      s.session [.step, .step] =
        [(.failed (.setUpFailed (Text.quoted (Text.ofString "FCFS"))), t), (.ticked line, u)] ∧
      (t.kernel.tick, t.timeline.toList, t.pending.map (·.pid)) = (0, [], [1, 2]) ∧
      (u.kernel.tick, u.timeline.toList, u.pending.map (·.pid)) = (1, [line], [2]) := by
  have resumes := resumes_contended
  cases created : Simulation.create .contended (.refusing .fifo) 1 none with
  | error fault =>
      rw [created] at resumes
      cases resumes
  | ok s =>
      rw [created] at resumes
      have is := Simulation.eq_of_create created
      have policy : s.policy = .refusing .fifo := by rw [is]
      have refuses : s.policy.setUp.run s.kernel = .ok false s.kernel := policy ▸ rfl
      have failed := policy ▸ Simulation.call_of_refusal (by rw [is]) refuses .step
      dsimp only [Except.toOption, Option.any] at resumes
      split at resumes
      · next fault t line u answers =>
          obtain ⟨before, after⟩ := of_decide_eq_true resumes
          have first : s.call .step = (.failed fault, t) := (List.cons.inj answers).1
          cases first.symm.trans failed
          exact ⟨s, _, line, u, Workload.ofText_contention, rfl, rfl, answers, before, after⟩
      · cases resumes

end Uniprocessor
