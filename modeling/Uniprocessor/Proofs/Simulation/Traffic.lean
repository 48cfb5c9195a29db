import Uniprocessor.Proofs.Simulation.Along

/-!
What a tick does to the wait queues.

The process at work is the only one that is refused or that wakes anybody: by its
requests (`SimulationM.works_issue`), by what it gives back as it works and when it
leaves (`SimulationM.works_expire`, `SimulationM.works_leave`). Its tick is blocked
just when it was refused, and that once (`SimulationM.works_execute`). Nothing else
in a tick touches a wait queue, so the tick as a whole passes the waiters on in their
order (`SimulationM.Staged.passes`).
-/

namespace Uniprocessor

open EStateM (Leads reads_get run_bind_eq_ok run_read_eq_ok)

/-! ### The choice -/

/-- A choice refuses and wakes nobody, and nobody who waits is moved. -/
theorem Policy.Choice.passes {k k' : Kernel} {chosen : Option Handle}
    (choice : Policy.Choice k chosen k') : k.Passes [] k' := by
  induction choice with
  | nobody | resume => refine Kernel.Silent.passes (.of_log ?_) fun r => ?_ <;> rfl
  | @take k h used free mem =>
      refine Kernel.Silent.passes (.of_log ?_) fun r => ?_
      · exact Kernel.log_unlink k .ready h
      simp [Kernel.waiters, Policy.withSlice, apply_ite Process.pid]
  | @preempt k k' h chosen goes next ih =>
      have sent : k.Silent (k.sendBack h) := .of_log (by simp [Kernel.sendBack]; rfl)
      have first : k.Passes [] ((k.sendBack h).record (.preempted (k.process h).pid)) := by
        refine (trans_of Kernel.Silent sent (.record ⟨rfl, rfl⟩)).passes fun r => ?_
        simp [Kernel.waiters, apply_ite Process.pid]
      exact first.trans ih

/-! ### The process at work -/

/-- The process at work goes on, and these were refused. -/
structure Simulation.Works (l : List (Int × Int)) (s t : Simulation) : Prop where
  policy : t.policy = s.policy
  kernel : s.kernel.Works l t.kernel

namespace Simulation.Works

variable {s t u : Simulation} {l l' : List (Int × Int)}

theorem trans (first : s.Works l t) (second : t.Works l' u) : s.Works (l ++ l') u :=
  ⟨second.policy.trans first.policy, first.kernel.trans second.kernel⟩

theorem of_kernel (policy : t.policy = s.policy) (kernel : t.kernel = s.kernel) :
    s.Works [] t :=
  ⟨policy, kernel ▸ refl_of (Kernel.Works []) s.kernel⟩

instance : IsPreorder Simulation (Works []) where
  refl _ := .of_kernel rfl rfl
  trans _ _ _ first second := first.trans second

end Simulation.Works

namespace SimulationM

open Simulation (Along Works)

variable {s t : Simulation} {h : Handle} {pid r : Int} {α : Type}

/-- What leads along the kernels leads there for the process at work. -/
theorem works_of_along {x : SimulationM α} (leads : Leads (Along (Kernel.Works [])) x s) :
    Leads (Works []) x s := fun a t ran => ⟨(leads a t ran).policy, (leads a t ran).kernel⟩

theorem works_expire (todo : List Int) : Leads (Works []) (expire pid todo) s :=
  works_of_along (along_expire Protocol.works_release todo)

theorem works_leave (silent : s.policy.leaving = fun _ => pure ()) :
    Leads (Works []) (leave h) s :=
  works_of_along (along_leave (fun aside => aside.calm.works) Protocol.works_release silent)

/-- The requests are granted up to the first refusal, if there is one. -/
theorem works_issue {l : List Request} {n : Nat} {granted : Bool}
    (current : s.kernel.current = some h) (ran : EStateM.run (issue h n l) s = .ok granted t) :
    ∃ refused, s.Works refused t ∧
      refused.map (·.2) = if granted then [] else [(s.kernel.process h).pid] := by
  -- On the requests that are left: a grant refuses nobody, and a refusal is the last answer.
  induction l generalizing s n with
  | nil =>
      cases ran
      exact ⟨[], refl_of (Works []) _, rfl⟩
  | cons request later ih =>
      have known := run_read_eq_ok reads_process ran
      split at known
      · have asking := run_read_eq_ok reads_get known
        obtain ⟨answer, u, asked, rest⟩ := run_bind_eq_ok asking
        obtain ⟨k, acquired, rfl⟩ := run_onKernel_eq_ok asked
        have works := Protocol.works_acquire current acquired
        cases answer with
        | false =>
            cases rest
            exact ⟨_, ⟨rfl, works⟩, rfl⟩
        | true =>
            obtain ⟨held, _, read, rest⟩ := run_bind_eq_ok rest
            obtain ⟨_, _, noted, rest⟩ := run_bind_eq_ok rest
            obtain ⟨_, _, counted, rest⟩ := run_bind_eq_ok rest
            cases holdingOf_eq_ok read
            cases noted
            cases counted
            obtain ⟨refused, more, pids⟩ := ih (works.current.trans current) rest
            refine ⟨refused, ⟨more.policy, works.trans more.kernel⟩, ?_⟩
            rw [pids]
            exact congrArg (fun pid => if granted then [] else [pid]) (works.pid h)
      · cases known
        exact ⟨[], refl_of (Works []) _, rfl⟩

/-- A tick is blocked just when the process at work was refused, and that once. -/
theorem works_execute {event : TickEvent} (current : s.kernel.current = some h)
    (silent : s.policy.leaving = fun _ => pure ())
    (ran : EStateM.run (execute h) s = .ok event t) :
    ∃ refused, s.Works refused t ∧
      refused.map (·.2) = if event = .blocked then [(s.kernel.process h).pid] else [] := by
  obtain ⟨granted, u, issued, rest⟩ := run_bind_eq_ok ran
  have issuing := run_read_eq_ok reads_process issued
  have counting := run_read_eq_ok reads_get issuing
  obtain ⟨count, _, counted, asking⟩ := run_bind_eq_ok counting
  cases entry_eq_ok counted
  obtain ⟨refused, asked, pids⟩ := works_issue current asking
  cases granted with
  | false =>
      cases rest
      exact ⟨refused, asked, pids⟩
  | true =>
      obtain ⟨_, v, ticked, rest⟩ := run_bind_eq_ok rest
      have worked := works_of_along (along_onKernel fun a k made =>
        (KernelM.aside_runTick a k made).calm.works) _ _ ticked
      have expiring := run_read_eq_ok reads_process rest
      obtain ⟨held, _, read, rest⟩ := run_bind_eq_ok expiring
      cases holdingOf_eq_ok read
      obtain ⟨_, w, expired, rest⟩ := run_bind_eq_ok rest
      have busy := asked.trans (worked.trans (works_expire _ _ _ expired))
      rw [List.append_nil, List.append_nil] at busy
      have ending := run_read_eq_ok reads_process rest
      split at ending
      · obtain ⟨_, x, gone, last⟩ := run_bind_eq_ok ending
        cases last
        have left := works_leave (by rw [busy.policy, silent]) _ _ gone
        refine ⟨refused, ?_, pids⟩
        simpa using busy.trans left
      · cases ending
        exact ⟨refused, busy, pids⟩

/-! ### Whole ticks -/

namespace Staged

variable {g e : Simulation} {chosen : Option Handle} {event : TickEvent} {k : Kernel}

/-- From the choice on only the process at work is refused, and the slice stays as the policy
has set it. -/
theorem works (sound : Sound ⟨.arriving, s⟩) (staged : Staged s g e (some h) event)
    (chose : g.policy.schedule.run g.kernel = .ok (some h) k) :
    ∃ refused, k.Passes refused e.kernel ∧
      refused.map (·.2) = (if event = .blocked then [(e.kernel.process h).pid] else []) ∧
      e.kernel.memory.sliceUsed = k.memory.sliceUsed := by
  obtain ⟨d, handed, executed, busy, _⟩ := staged.dispatched sound chose
  obtain ⟨k', is, same, silent, slice⟩ := run_dispatch_eq_ok handed
  have dispatched : k.Passes [] d.kernel := by
    rw [is]
    refine silent.passes fun r => ?_
    simp [Kernel.waiters, same.queue, same.process, apply_ite Process.pid]
  obtain ⟨refused, works, pids⟩ := works_execute (busy.running rfl).1 (by
    obtain ⟨d', protocol, policy⟩ := busy.policy
    rw [show d.policy = .of d' protocol from policy]
    rfl) executed
  refine ⟨refused, dispatched.trans works.kernel.toPasses, ?_, ?_⟩
  · rw [pids, works.kernel.pid]
  · rw [works.kernel.slice, is]
    exact slice

/-- A tick passes the waiters on in their order, and it is blocked just when somebody was
refused. -/
theorem passes (sound : Sound ⟨.arriving, s⟩) (staged : Staged s g e chosen event) :
    ∃ refused, s.kernel.Passes refused e.kernel ∧
      refused.map (·.2) = if event = .blocked then (e.line chosen event).pid.toList else [] := by
  have gathered := (gathers_of_run sound rfl staged.gathered).gathered sound rfl
  have arrived := gathered.silent.passes (gathered.waiters sound.order.linked)
  obtain ⟨k, chose, choice⟩ := staged.chose
  have named : s.kernel.Passes [] k := arrived.trans choice.passes
  cases chosen with
  | none =>
      obtain rfl := staged.idled chose
      obtain ⟨rfl, _⟩ := staged.rests rfl
      have turned : k.Passes [] (k.turnTo none) := by
        refine Kernel.Silent.passes (.of_log ?_) fun r => ?_ <;> rfl
      exact ⟨[], named.trans turned, rfl⟩
  | some h =>
      obtain ⟨refused, works, pids, _⟩ := staged.works sound chose
      exact ⟨refused, named.trans works, pids⟩

end Staged

end SimulationM

end Uniprocessor
