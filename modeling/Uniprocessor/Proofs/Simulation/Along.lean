import Uniprocessor.Proofs.Protocol.Traffic
import Uniprocessor.Proofs.Simulation.Course
import Uniprocessor.Proofs.Simulation.Parts

/-!
What a simulation does to its kernel.

A relation between kernels that every operation on the kernel keeps to holds along
the whole of a program (`Simulation.Along`). The process at work does nothing to the
kernel but to acquire, to release, and to do what has nothing to do with the resources
(`SimulationM.along_execute`). Before the first tick the ceilings are set
(`Simulation.along_create`) and the memory of the policy is prepared
(`SimulationM.along_startOnce`); the end of a run has nothing to do with the resources
(`Simulation.aside_ended`).
-/

namespace Uniprocessor

open EStateM (Leads reads_get run_bind_eq_ok run_read_eq_ok)

/-- The policy stays, and `R` leads from the one kernel to the other. -/
structure Simulation.Along (R : Kernel → Kernel → Prop) (s t : Simulation) : Prop where
  policy : t.policy = s.policy
  kernel : R s.kernel t.kernel

variable {R : Kernel → Kernel → Prop} [IsPreorder Kernel R]

instance : IsPreorder Simulation (Simulation.Along R) where
  refl s := ⟨rfl, refl_of R s.kernel⟩
  trans _ _ _ first second :=
    ⟨second.policy.trans first.policy, trans_of R first.kernel second.kernel⟩

namespace SimulationM

open Simulation (Along)

variable {s t : Simulation} {h : Handle} {pid r : Int} {α : Type}

omit [IsPreorder Kernel R] in
theorem along_onKernel {op : KernelM α} (leads : Leads R op s.kernel) :
    Leads (Along R) (onKernel op) s := by
  intro a t ran
  obtain ⟨k, made, rfl⟩ := run_onKernel_eq_ok ran
  exact ⟨rfl, leads a k made⟩

theorem along_modify {f : Simulation → Simulation} (policy : (f s).policy = s.policy)
    (kernel : (f s).kernel = s.kernel) :
    Leads (Along R) (modify f : SimulationM Unit) s :=
  .modify ⟨policy, kernel ▸ refl_of R s.kernel⟩

theorem along_entry {ν : Type} (table : Table Int ν) (key : Int) :
    Leads (Along R) (entry table key) s := by
  unfold entry
  split
  · exact .pure _
  · exact .throw _

theorem along_holdingOf : Leads (Along R) (holdingOf pid) s :=
  .read reads_get (along_entry _ _)

/-! ### The process at work -/

section Work

variable (asides : ∀ {k k' : Kernel}, k.Aside k' → R k k')
  (releases : ∀ {k : Kernel} {r : Int} (protocol : Protocol), Leads R (protocol.release r) k)
  (acquires : ∀ {k : Kernel} {r : Int} (protocol : Protocol), Leads R (protocol.acquire r) k)

include releases

theorem along_release : Leads (Along R) (release pid r) s := by
  refine along_holdingOf.bind fun held _ _ => (along_entry held r).bind fun _ _ _ => ?_
  refine Leads.bind (along_modify rfl rfl) fun _ _ _ => .read reads_get ?_
  exact along_onKernel (releases _)

theorem along_expire (todo : List Int) : Leads (Along R) (expire pid todo) s := by
  induction todo generalizing s with
  | nil => exact .pure ()
  | cons r todo ih =>
      refine along_holdingOf.bind fun held _ _ => (along_entry held r).bind fun count _ _ => ?_
      refine Leads.bind (along_modify rfl rfl) fun _ _ _ => ?_
      split
      · exact (along_release releases).bind fun _ _ _ => ih
      · exact ih

include asides

/-- Whoever leaves gives back what it holds. -/
theorem along_leave (silent : s.policy.leaving = fun _ => pure ()) :
    Leads (Along R) (leave h) s := by
  have aside {α : Type} {op : KernelM α} {s : Simulation}
      (leads : Leads Kernel.Aside op s.kernel) : Leads (Along R) (onKernel op) s :=
    along_onKernel fun a k made => asides (leads a k made)
  refine .read reads_process (along_holdingOf.bind fun held t read => ?_)
  refine (Leads.forM fun _ _ => along_release releases).bind fun _ u left => ?_
  refine (aside (KernelM.aside_move _)).bind fun _ v gone => .read reads_get ?_
  have noting : ∀ p p' : Process, Except.ok { p with exitTick := some (v.kernel.tick + 1) } =
      (Except.ok p' : Except Fault Process) → p'.pid = p.pid := by
    rintro p _ ⟨⟩
    rfl
  refine (aside (KernelM.aside_onProcess noting)).bind fun _ w noted => .read reads_get ?_
  rw [noted.policy, gone.policy, left.policy, read.policy, silent]
  refine (aside (.pure ())).bind fun _ _ _ => ?_
  exact aside (KernelM.aside_record rfl)

include acquires

omit asides releases in
theorem along_issue (n : Nat) (l : List Request) : Leads (Along R) (issue h n l) s := by
  induction l generalizing s n with
  | nil => exact .pure true
  | cons request later ih =>
      refine .read reads_process ?_
      split
      · refine .read reads_get ((along_onKernel (acquires _)).bind fun granted _ _ => ?_)
        split
        · refine along_holdingOf.bind fun held _ _ => ?_
          refine Leads.bind (along_modify rfl rfl) fun _ _ _ => ?_
          exact Leads.bind (along_modify rfl rfl) fun _ _ _ => ih _
        · exact .pure false
      · exact .pure true

/-- The process at work acquires, releases, and does what has nothing to do with resources. -/
theorem along_execute (silent : s.policy.leaving = fun _ => pure ()) :
    Leads (Along R) (execute h) s := by
  have issued : Leads (Along R) (issueRequests h) s :=
    .read reads_process (.read reads_get ((along_entry _ _).bind
      fun granted _ _ => along_issue acquires granted _))
  refine issued.bind fun granted t asked => ?_
  split
  · have worked : Leads (Along R) (onKernel (KernelM.runTick h)) t :=
      along_onKernel fun a k made => asides (KernelM.aside_runTick a k made)
    refine worked.bind fun _ u ticked => .read reads_process ?_
    refine along_holdingOf.bind fun held v read => ?_
    refine (along_expire releases _).bind fun _ w expired => .read reads_process ?_
    split
    · have policy := expired.policy.trans
        (read.policy.trans (ticked.policy.trans asked.policy))
      exact (along_leave asides releases (by rw [policy, silent])).bind fun _ _ _ => .pure _
    · exact .pure _
  · exact .pure _

end Work

/-! ### Before the first tick -/

theorem leads_setUp (remembers : ∀ (k : Kernel) (memory : Memory), R k (k.remember memory))
    (d : Discipline) (protocol : Protocol) {k : Kernel} :
    Leads R (Policy.of d protocol).setUp k := by
  have cleared : Leads R d.clearSlice k := by
    cases d with
    | roundRobin quantum => exact .modify (remembers _ _)
    | _ => exact .pure ()
  have reset : ∀ k, Leads R protocol.reset k := by
    intro k
    cases protocol with
    | fifo | ceiling => exact .pure ()
    | inheritance => exact .modify (remembers _ _)
  exact cleared.bind fun _ _ _ => (reset _).bind fun _ _ _ => .pure true

/-- The memory of the policy is prepared, and its title is noted. -/
theorem along_startOnce (remembers : ∀ (k : Kernel) (memory : Memory), R k (k.remember memory))
    (notes : ∀ (k : Kernel) (title : String), R k (k.record (.started title))) {d : Discipline}
    {protocol : Protocol} (policy : s.policy = .of d protocol) :
    Leads (Along R) startOnce s := by
  refine .read reads_get ?_
  split
  · refine (along_modify rfl rfl).bind fun _ t marked => .read reads_get ?_
    have same : t.policy = .of d protocol := marked.policy.trans policy
    rw [same]
    refine (along_onKernel (leads_setUp remembers d protocol)).bind fun ready u _ => ?_
    split
    · exact along_onKernel (.modify (notes _ _))
    · exact .throw _
  · exact .pure ()

end SimulationM

namespace Simulation

/-- Of a bare kernel nothing is set but the ceilings. -/
theorem along_create
    (caps : ∀ (k : Kernel) (r : Int) (ceiling : Option Int), R k (k.cap r ceiling)) {w : Workload}
    {policy : Policy} {resources : Int} {limit : Option Int} {s : Simulation}
    (created : create w policy resources limit = .ok s) : ∃ size, R { size := size } s.kernel := by
  obtain ⟨size, _, rest⟩ := Except.bind_eq_ok_iff.mp created
  cases found : w.resourceIds.find? (fun r => resources ≤ r) with
  | some r =>
      rw [found] at rest
      cases rest
  | none =>
      rw [found] at rest
      dsimp only [bind, Except.bind] at rest
      cases placed : (placeCeilings w.ceilings.entries).run { size := size } with
      | error fault k =>
          rw [placed] at rest
          cases rest
      | ok _ k =>
          rw [placed] at rest
          cases rest
          refine ⟨size, Leads.forM (fun c k => ?_) _ _ placed⟩
          exact .read KernelM.reads_resource (.modify (caps _ _ _))

/-! ### After the last tick -/

theorem aside_ended (s : Simulation) : s.kernel.Aside s.ended.kernel := by
  have concluded : s.kernel.Aside s.conclude.kernel := by
    unfold conclude
    split
    · exact refl_of Kernel.Aside _
    · exact refl_of Kernel.Aside _
    · exact .record rfl
    · exact .record rfl
  have torn : s.conclude.kernel.Aside s.ended.kernel := by
    show s.conclude.kernel.Aside (s.conclude.kernel.tornDown s.policy.protocol)
    cases s.policy.protocol with
    | fifo | ceiling => exact refl_of Kernel.Aside _
    | inheritance => exact .remember rfl
  exact trans_of Kernel.Aside concluded torn

end Simulation

end Uniprocessor
