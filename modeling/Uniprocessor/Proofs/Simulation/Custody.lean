import Uniprocessor.Proofs.Protocol.Custody
import Uniprocessor.Proofs.Simulation.Along

/-!
A tick tells in full what becomes of the resources.

Whoever arrives owns nothing and waits for nothing (`Simulation.Gathers.told`), and
neither a choice nor the processor that passes on has to do with a resource
(`Policy.Choice.told`, `SimulationM.told_dispatch`). The rest of a tick is up to the
protocol, so the whole of it is told (`SimulationM.Staged.told`).
-/

namespace Uniprocessor

open EStateM (Leads run_bind_eq_ok)
open Kernel (Told)

/-! ### Arrivals and choices -/

namespace Kernel

variable {k : Kernel} {h : Handle}

/-- A newcomer owns nothing and waits for nothing. -/
theorem custody_receive (order : k.Orderly) (fresh : k.nextHandle ∉ k.handles) (p : Process) :
    (k.receive p).holder = k.holder ∧ (k.receive p).waiters = k.waiters := by
  have others : ∀ h ∈ k.handles, (k.receive p).process h = k.process h := by
    intro h used
    have other : k.nextHandle ≠ h := fun is => fresh (is ▸ used)
    simp [other]
  constructor
  · funext r
    have owner : ((k.receive p).resource r).owner = (k.resource r).owner := by simp
    rw [holder, holder, owner]
    exact Option.map_congr fun h owned => by rw [others h (order.owners r h owned).2.1]
  · funext r
    have queue : (k.receive p).queue (.waiting r) = k.queue (.waiting r) := by simp
    rw [waiters, waiters, queue]
    exact List.map_congr_left fun h mem => by rw [others h (order.linked.used mem)]

theorem told_record {e : Event} (aside : e.transfers = false) : k.Told (k.record e) :=
  (Aside.record aside).told

theorem told_turnTo (current : Option Handle) : k.Told (k.turnTo current) :=
  .of_same rfl le_rfl rfl rfl

theorem told_withSlice (used : Nat) : k.Told (Policy.withSlice k used) :=
  .of_same rfl le_rfl rfl rfl

theorem told_unlink_ready : k.Told (k.unlink .ready h) := by
  refine .of_same (log_unlink k .ready h) (by simp) ?_ ?_ <;> funext r
  · simp [holder]
  · simp [waiters]

theorem told_sendBack : k.Told (k.sendBack h) := by
  refine .of_same (by simp [sendBack]; rfl) (by simp) ?_ ?_ <;> funext r
  · simp [holder]
  · simp [waiters]

end Kernel

theorem Policy.Choice.told {k k' : Kernel} {chosen : Option Handle}
    (choice : Policy.Choice k chosen k') : k.Told k' := by
  induction choice with
  | nobody used | resume used => exact Kernel.told_withSlice used
  | take used => exact trans_of Told Kernel.told_unlink_ready (Kernel.told_withSlice used)
  | preempt goes next ih =>
      refine trans_of Told ?_ ih
      exact trans_of Told Kernel.told_sendBack (Kernel.told_record rfl)

theorem Simulation.Gathers.told {s g : Simulation} {l : List ProcessSpec} (gathers : Gathers l s g)
    (sound : Sound ⟨.arriving, s⟩) (pending : s.pending = l) : s.kernel.Told g.kernel := by
  induction gathers with
  | done => exact refl_of Told _
  | @receive s g spec later p due built rest ih =>
      have move : Move ⟨.arriving, s⟩ ⟨.arriving, s.joinedBy p later⟩ :=
        .arrive pending due built (.record _ _)
      obtain ⟨owner, waiters⟩ := Kernel.custody_receive sound.order sound.roster.fresh p
      have received : s.kernel.Told (s.kernel.receive p) :=
        .of_same (by simp [Kernel.receive]; rfl) (by simp) owner waiters
      refine trans_of Told ?_ (ih (sound.move move) rfl)
      exact trans_of Told received (Kernel.told_record rfl)

/-! ### The process at work -/

namespace SimulationM

open Simulation (Along)

variable {s g e : Simulation} {h : Handle} {chosen : Option Handle} {event : TickEvent}

theorem told_dispatch (previous : Option Handle) :
    Leads (Along Told) (dispatch h previous) s := by
  have handed (s : Simulation) (pid : Int) : Leads (Along Told) (handOver h previous pid) s := by
    have turned (s : Simulation) :
        Leads (Along Told) (onKernel (KernelM.setCurrent (some h))) s :=
      along_onKernel (.modify (Kernel.told_turnTo _))
    unfold handOver
    split
    · refine (along_modify rfl rfl).bind fun _ _ _ => ?_
      exact (along_onKernel (.modify (Kernel.told_record rfl))).bind fun _ _ _ => turned _
    · exact turned s
  have violated {v : Violation} {f : Unit → SimulationM Unit} :
      Leads (Along Told) (onKernel (KernelM.violate v) >>= f) s := by
    intro _ _ ran
    obtain ⟨_, _, faulted, _⟩ := run_bind_eq_ok ran
    cases faulted
  refine .read reads_process ?_
  dsimp only
  split
  · exact violated
  · split
    · have moved : Leads (Along Told) (onKernel (KernelM.move h .dispatch)) s :=
        along_onKernel fun a k made => (KernelM.aside_move .dispatch a k made).told
      exact moved.bind fun _ t _ => handed t _
    · split
      · exact violated
      · exact handed s _

namespace Staged

/-- A tick tells in full what becomes of the resources. -/
theorem told (sound : Sound ⟨.arriving, s⟩) (staged : Staged s g e chosen event) :
    s.kernel.Told e.kernel := by
  have arrived := (gathers_of_run sound rfl staged.gathered).told sound rfl
  obtain ⟨k, chose, choice⟩ := staged.chose
  have named : s.kernel.Told k := trans_of Told arrived choice.told
  cases chosen with
  | none =>
      obtain rfl := staged.idled chose
      exact trans_of Told named (Kernel.told_turnTo none)
  | some h =>
      obtain ⟨d, handed, executed, busy, _⟩ := staged.dispatched sound chose
      have turned := told_dispatch _ _ _ handed
      have silent : d.policy.leaving = fun _ => pure () := by
        obtain ⟨d', protocol, policy⟩ := busy.policy
        rw [show d.policy = .of d' protocol from policy]
        rfl
      have worked := along_execute Kernel.Aside.told Protocol.told_release Protocol.told_acquire
        silent _ _ executed
      exact trans_of Told named (trans_of Told turned.kernel worked.kernel)

end Staged

end SimulationM

end Uniprocessor
