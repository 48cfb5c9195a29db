import Mathlib
import Uniprocessor.Proofs.Protocol.Announcement
import Uniprocessor.Proofs.Simulation.Run
import Uniprocessor.Proofs.Workload.Validity

/-!
Who becomes more urgent is told by the log, but for one case.

Whatever the protocol and whatever has happened before, a request or a release that
makes somebody more urgent logs an entry of the protocol at that moment, which names
the process and its new priority (`elevation_announced`). The exception is a resource
that is granted under inheritance while others still wait for it. The new owner takes
on the priority of the most urgent of them, and no entry says so; this happens whenever
one of those woken asks again before a more urgent one behind it (`silent_elevation`).
-/

namespace Uniprocessor

/-- A call of a protocol that makes somebody more urgent logs who that is and how urgent
by now. It is silent just where a resource is granted under inheritance: then it is the
caller who has become as urgent as the most urgent process that waits for the resource. -/
theorem elevation_announced {protocol : Protocol} {k k' : Kernel} {r : Int} {h : Handle}
    (urgent : (k'.process h).priority < (k.process h).priority) :
    (∀ granted, (protocol.acquire r).run k = .ok granted k' →
      if protocol = .inheritance ∧ granted = true then
        k.current = some h ∧ Protocol.urgentWaiter k r = some (k'.process h).priority ∧
          ¬ k.Announces k' h
      else k.Announces k' h) ∧
      ((protocol.release r).run k = .ok () k' → k.Announces k' h) := by
  refine ⟨fun granted ran => ?_, fun ran => Protocol.heralds_release protocol _ _ ran h urgent⟩
  split
  · rename_i inherits
    obtain ⟨rfl, rfl⟩ := inherits
    exact Protocol.run_acquire_inheriting_eq_ok ran urgent
  · rename_i other
    exact Protocol.heralds_acquire other ran h urgent

/-- A kernel in which a process runs that is less urgent than the ceiling of a free resource. -/
def Kernel.beneath : Kernel :=
  ((({ size := 1 } : Kernel).enroll ⟨1, "p1", 0, 1, 10, [], .running, 0, {}, none, none⟩).cap 0
    (some 2)).turnTo (some 0)

theorem elevation_announced_beneath :
    ∃ k', (Protocol.acquire .ceiling 0).run .beneath = .ok true k' ∧
      (k'.process 0).priority < (Kernel.beneath.process 0).priority ∧
      Kernel.beneath.Announces k' 0 := by
  let k' := ((Kernel.beneath.assign 0 (some 0)).record (.acquired 1 0)).edit 0 (·.boost 0 2)
    |>.record (.raised 1 2 0)
  have ran : (Protocol.acquire .ceiling 0).run .beneath = .ok true k' := rfl
  have urgent : (k'.process 0).priority < (Kernel.beneath.process 0).priority := by decide
  have announced := (elevation_announced urgent).1 true ran
  rw [if_neg (by decide)] at announced
  exact ⟨k', ran, urgent, announced⟩

/-! ### A silent elevation -/

/-- A workload in which the earliest waiter is less urgent than the next one, and keeps the
resource for a while. -/
def Workload.requeueing : Text :=
  Text.ofString ("process 1 \x7b\n lifespan 3\n prio 10\n acquire 0 0 2\n\x7d\n" ++
    "process 2 \x7b\n start 1\n lifespan 2\n prio 8\n acquire 0 0 2\n\x7d\n" ++
    "process 3 \x7b\n start 2\n lifespan 1\n prio 1\n acquire 0 0 1\n\x7d\n")

def Workload.requeued : Workload where
  processes := [
    { pid := 1, lifespan := 3, priority := 10, requests := [⟨0, 0, 2⟩] },
    { pid := 2, lifespan := 2, arrival := 1, priority := 8, requests := [⟨0, 0, 2⟩] },
    { pid := 3, lifespan := 1, arrival := 2, priority := 1, requests := [⟨0, 0, 1⟩] }]

theorem Workload.ofText_requeueing : ofText requeueing = .ok requeued := by decide +kernel

/-- The kernel in which a process begins to work, if it is chosen in the next tick. -/
def Simulation.beginning (t : Simulation) (h : Handle) : Option Kernel :=
  let handed : SimulationM (Option Handle) := do
    SimulationM.arrivals t.pending
    let chosen ← SimulationM.onKernel t.policy.schedule
    SimulationM.dispatch h t.kernel.current
    pure chosen
  match EStateM.run handed t with
  | .ok chosen d => if chosen = some h then some d.kernel else none
  | .error _ _ => none

/-- The second process has been woken, and asks again. It gets the resource, and is as urgent
as the third one, which still waits. The log tells who has the resource. -/
theorem raised_requeued :
    ((Simulation.after .requeued (.of .priorityInheritance .inheritance) 1 4).any fun t =>
      (t.beginning 1).any fun k =>
        match (Protocol.acquire .inheritance 0).run k with
        | .ok granted k' =>
            decide (granted = true ∧ (k.process 1).priority = 8 ∧ (k'.process 1).priority = 1 ∧
              k'.log.toList = k.log.toList ++ [⟨.acquired 2 0, 4⟩])
        | .error _ _ => false) = true := by
  decide_cbv

/-- In a run of a parsed workload under the priority inheritance policy the process that is
chosen becomes more urgent by its request, and the log tells only that it was granted. -/
theorem silent_elevation :
    ∃ w s t k k', Workload.ofText Workload.requeueing = .ok w ∧
      Simulation.create w (.of .priorityInheritance .inheritance) 1 none = .ok s ∧
      EStateM.run (SimulationM.steps 4) s = .ok () t ∧ t.beginning 1 = some k ∧
      (Protocol.acquire .inheritance 0).run k = .ok true k' ∧
      (k'.process 1).priority < (k.process 1).priority ∧
      k'.log.toList = k.log.toList ++ [⟨.acquired 2 0, 4⟩] ∧ ¬ k.Announces k' 1 := by
  obtain ⟨t, after, found⟩ := (Option.any_eq_true _ _).mp raised_requeued
  obtain ⟨k, begins, found⟩ := (Option.any_eq_true _ _).mp found
  obtain ⟨s, created, ran⟩ := Simulation.after_eq_some after
  cases asked : (Protocol.acquire .inheritance 0).run k with
  | error fault k' =>
      rw [asked] at found
      cases found
  | ok granted k' =>
      rw [asked] at found
      obtain ⟨rfl, before, raised, logged⟩ := of_decide_eq_true found
      refine ⟨_, s, t, k, k', Workload.ofText_requeueing, created, ran, begins, asked, by omega,
        logged, ?_⟩
      rintro ⟨l, log, e, mem, _, _, names⟩
      rw [List.append_cancel_left (log.symm.trans logged), List.mem_singleton] at mem
      subst mem
      cases names

end Uniprocessor
