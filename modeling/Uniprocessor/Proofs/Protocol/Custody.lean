import Uniprocessor.Proofs.Kernel.Custody
import Uniprocessor.Proofs.Protocol.Traffic

/-!
The protocols tell in full what becomes of the resources.

A granted request is one entry, a refused one is another, and a release is one or two
(`told_assign`, `told_park`, `told_freed`). What a protocol does besides has nothing
to do with the resources, so under each of them requests and releases are told in full
(`told_acquire`, `told_release`).
-/

namespace Uniprocessor.Protocol

open EStateM (Leads)
open Kernel (Told)

variable {k k' : Kernel} {h : Handle} {r : Int}

theorem told_assign (free : (k.resource r).owner = none) :
    k.Told ((k.assign r (some h)).record (.acquired (k.process h).pid r)) :=
  .of_follow rfl rfl fun freed => ⟨none, Kernel.follow_acquired free freed⟩

theorem told_park {owner : Handle} (owned : (k.resource r).owner = some owner) :
    k.Told ((k.park r h).record (.waits (k.process h).pid r (k.process owner).pid)) :=
  .of_follow (by simp [Kernel.park]; rfl) (by simp) fun freed =>
    ⟨none, Kernel.follow_waits owned freed⟩

theorem told_freed (owned : (k.resource r).owner = some h) : k.Told (k.freed r h) := by
  let free := (k.assign r none).record (.released (k.process h).pid r)
  unfold Kernel.freed
  cases members : k.queue (.waiting r) with
  | nil => exact .of_follow rfl rfl fun freed => ⟨some r, Kernel.follow_released owned freed⟩
  | cons w rest =>
      have queue : free.queue (.waiting r) = w :: rest := by simp [free, members]
      have log : (free.wake r w).log = free.log := by simp [Kernel.wake]; rfl
      refine .of_replay [.released (k.process h).pid r, .woken (k.process w).pid r] ?_ ?_
        fun freed => ⟨none, ?_⟩
      · have noted : ((free.wake r w).record (.woken (k.process w).pid r)).log =
            (k.log.push ⟨.released (k.process h).pid r, k.tick⟩).push
              ⟨.woken (k.process w).pid r, (free.wake r w).tick⟩ :=
          congrArg (Array.push · _) log
        exact (congrArg Array.toList noted).trans (by simp [free])
      · simp
      · rw [Custody.replay_cons, Kernel.follow_released owned, Option.bind_some, Custody.replay_cons]
        exact congrArg (Option.bind · (Custody.replay · [])) (Kernel.follow_woken queue)

/-- Every answer to a request is told in full. -/
theorem told_acquire (protocol : Protocol) : Leads Told (protocol.acquire r) k := by
  intro granted k' ran
  obtain ⟨h, m, _, rest, outcome⟩ := run_acquire_eq_ok ran
  have besides := (aside_answered protocol granted _ _ rest).told
  cases granted with
  | true =>
      obtain ⟨free, rfl⟩ : _ ∧ m = _ := outcome
      exact trans_of Told (told_assign free) besides
  | false =>
      obtain ⟨owner, owned, rfl⟩ : ∃ owner, _ ∧ m = _ := outcome
      exact trans_of Told (told_park owned) besides

/-- So is every release. -/
theorem told_release (protocol : Protocol) : Leads Told (protocol.release r) k := by
  intro _ _ ran
  obtain ⟨h, woken, _, owned, rest⟩ := run_release_eq_ok ran
  exact trans_of Told (told_freed owned) (aside_released protocol woken _ _ rest).told

end Uniprocessor.Protocol
