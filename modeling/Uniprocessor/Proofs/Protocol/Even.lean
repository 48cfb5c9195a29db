import Uniprocessor.Proofs.Protocol.Inheritance
import Uniprocessor.Proofs.Protocol.Traffic

/-!
Where all are equally urgent, no protocol boosts anybody.

A kernel is even if nobody is boosted, everybody has the same base priority and no
ceiling is more urgent (`Kernel.Even`). Whatever a protocol does besides first come,
first served asks for a priority that is strictly more urgent than another: a ceiling
than the base of the owner, a waiter than the base of the owner, a donor than the
owner. In an even kernel there is none, so no branch of this kind is taken, and requests
and releases leave kernels even (`Protocol.even_acquire`, `Protocol.even_release`).
-/

namespace Uniprocessor

open EStateM (Leads reads_get)

namespace Kernel

variable {c : Int} {k k' : Kernel} {h p : Handle} {r : Int}

/-- Nobody is boosted, everybody has the base priority `c`, and no ceiling is more urgent.
Whoever owns a resource or stands in a queue is in use. -/
structure Even (c : Int) (k : Kernel) : Prop where
  boosts : ∀ p, (k.process p).boosts = {}
  base : ∀ p ∈ k.handles, (k.process p).base = c
  ceiling : ∀ r v, (k.resource r).ceiling = some v → c ≤ v
  owner : ∀ r p, (k.resource r).owner = some p → p ∈ k.handles
  member : ∀ q, ∀ p ∈ k.queue q, p ∈ k.handles

namespace Even

/-- Everybody is equally urgent. -/
theorem priority (even : k.Even c) (used : p ∈ k.handles) : (k.process p).priority = c := by
  unfold Process.priority
  rw [even.boosts, even.base p used]
  rfl

/-- What leaves processes, ceilings and handles as they are but for places. -/
theorem congr (even : k.Even c) (boosts : ∀ p, (k'.process p).boosts = (k.process p).boosts)
    (base : ∀ p, (k'.process p).base = (k.process p).base)
    (ceiling : ∀ r, (k'.resource r).ceiling = (k.resource r).ceiling)
    (handles : k'.handles = k.handles)
    (owner : ∀ r p, (k'.resource r).owner = some p → p ∈ k.handles)
    (member : ∀ q, ∀ p ∈ k'.queue q, p ∈ k.handles) : k'.Even c where
  boosts p := (boosts p).trans (even.boosts p)
  base p used := (base p).trans (even.base p (handles ▸ used))
  ceiling r v found := even.ceiling r v (ceiling r ▸ found)
  owner r p owned := handles ▸ owner r p owned
  member q p mem := handles ▸ member q p mem

theorem record (even : k.Even c) (e : Event) : (k.record e).Even c :=
  even.congr (by simp) (by simp) (by simp) (by simp) (by simpa using even.owner)
    (by simpa using even.member)

theorem remember (even : k.Even c) (memory : Memory) : (k.remember memory).Even c :=
  even.congr (by simp) (by simp) (by simp) (by simp) (by simpa using even.owner)
    (by simpa using even.member)

theorem edit (even : k.Even c) (used : h ∈ k.handles) {change : Process → Process}
    (boosts : ∀ p : Process, p.boosts = {} → (change p).boosts = {})
    (base : ∀ p, (change p).base = p.base) : (k.edit h change).Even c where
  boosts p := by
    rw [process_edit]
    split
    · exact boosts _ (even.boosts p)
    · exact even.boosts p
  base p used' := by
    rw [handles_edit used] at used'
    rw [process_edit]
    split
    · exact (base _).trans (even.base p used')
    · exact even.base p used'
  ceiling := by simpa using even.ceiling
  owner := by simpa [used] using even.owner
  member := by simpa [used] using even.member

theorem assign (even : k.Even c) {owner : Option Handle}
    (used : ∀ p, owner = some p → p ∈ k.handles) : (k.assign r owner).Even c := by
  refine even.congr (by simp) (by simp) (by simp) (by simp) (fun i p owned => ?_)
    (by simpa using even.member)
  rw [owner_assign] at owned
  split at owned
  · exact used p owned
  · exact even.owner i p owned

theorem park (even : k.Even c) (used : h ∈ k.handles) : (k.park r h).Even c := by
  refine even.congr (by simp [apply_ite]) (by simp [apply_ite]) (by simp) (by simp [used])
    (by simpa using even.owner) fun q p mem => ?_
  rw [(park_views r).1] at mem
  split at mem
  · rcases List.mem_append.mp mem with old | new
    · exact even.member _ p old
    · exact List.mem_singleton.mp new ▸ used
  · exact even.member q p mem

theorem wake (even : k.Even c) (used : h ∈ k.handles) : (k.wake r h).Even c := by
  refine even.congr (by simp [apply_ite]) (by simp [apply_ite]) (by simp) (by simp [used])
    (by simpa using even.owner) fun q p mem => ?_
  rw [(wake_views r).1] at mem
  split at mem
  · rcases List.mem_append.mp mem with old | new
    · exact even.member _ p old
    · exact List.mem_singleton.mp new ▸ used
  · split at mem
    · exact even.member _ p (List.mem_of_mem_erase mem)
    · exact even.member q p mem

theorem freed (even : k.Even c) :
    (k.freed r h).Even c ∧ (k.freed r h).handles = k.handles := by
  have vacated : (k.assign r none).Even c := even.assign nofun
  have vacant := vacated.record (.released (k.process h).pid r)
  unfold Kernel.freed
  cases waiters : k.queue (.waiting r) with
  | nil => exact ⟨vacant, by simp⟩
  | cons w rest =>
      have used : w ∈ k.handles := even.member _ w (by rw [waiters]; exact .head _)
      exact ⟨(vacant.wake (by simpa using used)).record _, by simp [used]⟩

end Even

/-- An even kernel in which the process is in use stays so. -/
def StaysEven (c : Int) (h : Handle) (k k' : Kernel) : Prop :=
  k.Even c ∧ h ∈ k.handles → k'.Even c ∧ h ∈ k'.handles

instance : IsPreorder Kernel (StaysEven c h) where
  refl _ := id
  trans _ _ _ first second := second ∘ first

end Kernel

namespace Protocol

open KernelM
open Kernel (StaysEven)

variable {c : Int} {k k' : Kernel} {h : Handle} {r : Int} {α : Type}

/-- Only even kernels count. -/
theorem leads_of_even {x : KernelM α}
    (leads : k.Even c → h ∈ k.handles → Leads (StaysEven c h) x k) : Leads (StaysEven c h) x k :=
  fun a t ran both => leads both.1 both.2 a t ran both

theorem even_record (e : Event) : Leads (StaysEven c h) (record e) k :=
  .modify fun both => ⟨both.1.record e, by simpa using both.2⟩

theorem even_setBlockedOn (change : Table Int Int → Table Int Int) :
    Leads (StaysEven c h) (setBlockedOn change) k :=
  .modify fun both => ⟨both.1.remember _, both.2⟩

theorem even_unboost : Leads (StaysEven c h) (unboost h r) k := by
  rintro _ _ ran ⟨even, used⟩
  rw [run_unboost] at ran
  cases ran
  have erased : ∀ p : Process, p.boosts = {} → (p.unboost r).boosts = {} := by
    intro p none
    rw [Process.unboost, none]
    rfl
  exact ⟨even.edit used erased fun _ => rfl, by simp [used]⟩

theorem even_clearBoosts : Leads (StaysEven c h) (clearBoosts h) k := by
  rintro _ _ ran ⟨even, used⟩
  rw [run_clearBoosts] at ran
  cases ran
  exact ⟨even.edit used (fun _ _ => rfl) fun _ => rfl, by simp [used]⟩

/-! ### What is not done -/

/-- No ceiling is below the base of its owner. -/
theorem even_raiseToCeiling : Leads (StaysEven c h) (raiseToCeiling h r) k := by
  refine leads_of_even fun even used => .read reads_process (.read reads_resource ?_)
  split
  · rename_i level found
    have above := even.ceiling r level found
    rw [if_neg (by rw [even.base h used]; omega)]
    exact .pure ()
  · exact .pure ()

/-- No waiter is more urgent than the base of the owner. -/
theorem even_inheritFromWaiters : Leads (StaysEven c h) (inheritFromWaiters h r) k := by
  refine leads_of_even fun even used => .read reads_get ?_
  split
  · rename_i priority urgent
    obtain ⟨w, mem, is, _⟩ := urgentWaiter_eq_some urgent
    rw [even.priority (even.member _ w mem)] at is
    rw [if_neg (by rw [even.base h used]; omega)]
    exact .pure ()
  · exact .pure ()

/-- A donation stops at the first owner, who is urgent enough. -/
theorem even_donate {priority : Int} (least : c ≤ priority) (fuel : Nat) (met : List Int) :
    Leads (StaysEven c h) (donate priority fuel met r) k := by
  cases fuel with
  | zero => exact .pure ()
  | succ fuel =>
      refine leads_of_even fun even used => .read reads_resource ?_
      split
      · exact .pure ()
      · rename_i owner owned
        refine .read reads_process ?_
        rw [if_pos (.inr (by rw [even.priority (even.owner r owner owned)]; exact least))]
        exact .pure ()

theorem even_recompute : Leads (StaysEven c h) (recompute h) k := by
  refine even_clearBoosts.bind fun _ _ _ => .read reads_get ?_
  refine (Leads.forM fun _ _ => even_inheritFromWaiters).bind fun _ _ _ => ?_
  exact .read reads_process (even_record _)

theorem even_answered (protocol : Protocol) (granted : Bool) :
    Leads (StaysEven c h) (protocol.answered h r granted) k := by
  cases protocol with
  | fifo => exact .pure _
  | ceiling =>
      cases granted with
      | false => exact .pure _
      | true => exact even_raiseToCeiling.bind fun _ _ _ => .pure _
  | inheritance =>
      cases granted with
      | false =>
          refine leads_of_even fun even used => .read reads_process ?_
          refine (even_setBlockedOn _).bind fun _ _ _ => .read reads_get ?_
          exact (even_donate (even.priority used).ge _ _).bind fun _ _ _ => .pure _
      | true => exact even_inheritFromWaiters.bind fun _ _ _ => .pure _

theorem even_released (protocol : Protocol) (woken : Option Handle) :
    Leads (StaysEven c h) (protocol.released h r woken) k := by
  cases protocol with
  | fifo => exact .pure _
  | ceiling => exact even_unboost.bind fun _ _ _ => .read reads_process (even_record _)
  | inheritance =>
      cases woken with
      | none => exact even_recompute
      | some waiter =>
          refine .read reads_process ?_
          exact (even_setBlockedOn _).bind fun _ _ _ => even_recompute

/-! ### Requests and releases -/

theorem even_acquire {protocol : Protocol} {granted : Bool} (even : k.Even c)
    (current : k.current = some h) (used : h ∈ k.handles)
    (ran : (protocol.acquire r).run k = .ok granted k') : k'.Even c := by
  obtain ⟨j, m, current', rest, outcome⟩ := run_acquire_eq_ok ran
  obtain rfl : h = j := Option.some.inj (current.symm.trans current')
  refine (even_answered protocol granted _ _ rest ?_).1
  cases granted with
  | true =>
      obtain ⟨_, rfl⟩ : _ ∧ m = _ := outcome
      exact ⟨(even.assign (by rintro _ ⟨⟩; exact used)).record _, by simpa using used⟩
  | false =>
      obtain ⟨owner, _, rfl⟩ : ∃ owner, _ ∧ m = _ := outcome
      exact ⟨(even.park used).record _, by simp [used]⟩

theorem even_release {protocol : Protocol} (even : k.Even c) (current : k.current = some h)
    (used : h ∈ k.handles) (ran : (protocol.release r).run k = .ok () k') : k'.Even c := by
  obtain ⟨j, woken, current', _, rest⟩ := run_release_eq_ok ran
  obtain rfl : h = j := Option.some.inj (current.symm.trans current')
  obtain ⟨even', handles⟩ := even.freed (r := r) (h := h)
  exact (even_released protocol woken _ _ rest ⟨even', handles ▸ used⟩).1

end Protocol

end Uniprocessor
