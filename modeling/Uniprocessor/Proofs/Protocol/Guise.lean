import Uniprocessor.Proofs.Kernel.Guise
import Uniprocessor.Proofs.Protocol.Twin

/-!
Protocols act alike on kernels in a guise.

A protocol calls the waiters by number in its notes and tells apart the owners
that a donation has met by number too; both come out the same because the guise
keeps the numbers in use apart. Whether a ceiling, a waiter or a donation is
urgent enough is a comparison of two priorities in use, of which the guise keeps
the order. So an acquisition and a release run together on a kernel and on one
that stands for it, under each protocol.
-/

namespace Uniprocessor.Protocol

open KernelM
open EStateM (Together Alongside reads_get)
open Kernel (Guised)

variable {α β : Type} {φ : Guise} {others : List Handle} {k l : Kernel} {h : Handle} {r : Int}

theorem orders_priority (φ : Guise) : φ.Orders Process.priority := by
  intro p q p' q' first second
  rw [first.priority, second.priority]
  exact φ.mono.le_iff_le first.within.priority second.within.priority

/-! ### First come, first served -/

theorem guised_caller {access : Access} (guised : k.Guised φ others l)
    {f : Handle → KernelM α} {g : Handle → KernelM β} {Q : α → β → Kernel → Kernel → Prop}
    (rest : ∀ h, k.current = some h → k.Guised φ (h :: others) l → Alongside Q (f h) (g h) k l) :
    Alongside Q (caller access r >>= f) (caller access r >>= g) k l := by
  cases current : k.current with
  | none =>
      intro a b s t ran
      simp only [caller, EStateM.run_bind, EStateM.run_get, current] at ran
      cases ran
  | some h =>
      have current' : l.current = some h := guised.current.trans current
      have left : (caller access r).run k = .ok h k := by simp [caller, current]
      have right : (caller access r).run l = .ok h l := by simp [caller, current']
      exact .read (.of_run left) (.of_run right)
        (rest h current (guised.naming (guised.known.current h current)))

theorem guised_acquireFifo (guised : k.Guised φ others l) :
    Together (Guised φ others) (acquireFifo r) (acquireFifo r) k l := by
  refine guised_caller guised fun h _ guised => ?_
  refine Together.mono (R := Guised φ (h :: others)) (fun _ _ guised => guised.forget) ?_
  have named : h ∈ h :: others := List.mem_cons_self
  refine Together.read reads_resource reads_resource (.read reads_process reads_process ?_)
  rw [guised.owner]
  split
  · split
    · exact .throw_left _ _
    · refine (guised_move guised named _).bind fun _ _ _ guised => ?_
      refine (guised_enqueue guised named).bind fun _ _ _ guised => ?_
      refine .read reads_get reads_get ?_
      exact (guised_record guised _ _).bind fun _ _ _ guised => .pure _ guised
  · refine (guised_setOwner guised (by simp [guised.used named])).bind fun _ _ _ guised => ?_
    exact (guised_record guised _ _).bind fun _ _ _ guised => .pure _ guised

theorem guised_releaseFifo (guised : k.Guised φ others l) :
    Alongside (Chosen φ others) (releaseFifo r) (releaseFifo r) k l := by
  refine guised_caller guised fun h _ named => .read reads_resource reads_resource ?_
  refine .read reads_process reads_process ?_
  rw [guised.owner]
  split
  · exact .throw_left _ _
  · split
    · exact .read reads_get reads_get (.throw_left _ _)
    · refine .after (guised_setOwner guised (by simp)) fun _ _ _ guised => ?_
      refine .after (guised_record guised _ _) fun _ _ _ guised => ?_
      refine .bind (guised_takeHead guised) fun woken _ _ _ chosen => ?_
      obtain ⟨rfl, guised⟩ := chosen
      cases woken with
      | none => exact .pure ⟨rfl, guised⟩
      | some waiter =>
          have named : waiter ∈ waiter :: others := List.mem_cons_self
          refine .after (guised_move guised named _) fun _ _ _ guised => ?_
          refine .after (guised_enqueue guised named) fun _ _ _ guised => ?_
          refine .read reads_get reads_get ?_
          exact .after (guised_record guised _ _) fun _ _ _ guised => .pure ⟨rfl, guised⟩

/-! ### Elevations -/

theorem guised_raiseToCeiling (guised : k.Guised φ others l) (named : h ∈ others) :
    Together (Guised φ others) (raiseToCeiling h r) (raiseToCeiling h r) k l := by
  refine .read reads_process reads_process (.read reads_resource reads_resource ?_)
  have stands := guised.named named
  rw [guised.ceiling, stands.base]
  cases given : (k.resource r).ceiling with
  | none => exact .pure _ guised
  | some level =>
      have used := guised.levels r level given
      simp only [Option.map_some, φ.mono.lt_iff_lt used stands.within.base]
      split
      · exact (guised_boost guised named used).bind fun _ _ _ guised => guised_record guised _ _
      · exact .pure _ guised

/-- The most urgent waiter is the same, and its priority is graded like every other. -/
theorem urgentWaiter_guised (guised : k.Guised φ others l) :
    urgentWaiter l r = (urgentWaiter k r).map φ.level ∧
      ∀ v, urgentWaiter k r = some v → v ∈ φ.levels := by
  have stands : ∀ w, k.least? Process.priority (.waiting r) = some w →
      (k.process w).Guised φ (l.process w) := fun w least =>
    guised.process w (guised.member _ w (List.minOn?_mem least))
  unfold urgentWaiter
  rw [guised.least? (orders_priority φ)]
  cases least : k.least? Process.priority (.waiting r) with
  | none => exact ⟨rfl, nofun⟩
  | some w =>
      refine ⟨congrArg some (stands w least).priority, ?_⟩
      rintro _ ⟨⟩
      exact (stands w least).within.priority

theorem guised_inheritFromWaiters (guised : k.Guised φ others l) (named : h ∈ others) :
    Together (Guised φ others) (inheritFromWaiters h r) (inheritFromWaiters h r) k l := by
  refine .read reads_get reads_get ?_
  obtain ⟨same, levels⟩ := urgentWaiter_guised guised (r := r)
  have stands := guised.named named
  rw [same]
  cases urgent : urgentWaiter k r with
  | none => exact .pure _ guised
  | some v =>
      have used := levels v urgent
      simp only [Option.map_some, stands.base, φ.mono.lt_iff_lt used stands.within.base]
      split
      · exact guised_boost guised named used
      · exact .pure _ guised

/-- The walk goes by the notes, which agree for numbers in use. -/
theorem guised_donate {v : Int} (used : v ∈ φ.levels) (fuel : Nat) {met : List Int}
    (pids : ∀ pid ∈ met, pid ∈ φ.pids) (guised : k.Guised φ others l) (r : Int) :
    Together (Guised φ others) (donate v fuel met r)
      (donate (φ.level v) fuel (met.map φ.pid) r) k l := by
  -- On the fuel. Numbers and levels are kept apart, so both walks stop at the same owner.
  induction fuel generalizing met r k l others with
  | zero => exact .pure _ guised
  | succ fuel ih =>
      refine .read reads_resource reads_resource ?_
      rw [guised.owner]
      split
      · exact .pure _ guised
      · rename_i owner owned
        have inUse := guised.known.owner r owner owned
        have stands := guised.process owner inUse
        have pid := stands.within.pid
        refine .read reads_process reads_process ?_
        have seen : φ.pid (k.process owner).pid ∈ met.map φ.pid ↔ (k.process owner).pid ∈ met := by
          refine ⟨fun mem => ?_, List.mem_map_of_mem⟩
          obtain ⟨other, mem, same⟩ := List.mem_map.mp mem
          exact (φ.apart (pids other mem) pid same) ▸ mem
        simp only [stands.pid, stands.priority, seen,
          φ.mono.le_iff_le stands.within.priority used]
        split
        · exact .pure _ guised
        · refine Together.mono (R := Guised φ (owner :: others))
            (fun _ _ guised => guised.forget) ?_
          have named : owner ∈ owner :: others := List.mem_cons_self
          refine (guised_boost (guised.naming inUse) named used).bind fun _ _ _ guised => ?_
          refine (guised_record guised _ _).bind fun _ _ _ guised => .read reads_get reads_get ?_
          rw [guised.blockedOn _ pid]
          split
          · exact ih (List.forall_mem_cons.mpr ⟨pid, pids⟩) guised _
          · exact .pure _ guised

theorem guised_forM_inherit (held : List Int) (guised : k.Guised φ others l) (named : h ∈ others) :
    Together (Guised φ others) (held.forM (inheritFromWaiters h))
      (held.forM (inheritFromWaiters h)) k l := by
  induction held generalizing k l with
  | nil => exact .pure _ guised
  | cons r held ih =>
      exact (guised_inheritFromWaiters guised named).bind fun _ _ _ guised => ih guised

theorem guised_recompute (guised : k.Guised φ others l) (named : h ∈ others) :
    Together (Guised φ others) (recompute h) (recompute h) k l := by
  refine (guised_clearBoosts guised named).bind fun _ _ _ guised => .read reads_get reads_get ?_
  rw [guised.heldBy]
  refine (guised_forM_inherit _ guised named).bind fun _ _ _ guised => ?_
  exact .read reads_process reads_process (guised_record guised _ _)

/-- A change of the notes that comes to the same for numbers in use. -/
theorem guised_setBlockedOn (guised : k.Guised φ others l)
    {change change' : Table Int Int → Table Int Int}
    (same : ∀ pid ∈ φ.pids, (change' l.memory.blockedOn).get? (φ.pid pid) =
      (change k.memory.blockedOn).get? pid) :
    Together (Guised φ others) (setBlockedOn change) (setBlockedOn change') k l :=
  .modify (guised.remember guised.slice same)

/-! ### The protocols -/

theorem guised_reset (protocol : Protocol) (guised : k.Guised φ others l) :
    Together (Guised φ others) protocol.reset protocol.reset k l := by
  cases protocol with
  | fifo | ceiling => exact .pure _ guised
  | inheritance => exact .modify (guised.remember guised.slice fun _ _ => rfl)

theorem guised_answered (protocol : Protocol) (granted : Bool) (guised : k.Guised φ others l)
    (named : h ∈ others) :
    Together (Guised φ others) (protocol.answered h r granted) (protocol.answered h r granted)
      k l := by
  cases protocol with
  | fifo => exact .pure _ guised
  | ceiling =>
      cases granted with
      | false => exact .pure _ guised
      | true => exact (guised_raiseToCeiling guised named).bind fun _ _ _ guised => .pure _ guised
  | inheritance =>
      cases granted with
      | true =>
          exact (guised_inheritFromWaiters guised named).bind fun _ _ _ guised => .pure _ guised
      | false =>
          have within := (guised.named named).within
          refine .read reads_process reads_process ?_
          rw [(guised.named named).pid, (guised.named named).priority]
          refine (guised_setBlockedOn guised fun pid used => ?_).bind fun _ k l guised => ?_
          · simp only [Table.get?_put, Guise.pid_eq_iff within.pid used, guised.blockedOn pid used]
          · refine .read reads_get reads_get ?_
            have size : l.resources.size = k.resources.size := by
              simpa [Table.size, Table.keys] using congrArg List.length guised.resources
            rw [size]
            exact (guised_donate within.priority _ (by simp [within.pid]) guised r).bind
              fun _ _ _ guised => .pure _ guised

theorem guised_acquire (protocol : Protocol) (guised : k.Guised φ others l) :
    Together (Guised φ others) (protocol.acquire r) (protocol.acquire r) k l := by
  rw [acquire_eq]
  refine guised_caller guised fun h _ guised => ?_
  refine Together.mono (R := Guised φ (h :: others)) (fun _ _ guised => guised.forget) ?_
  exact (guised_acquireFifo guised).bind fun granted _ _ guised =>
    guised_answered protocol granted guised List.mem_cons_self

theorem guised_released (protocol : Protocol) {woken : Option Handle}
    (guised : k.Guised φ (woken.toList ++ others) l) (named : h ∈ others) :
    Together (Guised φ (woken.toList ++ others)) (protocol.released h r woken)
      (protocol.released h r woken) k l := by
  have named : h ∈ woken.toList ++ others := List.mem_append_right _ named
  cases protocol with
  | fifo => exact .pure _ guised
  | ceiling =>
      exact (guised_unboost guised named).bind fun _ _ _ guised =>
        .read reads_process reads_process (guised_record guised _ _)
  | inheritance =>
      cases woken with
      | none => exact guised_recompute guised named
      | some waiter =>
          have stands := guised.named (h := waiter) List.mem_cons_self
          refine .read reads_process reads_process ?_
          rw [stands.pid]
          refine (guised_setBlockedOn guised fun pid used => ?_).bind fun _ _ _ guised =>
            guised_recompute guised named
          simp only [Table.get?_erase, Guise.pid_eq_iff stands.within.pid used,
            guised.blockedOn pid used]

theorem guised_release (protocol : Protocol) (guised : k.Guised φ others l) :
    Together (Guised φ others) (protocol.release r) (protocol.release r) k l := by
  rw [release_eq]
  refine guised_caller guised fun h _ guised => ?_
  refine .bind (guised_releaseFifo guised) fun woken _ _ _ chosen => ?_
  obtain ⟨rfl, guised⟩ := chosen
  refine .mono (fun _ _ _ _ both => ⟨both.1, ?_⟩)
    (.of_together (guised_released protocol guised List.mem_cons_self))
  exact both.2.knowing fun j mem => both.2.used (by simp [mem])

end Uniprocessor.Protocol
