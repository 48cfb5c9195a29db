import Uniprocessor.Proofs.Kernel.Traffic
import Uniprocessor.Proofs.Protocol.Access
import Uniprocessor.Proofs.Protocol.Twin

/-!
How the protocols serve the wait queues.

Every protocol refuses and wakes as first come, first served does: a refusal puts
the caller at the tail of the queue (`run_acquireFifo_eq_ok`), a release takes its head
(`run_releaseFifo_eq_ok`). What the protocols do besides looks at the waiters by
priority and moves none of them (`aside_answered`, `aside_released`). So a request that
is refused is the only thing that adds to the refusals (`works_acquire`), and a
release wakes whoever has waited the longest (`works_release`).
-/

namespace Uniprocessor.Protocol

open KernelM
open EStateM (Leads reads_get run_bind_eq_ok run_read_eq_ok)
open Kernel (Aside Works)

variable {k k' : Kernel} {h : Handle} {r : Int}

/-! ### First come, first served -/

theorem run_caller_eq_ok {α : Type} {access : Access} {f : Handle → KernelM α} {a : α}
    (ran : (caller access r >>= f).run k = .ok a k') :
    ∃ h, k.current = some h ∧ (f h).run k = .ok a k' := by
  cases current : k.current with
  | none =>
      have nobody : (caller access r).run k = .error (.violation (.nobodyRunning access r)) k := by
        simp [caller, current, violate]
        rfl
      rw [EStateM.run_bind, nobody] at ran
      cases ran
  | some h => exact ⟨h, rfl, run_read_eq_ok (.of_run (run_caller current)) ran⟩

/-- A request is granted, or the caller is parked at the tail of the queue. -/
theorem run_acquireFifo_eq_ok {granted : Bool} (ran : (acquireFifo r).run k = .ok granted k') :
    ∃ h, k.current = some h ∧
      if granted then (k.resource r).owner = none ∧
        k' = (k.assign r (some h)).record (.acquired (k.process h).pid r)
      else ∃ owner, (k.resource r).owner = some owner ∧
        k' = (k.park r h).record (.waits (k.process h).pid r (k.process owner).pid) := by
  obtain ⟨h, current, called⟩ := run_caller_eq_ok ran
  have found := run_read_eq_ok reads_resource called
  have asked := run_read_eq_ok reads_process found
  refine ⟨h, current, ?_⟩
  split at asked
  · rename_i owner owned
    split at asked
    · cases asked
    · obtain ⟨_, _, moved, rest⟩ := run_bind_eq_ok asked
      obtain ⟨_, _, linked, last⟩ := run_bind_eq_ok rest
      rw [run_enqueue_eq_ok linked, run_move_eq_ok moved] at last
      cases last
      have same : ((k.park r h).process owner).pid = (k.process owner).pid := by simp
      refine ⟨owner, owned, ?_⟩
      rw [← same]
      rfl
  · rename_i free
    cases asked
    exact ⟨free, rfl⟩

/-- The resource is freed and the head of its queue woken. -/
theorem run_releaseFifo_eq_ok {woken : Option Handle}
    (ran : (releaseFifo r).run k = .ok woken k') :
    ∃ h, k.current = some h ∧ (k.resource r).owner = some h ∧ k' = k.freed r h := by
  obtain ⟨h, current, called⟩ := run_caller_eq_ok ran
  have found := run_read_eq_ok reads_resource called
  have asked := run_read_eq_ok reads_process found
  split at asked
  · cases asked
  · rename_i owned
    split at asked
    · cases asked
    · rename_i same
      refine ⟨h, current, not_not.mp same ▸ owned, ?_⟩
      let freed := (k.assign r none).record (.released (k.process h).pid r)
      have taken : (takeHead (.waiting r) >>= _).run freed = .ok woken k' := asked
      cases waiters : k.queue (.waiting r) with
      | nil =>
          rw [EStateM.run_bind_of_ok (run_takeHead_nil (by simp [freed, waiters]))] at taken
          injection taken with _ left
          simp [← left, Kernel.freed, waiters, freed]
      | cons w rest =>
          have members : freed.queue (.waiting r) = w :: rest := by simp [freed, waiters]
          rw [EStateM.run_bind_of_ok (run_takeHead_cons members)] at taken
          obtain ⟨_, _, moved, rest⟩ := run_bind_eq_ok taken
          obtain ⟨_, _, linked, last⟩ := run_bind_eq_ok rest
          rw [run_enqueue_eq_ok linked, run_move_eq_ok moved] at last
          cases last
          simp [Kernel.freed, waiters, freed, Kernel.wake, Transition.target]

/-! ### What the protocols do besides -/

theorem aside_raiseToCeiling : Leads Aside (raiseToCeiling h r) k := by
  refine .read reads_process (.read reads_resource ?_)
  split
  · split
    · exact (aside_boost _).bind fun _ _ _ => aside_record rfl
    · exact .pure ()
  · exact .pure ()

theorem aside_inheritFromWaiters : Leads Aside (inheritFromWaiters h r) k := by
  refine .read reads_get ?_
  split
  · split
    · exact aside_boost _
    · exact .pure ()
  · exact .pure ()

theorem aside_setBlockedOn (change : Table Int Int → Table Int Int) :
    Leads Aside (setBlockedOn change) k :=
  .modify (.remember rfl)

theorem aside_donate (priority : Int) (fuel : Nat) (met : List Int) :
    Leads Aside (donate priority fuel met r) k := by
  induction fuel generalizing k r met with
  | zero => exact .pure ()
  | succ fuel ih =>
      refine .read reads_resource ?_
      split
      · exact .pure ()
      · refine .read reads_process ?_
        split
        · exact .pure ()
        · refine (aside_boost _).bind fun _ _ _ => ?_
          refine (aside_record rfl).bind fun _ _ _ => .read reads_get ?_
          split
          · exact ih _
          · exact .pure ()

theorem aside_recompute : Leads Aside (recompute h) k := by
  refine aside_clearBoosts.bind fun _ _ _ => .read reads_get ?_
  refine (Leads.forM fun _ _ => aside_inheritFromWaiters).bind fun _ _ _ => ?_
  exact .read reads_process (aside_record rfl)

theorem aside_answered (protocol : Protocol) (granted : Bool) :
    Leads Aside (protocol.answered h r granted) k := by
  cases protocol with
  | fifo => exact .pure _
  | ceiling =>
      cases granted with
      | false => exact .pure _
      | true => exact aside_raiseToCeiling.bind fun _ _ _ => .pure _
  | inheritance =>
      cases granted with
      | false =>
          refine .read reads_process ((aside_setBlockedOn _).bind fun _ _ _ => .read reads_get ?_)
          exact (aside_donate _ _ _).bind fun _ _ _ => .pure _
      | true => exact aside_inheritFromWaiters.bind fun _ _ _ => .pure _

theorem aside_released (protocol : Protocol) (woken : Option Handle) :
    Leads Aside (protocol.released h r woken) k := by
  cases protocol with
  | fifo => exact .pure _
  | ceiling => exact aside_unboost.bind fun _ _ _ => .read reads_process (aside_record rfl)
  | inheritance =>
      cases woken with
      | none => exact aside_recompute
      | some waiter =>
          refine .read reads_process ?_
          exact (aside_setBlockedOn _).bind fun _ _ _ => aside_recompute

/-- The answer of a protocol is that of first come, first served. -/
theorem run_answered_eq_ok {protocol : Protocol} {granted answer : Bool}
    (ran : (protocol.answered h r granted).run k = .ok answer k') : answer = granted := by
  cases protocol <;> cases granted
  case fifo.false | fifo.true | ceiling.false =>
    cases ran
    rfl
  case ceiling.true | inheritance.true =>
    obtain ⟨_, _, _, last⟩ := run_bind_eq_ok ran
    cases last
    rfl
  case inheritance.false =>
    have asked := run_read_eq_ok reads_process ran
    obtain ⟨_, _, _, noted⟩ := run_bind_eq_ok asked
    have read := run_read_eq_ok reads_get noted
    obtain ⟨_, _, _, last⟩ := run_bind_eq_ok read
    cases last
    rfl

/-! ### Requests and releases -/

/-- A request is answered as first come, first served answers it. -/
theorem run_acquire_eq_ok {protocol : Protocol} {granted : Bool}
    (ran : (protocol.acquire r).run k = .ok granted k') :
    ∃ h m, k.current = some h ∧ (protocol.answered h r granted).run m = .ok granted k' ∧
      if granted then (k.resource r).owner = none ∧
        m = (k.assign r (some h)).record (.acquired (k.process h).pid r)
      else ∃ owner, (k.resource r).owner = some owner ∧
        m = (k.park r h).record (.waits (k.process h).pid r (k.process owner).pid) := by
  rw [acquire_eq] at ran
  obtain ⟨h, current, called⟩ := run_caller_eq_ok ran
  obtain ⟨answer, m, asked, rest⟩ := run_bind_eq_ok called
  obtain rfl := run_answered_eq_ok rest
  obtain ⟨j, current', outcome⟩ := run_acquireFifo_eq_ok asked
  obtain rfl : h = j := Option.some.inj (current.symm.trans current')
  exact ⟨h, m, current, rest, outcome⟩

/-- A release frees the resource as first come, first served does. -/
theorem run_release_eq_ok {protocol : Protocol} (ran : (protocol.release r).run k = .ok () k') :
    ∃ h woken, k.current = some h ∧ (k.resource r).owner = some h ∧
      (protocol.released h r woken).run (k.freed r h) = .ok () k' := by
  rw [release_eq] at ran
  obtain ⟨h, current, called⟩ := run_caller_eq_ok ran
  obtain ⟨woken, m, freed, rest⟩ := run_bind_eq_ok called
  obtain ⟨j, current', owned, rfl⟩ := run_releaseFifo_eq_ok freed
  obtain rfl : h = j := Option.some.inj (current.symm.trans current')
  exact ⟨h, woken, current, owned, rest⟩

/-- Whoever is refused goes to the tail of the queue. -/
theorem works_park (owner : Int) :
    k.Works [(r, (k.process h).pid)]
      ((k.park r h).record (.waits (k.process h).pid r owner)) := by
  have silent : k.Silent (k.park r h) := .of_log (by simp [Kernel.park]; rfl)
  refine ⟨⟨?_, fun i => ⟨[], ?_, ?_⟩⟩, by simp, by simp, by simp⟩
  · rw [Kernel.refusals_record, silent.refusals]
    rfl
  · rw [Kernel.wakings_record, silent.wakings]
    simp [Event.waking?]
  · by_cases here : r = i <;> simp [Kernel.waiters, here]

/-- Whoever is woken comes from the head of the queue. -/
theorem works_wake {w : Handle} {rest : List Handle} (waiters : k.queue (.waiting r) = w :: rest) :
    k.Works [] ((k.wake r w).record (.woken (k.process w).pid r)) := by
  have silent : k.Silent (k.wake r w) := .of_log (by simp [Kernel.wake]; rfl)
  refine ⟨⟨?_, fun i => ⟨if r = i then [(k.process w).pid] else [], ?_, ?_⟩⟩, by simp, by simp,
    by simp⟩
  · rw [Kernel.refusals_record, silent.refusals]
    rfl
  · rw [Kernel.wakings_record, silent.wakings]
    simp [Event.waking?]
  · by_cases here : r = i
    · subst here
      simp [Kernel.waiters, waiters]
    · simp [Kernel.waiters, here]

theorem works_freed : k.Works [] (k.freed r h) := by
  have freed : k.Calm ((k.assign r none).record (.released (k.process h).pid r)) :=
    trans_of Kernel.Calm (.assign none) (.record ⟨rfl, rfl⟩)
  unfold Kernel.freed
  cases waiters : k.queue (.waiting r) with
  | nil => exact freed.works
  | cons w rest =>
      have members := (freed.waiting r).trans waiters
      exact freed.works.trans (works_wake members)

/-- A request puts the caller behind those who wait if it is refused, and does nothing to
the wait queues if it is granted. -/
theorem works_acquire {protocol : Protocol} {granted : Bool} (current : k.current = some h)
    (ran : (protocol.acquire r).run k = .ok granted k') :
    k.Works (if granted then [] else [(r, (k.process h).pid)]) k' := by
  obtain ⟨j, m, current', rest, outcome⟩ := run_acquire_eq_ok ran
  obtain rfl : h = j := Option.some.inj (current.symm.trans current')
  have besides := (aside_answered protocol granted _ _ rest).calm.works
  cases granted with
  | true =>
      obtain ⟨_, outcome⟩ : _ ∧ m = _ := outcome
      have calm : k.Calm m := outcome ▸ trans_of Kernel.Calm (.assign _) (.record ⟨rfl, rfl⟩)
      exact calm.works.trans besides
  | false =>
      obtain ⟨owner, _, rfl⟩ : ∃ owner, _ ∧ m = _ := outcome
      exact (works_park (k.process owner).pid).trans besides

/-- A release wakes nobody but the head of a queue. -/
theorem works_release (protocol : Protocol) : Leads (Works []) (protocol.release r) k := by
  intro _ _ ran
  obtain ⟨h, woken, _, _, rest⟩ := run_release_eq_ok ran
  exact works_freed.trans (aside_released protocol woken _ _ rest).calm.works

end Uniprocessor.Protocol
