import Uniprocessor.Proofs.Protocol.Twin
import Uniprocessor.Proofs.Scheduling

/-!
Asking for a resource and giving one back are all or nothing.

Either call faults on misuse only, and then it leaves the kernel as it was
(`access_all_or_nothing`). Nothing is supposed of the kernel but that whoever
stands in a queue for a resource waits, that whoever runs is in no queue, and
that what is noted as blocking somebody is in the table. First come, first
served finds every misuse before it writes; what the protocols do once it has
answered cannot fail (`run_answered`, `run_released`).
-/

namespace EStateM

variable {ε σ α β : Type}

/-- A program that faults exactly under a condition, and leaves what it found if it does. -/
structure FaultsJust (x : EStateM ε σ α) (s : σ) (misuse : Prop) : Prop where
  faults : (∃ e t, x.run s = .error e t) ↔ misuse
  leaves : ∀ e t, x.run s = .error e t → t = s

theorem FaultsJust.of_error {x : EStateM ε σ α} {s : σ} {e : ε} {misuse : Prop}
    (ran : x.run s = .error e s) (so : misuse) : FaultsJust x s misuse where
  faults := iff_of_true ⟨e, s, ran⟩ so
  leaves e' t ran' := by
    rw [ran] at ran'
    cases ran'
    rfl

theorem FaultsJust.of_ok {x : EStateM ε σ α} {s t : σ} {a : α} {misuse : Prop}
    (ran : x.run s = .ok a t) (not_so : ¬ misuse) : FaultsJust x s misuse where
  faults := iff_of_false (by simp [ran]) not_so
  leaves e' t' ran' := by
    rw [ran] at ran'
    cases ran'

end EStateM

namespace Uniprocessor

open EStateM (FaultsJust)

namespace Protocol

open KernelM

variable {k : Kernel} {h owner : Handle} {r : Int}

/-! ### Every misuse is found before anything is written -/

@[simp] theorem run_violate {α : Type} (v : Violation) :
    (violate v : KernelM α).run k = .error (.violation v) k := rfl

theorem run_caller_nobody (access : Access) (r : Int) (nobody : k.current = none) :
    (caller access r).run k = .error (.violation (.nobodyRunning access r)) k := by
  simp [caller, nobody]

theorem run_resource_outside (outside : ¬ (0 ≤ r ∧ r < k.size)) :
    (resource r).run k = .error (.violation (.noSuchResource r k.size)) k := by
  simp [resource, outside]

theorem run_acquireFifo_outside (current : k.current = some h)
    (outside : ¬ (0 ≤ r ∧ r < k.size)) :
    (acquireFifo r).run k = .error (.violation (.noSuchResource r k.size)) k := by
  simp [acquireFifo, run_caller current, run_resource_outside outside]

theorem run_acquireFifo_owned (current : k.current = some h) (inTable : 0 ≤ r ∧ r < k.size)
    (owned : (k.resource r).owner = some h) :
    (acquireFifo r).run k = .error (.violation (.alreadyOwner (k.process h).pid r)) k := by
  simp [acquireFifo, run_caller current, run_resource inTable, owned]

/-- Only a running process can start to wait. -/
theorem run_acquireFifo_halted (current : k.current = some h) (inTable : 0 ≤ r ∧ r < k.size)
    (owned : (k.resource r).owner = some owner) (other : owner ≠ h)
    (halted : (k.process h).state ≠ .running) :
    ∃ fault, (acquireFifo r).run k = .error fault k := by
  simp [acquireFifo, run_caller current, run_resource inTable, owned, other, move, onProcess,
    Process.move, Transition.sources, halted]

theorem run_releaseFifo_outside (current : k.current = some h)
    (outside : ¬ (0 ≤ r ∧ r < k.size)) :
    (releaseFifo r).run k = .error (.violation (.noSuchResource r k.size)) k := by
  simp [releaseFifo, run_caller current, run_resource_outside outside]

theorem run_releaseFifo_free (current : k.current = some h) (inTable : 0 ≤ r ∧ r < k.size)
    (free : (k.resource r).owner = none) :
    (releaseFifo r).run k = .error (.violation (.releasedFree (k.process h).pid r)) k := by
  simp [releaseFifo, run_caller current, run_resource inTable, free]

theorem run_releaseFifo_foreign (current : k.current = some h) (inTable : 0 ≤ r ∧ r < k.size)
    (owned : (k.resource r).owner = some owner) (other : owner ≠ h) :
    (releaseFifo r).run k =
      .error (.violation (.releasedForeign (k.process h).pid r (k.process owner).pid)) k := by
  simp [releaseFifo, run_caller current, run_resource inTable, owned, other]

/-! ### What follows an answer cannot fail -/

/-- Whatever a protocol does about an answer, it comes to an end and passes the answer on. -/
theorem run_answered (protocol : Protocol) (h : Handle) (granted : Bool)
    (inTable : 0 ≤ r ∧ r < k.size) (tracked : k.Tracked) :
    ∃ k', (protocol.answered h r granted).run k = .ok granted k' := by
  cases protocol with
  | fifo => exact ⟨k, rfl⟩
  | ceiling =>
      cases granted with
      | false => exact ⟨k, rfl⟩
      | true => exact ⟨_, EStateM.run_bind_of_ok (run_raiseToCeiling inTable) _⟩
  | inheritance =>
      cases granted with
      | true => exact ⟨_, EStateM.run_bind_of_ok run_inheritFromWaiters _⟩
      | false =>
          let noted := k.noteBlocked (·.put (k.process h).pid r)
          have tracked' : noted.Tracked := tracked_noteBlocked tracked inTable _
          obtain ⟨k', donated, _⟩ := run_donate (k := noted) (r := r) (k.process h).priority
            (noted.resources.size + 1) [(k.process h).pid] inTable tracked'
          exact ⟨k', (EStateM.run_bind_of_ok run_process _).trans
            ((EStateM.run_bind_of_ok (run_setBlockedOn _) _).trans
              ((EStateM.run_bind_of_ok (EStateM.run_get noted) _).trans
                (EStateM.run_bind_of_ok donated _)))⟩

theorem run_released (protocol : Protocol) (k : Kernel) (h : Handle) (r : Int)
    (woken : Option Handle) : ∃ k', (protocol.released h r woken).run k = .ok () k' := by
  cases protocol with
  | fifo => exact ⟨k, rfl⟩
  | ceiling => exact ⟨_, EStateM.run_bind_of_ok run_unboost _⟩
  | inheritance =>
      cases woken with
      | none => exact ⟨_, run_recompute⟩
      | some w =>
          exact ⟨_, (EStateM.run_bind_of_ok run_process _).trans
            ((EStateM.run_bind_of_ok (run_setBlockedOn _) _).trans run_recompute)⟩

/-! ### The calls -/

theorem run_acquire_of_error (protocol : Protocol) {fault : Fault} (current : k.current = some h)
    (ran : (acquireFifo r).run k = .error fault k) :
    (protocol.acquire r).run k = .error fault k := by
  rw [acquire_eq]
  exact (EStateM.run_bind_of_ok (run_caller current) _).trans (EStateM.run_bind_of_error ran _)

theorem run_release_of_error (protocol : Protocol) {fault : Fault} (current : k.current = some h)
    (ran : (releaseFifo r).run k = .error fault k) :
    (protocol.release r).run k = .error fault k := by
  rw [release_eq]
  exact (EStateM.run_bind_of_ok (run_caller current) _).trans (EStateM.run_bind_of_error ran _)

theorem run_acquire_of_ok (protocol : Protocol) {granted : Bool} {k₁ : Kernel}
    (current : k.current = some h) (ran : (acquireFifo r).run k = .ok granted k₁)
    (inTable : 0 ≤ r ∧ r < k₁.size) (tracked : k₁.Tracked) :
    ∃ k', (protocol.acquire r).run k = .ok granted k' := by
  obtain ⟨k', answered⟩ := run_answered protocol h granted inTable tracked
  refine ⟨k', ?_⟩
  rw [acquire_eq, EStateM.run_bind_of_ok (run_caller current), EStateM.run_bind_of_ok ran, answered]

theorem run_release_of_ok (protocol : Protocol) {woken : Option Handle} {k₁ : Kernel}
    (current : k.current = some h) (ran : (releaseFifo r).run k = .ok woken k₁) :
    ∃ k', (protocol.release r).run k = .ok () k' := by
  obtain ⟨k', released⟩ := run_released protocol k₁ h r woken
  refine ⟨k', ?_⟩
  rw [release_eq, EStateM.run_bind_of_ok (run_caller current), EStateM.run_bind_of_ok ran, released]

theorem acquire_faultsJust (protocol : Protocol) (r : Int)
    (unlinked : ∀ h, (k.process h).state = .running → (k.process h).queue = none)
    (tracked : k.Tracked) :
    FaultsJust (protocol.acquire r) k
      (k.current = none ∨ ¬ (0 ≤ r ∧ r < k.size) ∨ ∃ h, k.current = some h ∧
        ((k.resource r).owner = some h ∨ ∃ owner, (k.resource r).owner = some owner ∧ owner ≠ h ∧
          (k.process h).state ≠ .running)) := by
  -- In the order of the checks: somebody who calls, a resource of the table, its owner, and whether
  -- the caller can be put to sleep.
  cases current : k.current with
  | none =>
      exact .of_error
        (EStateM.run_bind_of_error (run_caller_nobody .acquire r current) _) (.inl rfl)
  | some h =>
      by_cases inTable : 0 ≤ r ∧ r < k.size
      · cases owned : (k.resource r).owner with
        | none =>
            have ran := run_acquireFifo_granted current inTable owned
            obtain ⟨k', ran'⟩ := run_acquire_of_ok protocol current ran (by simpa using inTable)
              (tracked.congr (by simp) (by simp))
            exact .of_ok ran' (by simp [inTable])
        | some owner =>
            by_cases same : owner = h
            · subst same
              exact .of_error (run_acquire_of_error protocol current
                (run_acquireFifo_owned current inTable owned)) (.inr (.inr ⟨owner, rfl, .inl rfl⟩))
            · by_cases running : (k.process h).state = .running
              · have ran :=
                  run_acquireFifo_refused current inTable owned same running (unlinked h running)
                obtain ⟨k', ran'⟩ := run_acquire_of_ok protocol current ran
                  (by simpa using inTable) (tracked.congr (by simp) (by simp))
                exact .of_ok ran' (by simp [inTable, same, running])
              · obtain ⟨fault, ran⟩ := run_acquireFifo_halted current inTable owned same running
                exact .of_error (run_acquire_of_error protocol current ran)
                  (.inr (.inr ⟨h, rfl, .inr ⟨owner, rfl, same, running⟩⟩))
      · exact .of_error (run_acquire_of_error protocol current
          (run_acquireFifo_outside current inTable)) (.inr (.inl inTable))

theorem release_faultsJust (protocol : Protocol) (r : Int)
    (asleep : ∀ h ∈ k.queue (.waiting r), (k.process h).state = .waiting) :
    FaultsJust (protocol.release r) k
      (k.current = none ∨ ¬ (0 ≤ r ∧ r < k.size) ∨ (k.resource r).owner ≠ k.current) := by
  cases current : k.current with
  | none =>
      exact .of_error
        (EStateM.run_bind_of_error (run_caller_nobody .release r current) _) (.inl rfl)
  | some h =>
      by_cases inTable : 0 ≤ r ∧ r < k.size
      · cases owned : (k.resource r).owner with
        | none =>
            exact .of_error (run_release_of_error protocol current
              (run_releaseFifo_free current inTable owned)) (.inr (.inr nofun))
        | some owner =>
            by_cases same : owner = h
            · subst same
              obtain ⟨k', ran'⟩ := run_release_of_ok protocol current
                (run_releaseFifo_of_asleep current inTable owned asleep)
              exact .of_ok ran' (by simp [inTable])
            · exact .of_error (run_release_of_error protocol current
                (run_releaseFifo_foreign current inTable owned same))
                (.inr (.inr (by simpa using same)))
      · exact .of_error (run_release_of_error protocol current
          (run_releaseFifo_outside current inTable)) (.inr (.inl inTable))

end Protocol

/-- The first of three processes owns a resource, the second waits for it, and the third runs. -/
def Kernel.contested : Kernel :=
  (((((Kernel.crowded.assign 0 (some 0)).sendBack 0).dispatch 1).park 0 1).dispatch 2).noteBlocked
    (·.put 2 0)

theorem Kernel.orderly_contested : Kernel.contested.Orderly := by
  have owned := orderly_crowded.grant (h := 0) (r := 0) (by decide) (by decide) (by decide)
  have back := owned.sendBack (h := 0) (by decide) (by decide)
  have second := back.dispatch (h := 1) (by decide) fun h used => by decide +revert
  have parked := second.park (h := 1) (r := 0) (by decide) (by decide) (by decide) (by decide)
  have third := parked.dispatch (h := 2) (by decide) fun h used => by decide +revert
  exact third.congr (Alike.remember _ _).samePlaces

theorem Kernel.tracked_contested : Kernel.contested.Tracked :=
  Protocol.tracked_noteBlocked (k := (((Kernel.crowded.assign 0 (some 0)).sendBack 0).dispatch
    1).park 0 1 |>.dispatch 2) nofun (by decide) 2

end Uniprocessor
