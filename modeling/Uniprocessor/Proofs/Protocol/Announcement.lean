import Uniprocessor.Proofs.Process.Priority
import Uniprocessor.Proofs.Protocol.Traffic

/-!
Who becomes more urgent, and what the log tells of it.

A call of a protocol first serves the queues, which raises nobody (`Kernel.Unraised`),
and then sets boosts. A ceiling and a donation only ever raise, and whoever they
raise is named by an entry right after (`Kernel.Raises`); this adds up along the walk
of a donation. A release raises at most the releaser, whose new priority it notes
(`Protocol.heralds_recompute`). Only a new owner that inherits from those still in the
queue is raised without a word (`Protocol.run_acquire_inheriting_eq_ok`).
-/

namespace Uniprocessor

open EStateM (Leads reads_get run_bind_eq_ok run_read_eq_ok)

/-- Whom an event tells to be as urgent as it says. -/
def Event.elevation? : Event → Option (Int × Int)
  | .raised pid ceiling _ => some (pid, ceiling)
  | .inherits pid priority _ => some (pid, priority)
  | .recomputed pid priority => some (pid, priority)
  | _ => none

/-- An entry of the protocols at the lowest level names the process with this priority. -/
def Event.Names (e : Event) (p : Process) (priority : Int) : Prop :=
  e.source = "protocol" ∧ e.level = .debug ∧ e.elevation? = some (p.pid, priority)

namespace Kernel

variable {k k' k'' : Kernel} {h j : Handle} {r : Int}

/-- What was logged from the one kernel to the other names the process with the priority
that it has now. -/
def Announces (k k' : Kernel) (h : Handle) : Prop :=
  ∃ l, k'.log.toList = k.log.toList ++ l ∧
    ∃ e ∈ l, e.event.Names (k'.process h) (k'.process h).priority

/-- Whoever is more urgent is announced. -/
def Heralds (k k' : Kernel) : Prop :=
  ∀ h, (k'.process h).priority < (k.process h).priority → k.Announces k' h

/-- Nobody is more urgent than before, and the log was only added to. -/
structure Unraised (k k' : Kernel) : Prop where
  log : k.log.toList <+: k'.log.toList
  le : ∀ h, (k.process h).priority ≤ (k'.process h).priority

/-- Nobody is less urgent than before, and whoever is more urgent is announced. -/
structure Raises (k k' : Kernel) : Prop where
  log : k.log.toList <+: k'.log.toList
  pid : ∀ h, (k'.process h).pid = (k.process h).pid
  le : ∀ h, (k'.process h).priority ≤ (k.process h).priority
  heralds : k.Heralds k'

/-! ### How they add up -/

/-- What is announced later on is announced. -/
theorem Announces.of_log (log : k.log.toList <+: k'.log.toList)
    (announces : k'.Announces k'' h) : k.Announces k'' h := by
  obtain ⟨l, log⟩ := log
  obtain ⟨l', log', e, mem, names⟩ := announces
  exact ⟨l ++ l', by rw [log', ← log, List.append_assoc], e, List.mem_append_right _ mem, names⟩

instance : IsPreorder Kernel Unraised where
  refl _ := ⟨List.prefix_rfl, fun _ => le_rfl⟩
  trans _ _ _ first second :=
    ⟨first.log.trans second.log, fun h => (first.le h).trans (second.le h)⟩

/-- Where nobody has become more urgent nobody has to be announced. -/
theorem Unraised.heralds (unraised : k.Unraised k') : k.Heralds k' :=
  fun h urgent => absurd (unraised.le h) urgent.not_ge

theorem Unraised.trans_heralds (first : k.Unraised k') (second : k'.Heralds k'') :
    k.Heralds k'' := by
  intro h urgent
  exact (second h (urgent.trans_le (first.le h))).of_log first.log

instance : IsPreorder Kernel Raises where
  refl _ := ⟨List.prefix_rfl, fun _ => rfl, fun _ => le_rfl,
    fun _ urgent => absurd urgent (lt_irrefl _)⟩
  trans k k' k'' first second := by
    refine ⟨first.log.trans second.log, fun h => (second.pid h).trans (first.pid h),
      fun h => (second.le h).trans (first.le h), fun h urgent => ?_⟩
    rcases (second.le h).lt_or_eq with later | same
    · exact (second.heralds h later).of_log first.log
    · -- Nothing has changed since it was announced.
      obtain ⟨l, log, e, mem, names⟩ := first.heralds h (same ▸ urgent)
      obtain ⟨l', log'⟩ := second.log
      refine ⟨l ++ l', by rw [← log', log, List.append_assoc], e, List.mem_append_left _ mem, ?_⟩
      rw [same]
      exact ⟨names.1, names.2.1, by rw [second.pid]; exact names.2.2⟩

/-! ### What raises nobody -/

theorem Unraised.record (k : Kernel) (e : Event) : k.Unraised (k.record e) :=
  ⟨⟨[⟨e, k.tick⟩], Array.toList_push.symm⟩, fun _ => le_rfl⟩

/-- Boosts and base priorities decide how urgent somebody is. -/
theorem Unraised.of_boosts (log : k'.log = k.log)
    (boosts : ∀ h, (k'.process h).boosts = (k.process h).boosts)
    (base : ∀ h, (k'.process h).base = (k.process h).base) : k.Unraised k' :=
  ⟨log ▸ List.prefix_rfl, fun h => (Process.priority_congr (boosts h) (base h)).ge⟩

theorem unraised_park : k.Unraised (k.park r h) :=
  .of_boosts (by simp [park]; rfl) (by simp) (by simp)

theorem unraised_assign (owner : Option Handle) : k.Unraised (k.assign r owner) :=
  .of_boosts rfl (by simp) (by simp)

theorem unraised_freed : k.Unraised (k.freed r h) := by
  have vacated := trans_of Unraised (k.unraised_assign (r := r) none)
    (.record _ (.released (k.process h).pid r))
  unfold freed
  cases k.queue (.waiting r) with
  | nil => exact vacated
  | cons w rest =>
      refine trans_of Unraised vacated (trans_of Unraised ?_ (.record _ _))
      exact .of_boosts (by simp [wake]; rfl) (by simp) (by simp)

/-! ### What raises -/

/-- A boost with an entry right after raises. -/
theorem raises_boost {v : Int} {e : Event} (names : e.Names (k.process h) v) :
    k.Raises ((k.edit h (·.boost r v)).record e) := by
  have log : ((k.edit h (·.boost r v)).record e).log.toList = k.log.toList ++ [⟨e, k.tick⟩] :=
    Array.toList_push
  refine ⟨⟨_, log.symm⟩, fun j => ?_, fun j => ?_, fun j urgent => ?_⟩
  · by_cases own : h = j <;> simp [own]
  · by_cases own : h = j
    · simpa [own] using Process.priority_boost_le_priority _ r v
    · simp [own]
  · by_cases own : h = j
    · subst own
      have raised : ((k.process h).boost r v).priority < (k.process h).priority := by
        simpa using urgent
      refine ⟨_, log, _, List.mem_singleton_self _, ?_⟩
      have boosted := Process.priority_boost_eq raised
      simpa [Event.Names, boosted] using names
    · simp [own] at urgent

end Kernel

namespace Protocol

open KernelM
open Kernel (Raises Unraised)

variable {k k' : Kernel} {h : Handle} {r : Int}

theorem raises_raiseToCeiling : Leads Raises (raiseToCeiling h r) k := by
  refine .read reads_process (.read reads_resource ?_)
  split
  · split
    · rintro _ _ ⟨⟩
      exact Kernel.raises_boost ⟨rfl, rfl, rfl⟩
    · exact .pure ()
  · exact .pure ()

theorem raises_boost_record {v : Int} {e : Event} {f : Unit → KernelM Unit}
    (names : e.Names (k.process h) v)
    (rest : Leads Raises (f ()) ((k.edit h (·.boost r v)).record e)) :
    Leads Raises (boost h r v >>= fun _ => record e >>= f) k :=
  fun a t ran => trans_of Raises (Kernel.raises_boost names) (rest a t ran)

theorem raises_donate (priority : Int) (fuel : Nat) (met : List Int) :
    Leads Raises (donate priority fuel met r) k := by
  induction fuel generalizing k r met with
  | zero => exact .pure ()
  | succ fuel ih =>
      refine .read reads_resource ?_
      split
      · exact .pure ()
      · rename_i owner owned
        refine .read reads_process ?_
        split
        · exact .pure ()
        · refine raises_boost_record ⟨rfl, rfl, rfl⟩ (.read reads_get ?_)
          split
          · exact ih _
          · exact .pure ()

/-- Whatever follows on an answer raises, unless a new owner inherits. -/
theorem raises_answered (protocol : Protocol) (granted : Bool)
    (other : ¬(protocol = .inheritance ∧ granted = true)) :
    Leads Raises (protocol.answered h r granted) k := by
  cases protocol with
  | fifo => exact .pure _
  | ceiling =>
      cases granted with
      | false => exact .pure _
      | true => exact raises_raiseToCeiling.bind fun _ _ _ => .pure _
  | inheritance =>
      cases granted with
      | true => exact absurd ⟨rfl, rfl⟩ other
      | false =>
          have noted (change : Table Int Int → Table Int Int) (k : Kernel) :
              Leads Raises (setBlockedOn change) k :=
            .modify ⟨List.prefix_rfl, fun _ => rfl, fun _ => le_rfl,
              fun _ urgent => absurd urgent (lt_irrefl _)⟩
          refine .read reads_process ((noted _ _).bind fun _ _ _ => .read reads_get ?_)
          exact (raises_donate _ _ _).bind fun _ _ _ => .pure _

/-! ### What is inherited from a queue -/

theorem log_inherit : (k.inherit h r).log = k.log := by
  unfold Kernel.inherit
  split
  · split <;> rfl
  · rfl

theorem process_inherit_of_ne {j : Handle} (other : h ≠ j) :
    (k.inherit h r).process j = k.process j := by
  unfold Kernel.inherit
  split
  · split
    · simp [other]
    · rfl
  · rfl

/-- Whoever becomes more urgent by what it inherits is as urgent as the most urgent waiter. -/
theorem inherited (urgent : ((k.inherit h r).process h).priority < (k.process h).priority) :
    urgentWaiter k r = some ((k.inherit h r).process h).priority := by
  unfold Kernel.inherit at urgent ⊢
  cases waiter : urgentWaiter k r with
  | none => simp [waiter] at urgent
  | some v =>
      simp only [waiter] at urgent ⊢
      split at urgent
      · rename_i helps
        rw [if_pos helps]
        simp only [Kernel.process_edit, if_true] at urgent ⊢
        rw [Process.priority_boost_eq urgent]
      · exact absurd urgent (lt_irrefl _)

/-- A new owner inherits without a word. -/
theorem run_acquire_inheriting_eq_ok (ran : (acquire .inheritance r).run k = .ok true k')
    (urgent : (k'.process h).priority < (k.process h).priority) :
    k.current = some h ∧ urgentWaiter k r = some (k'.process h).priority ∧
      ¬ k.Announces k' h := by
  obtain ⟨j, m, current, rest, outcome⟩ := run_acquire_eq_ok ran
  obtain ⟨_, taken⟩ : _ ∧ m = _ := outcome
  have inherits : k' = m.inherit j r := by
    have ran' : (answered .inheritance j r true).run m = .ok true (m.inherit j r) :=
      EStateM.run_bind_of_ok run_inheritFromWaiters _
    rw [ran'] at rest
    cases rest
    rfl
  subst inherits
  have process : ∀ i, m.process i = k.process i := by simp [taken]
  -- Only the caller's priority changes, so it is the one that has become more urgent.
  have own : j = h := by
    by_contra other
    rw [process_inherit_of_ne other, process] at urgent
    exact lt_irrefl _ urgent
  subst own
  rw [← process j] at urgent
  refine ⟨current, ?_, ?_⟩
  · rw [← inherited urgent]
    simp [urgentWaiter, Kernel.least?, taken]
  · rintro ⟨l, log, e, mem, _, _, names⟩
    have logged : (m.inherit j r).log.toList =
        k.log.toList ++ [⟨.acquired (k.process j).pid r, k.tick⟩] := by
      rw [log_inherit, taken]
      exact Array.toList_push
    have only := List.append_cancel_left (log.symm.trans logged)
    rw [only, List.mem_singleton] at mem
    rw [mem] at names
    cases names

/-! ### Rebuilt boosts -/

theorem foldl_inherit_frame (held : List Int) :
    (held.foldl (fun k r => k.inherit h r) k).log = k.log ∧ ∀ j, h ≠ j →
      (held.foldl (fun k r => k.inherit h r) k).process j = k.process j := by
  induction held generalizing k with
  | nil => exact ⟨rfl, fun _ _ => rfl⟩
  | cons r held ih =>
      obtain ⟨log, process⟩ := ih (k := k.inherit h r)
      exact ⟨log.trans log_inherit, fun j other =>
        (process j other).trans (process_inherit_of_ne other)⟩

/-- Whose boosts are rebuilt is announced, and nobody else is touched. -/
theorem heralds_recompute : Leads Kernel.Heralds (recompute h) k := by
  intro _ _ ran
  rw [run_recompute] at ran
  cases ran
  let cleared := k.edit h Process.clearBoosts
  obtain ⟨log, process⟩ := foldl_inherit_frame (k := cleared) (h := h) (cleared.heldBy h)
  intro j urgent
  by_cases own : h = j
  · subst own
    have noted : (k.rebuild h).log.toList = k.log.toList ++ _ :=
      Array.toList_push.trans (congrArg (Array.toList · ++ _) log)
    exact ⟨_, noted, _, List.mem_singleton_self _, rfl, rfl, rfl⟩
  · have same : (k.rebuild h).process j = k.process j := by
      refine (process j own).trans ?_
      simp [cleared, own]
    rw [same] at urgent
    exact absurd urgent (lt_irrefl _)

/-! ### Whole calls -/

/-- Whoever becomes more urgent by a request is announced, unless it inherits as a new owner. -/
theorem heralds_acquire {protocol : Protocol} {granted : Bool}
    (other : ¬(protocol = .inheritance ∧ granted = true))
    (ran : (protocol.acquire r).run k = .ok granted k') : k.Heralds k' := by
  obtain ⟨h, m, _, rest, outcome⟩ := run_acquire_eq_ok ran
  have raises := raises_answered protocol granted other _ _ rest
  refine Unraised.trans_heralds ?_ raises.heralds
  cases granted with
  | true =>
      obtain ⟨_, rfl⟩ : _ ∧ m = _ := outcome
      exact trans_of Unraised (Kernel.unraised_assign _) (.record _ _)
  | false =>
      obtain ⟨owner, _, rfl⟩ : ∃ owner, _ ∧ m = _ := outcome
      exact trans_of Unraised Kernel.unraised_park (.record _ _)

theorem heralds_released (protocol : Protocol) (woken : Option Handle) :
    Leads Kernel.Heralds (protocol.released h r woken) k := by
  cases protocol with
  | fifo =>
      rintro _ _ ⟨⟩
      exact (refl_of Unraised k).heralds
  | ceiling =>
      rintro _ _ ⟨⟩
      have lowered : k.Unraised (k.edit h (·.unboost r)) := by
        refine ⟨List.prefix_rfl, fun j => ?_⟩
        by_cases own : h = j
        · simpa [own] using Process.priority_le_priority_unboost _ r
        · simp [own]
      exact (trans_of Unraised lowered (.record _ _)).heralds
  | inheritance =>
      cases woken with
      | none => exact heralds_recompute
      | some waiter =>
          refine .read reads_process fun _ k' ran => ?_
          obtain ⟨_, m, noted, rest⟩ := run_bind_eq_ok ran
          cases noted
          have same : k.Unraised (k.noteBlocked (·.erase (k.process waiter).pid)) :=
            .of_boosts rfl (fun _ => rfl) fun _ => rfl
          exact same.trans_heralds (heralds_recompute _ _ rest)

/-- Whoever becomes more urgent by a release is announced. -/
theorem heralds_release (protocol : Protocol) :
    Leads Kernel.Heralds (protocol.release r) k := by
  intro _ _ ran
  obtain ⟨h, woken, _, _, rest⟩ := run_release_eq_ok ran
  have freed : k.Unraised (k.freed r h) := Kernel.unraised_freed
  exact freed.trans_heralds (heralds_released protocol woken _ _ rest)

end Protocol

end Uniprocessor
