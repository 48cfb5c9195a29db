import Uniprocessor.Policy
import Uniprocessor.Proofs.Kernel.Operations
import Uniprocessor.Proofs.Kernel.Order

/-!
How the built-in disciplines choose.

Whatever its key and its slice, a discipline does one of four things
(`Policy.Choice`): nobody can run and it names nobody; the running process goes
on; nobody goes on and it takes a member of the ready queue; or it sends the
running process back and takes a member then. In an orderly kernel every one of
them chooses so and never faults (`Discipline.run_schedule`).
-/

namespace Uniprocessor

namespace Policy

open KernelM

variable {k : Kernel} {h : Handle} {key : Process → Int}

/-- The kernel with another count of used ticks of the slice. -/
def withSlice (k : Kernel) (used : Nat) : Kernel := k.remember { k.memory with sliceUsed := used }

/-- What a discipline may answer, and the kernel that it leaves. -/
inductive Choice : Kernel → Option Handle → Kernel → Prop where
  | nobody {k : Kernel} (used : Nat) (free : continuing k = none)
      (empty : k.queue .ready = []) : Choice k none (withSlice k used)
  | resume {k : Kernel} {h : Handle} (used : Nat) (goes : continuing k = some h) :
      Choice k (some h) (withSlice k used)
  | take {k : Kernel} {h : Handle} (used : Nat) (free : continuing k = none)
      (mem : h ∈ k.queue .ready) : Choice k (some h) (withSlice (k.unlink .ready h) used)
  | preempt {k k' : Kernel} {h : Handle} {chosen : Option Handle} (goes : continuing k = some h)
      (next : Choice ((k.sendBack h).record (.preempted (k.process h).pid)) chosen k') :
      Choice k chosen k'

/-! ### Who may go on -/

theorem continuing_eq_some_iff :
    continuing k = some h ↔ k.current = some h ∧ (k.process h).canContinue = true := by
  simp [continuing, Option.filter_eq_some_iff]

theorem running_of_continuing (goes : continuing k = some h) : (k.process h).state = .running := by
  have able := (continuing_eq_some_iff.mp goes).2
  simp only [Process.canContinue, Bool.and_eq_true, beq_iff_eq] at able
  exact able.1

/-- Only a process in use can be running. -/
theorem used_of_running (running : (k.process h).state = .running) : h ∈ k.handles := by
  apply Classical.byContradiction
  intro unused
  rw [Kernel.process_of_unused unused] at running
  cases running

/-! ### The parts of a schedule -/

theorem least?_mem {q : QueueId} (least : k.least? key q = some h) : h ∈ k.queue q :=
  List.minOn?_mem least

theorem least?_eq_none_iff {q : QueueId} : k.least? key q = none ↔ k.queue q = [] := by
  cases members : k.queue q with
  | nil => simp [Kernel.least?, members]
  | cons w rest => simp [Kernel.least?, members, List.minOn?]

/-- What is found has a key no greater than that of any other member. -/
theorem key_le_of_least? {q : QueueId} {j : Handle} (least : k.least? key q = some h)
    (mem : j ∈ k.queue q) :
    key (k.process h) ≤ key (k.process j) := by
  have found : (k.queue q).minOn? (fun h => key (k.process h)) = some h := least
  have bound := List.apply_get_minOn?_le_of_mem (f := fun h => key (k.process h)) mem
  simpa [found] using bound

theorem run_preempt (order : k.Orderly) (goes : continuing k = some h) :
    (preempt h).run k = .ok () ((k.sendBack h).record (.preempted (k.process h).pid)) := by
  have running := running_of_continuing goes
  have free := (order.placed h (used_of_running running)).queue_of_running running
  have moved : (move h .preempt).run k = .ok () (k.edit h (·.inState .ready)) :=
    run_move (by simp [running, Transition.sources])
  have linked : (enqueue .ready h).run (k.edit h (·.inState .ready)) = .ok () (k.sendBack h) :=
    run_enqueue (by simp [free])
  simp [preempt, moved, linked]

/-- After a preemption nobody goes on. -/
theorem continuing_sendBack (goes : continuing k = some h) (e : Event) :
    continuing ((k.sendBack h).record e) = none := by
  have current := (continuing_eq_some_iff.mp goes).1
  simp [continuing, current, Process.canContinue]

/-- Taking the least member is a choice where nobody goes on. -/
theorem run_takeLeast (key : Process → Int) (order : k.Orderly) (free : continuing k = none) :
    ∃ chosen k', (takeLeast key .ready).run k = .ok chosen k' ∧ Choice k chosen k' := by
  cases least : k.least? key .ready with
  | none =>
      exact ⟨none, k, run_takeLeast_none least, .nobody k.memory.sliceUsed free
        (least?_eq_none_iff.mp least)⟩
  | some h =>
      have mem := least?_mem least
      exact ⟨some h, k.unlink .ready h,
        run_takeLeast_some least ((order.linked.mark h _).mpr mem), .take _ free mem⟩

/-- So is taking the head. -/
theorem run_takeHead (free : continuing k = none) :
    ∃ chosen k', (takeHead .ready).run k = .ok chosen k' ∧ Choice k chosen k' := by
  cases members : k.queue .ready with
  | nil => exact ⟨none, k, run_takeHead_nil members, .nobody k.memory.sliceUsed free members⟩
  | cons h rest =>
      exact ⟨some h, k.unlink .ready h, run_takeHead_cons members,
        .take _ free (by rw [members]; exact .head _)⟩

theorem run_keepOr {next : KernelM (Option Handle)}
    (otherwise : continuing k = none →
      ∃ chosen k', next.run k = .ok chosen k' ∧ Choice k chosen k') :
    ∃ chosen k', (keepOr next).run k = .ok chosen k' ∧ Choice k chosen k' := by
  cases goes : continuing k with
  | none =>
      obtain ⟨chosen, k', ran, choice⟩ := otherwise goes
      exact ⟨chosen, k', by simp [keepOr, goes, ran], choice⟩
  | some h => exact ⟨some h, k, by simp [keepOr, goes], .resume k.memory.sliceUsed goes⟩

theorem run_takePreemptively (order : k.Orderly) :
    ∃ chosen k', (takePreemptively key).run k = .ok chosen k' ∧ Choice k chosen k' := by
  cases goes : continuing k with
  | none =>
      obtain ⟨chosen, k', ran, choice⟩ := run_takeLeast key order goes
      exact ⟨chosen, k', by simp [takePreemptively, goes, ran], choice⟩
  | some h =>
      cases least : k.least? key .ready with
      | none =>
          exact ⟨some h, k, by simp [takePreemptively, goes, least],
            .resume k.memory.sliceUsed goes⟩
      | some best =>
          by_cases wins : key (k.process h) ≤ key (k.process best)
          · exact ⟨some h, k, by simp [takePreemptively, goes, least, wins],
              .resume k.memory.sliceUsed goes⟩
          · let back := (k.sendBack h).record (.preempted (k.process h).pid)
            have running := running_of_continuing goes
            have order' : back.Orderly := by
              refine (order.sendBack (used_of_running running) running).congr ?_
              constructor <;> simp [back]
            obtain ⟨chosen, k', ran, choice⟩ :=
              run_takeLeast key order' (continuing_sendBack goes _)
            refine ⟨chosen, k', ?_, .preempt goes choice⟩
            rw [← ran]
            simp [takePreemptively, goes, least, wins, run_preempt order goes, back]

@[simp] theorem run_setSlice (used : Nat) : (setSlice used).run k = .ok () (withSlice k used) := rfl

/-- A turn of the ready queue starts a new slice. -/
theorem run_turn (free : continuing k = none) :
    ∃ chosen k',
      (do
        let next ← takeHead .ready
        setSlice (if next.isSome then 1 else 0)
        pure next : KernelM (Option Handle)).run k = .ok chosen k' ∧ Choice k chosen k' := by
  cases members : k.queue .ready with
  | nil =>
      exact ⟨none, withSlice k 0, by simp [run_takeHead_nil members], .nobody 0 free members⟩
  | cons h rest =>
      exact ⟨some h, withSlice (k.unlink .ready h) 1, by simp [run_takeHead_cons members],
        .take 1 free (by rw [members]; exact .head _)⟩

theorem run_rotate (quantum : Nat) (order : k.Orderly) :
    ∃ chosen k', (rotate quantum).run k = .ok chosen k' ∧ Choice k chosen k' := by
  cases goes : continuing k with
  | none =>
      obtain ⟨chosen, k', ran, choice⟩ := run_turn goes
      refine ⟨chosen, k', ?_, choice⟩
      rw [← ran]
      simp [rotate, goes]
  | some h =>
      by_cases lasts : k.memory.sliceUsed < quantum
      · exact ⟨some h, withSlice k (k.memory.sliceUsed + 1), by simp [rotate, goes, lasts],
          .resume _ goes⟩
      · obtain ⟨chosen, k', ran, choice⟩ := run_turn (continuing_sendBack goes _)
        refine ⟨chosen, k', ?_, .preempt goes choice⟩
        rw [← ran]
        simp [rotate, goes, lasts, run_preempt order goes]

/-! ### Who is named -/

/-- Where nobody is named, nobody can run. -/
theorem Choice.of_none {k' : Kernel} (choice : Choice k none k') :
    continuing k = none ∧ k.queue .ready = [] ∧ ∃ used, k' = withSlice k used := by
  generalize nobody : (none : Option Handle) = chosen at choice
  induction choice with
  | nobody used free empty => exact ⟨free, empty, used, rfl⟩
  | resume | take => cases nobody
  | preempt goes next ih =>
      have empty := (ih nobody).2.1
      simp at empty

/-- Whoever is named was running or in the ready queue. -/
theorem Choice.candidate {k' : Kernel} (choice : Choice k (some h) k') :
    continuing k = some h ∨ h ∈ k.queue .ready := by
  generalize somebody : some h = chosen at choice
  induction choice with
  | nobody => cases somebody
  | resume used goes =>
      cases somebody
      exact .inl goes
  | take used free mem =>
      cases somebody
      exact .inr mem
  | @preempt k k' j chosen goes next ih =>
      subst somebody
      rcases ih rfl with again | mem
      · rw [continuing_sendBack goes] at again
        cases again
      · have mem : h ∈ k.queue .ready ∨ h = j := by simpa using mem
        rcases mem with ready | rfl
        · exact .inr ready
        · exact .inl goes

end Policy

/-- Every built-in discipline chooses in an orderly kernel. -/
theorem Discipline.run_schedule {k : Kernel} (d : Discipline) (order : k.Orderly) :
    ∃ chosen k', d.schedule.run k = .ok chosen k' ∧ Policy.Choice k chosen k' := by
  cases d with
  | firstCome => exact Policy.run_keepOr Policy.run_takeHead
  | shortestJob => exact Policy.run_keepOr (Policy.run_takeLeast _ order)
  | shortestRemaining => exact Policy.run_takePreemptively order
  | roundRobin quantum => exact Policy.run_rotate quantum order
  | priority | priorityCeiling | priorityInheritance => exact Policy.run_takePreemptively order

end Uniprocessor
