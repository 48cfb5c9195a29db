import Uniprocessor.Proofs.Kernel.Views
import Uniprocessor.Proofs.Outcome

/-!
What each kernel operation does where its precondition holds.

Every statement gives the answer and the kernel that is left, written with the
changes of the views.
-/

/-- The first least element depends on the order of the keys only. -/
theorem List.minOn?_congr {α : Type} {f g : α → Int} {l : List α}
    (same : ∀ a ∈ l, ∀ b ∈ l, f a ≤ f b ↔ g a ≤ g b) : l.minOn? f = l.minOn? g := by
  induction l with
  | nil => rfl
  | cons a l ih =>
      have later := ih fun b mem c mem' =>
        same b (List.mem_cons_of_mem _ mem) c (List.mem_cons_of_mem _ mem')
      rw [List.minOn?_cons, List.minOn?_cons, later]
      cases least : l.minOn? g with
      | none => rfl
      | some b =>
          have first := same a List.mem_cons_self b
            (List.mem_cons_of_mem _ (List.minOn?_mem least))
          simp only [Option.elim_some, minOn, first]

namespace Uniprocessor.KernelM

variable {k : Kernel} {h : Handle} {r : Int} {q : QueueId}

@[simp] theorem run_process : (process h).run k = .ok (k.process h) k := rfl

@[simp] theorem run_record (e : Event) : (record e).run k = .ok () (k.record e) := rfl

@[simp] theorem run_setOwner (owner : Option Handle) :
    (setOwner r owner).run k = .ok () (k.assign r owner) := rfl

@[simp] theorem run_setCurrent (current : Option Handle) :
    (setCurrent current).run k = .ok () (k.turnTo current) := rfl

@[simp] theorem run_advance : advance.run k = .ok (k.tick + 1) k.later := rfl

@[simp] theorem run_boost (priority : Int) :
    (boost h r priority).run k = .ok () (k.edit h (·.boost r priority)) := rfl

@[simp] theorem run_unboost : (unboost h r).run k = .ok () (k.edit h (·.unboost r)) := rfl

@[simp] theorem run_clearBoosts :
    (clearBoosts h).run k = .ok () (k.edit h Process.clearBoosts) := rfl

theorem run_move {t : Transition} (allowed : (k.process h).state ∈ t.sources) :
    (move h t).run k = .ok () (k.edit h (·.inState t.target)) := by
  simp [move, onProcess, Process.move, allowed, Kernel.edit, Process.inState]

theorem run_runTick (running : (k.process h).state = .running)
    (unfinished : (k.process h).age < (k.process h).lifespan) :
    (runTick h).run k = .ok () (k.edit h Process.older) := by
  simp [runTick, onProcess, Process.runTick, running, Process.finished, Nat.not_le.mpr unfinished,
    Kernel.edit, Process.older]

theorem run_resource (inTable : 0 ≤ r ∧ r < k.size) :
    (resource r).run k = .ok (k.resource r) k := by
  simp [resource, inTable]

theorem run_enqueue (free : (k.process h).queue = none) :
    (enqueue q h).run k = .ok () (k.link q h) := by
  simp [enqueue, free]

theorem run_remove (linked : (k.process h).queue = some q) :
    (remove q h).run k = .ok () (k.unlink q h) := by
  simp [remove, linked]

theorem run_takeHead_nil (empty : k.queue q = []) : (takeHead q).run k = .ok none k := by
  simp [takeHead, empty]

theorem run_takeHead_cons {rest : List Handle} (members : k.queue q = h :: rest) :
    (takeHead q).run k = .ok (some h) (k.unlink q h) := by
  simp [takeHead, members]

theorem run_takeLeast_none {key : Process → Int} (nobody : k.least? key q = none) :
    (takeLeast key q).run k = .ok none k := by
  simp [takeLeast, nobody]

theorem run_takeLeast_some {key : Process → Int} (least : k.least? key q = some h)
    (linked : (k.process h).queue = some q) :
    (takeLeast key q).run k = .ok (some h) (k.unlink q h) := by
  simp [takeLeast, least, run_remove linked]

end Uniprocessor.KernelM
