import Uniprocessor.Policy
import Uniprocessor.Proofs.Protocol.Guise

/-!
Disciplines choose alike on kernels in a guise.

A discipline looks at places, at the slice, and at one key of the candidates:
the lifespan or the work left, which a guise does not touch, or the effective
priority, of which it keeps the order. So every schedule names the same process
on a kernel and on one that stands for it (`Discipline.guised_schedule`).
-/

namespace Uniprocessor

open KernelM
open EStateM (Together Alongside reads_get)
open Kernel (Guised)

namespace Policy

variable {φ : Guise} {others : List Handle} {k l : Kernel} {h : Handle} {key : Process → Int}

theorem continuing_guised (guised : k.Guised φ others l) : continuing l = continuing k := by
  unfold continuing
  rw [guised.current]
  cases current : k.current with
  | none => rfl
  | some h =>
      have stands := guised.process h (guised.known.current h current)
      simp only [Option.filter, stands.canContinue]

theorem used_of_continuing (guised : k.Guised φ others l) (goes : continuing k = some h) :
    h ∈ k.handles :=
  guised.known.current h (Option.filter_eq_some_iff.mp goes).1

theorem guised_preempt (guised : k.Guised φ others l) (named : h ∈ others) :
    Together (Guised φ others) (preempt h) (preempt h) k l := by
  refine (guised_move guised named _).bind fun _ _ _ guised => ?_
  refine (guised_enqueue guised named).bind fun _ _ _ guised => ?_
  exact .read reads_process reads_process (guised_record guised _ _)

/-- The running process goes on and is in use. -/
theorem guised_stay (guised : k.Guised φ others l) (goes : continuing k = some h) :
    Alongside (Chosen φ others) (pure (some h) : KernelM (Option Handle)) (pure (some h)) k l :=
  .pure ⟨rfl, guised.naming (used_of_continuing guised goes)⟩

theorem guised_keepOr {next : KernelM (Option Handle)} (guised : k.Guised φ others l)
    (otherwise : Alongside (Chosen φ others) next next k l) :
    Alongside (Chosen φ others) (keepOr next) (keepOr next) k l := by
  refine .read reads_get reads_get ?_
  rw [continuing_guised guised]
  split
  · rename_i h goes
    exact guised_stay guised goes
  · exact otherwise

/-- The preempted process is no longer of interest once the next one is chosen. -/
theorem chosen_of_preempted {x : KernelM (Option Handle)} (guised : k.Guised φ others l)
    (goes : continuing k = some h)
    (next : ∀ k l : Kernel, k.Guised φ (h :: others) l →
      Alongside (Chosen φ (h :: others)) x x k l) :
    Alongside (Chosen φ others) (preempt h >>= fun _ => x) (preempt h >>= fun _ => x) k l := by
  have named := guised.naming (used_of_continuing guised goes)
  refine .after (guised_preempt named List.mem_cons_self) fun _ k l guised => ?_
  refine .mono (fun _ _ _ _ both => ⟨both.1, both.2.knowing fun j mem => both.2.used ?_⟩)
    (next k l guised)
  rcases List.mem_append.mp mem with here | here <;> simp [here]

theorem guised_takePreemptively (guised : k.Guised φ others l) (orders : φ.Orders key) :
    Alongside (Chosen φ others) (takePreemptively key) (takePreemptively key) k l := by
  refine .read reads_get reads_get ?_
  rw [continuing_guised guised, guised.least? orders]
  split
  · exact guised_takeLeast guised orders
  · rename_i h goes
    split
    · exact guised_stay guised goes
    · rename_i best least
      have runs := guised.process h (used_of_continuing guised goes)
      have waits := guised.process best (guised.member _ best (List.minOn?_mem least))
      simp only [orders runs waits]
      split
      · exact guised_stay guised goes
      · exact chosen_of_preempted guised goes fun _ _ guised => guised_takeLeast guised orders

theorem guised_setSlice (guised : k.Guised φ others l) (used : Nat) :
    Together (Guised φ others) (setSlice used) (setSlice used) k l :=
  .modify (guised.remember rfl guised.blockedOn)

/-- A turn of the ready queue starts a new slice on both sides. -/
theorem guised_turn (guised : k.Guised φ others l) :
    Alongside (Chosen φ others)
      (do
        let next ← takeHead .ready
        setSlice (if next.isSome then 1 else 0)
        pure next)
      (do
        let next ← takeHead .ready
        setSlice (if next.isSome then 1 else 0)
        pure next) k l := by
  refine .bind (guised_takeHead guised) fun next _ _ _ chosen => ?_
  obtain ⟨rfl, guised⟩ := chosen
  exact .after (guised_setSlice guised _) fun _ _ _ guised => .pure ⟨rfl, guised⟩

theorem guised_rotate (quantum : Nat) (guised : k.Guised φ others l) :
    Alongside (Chosen φ others) (rotate quantum) (rotate quantum) k l := by
  refine .read reads_get reads_get ?_
  dsimp only
  rw [continuing_guised guised, guised.slice]
  split
  · exact guised_turn guised
  · rename_i h goes
    split
    · have named := guised.naming (used_of_continuing guised goes)
      exact .after (guised_setSlice named _) fun _ _ _ guised => .pure ⟨rfl, guised⟩
    · exact chosen_of_preempted guised goes fun _ _ guised => guised_turn guised

end Policy

namespace Discipline

variable {φ : Guise} {others : List Handle} {k l : Kernel}

theorem guised_schedule (d : Discipline) (guised : k.Guised φ others l) :
    Alongside (Chosen φ others) d.schedule d.schedule k l := by
  cases d with
  | firstCome => exact Policy.guised_keepOr guised (guised_takeHead guised)
  | shortestJob =>
      refine Policy.guised_keepOr guised (guised_takeLeast guised fun first second => ?_)
      rw [first.lifespan, second.lifespan]
  | shortestRemaining =>
      refine Policy.guised_takePreemptively guised fun first second => ?_
      rw [first.remaining, second.remaining]
  | roundRobin quantum => exact Policy.guised_rotate quantum guised
  | priority | priorityCeiling | priorityInheritance =>
      exact Policy.guised_takePreemptively guised (Protocol.orders_priority φ)

theorem guised_clearSlice (d : Discipline) (guised : k.Guised φ others l) :
    Together (Guised φ others) d.clearSlice d.clearSlice k l := by
  cases d with
  | roundRobin quantum => exact Policy.guised_setSlice guised 0
  | _ => exact .pure _ guised

end Discipline

end Uniprocessor
