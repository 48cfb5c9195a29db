import Uniprocessor.Policy
import Uniprocessor.Proofs.Kernel.Twin

/-!
Disciplines that ignore priorities choose alike in twins.

First come, first served, the two shortest-job disciplines and round robin look
at places, ages, lifespans and the slice, of which boosts are no part
(`Discipline.ignoresPriority`). On twins that keep pace their schedules therefore
name the same process and leave twins (`Discipline.together_schedule`).
-/

namespace Uniprocessor

open KernelM
open EStateM (Together reads_get)
open Kernel (Twin)

/-- The discipline does not look at priorities. -/
def Discipline.ignoresPriority : Discipline → Bool
  | .firstCome | .shortestJob | .shortestRemaining | .roundRobin _ => true
  | .priority | .priorityCeiling | .priorityInheritance => false

namespace Policy

variable {paced : Prop} {others : List Handle} {k l : Kernel} {h : Handle} {key : Process → Int}

theorem continuing_twin (twin : k.Twin paced others l) : continuing l = continuing k := by
  unfold continuing
  rw [twin.current]
  congr 1
  funext h
  exact twin.view Process.canContinue (fun _ => rfl) h

theorem together_preempt (twin : k.Twin paced others l) :
    Together (Twin paced others) (preempt h) (preempt h) k l := by
  refine (forgetting (together_move twin _)).bind fun _ _ _ twin => ?_
  refine (together_enqueue twin).bind fun _ _ _ twin => ?_
  exact .read reads_process reads_process (together_record twin _ _)

theorem together_keepOr {next : KernelM (Option Handle)} (twin : k.Twin paced others l)
    (otherwise : Together (Twin paced others) next next k l) :
    Together (Twin paced others) (keepOr next) (keepOr next) k l := by
  refine .read reads_get reads_get ?_
  rw [continuing_twin twin]
  split
  · exact .pure _ twin
  · exact otherwise

theorem together_takePreemptively (twin : k.Twin paced others l)
    (blind : ∀ p : Process, key p.clearBoosts = key p) :
    Together (Twin paced others) (takePreemptively key) (takePreemptively key) k l := by
  refine .read reads_get reads_get ?_
  rw [continuing_twin twin, least?_twin twin blind]
  split
  · exact together_takeLeast twin blind
  · split
    · exact .pure _ twin
    · rw [twin.view key blind, twin.view key blind]
      split
      · exact .pure _ twin
      · exact (together_preempt twin).bind fun _ _ _ twin => together_takeLeast twin blind

theorem together_setSlice (twin : k.Twin paced others l) (used : Nat) :
    Together (Twin paced others) (setSlice used) (setSlice used) k l :=
  .modify (twin.remember fun _ => rfl)

/-- A turn of the ready queue starts a new slice on both sides. -/
theorem together_turn (twin : k.Twin paced others l) :
    Together (Twin paced others)
      (do
        let next ← takeHead .ready
        setSlice (if next.isSome then 1 else 0)
        pure next)
      (do
        let next ← takeHead .ready
        setSlice (if next.isSome then 1 else 0)
        pure next) k l :=
  (together_takeHead twin).bind fun _ _ _ twin =>
    (together_setSlice twin _).bind fun _ _ _ twin => .pure _ twin

theorem together_rotate (pace : paced) (quantum : Nat) (twin : k.Twin paced others l) :
    Together (Twin paced others) (rotate quantum) (rotate quantum) k l := by
  refine .read reads_get reads_get ?_
  dsimp only
  rw [continuing_twin twin, twin.slice pace]
  split
  · exact together_turn twin
  · split
    · exact (together_setSlice twin _).bind fun _ _ _ twin => .pure _ twin
    · exact (together_preempt twin).bind fun _ _ _ twin => together_turn twin

end Policy

namespace Discipline

variable {paced : Prop} {others : List Handle} {k l : Kernel} {d : Discipline}

theorem together_schedule (pace : paced) (blind : d.ignoresPriority)
    (twin : k.Twin paced others l) : Together (Twin paced others) d.schedule d.schedule k l := by
  cases d with
  | firstCome => exact Policy.together_keepOr twin (together_takeHead twin)
  | shortestJob => exact Policy.together_keepOr twin (together_takeLeast twin fun _ => rfl)
  | shortestRemaining => exact Policy.together_takePreemptively twin fun _ => rfl
  | roundRobin quantum => exact Policy.together_rotate pace quantum twin
  | priority | priorityCeiling | priorityInheritance => cases blind

/-- Where twins need not keep pace, each discipline may start its slice in its own way. -/
theorem together_clearSlice (d d' : Discipline) (same : paced → d' = d)
    (twin : k.Twin paced others l) :
    Together (Twin paced others) d.clearSlice d'.clearSlice k l := by
  by_cases pace : paced
  · obtain rfl := same pace
    cases d' with
    | roundRobin quantum => exact Policy.together_setSlice twin 0
    | _ => exact .pure _ twin
  · have alone : ∀ (d : Discipline) {l : Kernel}, k.Twin paced others l →
        Together (Twin paced others) (pure ()) d.clearSlice k l := by
      intro d l twin
      cases d with
      | roundRobin quantum =>
          exact .modify (f := id) (twin.remembered fun paced => absurd paced pace)
      | _ => exact .pure _ twin
    exact .both (alone d (.refl twin.known)) (alone d' twin) fun _ _ first second =>
      first.symm.trans second

end Discipline

end Uniprocessor
