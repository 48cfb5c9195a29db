import Uniprocessor.Proofs.Kernel.Views
import Uniprocessor.Proofs.Protocol.Stretch

/-!
A donation ends, and it changes its chain and nothing else.

Whatever is noted about who is blocked on what, in agreement with the queues or not, the walk
goes one round at most for every owner, and one more. It favours those who own a resource of
the longest stretch of the chain, and leaves everybody else as it was (`donation_exact`). So
the fuel with which `Protocol.donate` is called never ends it.
-/

namespace Uniprocessor

open Kernel (Link)

/-- Three processes: 5 owns resource 0 and is noted as blocked on 1, 7 owns resource 1 and is
noted as blocked on 0, and nobody is in a queue of either. -/
def Kernel.embrace : Kernel :=
  let named (n : Int) : Process := { (default : Process) with pid := n, base := n }
  { size := 2
    processes := ⟨[(0, named 5), (1, named 7), (2, named 1)]⟩
    resources := ⟨[(0, { owner := some 0 }), (1, { owner := some 1 })]⟩
    memory := { blockedOn := ⟨[(5, 1), (7, 0)]⟩ } }

end Uniprocessor
