import Uniprocessor.Process

/-!
Workloads: the processes to run and the ceilings of their resources.

The ceiling of a resource is the most urgent base priority among the processes
that request it, unless the workload states one.
-/

namespace Uniprocessor

structure Workload where
  processes : List ProcessSpec
  explicitCeilings : Table Int Int := {}
  deriving DecidableEq, Repr

namespace Workload

/-- Every resource that the workload mentions, in ascending order. -/
def resourceIds (w : Workload) : List Int :=
  let requested := w.processes.flatMap (fun spec => spec.requests.map (·.resource))
  (requested ++ w.explicitCeilings.keys).eraseDups.mergeSort (fun a b => a ≤ b)

/-- Lowers the ceiling of a requested resource to a requester's priority. -/
def lowerCeiling (t : Table Int Int) (resource priority : Int) : Table Int Int :=
  t.put resource (min ((t.get? resource).getD priority) priority)

/-- The ceilings that follow from who requests what. -/
def impliedCeilings (w : Workload) : Table Int Int :=
  w.processes.foldl
    (fun t spec => spec.requests.foldl (fun t r => lowerCeiling t r.resource spec.priority) t) {}

/-- The ceiling of every resource that has one. -/
def ceilings (w : Workload) : Table Int Int := w.impliedCeilings.update w.explicitCeilings

end Workload

end Uniprocessor
