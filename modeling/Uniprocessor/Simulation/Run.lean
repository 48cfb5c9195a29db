import Uniprocessor.Simulation

/-!
Running a simulation to its end.

A run ends when everybody has left, when the clock reaches the limit, or when
nobody can run any more although somebody still waits. The number of ticks is
bounded in advance: each tick waits for an arrival, does work, or meets a busy
resource, and there are only so many of each (`Workload.horizon`).
-/

namespace Uniprocessor

/-- More ticks than any run of the workload takes. -/
def Workload.horizon (w : Workload) : Nat :=
  let latest := w.processes.foldr (fun spec t => max spec.arrival.toNat t) 0
  let work := w.processes.foldr (fun spec n => spec.lifespan.toNat + n) 0
  let requests := w.processes.foldr (fun spec n => spec.requests.length + n) 0
  latest + work + (requests + 1) * (w.processes.length + 1)

/-- How a run stands before the next tick. -/
inductive Verdict where
  | finished
  | atLimit (limit : Int)
  | stuck (pids : List Int)
  | going
  deriving DecidableEq, Repr

namespace Simulation

/-- The numbers of the processes that sleep, in ascending order. -/
def sleepers (s : Simulation) : List Int :=
  ((s.processes.filter asleep).map (·.pid)).mergeSort (fun a b => a ≤ b)

def verdict (s : Simulation) : Verdict :=
  if s.done then .finished
  else match s.limit.filter (fun (limit : Int) => limit ≤ (s.kernel.tick : Int)) with
    | some limit => .atLimit limit
    | none => if s.stuck then .stuck s.sleepers else .going

/-- As many ticks as a run can take. -/
def fuel (s : Simulation) : Nat := s.workload.horizon + (s.limit.getD 0).toNat + 1

end Simulation

namespace SimulationM

/-- Ticks until the verdict is other than `going`. -/
def untilVerdict : Nat → SimulationM Unit
  | 0 => pure ()
  | fuel + 1 => do
      match (← get).verdict with
      | .finished => pure ()
      | .atLimit limit => do
          modify fun s => { s with truncated := true }
          record (.stopped limit)
      | .stuck pids => do
          modify fun s => { s with stalled := true }
          record (.stalled pids)
      | .going => do
          let _ ← tick
          untilVerdict fuel

/-- Runs to the end and reports. The policy is torn down even if a tick faults. -/
def run : SimulationM Report := do
  startOnce
  try untilVerdict (← get).fuel
  finally onKernel (← get).policy.tearDown
  return (← get).report

end SimulationM

namespace Simulation

/-- One tick of a simulation. -/
def step (s : Simulation) : EStateM.Result Fault Simulation TickRecord :=
  EStateM.run SimulationM.step s

/-- A simulation run to its end. -/
def run (s : Simulation) : EStateM.Result Fault Simulation Report :=
  EStateM.run SimulationM.run s

end Simulation

end Uniprocessor
