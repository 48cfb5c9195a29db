import Uniprocessor.Policy
import Uniprocessor.Report
import Uniprocessor.Workload
import Uniprocessor.Workload.Error

/-!
The simulation: a policy at work on a workload, one tick at a time.

On every tick the processes whose time has come arrive; the policy names who
runs; that process asks for the resources that fall due at its age, works for
a tick, gives back what it has held long enough, and leaves once its lifespan
is used up. A tick on which a resource was refused does no work.

The table of processes, the holdings and the requests issued so far go by
process number, so a number that arrives again takes over its entries. A number
or a resource that the books do not list is a fault.
-/

namespace Uniprocessor

structure Simulation where
  policy : Policy
  workload : Workload
  /-- The run stops when the clock reaches this tick. -/
  limit : Option Int := none
  kernel : Kernel
  /-- The processes still to arrive, the earliest first. -/
  pending : List ProcessSpec
  /-- The processes that have arrived, by number. -/
  table : Table Int Handle := {}
  /-- For each process number, the resources held and the ticks of work left to
  hold them. -/
  holding : Table Int (Table Int Int) := {}
  /-- For each process number, how many requests have been granted. -/
  granted : Table Int Nat := {}
  timeline : Array TickRecord := .empty
  switches : Nat := 0
  started : Bool := false
  stalled : Bool := false
  truncated : Bool := false

/-- Why a simulation cannot be set up. -/
inductive SetUpError where
  | workload (e : WorkloadError)
  | fault (f : Fault)
  deriving DecidableEq, Repr

/-- Simulation steps may fault, and keep what they did before the fault. -/
abbrev SimulationM := EStateM Fault Simulation

namespace Simulation

/-- Processes that arrive together keep the order of the workload. -/
def inOrderOfArrival (specs : List ProcessSpec) : List ProcessSpec :=
  specs.mergeSort (fun a b => a.arrival ≤ b.arrival)

/-- Gives every resource its ceiling. -/
def placeCeilings (ceilings : List (Int × Int)) : KernelM Unit :=
  ceilings.forM fun c => KernelM.setCeiling c.1 (some c.2)

/-- A simulation at tick zero. -/
def create (workload : Workload) (policy : Policy) (resources : Int) (limit : Option Int) :
    Except SetUpError Simulation := do
  let size ← (Kernel.checkSize resources).mapError SetUpError.fault
  match workload.resourceIds.find? (fun r => resources ≤ r) with
  | some r => throw (.workload ⟨none, .outsideTable r resources⟩)
  | none => pure ()
  match (placeCeilings workload.ceilings.entries).run { size := size } with
  | .error fault _ => throw (.fault fault)
  | .ok _ kernel =>
      pure { policy, workload, limit, kernel, pending := inOrderOfArrival workload.processes }

/-! ### Views -/

/-- The processes that have arrived, in the order of the table. -/
def processes (s : Simulation) : List Process := s.table.values.map s.kernel.process

/-- Everybody has arrived and left. -/
def done (s : Simulation) : Bool :=
  s.pending.isEmpty && s.processes.all (·.state == .exited)

def asleep (p : Process) : Bool := p.state == .waiting || p.state == .blocked

/-- Nobody can run any more although somebody still waits. -/
def stuck (s : Simulation) : Bool :=
  s.pending.isEmpty && s.kernel.ready.isEmpty && (Policy.continuing s.kernel).isNone &&
    s.processes.any asleep

/-- A report of the ticks so far. -/
def report (s : Simulation) : Report where
  policy := s.policy.title
  timeline := s.timeline.toList
  processes := s.processes.map ProcessStats.ofProcess
  switches := s.switches
  stalled := s.stalled
  truncated := s.truncated

end Simulation

namespace SimulationM

open Simulation

/-- A kernel operation as a step of the simulation. -/
def onKernel {α : Type} (op : KernelM α) : SimulationM α := fun s =>
  match op.run s.kernel with
  | .ok a k => .ok a { s with kernel := k }
  | .error fault k => .error fault { s with kernel := k }

def process (h : Handle) : SimulationM Process := onKernel (KernelM.process h)

def record (e : Event) : SimulationM Unit := onKernel (KernelM.record e)

/-- What a table holds under a key, which must be there. -/
def entry {ν : Type} (t : Table Int ν) (key : Int) : SimulationM ν :=
  match t.get? key with
  | some v => pure v
  | none => throw (.missingKey key)

/-- The resources that a process number holds, with the ticks of work left. -/
def holdingOf (pid : Int) : SimulationM (Table Int Int) := do entry (← get).holding pid

def setHolding (pid : Int) (held : Table Int Int) : SimulationM Unit :=
  modify fun s => { s with holding := s.holding.put pid held }

def setGranted (pid : Int) (count : Nat) : SimulationM Unit :=
  modify fun s => { s with granted := s.granted.put pid count }

/-- Prepares the policy, once. The simulation counts as started even if that
fails. -/
def start : SimulationM Unit := do
  modify fun s => { s with started := true }
  let policy := (← get).policy
  if ← onKernel policy.setUp then record (.started policy.title)
  else throw (.setUpFailed (Text.quoted policy.title))

def startOnce : SimulationM Unit := do
  if !(← get).started then start

/-! ### The parts of a tick -/

/-- A process arrives: it enters the table and the ready queue. -/
def arrive (spec : ProcessSpec) : SimulationM Unit := do
  match spec.build with
  | .error fault => throw fault
  | .ok p => do
      let h := (← get).kernel.nextHandle
      modify fun s => { s with
        kernel := s.kernel.enroll p
        table := s.table.put p.pid h
        holding := s.holding.put p.pid {}
        granted := s.granted.put p.pid 0 }
      onKernel (KernelM.enqueue .ready h)
      onKernel ((← get).policy.arrived h)
      let p ← process h
      record (.arrived p.pid p.lifespan p.priority)

/-- Lets every process in the list arrive whose time has come. -/
def arrivals : List ProcessSpec → SimulationM Unit
  | [] => pure ()
  | spec :: later => do
      if spec.arrival ≤ (← get).kernel.tick then do
        modify fun s => { s with pending := later }
        arrive spec
        arrivals later

/-- Gives the processor to the chosen process, which must be in no queue, and
ready or running. -/
def dispatch (chosen : Handle) (previous : Option Handle) : SimulationM Unit := do
  let p ← process chosen
  match p.queue with
  | some queue => onKernel (KernelM.violate (.selectedLinked p.pid queue))
  | none => pure ()
  if p.state = .ready then onKernel (KernelM.move chosen .dispatch)
  else if p.state ≠ .running then onKernel (KernelM.violate (.selectedInState p.pid p.state))
  if previous ≠ some chosen then do
    modify fun s => { s with switches := s.switches + 1 }
    record (.switched p.pid)
  onKernel (KernelM.setCurrent (some chosen))

/-- Asks for the resources that fall due at the age of the process, when `granted`
requests have been granted and these are left. The answer `false` means that one
was refused. -/
def issue (h : Handle) (granted : Nat) : List Request → SimulationM Bool
  | [] => pure true
  | request :: later => do
      let p ← process h
      if request.due = p.age then do
        if ← onKernel ((← get).policy.protocol.acquire request.resource) then do
          let held ← holdingOf p.pid
          setHolding p.pid (held.put request.resource request.hold)
          setGranted p.pid (granted + 1)
          issue h (granted + 1) later
        else pure false
      else pure true

def issueRequests (h : Handle) : SimulationM Bool := do
  let p ← process h
  let granted ← entry (← get).granted p.pid
  issue h granted (p.requests.drop granted)

def release (pid resource : Int) : SimulationM Unit := do
  let held ← holdingOf pid
  let _ ← entry held resource
  setHolding pid (held.erase resource)
  onKernel ((← get).policy.protocol.release resource)

/-- Counts down what the process holds and gives back what is due. -/
def expire (pid : Int) : List Int → SimulationM Unit
  | [] => pure ()
  | resource :: others => do
      let held ← holdingOf pid
      let left := (← entry held resource) - 1
      setHolding pid (held.put resource left)
      if left = 0 then release pid resource
      expire pid others

/-- Gives back everything that the process still holds, and lets it leave. -/
def leave (h : Handle) : SimulationM Unit := do
  let pid := (← process h).pid
  (← holdingOf pid).keys.forM (release pid)
  onKernel (KernelM.move h .exit)
  let now := (← get).kernel.tick
  onKernel (KernelM.onProcess h fun p => .ok { p with exitTick := some (now + 1) })
  onKernel ((← get).policy.leaving h)
  record (.exited pid)

/-- A tick of the chosen process. -/
def execute (h : Handle) : SimulationM TickEvent := do
  if ← issueRequests h then do
    onKernel (KernelM.runTick h)
    let pid := (← process h).pid
    expire pid (← holdingOf pid).keys
    if (← process h).finished then do
      leave h
      pure .exit
    else pure .run
  else pure .blocked

/-! ### Ticks -/

/-- One tick of a started simulation. -/
def tick : SimulationM TickRecord := do
  let now := (← get).kernel.tick
  arrivals (← get).pending
  let previous := (← get).kernel.current
  let line : TickRecord ←
    match ← onKernel (← get).policy.schedule with
    | none => do
        onKernel (KernelM.setCurrent none)
        pure ⟨now, none, .idle⟩
    | some chosen => do
        dispatch chosen previous
        let pid := (← process chosen).pid
        let event ← execute chosen
        pure ⟨now, some pid, event⟩
  modify fun s => { s with timeline := s.timeline.push line }
  let _ ← onKernel KernelM.advance
  pure line

/-- One tick; the first one starts the simulation. -/
def step : SimulationM TickRecord := do
  startOnce
  tick

end SimulationM

end Uniprocessor
