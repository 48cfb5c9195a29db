import Uniprocessor.Policy

/-!
A workbench: a kernel and a policy, driven by hand one command at a time.

Commands may come in any order, sensible or not. One that faults keeps what it
did before the fault, and the next one goes on from there.
-/

namespace Uniprocessor

structure Workbench where
  kernel : Kernel
  policy : Policy
  /-- The number for the next process that is given none. -/
  nextPid : Int := 1

/-- What a queue can be searched for. -/
inductive Measure where
  | priority
  | lifespan
  | remaining
  | pid
  | zero
  deriving DecidableEq, Repr

def Measure.of (m : Measure) (p : Process) : Int :=
  match m with
  | .priority => p.priority
  | .lifespan => p.lifespan
  | .remaining => p.remaining
  | .pid => p.pid
  | .zero => 0

/-- What can be done by hand. Processes go by handle. -/
inductive Command where
  | new (pid : Option Int) (spec : ProcessSpec)
  | move (h : Handle) (t : Transition)
  | runTick (h : Handle)
  | boost (h : Handle) (resource priority : Int)
  | unboost (h : Handle) (resource : Int)
  | clearBoosts (h : Handle)
  | info (h : Handle)
  | current (h : Option Handle)
  | switch (h : Handle)
  | acquire (resource : Int)
  | release (resource : Int)
  | schedule
  | tick
  | setUp
  | tearDown
  | arrived (h : Handle)
  | leaving (h : Handle)
  | policy
  | trackedFor (pid : Int)
  | setCeiling (resource : Int) (ceiling : Option Int)
  | resource (resource : Int)
  | table
  | heldBy (h : Handle)
  | blockedOn (h : Handle)
  | advance
  | enqueue (q : QueueId) (h : Handle)
  | remove (q : QueueId) (h : Handle)
  | takeHead (q : QueueId)
  | head (q : QueueId)
  | least (q : QueueId) (m : Measure)
  | takeLeast (q : QueueId) (m : Measure)
  | contains (q : QueueId) (h : Handle)
  | queue (q : QueueId)
  deriving DecidableEq, Repr

/-- What a command answers. -/
inductive Reply where
  | nothing
  | flag (b : Bool)
  | number (n : Option Int)
  | numbers (ns : List Int)
  | text (s : String)
  | process (p : Process)
  | policy (title description : String) (quantum : Option Nat)
  | resource (description : String) (owned : Bool) (ceiling : Option Int) (queue : String)
  | table (size : Nat) (all inUse : List Int)
  | queue (description : String) (size : Nat) (pids : List Int)

namespace Kernel

def pid (k : Kernel) (h : Handle) : Int := (k.process h).pid

/-- The process numbers of a queue, head first. -/
def pids (k : Kernel) (q : QueueId) : List Int := (k.queue q).map k.pid

/-- A resource on one line, for diagnosis. -/
def describeResource (k : Kernel) (r : Int) : String :=
  let owner := match (k.resource r).owner with
    | some h => s!"owned by {k.pid h}"
    | none => "free"
  s!"Resource({r}, {owner}, waiters={Text.bracketed (k.pids (.waiting r))})"

/-- A queue on one line, for diagnosis. -/
def describeQueue (k : Kernel) (q : QueueId) : String :=
  s!"ProcessQueue({Text.quoted q.label}, pids={Text.bracketed (k.pids q)})"

end Kernel

namespace KernelM

/-- Makes the queue usable: a resource's queue must be in the table, and a named
one is made on its first use. -/
def openQueue (q : QueueId) : KernelM Unit := do
  match q with
  | .ready => pure ()
  | .waiting r => do
      let _ ← resource r
      pure ()
  | .named _ => modify fun k => k.setQueue q (k.queue q)

/-- Preempts the current process, if it runs, and gives the processor to `h`. -/
def switchTo (h : Handle) : KernelM Unit := do
  match (← get).current with
  | some old => if (← process old).state = .running then move old .preempt
  | none => pure ()
  let p ← process h
  if p.state = .ready then do
    match p.queue with
    | some q => remove q h
    | none => pure ()
    move h .dispatch
  setCurrent (some h)

/-- A bare tick: the chosen process works, and leaves when it is finished. -/
def bareTick (policy : Policy) : KernelM (Option Handle) := do
  let chosen ← policy.schedule
  setCurrent chosen
  match chosen with
  | some h => do
      if (← process h).state = .ready then move h .dispatch
      runTick h
      if (← process h).finished then move h .exit
  | none => pure ()
  let _ ← advance
  pure chosen

end KernelM

/-- Commands may fault, and keep what they did before the fault. -/
abbrev WorkbenchM := EStateM Fault Workbench

namespace WorkbenchM

def onKernel {α : Type} (op : KernelM α) : WorkbenchM α := fun w =>
  match op.run w.kernel with
  | .ok a k => .ok a { w with kernel := k }
  | .error fault k => .error fault { w with kernel := k }

/-- Makes a process. One without a number gets the next free one, which a
refused process leaves free. -/
def new (pid : Option Int) (spec : ProcessSpec) : WorkbenchM Process := do
  match { spec with pid := pid.getD (← get).nextPid }.build with
  | .error fault => throw fault
  | .ok p => do
      modify fun w => { w with
        kernel := w.kernel.enroll p
        nextPid := if pid.isSome then w.nextPid else w.nextPid + 1 }
      pure p

def number (op : KernelM (Option Handle)) : WorkbenchM Reply := do
  let found ← onKernel op
  return .number (found.map (← get).kernel.pid)

def silently (op : KernelM Unit) : WorkbenchM Reply := do
  onKernel op
  pure .nothing

/-- A command on a queue, which is opened first. -/
def onQueue (q : QueueId) (op : KernelM Reply) : WorkbenchM Reply :=
  onKernel (do KernelM.openQueue q; op)

def numberOf (k : Kernel) (h : Option Handle) : Reply := .number (h.map k.pid)

def perform (c : Command) : WorkbenchM Reply := do
  let policy := (← get).policy
  match c with
  | .new pid spec => return .text (← new pid spec).describe
  | .move h t => silently (KernelM.move h t)
  | .runTick h => silently (KernelM.runTick h)
  | .boost h r priority => silently (KernelM.boost h r priority)
  | .unboost h r => silently (KernelM.unboost h r)
  | .clearBoosts h => silently (KernelM.clearBoosts h)
  | .info h => return .process (← onKernel (KernelM.process h))
  | .current h => do
      onKernel (KernelM.setCurrent h)
      return .flag (Policy.continuing (← get).kernel).isSome
  | .switch h => silently (KernelM.switchTo h)
  | .acquire r => return .flag (← onKernel (policy.protocol.acquire r))
  | .release r => silently (policy.protocol.release r)
  | .schedule => number policy.schedule
  | .tick => number (KernelM.bareTick policy)
  | .setUp => return .flag (← onKernel policy.setUp)
  | .tearDown => silently policy.tearDown
  | .arrived h => silently (policy.arrived h)
  | .leaving h => silently (policy.leaving h)
  | .policy => return .policy policy.title policy.describe policy.quantum
  | .trackedFor pid => return .number ((← get).kernel.memory.blockedOn.get? pid)
  | .setCeiling r ceiling => silently (KernelM.setCeiling r ceiling)
  | .resource r => do
      let s ← onKernel (KernelM.resource r)
      return .resource ((← get).kernel.describeResource r) s.owner.isSome s.ceiling
        (QueueId.waiting r).label
  | .table => do
      let k := (← get).kernel
      return .table k.size k.resourceIds k.inUse
  | .heldBy h => return .numbers ((← get).kernel.heldBy h)
  | .blockedOn h => return .number ((← get).kernel.blockedOn h)
  | .advance => do
      let now : Int := (← onKernel KernelM.advance)
      return .number (some now)
  | .enqueue q h => onQueue q (do KernelM.enqueue q h; pure .nothing)
  | .remove q h => onQueue q (do KernelM.remove q h; pure .nothing)
  | .takeHead q => onQueue q (do let h ← KernelM.takeHead q; return numberOf (← get) h)
  | .head q => onQueue q (do let k ← get; return numberOf k (k.queue q).head?)
  | .least q m => onQueue q (do let k ← get; return numberOf k (k.least? m.of q))
  | .takeLeast q m =>
      onQueue q (do let h ← KernelM.takeLeast m.of q; return numberOf (← get) h)
  | .contains q h => onQueue q (do return .flag ((← get).queue q |>.contains h))
  | .queue q =>
      onQueue q (do
        let k ← get
        return .queue (k.describeQueue q) (k.queue q).length (k.pids q))

end WorkbenchM

/-- A command on a workbench. -/
def Workbench.perform (w : Workbench) (c : Command) : EStateM.Result Fault Workbench Reply :=
  EStateM.run (WorkbenchM.perform c) w

end Uniprocessor
