import Uniprocessor.Protocol

/-!
Scheduling policies: who runs on the next tick.

A policy looks at the process that ran last and at the ready queue. Only a
process that is still running and has work left may go on. Equally good
candidates are taken in the order in which they are seen: first the running
process, then the ready queue from its head.

The seven disciplines are built in. Each has a protocol of its own, and works
with the other two as well.
-/

namespace Uniprocessor

inductive Discipline where
  | firstCome
  | shortestJob
  | shortestRemaining
  | roundRobin (quantum : Nat)
  | priority
  | priorityCeiling
  | priorityInheritance
  deriving DecidableEq, Repr

/-- Everything that a simulation asks of a policy. -/
structure Policy where
  title : String
  /-- What the policy is called in a diagnosis. -/
  label : String
  protocol : Protocol
  quantum : Option Nat := none
  /-- Prepares a run, and says whether that succeeded. -/
  setUp : KernelM Bool
  tearDown : KernelM Unit
  schedule : KernelM (Option Handle)
  /-- Told of a process that has just arrived. -/
  arrived : Handle → KernelM Unit := fun _ => pure ()
  /-- Told of a process that is about to leave. -/
  leaving : Handle → KernelM Unit := fun _ => pure ()

namespace Policy

open KernelM

/-! ### Choosing a process -/

/-- The running process, if it may go on. -/
def continuing (k : Kernel) : Option Handle :=
  k.current.filter (fun h => (k.process h).canContinue)

/-- Sends the running process to the tail of the ready queue. -/
def preempt (h : Handle) : KernelM Unit := do
  move h .preempt
  enqueue .ready h
  let p ← process h
  record (.preempted p.pid)

/-- The running process goes on; otherwise `next` decides. -/
def keepOr (next : KernelM (Option Handle)) : KernelM (Option Handle) := do
  match continuing (← get) with
  | some h => pure (some h)
  | none => next

/-- The least key among the running process and the ready queue. The running
process wins a tie, and is preempted if it loses. -/
def takePreemptively (key : Process → Int) : KernelM (Option Handle) := do
  let k ← get
  match continuing k with
  | none => takeLeast key .ready
  | some h =>
      match k.least? key .ready with
      | none => pure (some h)
      | some best =>
          if key (k.process h) ≤ key (k.process best) then pure (some h)
          else do
            preempt h
            takeLeast key .ready

def setSlice (used : Nat) : KernelM Unit :=
  modify fun k => { k with memory := { k.memory with sliceUsed := used } }

/-- The running process goes on while its slice lasts; then the ready queue
moves round by one. -/
def rotate (quantum : Nat) : KernelM (Option Handle) := do
  let k ← get
  let turn : KernelM (Option Handle) := do
    let next ← takeHead .ready
    setSlice (if next.isSome then 1 else 0)
    pure next
  match continuing k with
  | none => turn
  | some h =>
      if k.memory.sliceUsed < quantum then do
        setSlice (k.memory.sliceUsed + 1)
        pure (some h)
      else do
        preempt h
        turn

end Policy

namespace Discipline

/-! ### The built-in disciplines -/

def title : Discipline → String
  | firstCome => "FCFS"
  | shortestJob => "Shortest-Job First"
  | shortestRemaining => "Shortest Remaining Time First"
  | roundRobin _ => "Round-Robin"
  | priority => "Priority"
  | priorityCeiling => "Priority + Priority Ceiling Protocol"
  | priorityInheritance => "Priority + Priority Inheritance Protocol"

def label : Discipline → String
  | firstCome => "FCFSPolicy"
  | shortestJob => "SJFPolicy"
  | shortestRemaining => "SRTFPolicy"
  | roundRobin _ => "RoundRobinPolicy"
  | priority => "PriorityPolicy"
  | priorityCeiling => "PriorityCeilingPolicy"
  | priorityInheritance => "PriorityInheritancePolicy"

/-- The protocol that comes with a discipline. -/
def protocol : Discipline → Protocol
  | priorityCeiling => .ceiling
  | priorityInheritance => .inheritance
  | _ => .fifo

def quantum? : Discipline → Option Nat
  | roundRobin quantum => some quantum
  | _ => none

def schedule : Discipline → KernelM (Option Handle)
  | firstCome => Policy.keepOr (KernelM.takeHead .ready)
  | shortestJob => Policy.keepOr (KernelM.takeLeast (fun p => p.lifespan) .ready)
  | shortestRemaining => Policy.takePreemptively (fun p => p.remaining)
  | roundRobin quantum => Policy.rotate quantum
  | priority | priorityCeiling | priorityInheritance => Policy.takePreemptively Process.priority

/-- Round robin starts with no slice in progress. -/
def clearSlice : Discipline → KernelM Unit
  | roundRobin _ => Policy.setSlice 0
  | _ => pure ()

end Discipline

/-- The name of a protocol in a diagnosis. -/
def Protocol.label : Protocol → String
  | .fifo => "FifoProtocol"
  | .ceiling => "CeilingProtocol"
  | .inheritance => "InheritanceProtocol"

namespace Policy

def describe (policy : Policy) : String := s!"{policy.label}(protocol={policy.protocol.label})"

/-- A discipline with a protocol. -/
def of (d : Discipline) (protocol : Protocol) : Policy where
  title := d.title
  label := d.label
  protocol := protocol
  quantum := d.quantum?
  setUp := do
    d.clearSlice
    protocol.reset
    pure true
  tearDown := protocol.reset
  schedule := d.schedule

/-! ### Probes

Policies for trying out how the rest of the system meets an odd one. All but
`blank` are first come, first served apart from what they are named for. -/

/-- Points at the head of the ready queue and leaves it there. -/
def peeking (protocol : Protocol) : Policy :=
  { of .firstCome protocol with
    label := "PeekPolicy"
    schedule := return ((← get).queue .ready).head? }

/-- Does nothing to prepare a run, and says so. -/
def refusing (protocol : Protocol) : Policy :=
  { of .firstCome protocol with
    label := "FailInitPolicy"
    setUp := pure false }

/-- Stays for ever with the first process that it has chosen. -/
def settling (protocol : Protocol) : Policy :=
  { of .firstCome protocol with
    label := "StickyPolicy"
    schedule := do
      match (← get).memory.settled with
      | some h => pure (some h)
      | none => do
          let chosen ← Discipline.firstCome.schedule
          modify fun k => { k with memory := { k.memory with settled := chosen } }
          pure chosen }

/-- Notes in the log what it is told. -/
def reporting (protocol : Protocol) : Policy :=
  let note (text : String) : KernelM Unit := KernelM.record (.note .debug "test" text)
  { of .firstCome protocol with
    label := "RecordPolicy"
    arrived := fun h => do
      let p ← KernelM.process h
      note s!"hook forked {p.pid}"
    leaving := fun h => do
      let p ← KernelM.process h
      note s!"hook exiting {p.pid} {p.state.name}"
    tearDown := do
      protocol.reset
      note "hook finalize" }

/-- Has a protocol and no way to schedule. -/
def blank (protocol : Protocol) : Policy where
  title := "Base"
  label := "BasePolicy"
  protocol := protocol
  setUp := do
    protocol.reset
    pure true
  tearDown := protocol.reset
  schedule := throw .noSchedule

end Policy

end Uniprocessor
