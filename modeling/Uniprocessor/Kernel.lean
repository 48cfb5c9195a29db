import Uniprocessor.Log
import Uniprocessor.Process

/-!
The kernel: everything that scheduling policies and resource protocols work on.

A process is known by its handle, the place at which it was enrolled; numbers
(pids) are only what it is called in answers, and two processes may share one.
Reading a queue after writing one sees exactly the write (`queue_setQueue`),
and likewise for processes (`process_setProcess`) and resources
(`resource_setResource`).
-/

namespace Uniprocessor

/-- The place at which a process was enrolled. -/
abbrev Handle := Nat

/-- A lock with at most one owner and a queue of processes that wait for it. -/
structure Resource where
  owner : Option Handle := none
  ceiling : Option Int := none
  waiting : List Handle := []
  deriving DecidableEq, Repr

instance : Inhabited Resource := ⟨{}⟩

/-- The size of a table of resources where none is given. -/
def defaultResources : Int := 32

/-- What the policy in charge remembers between its calls: the ticks used of
the current slice, the resource on which each process number is blocked, and a
process that it has settled on. -/
structure Memory where
  sliceUsed : Nat := 0
  blockedOn : Table Int Int := {}
  settled : Option Handle := none
  deriving DecidableEq, Repr

structure Kernel where
  /-- Resources go by the numbers below `size`. -/
  size : Nat
  processes : Table Handle Process := {}
  resources : Table Int Resource := {}
  ready : List Handle := []
  named : Table String (List Handle) := {}
  current : Option Handle := none
  tick : Nat := 0
  log : Log := .empty
  memory : Memory := {}

/-- Kernel operations may fault, and keep what they did before the fault. -/
abbrev KernelM := EStateM Fault Kernel

namespace Kernel

/-- The size of a table of `n` resources. -/
def checkSize (n : Int) : Except Fault Nat :=
  if n ≤ 0 then .error (.tableSize n) else .ok n.toNat

/-! ### Processes -/

def process (k : Kernel) (h : Handle) : Process := (k.processes.get? h).getD default

def setProcess (k : Kernel) (h : Handle) (p : Process) : Kernel :=
  { k with processes := k.processes.put h p }

/-- The handle that the next process gets. -/
def nextHandle (k : Kernel) : Handle := k.processes.size

/-- Adds a process under the next handle. -/
def enroll (k : Kernel) (p : Process) : Kernel := k.setProcess k.nextHandle p

@[simp] theorem process_setProcess (k : Kernel) (h : Handle) (p : Process) (j : Handle) :
    (k.setProcess h p).process j = if h = j then p else k.process j := by
  simp only [process, setProcess, Table.get?_put]
  split <;> rfl

/-! ### Resources -/

def resource (k : Kernel) (r : Int) : Resource := (k.resources.get? r).getD default

def setResource (k : Kernel) (r : Int) (s : Resource) : Kernel :=
  { k with resources := k.resources.put r s }

@[simp] theorem resource_setResource (k : Kernel) (r : Int) (s : Resource) (j : Int) :
    (k.setResource r s).resource j = if r = j then s else k.resource j := by
  simp only [resource, setResource, Table.get?_put]
  split <;> rfl

/-- The numbers of all resources, in ascending order. -/
def resourceIds (k : Kernel) : List Int := (List.range k.size).map (fun (i : Nat) => (i : Int))

/-- The resources that a process owns, in ascending order. -/
def heldBy (k : Kernel) (h : Handle) : List Int :=
  k.resourceIds.filter (fun r => (k.resource r).owner == some h)

/-- The resource in whose queue a process waits. -/
def blockedOn (k : Kernel) (h : Handle) : Option Int :=
  k.resourceIds.find? (fun r => (k.process h).queue == some (.waiting r))

/-- The resources that are owned or waited for, in ascending order. -/
def inUse (k : Kernel) : List Int :=
  k.resourceIds.filter (fun r => (k.resource r).owner.isSome || !(k.resource r).waiting.isEmpty)

/-! ### Queues -/

/-- The members of a queue, head first. -/
def queue (k : Kernel) : QueueId → List Handle
  | .ready => k.ready
  | .waiting r => (k.resource r).waiting
  | .named name => (k.named.get? name).getD []

def setQueue (k : Kernel) (q : QueueId) (members : List Handle) : Kernel :=
  match q with
  | .ready => { k with ready := members }
  | .waiting r => k.setResource r { k.resource r with waiting := members }
  | .named name => { k with named := k.named.put name members }

@[simp] theorem queue_setQueue (k : Kernel) (q : QueueId) (members : List Handle) (j : QueueId) :
    (k.setQueue q members).queue j = if q = j then members else k.queue j := by
  cases q with
  | ready => cases j <;> simp [setQueue, queue, resource]
  | waiting r =>
      cases j with
      | ready => simp [setQueue, queue, setResource]
      | waiting s =>
          by_cases same : r = s
          · subst same
            simp [setQueue, queue]
          · simp [setQueue, queue, same]
      | named name => simp [setQueue, queue, setResource]
  | named name =>
      cases j with
      | ready => simp [setQueue, queue]
      | waiting s => simp [setQueue, queue, resource]
      | named other =>
          by_cases same : name = other <;> simp [setQueue, queue, same]

/-- Puts a process at the tail of a queue and marks it as held there. -/
def link (k : Kernel) (q : QueueId) (h : Handle) : Kernel :=
  (k.setQueue q (k.queue q ++ [h])).setProcess h { k.process h with queue := some q }

/-- Takes a process out of a queue and clears its mark. -/
def unlink (k : Kernel) (q : QueueId) (h : Handle) : Kernel :=
  (k.setQueue q ((k.queue q).erase h)).setProcess h { k.process h with queue := none }

/-- The first member of a queue with the least key. -/
def least? (k : Kernel) (key : Process → Int) (q : QueueId) : Option Handle :=
  (k.queue q).minOn? (fun h => key (k.process h))

/-! ### The log -/

def record (k : Kernel) (e : Event) : Kernel := { k with log := k.log.push ⟨e, k.tick⟩ }

end Kernel

namespace KernelM

def violate {α : Type} (v : Violation) : KernelM α := throw (.violation v)

def process (h : Handle) : KernelM Process := return (← get).process h

/-- Changes one process, unless the change faults. -/
def onProcess (h : Handle) (change : Process → Except Fault Process) : KernelM Unit := do
  match change ((← get).process h) with
  | .ok p => modify (·.setProcess h p)
  | .error fault => throw fault

def move (h : Handle) (t : Transition) : KernelM Unit := onProcess h (·.move t)

def runTick (h : Handle) : KernelM Unit := onProcess h Process.runTick

def boost (h : Handle) (resource priority : Int) : KernelM Unit :=
  onProcess h (fun p => .ok (p.boost resource priority))

def unboost (h : Handle) (resource : Int) : KernelM Unit :=
  onProcess h (fun p => .ok (p.unboost resource))

def clearBoosts (h : Handle) : KernelM Unit := onProcess h (fun p => .ok p.clearBoosts)

def record (e : Event) : KernelM Unit := modify (·.record e)

/-- A resource of the table. -/
def resource (r : Int) : KernelM Resource := do
  let k ← get
  if 0 ≤ r ∧ r < k.size then pure (k.resource r) else violate (.noSuchResource r k.size)

def setOwner (r : Int) (owner : Option Handle) : KernelM Unit :=
  modify fun k => k.setResource r { k.resource r with owner := owner }

def setCeiling (r : Int) (ceiling : Option Int) : KernelM Unit := do
  let _ ← resource r
  modify fun k => k.setResource r { k.resource r with ceiling := ceiling }

def setCurrent (h : Option Handle) : KernelM Unit := modify fun k => { k with current := h }

/-- Moves the clock by one tick and gives the new time. -/
def advance : KernelM Nat := do
  modify fun k => { k with tick := k.tick + 1 }
  return (← get).tick

/-! ### Queues

A process is in one queue at most: joining a second one is a violation, and so
is leaving a queue that does not hold it. -/

/-- Joins a queue at its tail. -/
def enqueue (q : QueueId) (h : Handle) : KernelM Unit := do
  let p ← process h
  match p.queue with
  | some holder => violate (.alreadyLinked p.pid q holder)
  | none => modify (·.link q h)

/-- Leaves a queue, wherever the process stands in it. -/
def remove (q : QueueId) (h : Handle) : KernelM Unit := do
  let p ← process h
  if p.queue = some q then modify (·.unlink q h) else violate (.notLinked p.pid q)

/-- Takes the head of a queue. -/
def takeHead (q : QueueId) : KernelM (Option Handle) := do
  match (← get).queue q with
  | [] => pure none
  | h :: _ => do
      modify (·.unlink q h)
      pure (some h)

/-- Takes the first member with the least key. -/
def takeLeast (key : Process → Int) (q : QueueId) : KernelM (Option Handle) := do
  match (← get).least? key q with
  | none => pure none
  | some h => do
      remove q h
      pure (some h)

end KernelM

end Uniprocessor
