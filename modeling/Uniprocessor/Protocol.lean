import Uniprocessor.Kernel

/-!
Resource protocols: who gets a resource, and what that does to priorities.

* `fifo` grants a free resource at once and lets the caller wait for a busy
  one; a release wakes the earliest waiter, which asks again when it runs next.
* `ceiling` also raises the new owner to the ceiling of the resource.
* `inheritance` lets a waiter pass its priority on to the owner, and along the
  chain of owners that wait themselves. A release leaves the releaser with
  what the waiters on its other resources still pass on.

All elevations are boosts on account of one resource.
-/

namespace Uniprocessor

inductive Protocol where
  | fifo
  | ceiling
  | inheritance
  deriving DecidableEq, Repr

namespace Protocol

open KernelM

/-- The process on whose behalf a resource is asked for or given back. -/
def caller (access : Access) (r : Int) : KernelM Handle := do
  match (← get).current with
  | some h => pure h
  | none => violate (.nobodyRunning access r)

/-! ### First come, first served -/

/-- Grants the resource if it is free; otherwise the caller waits. Says whether
the resource was granted. -/
def acquireFifo (r : Int) : KernelM Bool := do
  let h ← caller .acquire r
  let s ← resource r
  let p ← process h
  match s.owner with
  | some owner =>
      if owner = h then violate (.alreadyOwner p.pid r)
      else do
        move h .wait
        enqueue (.waiting r) h
        record (.waits p.pid r ((← get).process owner).pid)
        pure false
  | none => do
      setOwner r (some h)
      record (.acquired p.pid r)
      pure true

/-- Frees the resource and wakes the earliest waiter, which is the answer. -/
def releaseFifo (r : Int) : KernelM (Option Handle) := do
  let h ← caller .release r
  let s ← resource r
  let p ← process h
  match s.owner with
  | none => violate (.releasedFree p.pid r)
  | some owner =>
      if owner ≠ h then violate (.releasedForeign p.pid r ((← get).process owner).pid)
      else do
        setOwner r none
        record (.released p.pid r)
        match ← takeHead (.waiting r) with
        | none => pure none
        | some waiter => do
            move waiter .wake
            enqueue .ready waiter
            record (.woken ((← get).process waiter).pid r)
            pure (some waiter)

/-! ### Ceilings -/

/-- Raises a new owner to the ceiling of its resource, if that is more urgent
than its base priority. -/
def raiseToCeiling (h : Handle) (r : Int) : KernelM Unit := do
  let p ← process h
  match (← resource r).ceiling with
  | some level =>
      if level < p.base then do
        boost h r level
        record (.raised p.pid level r)
  | none => pure ()

/-! ### Inheritance -/

/-- The most urgent priority among the waiters of a resource. -/
def urgentWaiter (k : Kernel) (r : Int) : Option Int :=
  (k.least? Process.priority (.waiting r)).map (fun w => (k.process w).priority)

/-- Boosts the owner of a resource by its most urgent waiter, if that is more
urgent than the owner's base priority. -/
def inheritFromWaiters (h : Handle) (r : Int) : KernelM Unit := do
  let k ← get
  match urgentWaiter k r with
  | some priority => if priority < (k.process h).base then boost h r priority
  | none => pure ()

/-- Passes a priority on to the owner of a resource, then to the owner of the
resource on which that one is blocked, and so on. The walk ends at a free
resource, at an owner that it has met before, and at one that is urgent enough.
Every owner on the way is new, so as many steps as there are resources, and
one more, are enough. -/
def donate (priority : Int) : Nat → List Int → Int → KernelM Unit
  | 0, _, _ => pure ()
  | fuel + 1, met, r => do
      match (← resource r).owner with
      | none => pure ()
      | some owner => do
          let p ← process owner
          if p.pid ∈ met ∨ p.priority ≤ priority then pure ()
          else do
            boost owner r priority
            record (.inherits p.pid priority r)
            match (← get).memory.blockedOn.get? p.pid with
            | some next => donate priority fuel (p.pid :: met) next
            | none => pure ()

/-- Rebuilds the boosts of a process from the waiters that it still keeps. -/
def recompute (h : Handle) : KernelM Unit := do
  clearBoosts h
  ((← get).heldBy h).forM (inheritFromWaiters h)
  let p ← process h
  record (.recomputed p.pid p.priority)

def setBlockedOn (change : Table Int Int → Table Int Int) : KernelM Unit :=
  modify fun k => { k with memory := { k.memory with blockedOn := change k.memory.blockedOn } }

/-! ### The protocols -/

/-- Forgets who is blocked, at the start and at the end of a run. -/
def reset : Protocol → KernelM Unit
  | .fifo | .ceiling => pure ()
  | .inheritance => setBlockedOn fun _ => {}

/-- Asks for a resource on behalf of the current process. The answer `false`
means that the process now waits. -/
def acquire (protocol : Protocol) (r : Int) : KernelM Bool := do
  let h ← caller .acquire r
  let granted ← acquireFifo r
  match protocol, granted with
  | .fifo, _ | .ceiling, false => pure granted
  | .ceiling, true => do
      raiseToCeiling h r
      pure true
  | .inheritance, true => do
      inheritFromWaiters h r
      pure true
  | .inheritance, false => do
      let p ← process h
      setBlockedOn (·.put p.pid r)
      donate p.priority ((← get).resources.size + 1) [p.pid] r
      pure false

/-- Gives a resource back on behalf of the current process. -/
def release (protocol : Protocol) (r : Int) : KernelM Unit := do
  let h ← caller .release r
  let woken ← releaseFifo r
  match protocol with
  | .fifo => pure ()
  | .ceiling => do
      unboost h r
      let p ← process h
      record (.backTo p.pid p.priority)
  | .inheritance => do
      match woken with
      | some waiter => do
          let w ← process waiter
          setBlockedOn (·.erase w.pid)
      | none => pure ()
      recompute h

end Protocol

end Uniprocessor
