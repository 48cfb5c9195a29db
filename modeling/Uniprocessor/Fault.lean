import Uniprocessor.Process.State

/-!
What can go wrong once a simulation or a kernel is in use.

A violation is a use of the queues, the resources or the processor against
their rules. The other faults come from single parts: a transition from a
state that does not allow it, a process run too far, a part that was given an
impossible size, an entry missing from the books. An operation that faults keeps
what it did before.
-/

namespace Uniprocessor

/-- The two ways in which a process turns to a resource. -/
inductive Access where
  | acquire
  | release
  deriving DecidableEq, Repr

def Access.name : Access → String
  | .acquire => "acquire"
  | .release => "release"

inductive Violation where
  | alreadyLinked (pid : Int) (queue holder : QueueId)
  | notLinked (pid : Int) (queue : QueueId)
  | noSuchResource (resource : Int) (size : Nat)
  | nobodyRunning (access : Access) (resource : Int)
  | alreadyOwner (pid resource : Int)
  | releasedFree (pid resource : Int)
  | releasedForeign (pid resource owner : Int)
  | selectedLinked (pid : Int) (queue : QueueId)
  | selectedInState (pid : Int) (state : State)
  deriving DecidableEq, Repr

def Violation.message : Violation → String
  | .alreadyLinked pid queue holder =>
      s!"Process {pid} cannot join {queue.label}: already linked into {holder.label}"
  | .notLinked pid queue => s!"Process {pid} is not linked into {queue.label}"
  | .noSuchResource resource size => s!"No such resource: {resource} (table has {size})"
  | .nobodyRunning access resource =>
      s!"Cannot {access.name} resource {resource}: no process is running"
  | .alreadyOwner pid resource => s!"Process {pid} already owns resource {resource}"
  | .releasedFree pid resource =>
      s!"Process {pid} released resource {resource}, which is not owned"
  | .releasedForeign pid resource owner =>
      s!"Process {pid} released resource {resource}, owned by {owner}"
  | .selectedLinked pid queue =>
      s!"Policy selected process {pid} while it is in {queue.label}"
  | .selectedInState pid state => s!"Policy selected process {pid} in state {state.name}"

inductive Fault where
  | violation (v : Violation)
  | transition (t : Transition) (pid : Int) (state : State)
  | notRunning (pid : Int) (state : State)
  | exhausted (pid : Int)
  | setUpFailed (quotedTitle : String)
  | noSchedule
  | lifespan (n : Int)
  | quantum (n : Int)
  | tableSize (n : Int)
  /-- An entry was looked for that is not in the books. -/
  | missingKey (key : Int)
  deriving DecidableEq, Repr

def Fault.message : Fault → String
  | .violation v => v.message
  | .transition t pid state =>
      let wanted := " or ".intercalate (t.sources.map State.name)
      s!"Cannot {t.name}: process {pid} is {state.name}, expected {wanted}"
  | .notRunning pid state =>
      s!"Cannot run: process {pid} is {state.name}, expected running"
  | .exhausted pid => s!"Cannot run: process {pid} has no lifespan left"
  | .setUpFailed quotedTitle => s!"Policy {quotedTitle} failed to initialise"
  | .noSchedule => ""
  | .lifespan n => s!"lifespan must be positive, got {n}"
  | .quantum n => s!"quantum must be positive, got {n}"
  | .tableSize n => s!"Resource table size must be positive, got {n}"
  | .missingKey key => s!"{key}"

end Uniprocessor
