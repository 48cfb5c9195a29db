/-!
Where a process is in its life, and which queue may hold it.

A process moves between the states only by the six transitions. Each names
the states that it may start from (`Transition.sources`) and the one it leads to.
-/

namespace Uniprocessor

inductive State where
  | ready
  | running
  | waiting
  | blocked
  | exited
  deriving DecidableEq, Repr, Inhabited

def State.name : State → String
  | .ready => "ready"
  | .running => "running"
  | .waiting => "waiting"
  | .blocked => "blocked"
  | .exited => "exited"

inductive Transition where
  | dispatch
  | preempt
  | wait
  | block
  | wake
  | exit
  deriving DecidableEq, Repr

namespace Transition

def name : Transition → String
  | .dispatch => "dispatch"
  | .preempt => "preempt"
  | .wait => "wait"
  | .block => "block"
  | .wake => "wake"
  | .exit => "exit"

def sources : Transition → List State
  | .dispatch => [.ready]
  | .wake => [.waiting, .blocked]
  | .preempt | .wait | .block | .exit => [.running]

def target : Transition → State
  | .dispatch => .running
  | .preempt | .wake => .ready
  | .wait => .waiting
  | .block => .blocked
  | .exit => .exited

end Transition

/-- A queue of processes: those ready to run, those waiting for a resource, or
one that somebody made under a name of its own. -/
inductive QueueId where
  | ready
  | waiting (resource : Int)
  | named (name : String)
  deriving DecidableEq, Repr

def QueueId.label : QueueId → String
  | .ready => "ready queue"
  | .waiting resource => s!"resource {resource} wait queue"
  | .named name => name

end Uniprocessor
