import Uniprocessor.Fault
import Uniprocessor.Table
import Uniprocessor.Text.Quoted

/-!
Processes: units of work with a lifespan, a priority and requests for resources.

A lower priority is more urgent. The effective priority is the most urgent of
the base priority and the boosts. Boosts are kept per resource, so that giving
a resource back takes away what that resource gave and nothing else.
-/

namespace Uniprocessor

def defaultPriority : Int := 10

/-- A demand for a resource: it falls due at an age and then lasts for `hold`
ticks of work. -/
structure Request where
  resource : Int
  due : Int
  hold : Int
  deriving DecidableEq, Repr

/-- Requests go by the age at which they fall due, then by resource. -/
def Request.atMost (a b : Request) : Bool :=
  a.due < b.due || (a.due == b.due && a.resource ≤ b.resource)

/-- Requests in the order in which they are issued. -/
def Request.sort (requests : List Request) : List Request :=
  requests.mergeSort Request.atMost

/-- What is declared of a process before it arrives. -/
structure ProcessSpec where
  pid : Int
  lifespan : Int
  arrival : Int := 0
  priority : Int := defaultPriority
  name : Option Text := none
  requests : List Request := []
  deriving DecidableEq, Repr

structure Process where
  pid : Int
  name : Text
  arrival : Int
  lifespan : Nat
  base : Int
  requests : List Request
  state : State := .ready
  age : Nat := 0
  boosts : Table Int Int := {}
  queue : Option QueueId := none
  exitTick : Option Nat := none
  deriving DecidableEq, Repr

namespace Process

instance : Inhabited Process := ⟨⟨0, [], 0, 0, 0, [], .ready, 0, {}, none, none⟩⟩

/-- The work still to be done. -/
def remaining (p : Process) : Nat := p.lifespan - p.age

def finished (p : Process) : Bool := p.lifespan ≤ p.age

/-- The effective priority. -/
def priority (p : Process) : Int := p.boosts.values.foldl min p.base

/-- Raises the process on account of a resource. A boost that the resource
already gives is only ever made more urgent. -/
def boost (p : Process) (resource priority : Int) : Process :=
  match p.boosts.get? resource with
  | some given =>
      if priority < given then { p with boosts := p.boosts.put resource priority } else p
  | none => { p with boosts := p.boosts.put resource priority }

def unboost (p : Process) (resource : Int) : Process :=
  { p with boosts := p.boosts.erase resource }

def clearBoosts (p : Process) : Process := { p with boosts := {} }

/-- Makes a transition, if the state allows it. -/
def move (p : Process) (t : Transition) : Except Fault Process :=
  if p.state ∈ t.sources then .ok { p with state := t.target }
  else .error (.transition t p.pid p.state)

/-- Does one tick of work. -/
def runTick (p : Process) : Except Fault Process :=
  if p.state ≠ .running then .error (.notRunning p.pid p.state)
  else if p.finished then .error (.exhausted p.pid)
  else .ok { p with age := p.age + 1 }

/-- May keep the processor: it is running and has work left. -/
def canContinue (p : Process) : Bool := p.state == .running && !p.finished

/-- One line about a process, for diagnosis. -/
def describe (p : Process) : String :=
  s!"Process(pid={p.pid}, name={Text.quoted p.name}, state={p.state.name}, " ++
    s!"age={p.age}/{p.lifespan}, prio={p.priority})"

end Process

/-- The process of a declaration, ready to run. Without a name it is called by
its number. -/
def ProcessSpec.build (spec : ProcessSpec) : Except Fault Process :=
  if spec.lifespan ≤ 0 then .error (.lifespan spec.lifespan)
  else .ok {
    pid := spec.pid
    name := spec.name.getD s!"p{spec.pid}"
    arrival := spec.arrival
    lifespan := spec.lifespan.toNat
    base := spec.priority
    requests := Request.sort spec.requests }

end Uniprocessor
