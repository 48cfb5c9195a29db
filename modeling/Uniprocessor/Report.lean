import Uniprocessor.Process
import Uniprocessor.Text.Padding

/-!
Reports: what a run produced, tick by tick and process by process.
-/

namespace Uniprocessor

/-- What happened on a tick. -/
inductive TickEvent where
  | run
  | idle
  | blocked
  | exit
  deriving DecidableEq, Repr

namespace TickEvent

def name : TickEvent → String
  | .run => "run"
  | .idle => "idle"
  | .blocked => "blocked"
  | .exit => "exit"

def all : List TickEvent := [run, idle, blocked, exit]

def ofName? (name : Text) : Option TickEvent := all.find? (fun e => e.name = name)

/-- A value that names no event, as a message shows it. -/
structure Unknown where
  shown : String
  deriving DecidableEq, Repr

def Unknown.message (e : Unknown) : String := s!"{e.shown} is not a valid TickEvent"

theorem ofName?_name (event : TickEvent) : ofName? event.name = some event := by
  cases event <;> rfl

end TickEvent

structure TickRecord where
  tick : Int
  pid : Option Int
  event : TickEvent
  deriving DecidableEq, Repr

namespace TickRecord

/-- A line of the trace. -/
def render (r : TickRecord) : String :=
  let tick := Text.padLeft 4 (toString r.tick)
  match r.pid with
  | none => s!"{tick}: idle"
  | some pid => if r.event = .run then s!"{tick}: {pid}" else s!"{tick}: {pid} {r.event.name}"

/-- A cell of the chart: who had the tick, and whether it was lost to a busy
resource. -/
def cell (r : TickRecord) : String :=
  match r.pid with
  | none => "-"
  | some pid => if r.event = .blocked then s!"{pid}!" else toString pid

end TickRecord

/-- What became of a process. -/
structure ProcessStats where
  pid : Int
  name : Text
  arrival : Int
  lifespan : Int
  age : Int
  exitTick : Option Int
  deriving DecidableEq, Repr

namespace ProcessStats

def ofProcess (p : Process) : ProcessStats :=
  { pid := p.pid, name := p.name, arrival := p.arrival, lifespan := p.lifespan, age := p.age,
    exitTick := p.exitTick.map (fun (t : Nat) => (t : Int)) }

/-- The ticks from arrival to exit. -/
def turnaround (p : ProcessStats) : Option Int := p.exitTick.map (· - p.arrival)

/-- The ticks between arrival and exit that were no work. -/
def waiting (p : ProcessStats) : Option Int := p.turnaround.map (· - p.lifespan)

end ProcessStats

structure Report where
  policy : String
  timeline : List TickRecord
  processes : List ProcessStats
  switches : Int
  stalled : Bool := false
  truncated : Bool := false
  deriving DecidableEq, Repr

namespace Report

def totalTicks (r : Report) : Nat := r.timeline.length

def idleTicks (r : Report) : Nat := r.timeline.countP (·.event == .idle)

/-- A chart of the run on one line. -/
def gantt (r : Report) : String := " ".intercalate (r.timeline.map TickRecord.cell)

/-- The turnarounds of the processes that exited. -/
def turnarounds (r : Report) : List Int := r.processes.filterMap ProcessStats.turnaround

/-- The waiting times of the processes that exited. -/
def waitings (r : Report) : List Int := r.processes.filterMap ProcessStats.waiting

end Report

end Uniprocessor
