import Uniprocessor.Text.Case
import Uniprocessor.Text.Listing
import Uniprocessor.Text.Padding

/-!
The event log of a simulation.

An event says what happened, and thereby how serious it is and which part of
the system reports it; an entry stamps it with its tick. Entries are only ever
appended.
-/

namespace Uniprocessor

/-- How serious an event is. -/
inductive Level where
  | debug
  | info
  | warning
  | error
  deriving DecidableEq, Repr

namespace Level

def number : Level → Nat
  | .debug => 0
  | .info => 1
  | .warning => 2
  | .error => 3

def name : Level → String
  | .debug => "DEBUG"
  | .info => "INFO"
  | .warning => "WARNING"
  | .error => "ERROR"

def all : List Level := [.debug, .info, .warning, .error]

def ofNumber? (n : Int) : Option Level := all.find? (fun level => (level.number : Int) = n)

/-- The level of a name in any letter case. -/
def ofName? (name : Text) : Option Level :=
  all.find? (fun level => level.name = Text.upper name)

/-- A value or a name that stands for no level, as a message shows it. -/
inductive Unknown where
  | value (shown : String)
  | name (shown : String)
  deriving DecidableEq, Repr

def Unknown.message : Unknown → String
  | .value shown => s!"{shown} is not a valid LogLevel"
  | .name shown => s!"Unknown log level: {shown}"

/-- The level of a name, which a message would show as `shown`. -/
def ofName (name : Text) (shown : String) : Except Unknown Level :=
  match ofName? name with
  | some level => .ok level
  | none => .error (.name shown)

theorem ofNumber?_number (level : Level) : ofNumber? level.number = some level := by
  cases level <;> rfl

end Level

/-- What can happen in a simulation. Processes and resources go by number. -/
inductive Event where
  | acquired (pid resource : Int)
  | waits (pid resource owner : Int)
  | released (pid resource : Int)
  | woken (pid resource : Int)
  | raised (pid ceiling resource : Int)
  | backTo (pid priority : Int)
  | inherits (pid priority resource : Int)
  | recomputed (pid priority : Int)
  | preempted (pid : Int)
  | started (title : String)
  | arrived (pid : Int) (lifespan : Nat) (priority : Int)
  | switched (pid : Int)
  | exited (pid : Int)
  | stopped (limit : Int)
  | stalled (pids : List Int)
  | note (level : Level) (source text : String)
  deriving DecidableEq, Repr

namespace Event

def level : Event → Level
  | .acquired .. | .waits .. | .released .. | .woken .. | .raised .. | .backTo .. | .inherits ..
  | .recomputed .. | .preempted .. | .switched .. => .debug
  | .started .. | .arrived .. | .exited .. => .info
  | .stopped .. => .warning
  | .stalled .. => .error
  | .note level .. => level

/-- The part of the system that reports the event. -/
def source : Event → String
  | .acquired .. | .waits .. | .released .. | .woken .. | .raised .. | .backTo .. | .inherits ..
  | .recomputed .. => "protocol"
  | .preempted .. => "scheduler"
  | .started .. | .arrived .. | .switched .. | .exited .. | .stopped .. | .stalled .. =>
      "simulation"
  | .note _ source _ => source

def text : Event → String
  | .acquired pid resource => s!"{pid} acquired resource {resource}"
  | .waits pid resource owner => s!"{pid} waits for resource {resource} held by {owner}"
  | .released pid resource => s!"{pid} released resource {resource}"
  | .woken pid resource => s!"{pid} woken from resource {resource}"
  | .raised pid ceiling resource => s!"{pid} raised to ceiling {ceiling} by resource {resource}"
  | .backTo pid priority => s!"{pid} back to priority {priority}"
  | .inherits pid priority resource =>
      s!"{pid} inherits priority {priority} through resource {resource}"
  | .recomputed pid priority => s!"{pid} recomputed to priority {priority}"
  | .preempted pid => s!"{pid} preempted"
  | .started title => s!"policy {title}"
  | .arrived pid lifespan priority => s!"{pid} arrived (lifespan {lifespan}, prio {priority})"
  | .switched pid => s!"switch to {pid}"
  | .exited pid => s!"{pid} exited"
  | .stopped limit => s!"stopped at tick limit {limit}"
  | .stalled pids => s!"stalled: processes {Text.bracketed pids} can never be woken"
  | .note _ _ text => text

end Event

/-- An event with its tick. -/
structure Entry where
  event : Event
  tick : Int
  deriving DecidableEq, Repr

def Entry.render (e : Entry) : String :=
  s!"[{e.event.level.name}] {Text.padLeft 4 (toString e.tick)} {e.event.source}: {e.event.text}"

/-- What is asked of an entry; a part that is `none` asks nothing. -/
structure Criteria where
  minLevel : Option Level := none
  source : Option String := none
  tick : Option Int := none
  deriving DecidableEq, Repr

def Criteria.accepts (c : Criteria) (e : Entry) : Bool :=
  c.minLevel.all (fun level => level.number ≤ e.event.level.number) &&
    c.source.all (fun source => e.event.source == source) &&
    c.tick.all (fun tick => e.tick == tick)

/-- The entries so far, oldest first. -/
abbrev Log := Array Entry

/-- The entries that meet the criteria, oldest first. -/
def Log.select (log : Log) (c : Criteria) : List Entry := log.toList.filter c.accepts

end Uniprocessor
