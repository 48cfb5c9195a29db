import Uniprocessor.Text.Quoted

/-!
What can be wrong with a workload.

A cause that belongs to a line of the text is reported with its number.
-/

namespace Uniprocessor

/-- The numbers in a workload's text. -/
inductive Quantity where
  | pid
  | resource
  | ceiling
  | start
  | lifespan
  | priority
  | acquireTime
  | duration
  deriving DecidableEq, Repr

namespace Quantity

def label : Quantity → String
  | .pid => "pid"
  | .resource => "resource id"
  | .ceiling => "ceiling"
  | .start => "start"
  | .lifespan => "lifespan"
  | .priority => "priority"
  | .acquireTime => "acquire time"
  | .duration => "duration"

/-- The least value: work takes at least one tick. -/
def least : Quantity → Int
  | .lifespan | .duration => 1
  | _ => 0

end Quantity

/-- The statements that a block may hold only once. -/
inductive Field where
  | name
  | start
  | lifespan
  | priority
  deriving DecidableEq, Repr

def Field.label : Field → String
  | .name => "name"
  | .start => "start"
  | .lifespan => "lifespan"
  | .priority => "prio"

inductive WorkloadError.Cause where
  | processForm
  | resourceForm
  | outsideBlock (word : Text)
  | unknownKeyword (word : Text)
  | argumentCount (keyword : String) (wanted given : Nat)
  | notInteger (quantity : Quantity) (word : Text)
  | tooSmall (quantity : Quantity) (value : Int)
  | duplicateProcess (pid : Int)
  | repeatedField (field : Field) (pid : Int)
  | unclosed (pid : Int)
  | noLifespan (pid : Int)
  | overrun (pid resource due hold lifespan : Int)
  | reentered (pid resource : Int)
  | outsideTable (resource size : Int)
  | unreadable (path reason : String)
  deriving DecidableEq, Repr

/-- A cause, with the line of the text that it belongs to. -/
structure WorkloadError where
  line : Option Nat
  cause : WorkloadError.Cause
  deriving DecidableEq, Repr

namespace WorkloadError

def Cause.message : Cause → String
  | .processForm => "expected 'process <pid> \x7b'"
  | .resourceForm => "expected 'resource <id> ceiling <priority>'"
  | .outsideBlock word => s!"unexpected {Text.quoted word} outside a process block"
  | .unknownKeyword word => s!"unknown keyword {Text.quoted word}"
  | .argumentCount keyword wanted given =>
      s!"'{keyword}' takes {wanted} argument(s), got {given}"
  | .notInteger quantity word =>
      s!"{quantity.label} must be an integer, got {Text.quoted word}"
  | .tooSmall quantity value => s!"{quantity.label} must be >= {quantity.least}, got {value}"
  | .duplicateProcess pid => s!"duplicate process {pid}"
  | .repeatedField field pid => s!"'{field.label}' given twice for process {pid}"
  | .unclosed pid => s!"process block {pid} is not closed"
  | .noLifespan pid => s!"process {pid} has no lifespan"
  | .overrun pid resource due hold lifespan =>
      s!"process {pid} holds resource {resource} past its " ++
        s!"lifespan ({due} + {hold} > {lifespan})"
  | .reentered pid resource => s!"process {pid} requests resource {resource} while holding it"
  | .outsideTable resource size =>
      s!"resource {resource} is outside the table of {size} resources"
  | .unreadable path reason => s!"Cannot read workload {path}: {reason}"

def message (e : WorkloadError) : String :=
  match e.line with
  | some line => s!"line {line}: {e.cause.message}"
  | none => e.cause.message

end WorkloadError

end Uniprocessor
