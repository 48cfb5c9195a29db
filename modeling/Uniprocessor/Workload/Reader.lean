import Uniprocessor.Workload
import Uniprocessor.Workload.Statement

/-!
Reading a workload from its text, line by line, up to the first error.

A block is checked when it closes: it needs a lifespan, every hold must end
within it, and no resource may be requested while it is held. What is wrong
with a whole block is reported at the line that opened it.
-/

namespace Uniprocessor.Workload

open WorkloadError (Cause)

/-- A block that is still open, with the line that opened it. -/
structure Block where
  pid : Int
  line : Nat
  name : Option Text := none
  start : Option Int := none
  lifespan : Option Int := none
  priority : Option Int := none
  requests : List Request := []
  deriving DecidableEq, Repr

/-- What the lines so far amount to. -/
structure Draft where
  processes : List ProcessSpec := []
  ceilings : Table Int Int := {}
  block : Option Block := none
  deriving DecidableEq, Repr

namespace Block

/-- Fills a field that may be given only once. -/
def fill {α : Type} (b : Block) (field : Field) (old : Option α) (new : α) :
    Except Cause (Option α) :=
  if old.isSome then .error (.repeatedField field b.pid) else .ok (some new)

/-- Adds what a line says about the process. -/
def add (b : Block) : Detail → Except Cause Block
  | .name name => do pure { b with name := ← b.fill .name b.name name }
  | .start tick => do pure { b with start := ← b.fill .start b.start tick }
  | .lifespan ticks => do pure { b with lifespan := ← b.fill .lifespan b.lifespan ticks }
  | .priority level => do pure { b with priority := ← b.fill .priority b.priority level }
  | .acquire request => .ok { b with requests := b.requests ++ [request] }

/-- Checks requests in the order in which they are issued; `ends` says when each
resource was last given back. -/
def checkRequests (pid lifespan : Int) : Table Int Int → List Request → Except Cause Unit
  | _, [] => .ok ()
  | ends, r :: later =>
      if lifespan < r.due + r.hold then
        .error (.overrun pid r.resource r.due r.hold lifespan)
      else if (ends.get? r.resource).any (fun t => r.due < t) then
        .error (.reentered pid r.resource)
      else checkRequests pid lifespan (ends.put r.resource (r.due + r.hold)) later

/-- The process that a closed block declares. -/
def finish (b : Block) : Except Cause ProcessSpec :=
  match b.lifespan with
  | none => .error (.noLifespan b.pid)
  | some lifespan => do
      let requests := Request.sort b.requests
      checkRequests b.pid lifespan {} requests
      pure {
        pid := b.pid
        lifespan
        arrival := b.start.getD 0
        priority := b.priority.getD defaultPriority
        name := b.name
        requests }

end Block

namespace Draft

/-- Adds the words of line `n`. -/
def addWords (d : Draft) (n : Nat) : List Text → Except WorkloadError Draft
  | [] => .ok d
  | word :: arguments =>
      let located {α : Type} (line : Nat) (r : Except Cause α) : Except WorkloadError α :=
        r.mapError (fun cause => ⟨some line, cause⟩)
      match d.block with
      | none => do
          match ← located n (Heading.read word arguments) with
          | .process pid =>
              if d.processes.any (·.pid == pid) then
                throw ⟨some n, .duplicateProcess pid⟩
              else pure { d with block := some { pid, line := n } }
          | .ceiling resource level =>
              pure { d with ceilings := d.ceilings.put resource level }
      | some b => do
          match ← located n (Detail.read b.pid word arguments) with
          | none => do
              let spec ← located b.line b.finish
              pure { d with processes := d.processes ++ [spec], block := none }
          | some detail => do
              let b ← located n (b.add detail)
              pure { d with block := some b }

/-- Adds a line and its number. -/
def addLine (d : Draft) (line : Text × Nat) : Except WorkloadError Draft :=
  d.addWords line.2 (lineWords line.1)

/-- The workload at the end of the text, where no block may be open. -/
def finish (d : Draft) : Except WorkloadError Workload :=
  match d.block with
  | some b => .error ⟨some b.line, .unclosed b.pid⟩
  | none => .ok { processes := d.processes, explicitCeilings := d.ceilings }

end Draft

/-- Reads numbered lines. -/
def ofLines (lines : List Text) : Except WorkloadError Workload := do
  let draft ← (lines.zipIdx 1).foldlM Draft.addLine {}
  draft.finish

/-- Reads a workload from its text. -/
def ofText (text : Text) : Except WorkloadError Workload := ofLines (Text.lines text)

end Uniprocessor.Workload
