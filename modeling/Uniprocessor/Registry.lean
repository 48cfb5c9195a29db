import Uniprocessor.Policy
import Uniprocessor.Text.Blank
import Uniprocessor.Text.Case
import Uniprocessor.Text.Quoted

/-!
The registry: the built-in policies by their names.

A name is a key or an alias, in any letter case and with blanks around it.
-/

namespace Uniprocessor

/-- A registered policy. The quantum concerns only those that take one. -/
structure Descriptor where
  key : String
  takesQuantum : Bool := false
  discipline : Nat → Discipline

namespace Descriptor

def title (d : Descriptor) : String := (d.discipline 1).title

/-- The names of the options that the policy takes. -/
def options (d : Descriptor) : List String := if d.takesQuantum then ["quantum"] else []

/-- The discipline for a quantum, which is one tick where none is given and
must be positive where it matters. -/
def withQuantum (d : Descriptor) (quantum : Option Int) : Except Fault Discipline :=
  let quantum := quantum.getD 1
  if d.takesQuantum ∧ quantum ≤ 0 then .error (.quantum quantum)
  else .ok (d.discipline quantum.toNat)

/-- A fresh policy, with the protocol of its discipline unless one is given. -/
def policy (d : Descriptor) (quantum : Option Int) (protocol : Option Protocol) :
    Except Fault Policy := do
  let discipline ← d.withQuantum quantum
  pure (.of discipline (protocol.getD discipline.protocol))

end Descriptor

namespace Registry

/-- Every registered policy, in the order of registration. -/
def all : List Descriptor :=
  [{ key := "fcfs", discipline := fun _ => .firstCome },
   { key := "sjf", discipline := fun _ => .shortestJob },
   { key := "srtf", discipline := fun _ => .shortestRemaining },
   { key := "rr", takesQuantum := true, discipline := .roundRobin },
   { key := "prio", discipline := fun _ => .priority },
   { key := "pcp", discipline := fun _ => .priorityCeiling },
   { key := "pip", discipline := fun _ => .priorityInheritance }]

/-- The key that a second name stands for. -/
def unalias (name : String) : String :=
  if name = "fifo" then "fcfs"
  else if name = "round-robin" then "rr"
  else if name = "priority" then "prio"
  else name

def find? (name : Text) : Option Descriptor :=
  let key := unalias (Text.lower (Text.trim name))
  all.find? (fun d => d.key = key)

/-- No policy has the name. -/
structure NotFound where
  name : Text
  deriving DecidableEq, Repr

def NotFound.message (e : NotFound) : String :=
  let known := ", ".intercalate (all.map (·.key))
  s!"Unknown scheduling policy {Text.quoted e.name} (choose from: {known})"

def find (name : Text) : Except NotFound Descriptor :=
  match find? name with
  | some d => .ok d
  | none => .error ⟨name⟩

end Registry

end Uniprocessor
