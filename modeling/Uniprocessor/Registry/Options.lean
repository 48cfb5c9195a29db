import Uniprocessor.Json
import Uniprocessor.Registry

/-!
Registered policies with options by name.

The values come as JSON and are checked as far as the policy looks at them, so
that a quantum may be any number above zero.
-/

namespace Uniprocessor.Descriptor

/-- Why a policy is not made with options by name. -/
inductive OptionError where
  | reserved (taker key : String)
  | quantum (shown : String)
  | incomparable (kind : String)
  deriving DecidableEq, Repr

def OptionError.message : OptionError → String
  | .reserved taker key => s!"{taker}() got multiple values for argument '{key}'"
  | .quantum shown => s!"quantum must be positive, got {shown}"
  | .incomparable kind => s!"'<=' not supported between instances of '{kind}' and 'int'"

/-- Passes a value that is not zero or below. A value that is no number at all cannot
be compared with zero. -/
def checkPositive (j : Json) : Except OptionError Unit :=
  let isAtMostZero : Except OptionError Bool := match j with
    | .bool b => .ok !b
    | .int n => .ok (n ≤ 0)
    | .real x => .ok x.isAtMostZero
    | _ => .error (.incomparable j.kind)
  match isAtMostZero with
  | .error e => .error e
  | .ok true => .error (.quantum j.inner)
  | .ok false => .ok ()

/-- The quantum that the policy has when it is made with the options, as it was
given. Null is as good as not given. Options that the policy does not take do not
count, but some names are taken already. -/
def quantumOf (d : Descriptor) (options : List (Text × Json)) :
    Except OptionError (Option Json) := do
  let given (key : Text) : Option Json := (options.find? (fun o => o.1 = key)).map (·.2)
  if (given "name").isSome then throw (.reserved "create_policy" "name")
  if (given "self").isSome then throw (.reserved "PolicyDescriptor.create" "self")
  if !d.takesQuantum then return none
  let quantum := ((given "quantum").filter (fun j => !j.isNull)).getD (.int 1)
  checkPositive quantum
  return some quantum

end Uniprocessor.Descriptor
