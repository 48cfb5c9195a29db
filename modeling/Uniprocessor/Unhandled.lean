import Uniprocessor.Fault
import Uniprocessor.Files
import Uniprocessor.Json.Reader
import Uniprocessor.Number.Binary64

/-!
Failures that the program does not answer itself: they end it.
-/

namespace Uniprocessor

inductive Unhandled where
  | undecodable (fault : Text.Utf8.Fault)
  | nullInPath
  | tooManyDigits (count : Nat)
  | tooDeep (bracket : Json.Bracket)
  | noPath
  | reservedOverride
  | fault (f : Fault)
  | tooLarge (e : Number.TooLarge)
  deriving DecidableEq, Repr

def Unhandled.message : Unhandled → String
  | .undecodable f => f.message
  | .nullInPath => "embedded null byte"
  | .tooManyDigits count => Text.digitLimitMessage count
  | .tooDeep bracket => (Json.Fault.tooDeep bracket).message []
  | .noPath => "'list' object has no attribute 'read_text'"
  | .reservedOverride => "SimulatorConfig.merge() got multiple values for argument 'self'"
  | .fault f => f.message
  | .tooLarge e => e.message

/-- A failure that is answered with a message, or one that is not. -/
inductive LoadError (ε : Type) where
  | invalid (e : ε)
  | unhandled (u : Unhandled)
  deriving DecidableEq, Repr

/-- Reads a file for a caller that answers only refusals. -/
def Reader.load {ε : Type} (read : Reader) (path : String) (refused : String → ε) :
    Except (LoadError ε) (List Char) :=
  match read path with
  | .ok text => .ok text
  | .error (.undecodable fault) => .error (.unhandled (.undecodable fault))
  | .error .nullInPath => .error (.unhandled .nullInPath)
  | .error e => .error (.invalid (refused e.message))

end Uniprocessor
