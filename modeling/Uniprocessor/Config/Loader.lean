import Uniprocessor.Config
import Uniprocessor.Unhandled

/-!
Configurations from JSON files.
-/

namespace Uniprocessor.Config

/-- Reads the configuration at a path. -/
def load (read : Reader) (path : String) : Except (LoadError ConfigError) Config := do
  let path := normalPath path
  let text : Text := (← read.load path (.unreadable path)).map .char
  match Json.ofUnmarked text with
  | .error (.tooManyDigits count) => throw (.unhandled (.tooManyDigits count))
  | .error (.tooDeep bracket) => throw (.unhandled (.tooDeep bracket))
  | .error fault => throw (.invalid (.unreadable path (fault.message text)))
  | .ok (.obj settings) => (ofSettings settings).mapError .invalid
  | .ok _ => throw (.invalid (.notAnObject path))

end Uniprocessor.Config
