import Uniprocessor.Json
import Uniprocessor.Log

/-!
Levels of the log as JSON.
-/

namespace Uniprocessor

/-- The level whose number a value equals. -/
def Level.ofJson (j : Json) : Except Level.Unknown Level :=
  match j.whole?.bind Level.ofNumber? with
  | some level => .ok level
  | none => .error (.value j.inner)

theorem Level.ofJson_number (level : Level) : Level.ofJson (.int level.number) = .ok level := by
  cases level <;> rfl

end Uniprocessor
