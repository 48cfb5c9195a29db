import Uniprocessor.Json
import Uniprocessor.Kernel
import Uniprocessor.Unhandled

/-!
Configurations: the settings of a run.

Settings come as JSON values and are checked, first their types in the order of
the fields and then their ranges. A truth value is no number. Unknown settings
are refused, so that a slip never falls back to a default.
-/

namespace Uniprocessor

structure Config where
  policy : Text := "fcfs"
  quantum : Int := 1
  resources : Int := defaultResources
  maxTicks : Option Int := none
  quiet : Bool := false
  logLevel : Text := "warning"
  deriving DecidableEq, Repr

inductive ConfigError where
  | unknownKeys (keys : List Text)
  | unexpectedKey (key : Text)
  | wrongType (field wanted given : String)
  | quantum (n : Int)
  | resources (n : Int)
  | maxTicks (n : Int)
  | logLevel (e : Level.Unknown)
  | unreadable (path reason : String)
  | notAnObject (path : String)
  deriving DecidableEq, Repr

def ConfigError.message : ConfigError → Text
  | .unknownKeys keys => "Unknown configuration keys: " ++ Text.joined ", " keys
  | .unexpectedKey key =>
      "SimulatorConfig.__init__() got an unexpected keyword argument '" ++ key ++ "'"
  | .wrongType field wanted given => s!"{field} must be of type {wanted}, got {given}"
  | .quantum n => s!"quantum must be positive, got {n}"
  | .resources n => s!"num_resources must be positive, got {n}"
  | .maxTicks n => s!"max_ticks must not be negative, got {n}"
  | .logLevel e => e.message
  | .unreadable path reason => s!"Cannot load config {path}: {reason}"
  | .notAnObject path => s!"Config {path} must contain a JSON object"

namespace Config

/-- Settings by name. -/
abbrev Settings := List (Text × Json)

/-- The names of the settings, in the order of the fields. -/
def keys : List Text :=
  ["policy", "quantum", "num_resources", "max_ticks", "quiet", "log_level"]

def given? (settings : Settings) (key : Text) : Option Json :=
  (settings.find? (fun s => s.1 = key)).map (·.2)

/-! ### Types -/

def textSetting (settings : Settings) (key : String) (old : Text) : Except ConfigError Text :=
  match given? settings key with
  | none => .ok old
  | some (.str s) => .ok s
  | some j => .error (.wrongType key "str" j.kind)

def numberSetting (settings : Settings) (key : String) (old : Int) : Except ConfigError Int :=
  match given? settings key with
  | none => .ok old
  | some (.int n) => .ok n
  | some j => .error (.wrongType key "int" j.kind)

/-- A number that may be left open. -/
def limitSetting (settings : Settings) (key : String) (old : Option Int) :
    Except ConfigError (Option Int) :=
  match given? settings key with
  | none => .ok old
  | some .null => .ok none
  | some (.int n) => .ok (some n)
  | some j => .error (.wrongType key "int" j.kind)

def flagSetting (settings : Settings) (key : String) (old : Bool) : Except ConfigError Bool :=
  match given? settings key with
  | none => .ok old
  | some (.bool b) => .ok b
  | some j => .error (.wrongType key "bool" j.kind)

/-- The configuration with the given settings in place of its own, before their
ranges are checked. -/
def replace (c : Config) (settings : Settings) : Except ConfigError Config := do
  let policy ← textSetting settings "policy" c.policy
  let quantum ← numberSetting settings "quantum" c.quantum
  let resources ← numberSetting settings "num_resources" c.resources
  let maxTicks ← limitSetting settings "max_ticks" c.maxTicks
  let quiet ← flagSetting settings "quiet" c.quiet
  let logLevel ← textSetting settings "log_level" c.logLevel
  pure { policy, quantum, resources, maxTicks, quiet, logLevel }

/-! ### Ranges -/

/-- Passes a configuration whose values are in range. -/
def check (c : Config) : Except ConfigError Config :=
  if c.quantum ≤ 0 then .error (.quantum c.quantum)
  else if c.resources ≤ 0 then .error (.resources c.resources)
  else match c.maxTicks.filter (· < 0) with
    | some n => .error (.maxTicks n)
    | none =>
        match Level.ofName c.logLevel (Text.quoted c.logLevel) with
        | .error e => .error (.logLevel e)
        | .ok _ => .ok c

/-- The level of the log that is shown. -/
def level (c : Config) : Level := (Level.ofName? c.logLevel).getD .warning

/-! ### Building and overriding -/

/-- The name that stands for the configuration itself and cannot be overridden. -/
def reserved : Text := "self"

/-- The configuration with changes, all of which must name settings. -/
def change (c : Config) (changes : Settings) : Except ConfigError Config :=
  match changes.find? (fun s => !keys.contains s.1) with
  | some s => .error (.unexpectedKey s.1)
  | none => c.replace changes >>= check

/-- The configuration with overrides; those that are null say nothing. Nobody answers
for one under the reserved name. -/
def merge (c : Config) (overrides : Settings) : Except (LoadError ConfigError) Config :=
  if overrides.any (fun s => s.1 = reserved) then .error (.unhandled .reservedOverride)
  else (c.change (overrides.filter fun s => !s.2.isNull)).mapError .invalid

/-- The configuration of some settings, with defaults for the others. -/
def ofSettings (settings : Settings) : Except ConfigError Config := do
  let unknown := (settings.map (·.1)).filter (fun key => !keys.contains key)
  if unknown.isEmpty then (← ({} : Config).replace settings).check
  else throw (.unknownKeys (unknown.mergeSort Text.atMost))

end Config

end Uniprocessor
