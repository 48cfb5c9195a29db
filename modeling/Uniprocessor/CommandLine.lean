import Uniprocessor.CommandLine.Options
import Uniprocessor.Config.Loader
import Uniprocessor.Registry
import Uniprocessor.Report.Summary
import Uniprocessor.Simulation.Run
import Uniprocessor.Simulation.Status
import Uniprocessor.Workload.Loader

/-!
The command line: one workload under one policy.

The exit status is 0 on success, 1 for bad input and 2 for a fault in the
command line or a violation during the run. Output comes as lines.
-/

namespace Uniprocessor.CommandLine

/-- What the program writes, and its exit status. -/
structure Outcome where
  status : Nat
  out : List Text := []
  err : List Text := []
  deriving DecidableEq, Repr

/-- The text of written lines. -/
def textOf (lines : List Text) : Text := lines.flatMap (· ++ "\n")

/-! ### Fixed texts -/

def versionLine : String := "py-sched 0.1.0"

def usageLines : List String :=
  ["usage: py-sched [-h] [-c CONFIG] [-s POLICY] [--quantum QUANTUM]",
   "                [--max-ticks MAX_TICKS] [-q] [-v] [--log-level LOG_LEVEL]",
   "                [--status] [--list] [--version]",
   "                [workload]"]

def helpLines : List String :=
  usageLines ++
  ["",
   "Discrete-time process scheduling simulator",
   "",
   "positional arguments:",
   "  workload              workload file to simulate",
   "",
   "options:",
   "  -h, --help            show this help message and exit",
   "  -c CONFIG, --config CONFIG",
   "                        JSON configuration file",
   "  -s POLICY, --scheduler POLICY",
   "                        scheduling policy name",
   "  --quantum QUANTUM     round-robin slice length in ticks",
   "  --max-ticks MAX_TICKS",
   "                        stop after this many ticks",
   "  -q, --quiet           do not print the tick trace",
   "  -v, --verbose         print the event log after the run",
   "  --log-level LOG_LEVEL",
   "                        minimum level printed by --verbose",
   "  --status              print a status dump at the end",
   "  --list                list policies and exit",
   "  --version             show program's version number and exit"]

/-- The registered policies, one on a line. -/
def policyLines : List Text :=
  Registry.all.map fun d => "  " ++ Text.padRight 6 d.key ++ " " ++ d.title

/-! ### Running -/

def usageError (message : String) : Outcome :=
  { status := 2, err := (usageLines ++ [s!"py-sched: error: {message}"]).map .ofString }

def inputError (message : Text) : Outcome := { status := 1, err := ["py-sched: " ++ message] }

/-- How a policy is made for a configuration. -/
abbrev MakePolicy := Config → Except (LoadError Registry.NotFound) Policy

/-- The registered policy of the configuration's name. -/
def registered : MakePolicy := fun config => do
  let d ← (Registry.find config.policy).mapError .invalid
  (d.policy (some config.quantum) none).mapError (fun f => .unhandled (.fault f))

/-- The configuration of the file, if one is named, under the options. -/
def configOf (read : Reader) (o : Options) : Except (LoadError ConfigError) Config := do
  let config ← match o.config with
    | none => pure {}
    | some (.str path) => Config.load read path.string
    | some _ => throw (.unhandled .noPath)
  let quiet : Json := if o.quiet then .bool true else .null
  config.merge
    [("policy", o.scheduler), ("quantum", o.quantum), ("max_ticks", o.maxTicks),
     ("quiet", quiet), ("log_level", o.logLevel)]

/-- Shows the message of an error that is answered. -/
def orMessage {ε α : Type} (message : ε → Text) (r : Except (LoadError ε) α) :
    Except (LoadError Text) α :=
  r.mapError fun e => match e with
    | .invalid e => .invalid (message e)
    | .unhandled u => .unhandled u

/-- A simulation that is ready to run, with its configuration. -/
def prepare (make : MakePolicy) (config : Config) (workload : Workload) :
    Except (LoadError Text) Simulation := do
  let policy ← orMessage (fun e => e.message) (make config)
  (Simulation.create workload policy config.resources config.maxTicks).mapError fun e =>
    match e with
    | .workload e => .invalid e.message
    | .fault f => .unhandled (.fault f)

/-- What is written after a run. -/
def reportLines (o : Options) (config : Config) (r : Report) (s : Simulation) :
    Except Unhandled (List Text) := do
  let summary ← r.summaryLines.mapError .tooLarge
  let trace := if config.quiet then [] else r.timeline.map (·.render)
  let status := if o.status then s.statusLines else []
  let shown := if o.verbose then s.kernel.log.select { minLevel := some config.level } else []
  pure ((trace ++ summary).map .ofString ++ status ++ shown.map fun e => .ofString e.render)

/-- Runs the workload at a path. -/
def simulate (make : MakePolicy) (read : Reader) (o : Options) (workload : String) :
    Except Unhandled Outcome := do
  let ready : Except (LoadError Text) (Config × Simulation) := do
    let config ← orMessage ConfigError.message (configOf read o)
    let shown := normalPath workload
    let w ← orMessage (fun e => e.message) (Workload.load read shown workload)
    pure (config, ← prepare make config w)
  match ready with
  | .error (.invalid message) => pure (inputError message)
  | .error (.unhandled u) => throw u
  | .ok (config, s) =>
      match s.run with
      | .ok r s => return { status := 0, out := ← reportLines o config r s }
      | .error (.violation v) s =>
          pure {
            status := 2
            err := s!"py-sched: protocol violation: {v.message}" :: s.statusLines }
      | .error f _ => throw (.fault f)

/-- The program on its arguments. -/
def run (make : MakePolicy) (read : Reader) (arguments : List String) :
    Except Unhandled Outcome :=
  match Options.parse arguments with
  | .error (.usage message) => .ok (usageError message)
  | .error .help => .ok { status := 0, out := helpLines.map .ofString }
  | .error .version => .ok { status := 0, out := [versionLine] }
  | .ok o =>
      if o.list then .ok { status := 0, out := policyLines }
      else match o.workload with
        | none => .ok (usageError "a workload file is required")
        | some workload => simulate make read o workload

/-- The files that the program reads on its arguments, in normal form. -/
def filesRead (arguments : List String) : List String :=
  match Options.parse arguments with
  | .error _ => []
  | .ok o =>
      let config := match o.config with
        | some (.str path) => [normalPath path.string]
        | _ => []
      config ++ (o.workload.map normalPath).toList

end Uniprocessor.CommandLine
