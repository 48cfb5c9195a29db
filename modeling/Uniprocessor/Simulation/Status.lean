import Uniprocessor.Simulation

/-!
The status dump: a snapshot of the scheduler for people to read.
-/

namespace Uniprocessor

namespace Simulation

/-- The clock and the policy, the current process, the ready queue, a line for
each resource in use, and a table of the processes. -/
def statusLines (s : Simulation) : List Text :=
  let k := s.kernel
  let pids (members : List Handle) : List Int := members.map (fun h => (k.process h).pid)
  let current := match k.current.map k.process with
    | none => "current: -"
    | some p =>
        s!"current: {p.pid} ({p.state.name}) age {p.age}/{p.lifespan} " ++
          s!"prio {p.priority} (base {p.base})"
  let resources : List Text := k.inUse.map fun id =>
    let r := k.resource id
    let owner := Text.orDash (r.owner.map (fun h => (k.process h).pid))
    s!"resource {id}: owner {owner} ceiling {Text.orDash r.ceiling} " ++
      s!"waiting {Text.spacedOrDash (pids r.waiting)}"
  let row (pid : String) (name : Text) (state arrive age prio : String) : Text :=
    Text.joined " "
      [Text.padLeft 5 pid ++ " ", Text.padRight 12 name, Text.padRight 8 state,
       Text.padLeft 6 arrive, Text.padLeft 7 age, Text.padLeft 5 prio]
  let processes := s.processes.map fun p =>
    row (toString p.pid) p.name p.state.name (toString p.arrival) s!"{p.age}/{p.lifespan}"
      (toString p.priority)
  let heading : List Text :=
    [s!"***** tick {k.tick} | {s.policy.title} *****", current,
     s!"ready: {Text.spacedOrDash (pids k.ready)}"]
  heading ++ resources ++ row "PID" "NAME" "STATE" "ARRIVE" "AGE" "PRIO" :: processes

def status (s : Simulation) : Text := Text.joined "\n" s.statusLines

end Simulation

end Uniprocessor
