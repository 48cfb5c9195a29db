import Uniprocessor.Json
import Uniprocessor.Report

/-!
Reports as JSON.
-/

namespace Uniprocessor

open Number (Binary64 TooLarge mean)

def Json.ofInt? (n : Option Int) : Json := (n.map Json.int).getD .null

/-- The event that a value names. -/
def TickEvent.ofJson (j : Json) : Except TickEvent.Unknown TickEvent :=
  let named := match j with
    | .str name => TickEvent.ofName? name
    | _ => none
  match named with
  | some event => .ok event
  | none => .error ⟨j.inner⟩

def TickRecord.toJson (r : TickRecord) : Json :=
  .obj [("tick", .int r.tick), ("pid", .ofInt? r.pid), ("event", .str r.event.name)]

def ProcessStats.toJson (p : ProcessStats) : Json :=
  .obj [
    ("pid", .int p.pid), ("name", .str p.name), ("arrival_tick", .int p.arrival),
    ("lifespan", .int p.lifespan), ("age", .int p.age), ("exit_tick", .ofInt? p.exitTick),
    ("turnaround", .ofInt? p.turnaround), ("waiting", .ofInt? p.waiting)]

/-- The fields of a report, with the averages over the processes that exited. -/
def Report.fields (r : Report) : Except TooLarge (List (Text × Json)) := do
  let real (x : Option Binary64) : Json := (x.map Json.real).getD .null
  let turnaround ← mean r.turnarounds
  let waiting ← mean r.waitings
  pure [
    ("policy", .str r.policy), ("total_ticks", .int r.totalTicks),
    ("idle_ticks", .int r.idleTicks), ("context_switches", .int r.switches),
    ("stalled", .bool r.stalled), ("truncated", .bool r.truncated),
    ("average_turnaround", real turnaround), ("average_waiting", real waiting),
    ("gantt", .str r.gantt), ("timeline", .arr (r.timeline.map (·.toJson))),
    ("processes", .arr (r.processes.map (·.toJson)))]

end Uniprocessor
