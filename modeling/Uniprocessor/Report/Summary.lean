import Uniprocessor.Number.Decimal
import Uniprocessor.Report

/-!
The summary of a run, as it is printed at its end.
-/

namespace Uniprocessor.Report

open Number (TooLarge mean)

/-- The policy, the chart, the counts, the averages if anybody left, and how the
run ended if it did not come to its end. -/
def summaryLines (r : Report) : Except TooLarge (List String) := do
  let turnaround ← mean r.turnarounds
  let averages ← match turnaround with
    | none => pure []
    | some turnaround => do
        let waiting := ((← mean r.waitings).map (·.twoPlaces)).getD "-"
        pure [s!"avg turnaround: {turnaround.twoPlaces}, avg waiting: {waiting}"]
  pure <|
    [s!"policy: {r.policy}",
     s!"gantt: {r.gantt}",
     s!"ticks: {r.totalTicks} (idle {r.idleTicks}), context switches: {r.switches}"] ++
    averages ++
    (if r.stalled then ["STALLED: waiting processes can never be woken"] else []) ++
    (if r.truncated then ["stopped at the tick limit"] else [])

def summary (r : Report) : Except TooLarge String := do
  return "\n".intercalate (← r.summaryLines)

end Uniprocessor.Report
