import Uniprocessor.Unhandled
import Uniprocessor.Workload.Reader

/-!
Workloads from text files.
-/

namespace Uniprocessor.Workload

/-- Reads the workload at a path, which an error message shows as `shown`. -/
def load (read : Reader) (shown path : String) : Except (LoadError WorkloadError) Workload := do
  let text ← read.load (normalPath path) (fun reason => ⟨none, .unreadable shown reason⟩)
  (ofText (text.map .char)).mapError .invalid

end Uniprocessor.Workload
