import Uniprocessor.Proofs.Simulation.Course
import Uniprocessor.Proofs.Workload.Ceilings

/-!
Workloads in another guise.

A workload in a guise declares every process in it, and states its ceilings on the
other scale (`Guise.workload`). It mentions the same resources, and the ceilings
that follow from it are the others graded (`Guise.ceilings_workload`), since the
guise keeps the order of the priorities whose least makes a ceiling. So where the
guise leaves the clock alone, the simulation that is made of it stands for the one
that is made of the workload (`Simulation.guised_create`).
-/

namespace Uniprocessor

open EStateM (Together)

theorem Table.mapValues_update {κ ν μ : Type} [DecidableEq κ] (f : ν → μ) (t u : Table κ ν) :
    (t.update u).mapValues f = (t.mapValues f).update (u.mapValues f) := by
  unfold Table.update
  simp only [Table.mapValues, List.foldl_map]
  generalize u.entries = l
  induction l generalizing t with
  | nil => rfl
  | cons e l ih =>
      rw [List.foldl_cons, List.foldl_cons]
      have put := Table.mapValues_put f t e.1 e.2
      simp only [Table.mapValues] at put ih
      rw [← put]
      exact ih _

namespace Guise

variable {φ : Guise} {w : Workload} {t u : Table Int Int} {r v : Int}

/-- A workload in the guise. -/
def workload (φ : Guise) (w : Workload) : Workload where
  processes := w.processes.map φ.spec
  explicitCeilings := w.explicitCeilings.mapValues φ.level

/-! ### What it mentions -/

theorem resourceIds_workload : (φ.workload w).resourceIds = w.resourceIds := by
  simp [Workload.resourceIds, workload, List.flatMap_map, spec]

theorem inOrderOfArrival_map (specs : List ProcessSpec) :
    Simulation.inOrderOfArrival (specs.map φ.spec) =
      (Simulation.inOrderOfArrival specs).map φ.spec :=
  (List.map_mergeSort (fun a _ b _ => by simp [spec])).symm

/-- The workload uses only numbers and priorities of the guise. -/
structure Covers (φ : Guise) (w : Workload) : Prop where
  specs : ∀ spec ∈ w.processes, spec.pid ∈ φ.pids ∧ spec.priority ∈ φ.levels
  ceilings : ∀ v ∈ w.explicitCeilings.values, v ∈ φ.levels

theorem Covers.valid (covers : φ.Covers w) (valid : w.Valid) : (φ.workload w).Valid where
  specs := by
    intro _ mem
    obtain ⟨spec, declared, rfl⟩ := List.mem_map.mp mem
    have valid := valid.specs spec declared
    have arrival := valid.arrival
    exact ⟨valid.lifespan, by simp only [Guise.spec]; omega, valid.fits, valid.sorted, valid.apart⟩
  pids := by
    have renamed : (φ.workload w).processes.map (·.pid) =
        (w.processes.map (·.pid)).map φ.pid := by
      simp [workload, spec]
    rw [renamed]
    refine valid.pids.map_on fun a here b there same => ?_
    obtain ⟨spec, declared, rfl⟩ := List.mem_map.mp here
    obtain ⟨spec', declared', rfl⟩ := List.mem_map.mp there
    exact φ.apart (covers.specs _ declared).1 (covers.specs _ declared').1 same
  ceilings := by simpa [workload] using valid.ceilings

/-! ### Ceilings -/

/-- Every value of the table is a priority in use. -/
def Grades (φ : Guise) (t : Table Int Int) : Prop := ∀ v ∈ t.values, v ∈ φ.levels

theorem grades_empty : φ.Grades {} := fun _ mem => absurd mem List.not_mem_nil

theorem Grades.put (grades : φ.Grades t) (used : v ∈ φ.levels) : φ.Grades (t.put r v) := by
  intro x mem
  rcases Table.mem_values_put mem with rfl | old
  · exact used
  · exact grades x old

theorem Grades.update (grades : φ.Grades t) (grades' : φ.Grades u) : φ.Grades (t.update u) := by
  refine List.foldlRecOn u.entries _ grades fun t grades e mem => grades.put ?_
  exact grades' e.2 (List.mem_map.mpr ⟨e, mem, rfl⟩)

theorem Grades.least (grades : φ.Grades t) (used : v ∈ φ.levels) :
    min ((t.get? r).getD v) v ∈ φ.levels := by
  cases found : t.get? r with
  | none => exact min_mem used used
  | some b => exact min_mem (grades b (Table.mem_values_of_get? found)) used

theorem Grades.lowerCeiling (grades : φ.Grades t) (used : v ∈ φ.levels) :
    φ.Grades (Workload.lowerCeiling t r v) :=
  grades.put (grades.least used)

/-- A ceiling is lowered alike on both scales. -/
theorem Grades.lowerCeiling_mapValues (grades : φ.Grades t) (used : v ∈ φ.levels) :
    Workload.lowerCeiling (t.mapValues φ.level) r (φ.level v) =
      (Workload.lowerCeiling t r v).mapValues φ.level := by
  unfold Workload.lowerCeiling
  rw [Table.mapValues_put, Table.get?_mapValues, Option.getD_map]
  cases found : t.get? r with
  | none => rw [Option.getD_none, level_min used used]
  | some b =>
      rw [Option.getD_some, level_min (grades b (Table.mem_values_of_get? found)) used]

theorem foldl_lowerCeiling {l : List (Int × Int)} (grades : φ.Grades t)
    (used : ∀ e ∈ l, e.2 ∈ φ.levels) :
    φ.Grades (l.foldl (fun t e => Workload.lowerCeiling t e.1 e.2) t) ∧
      (l.map fun e => (e.1, φ.level e.2)).foldl (fun t e => Workload.lowerCeiling t e.1 e.2)
          (t.mapValues φ.level) =
        (l.foldl (fun t e => Workload.lowerCeiling t e.1 e.2) t).mapValues φ.level := by
  induction l generalizing t with
  | nil => exact ⟨grades, rfl⟩
  | cons e l ih =>
      obtain ⟨first, others⟩ := List.forall_mem_cons.mp used
      rw [List.map_cons, List.foldl_cons, List.foldl_cons, grades.lowerCeiling_mapValues first]
      exact ih (grades.lowerCeiling first) others

theorem Covers.demands (covers : φ.Covers w) :
    (∀ e ∈ w.demands, e.2 ∈ φ.levels) ∧
      (φ.workload w).demands = w.demands.map fun e => (e.1, φ.level e.2) := by
  constructor
  · rintro ⟨r, v⟩ mem
    obtain ⟨spec, declared, rfl, _⟩ := Workload.mem_demands_iff.mp mem
    exact (covers.specs spec declared).2
  · simp [Workload.demands, workload, List.flatMap_map, List.map_flatMap, spec, Function.comp_def]

theorem Covers.grades_ceilings (covers : φ.Covers w) : φ.Grades w.ceilings := by
  refine Grades.update ?_ covers.ceilings
  rw [Workload.impliedCeilings_eq]
  exact (foldl_lowerCeiling grades_empty covers.demands.1).1

/-- The ceilings are graded like the priorities that they come from. -/
theorem Covers.ceilings_workload (covers : φ.Covers w) :
    (φ.workload w).ceilings = w.ceilings.mapValues φ.level := by
  have implied : (φ.workload w).impliedCeilings = w.impliedCeilings.mapValues φ.level := by
    rw [Workload.impliedCeilings_eq, Workload.impliedCeilings_eq, covers.demands.2]
    exact (foldl_lowerCeiling grades_empty covers.demands.1).2
  unfold Workload.ceilings
  rw [implied, Table.mapValues_update]
  rfl

end Guise

/-! ### Simulations as they are made -/

/-- The kernel so many ticks later, if nothing happens meanwhile. -/
def Kernel.after (k : Kernel) (ticks : Nat) : Kernel := { k with tick := k.tick + ticks }

theorem Kernel.queue_after (k : Kernel) (ticks : Nat) (q : QueueId) :
    (k.after ticks).queue q = k.queue q := by
  cases q <;> rfl

/-- Where nothing has happened yet, a kernel stands for itself once the delay is over, if its
ceilings stay what they are. -/
theorem Kernel.Fresh.guised_after {φ : Guise} {k : Kernel} (fresh : k.Fresh)
    (ceiling : ∀ r v, (k.resource r).ceiling = some v → v ∈ φ.levels ∧ φ.level v = v) :
    k.Guised φ [] (k.after φ.delay) where
  process h used := by simp [fresh.handles] at used
  owner _ := rfl
  ceiling r := by
    show (k.resource r).ceiling = (k.resource r).ceiling.map φ.level
    cases is : (k.resource r).ceiling with
    | none => rfl
    | some v => rw [Option.map_some, (ceiling r v is).2]
  levels r v is := (ceiling r v is).1
  queue q := k.queue_after φ.delay q
  member q h mem := by simp [fresh.queue] at mem
  handles := rfl
  current := rfl
  size := rfl
  tick := rfl
  slice := rfl
  blockedOn _ _ := by
    show k.memory.blockedOn.get? _ = k.memory.blockedOn.get? _
    rw [fresh.blockedOn, Table.get?_empty, Table.get?_empty]
  resources := rfl
  known := ⟨by simp [fresh.current], by simp [fresh.owner], nofun⟩

theorem Kernel.Fresh.guised {φ : Guise} {k : Kernel} (fresh : k.Fresh) (timeless : φ.delay = 0)
    (ceiling : ∀ r v, (k.resource r).ceiling = some v → v ∈ φ.levels ∧ φ.level v = v) :
    k.Guised φ [] k := by
  have guised := fresh.guised_after ceiling
  rwa [timeless] at guised

namespace Simulation

variable {φ : Guise} {w : Workload} {policy : Policy} {resources : Int} {limit limit' : Option Int}
  {s t : Simulation}

theorem guised_placeCeilings {others : List Handle} {k l : Kernel} (guised : k.Guised φ others l)
    (ceilings : List (Int × Int)) (used : ∀ c ∈ ceilings, c.2 ∈ φ.levels) :
    Together (Kernel.Guised φ others) (placeCeilings ceilings)
      (placeCeilings (ceilings.map fun c => (c.1, φ.level c.2))) k l := by
  induction ceilings generalizing k l with
  | nil => exact .pure _ guised
  | cons c ceilings ih =>
      obtain ⟨first, others⟩ := List.forall_mem_cons.mp used
      exact (KernelM.guised_setCeiling guised first).bind fun _ _ _ guised => ih guised others

/-- What the kernel of a simulation is made of. -/
theorem placed_of_create (created : create w policy resources limit = .ok s) :
    (placeCeilings w.ceilings.entries).run { size := resources.toNat } = .ok () s.kernel := by
  obtain ⟨size, checked, rest⟩ := Except.bind_eq_ok_iff.mp created
  have sized : size = resources.toNat := by
    unfold Kernel.checkSize at checked
    split at checked <;> cases checked
    rfl
  subst sized
  cases outside : w.resourceIds.find? (fun r => resources ≤ r) with
  | some r =>
      rw [outside] at rest
      cases rest
  | none =>
      rw [outside] at rest
      dsimp only [pure, Except.pure, bind, Except.bind] at rest
      cases placed : (placeCeilings w.ceilings.entries).run { size := resources.toNat } with
      | error fault k =>
          rw [placed] at rest
          cases rest
      | ok done k =>
          rw [placed] at rest
          cases rest
          rfl

/-- The kernel that is made for a workload in the guise stands for the one that is made
for the workload. -/
theorem guised_create (covers : φ.Covers w) (timeless : φ.delay = 0)
    (created : create w policy resources limit = .ok s)
    (created' : create (φ.workload w) policy resources limit' = .ok t) :
    s.kernel.Guised φ [] t.kernel := by
  have placed := placed_of_create created
  have placed' := placed_of_create created'
  rw [covers.ceilings_workload] at placed'
  have bare : ({ size := resources.toNat } : Kernel).Guised φ [] { size := resources.toNat } :=
    (Kernel.Fresh.bare resources.toNat).guised timeless fun r v is => by cases is
  refine (guised_placeCeilings bare w.ceilings.entries ?_ _ _ _ _ placed placed').2
  exact fun c mem => covers.grades_ceilings c.2 (List.mem_map.mpr ⟨c, mem, rfl⟩)

/-- Simulations that are made stand for each other if their kernels do. -/
theorem MadeOf.guised (made : s.MadeOf w) (made' : t.MadeOf (φ.workload w)) (covers : φ.Covers w)
    (policy : t.policy = s.policy) (kernel : s.kernel.Guised φ [] t.kernel)
    (prompt : φ.before = []) : s.Guised φ [] t where
  policy := by
    obtain ⟨d, protocol, is⟩ := made.fresh.policy
    exact ⟨d, protocol, is, policy.trans is⟩
  kernel := kernel
  pending := by
    rw [made.is, made'.is]
    exact Guise.inOrderOfArrival_map w.processes
  declared spec mem := by
    rw [made.is] at mem
    exact covers.specs spec (List.mem_mergeSort.mp mem)
  holding _ _ := by rw [made.is, made'.is]; rfl
  granted _ _ := by rw [made.is, made'.is]; rfl
  timeline := by rw [made.is, made'.is, prompt]; rfl
  switches := by rw [made.is, made'.is]
  started := by rw [made.is, made'.is]
  stalled := by rw [made.is, made'.is]
  truncated := by rw [made.is, made'.is]

end Simulation

end Uniprocessor
