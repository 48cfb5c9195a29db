import Mathlib
import Uniprocessor.Proofs.Kernel.Views
import Uniprocessor.Proofs.Process.Priority
import Uniprocessor.Report

/-!
Processes in another guise.

A guise gives the processes other numbers, grades the priorities on another
scale and starts the clock later (`Guise`). It must tell apart the numbers that
are in use, and keep the order of the priorities that are; of others it may do
anything. A process stands in a guise for another one if they agree in all but
that (`Process.Guised`). The effective priority is then graded like the others
(`Process.Guised.priority`), and whatever changes a process has its counterpart.
-/

namespace Uniprocessor

/-! ### Values of a table on another scale -/

namespace Table

variable {κ ν μ : Type} [DecidableEq κ]

/-- The table with every value changed. -/
def mapValues (f : ν → μ) (t : Table κ ν) : Table κ μ := ⟨t.entries.map fun e => (e.1, f e.2)⟩

omit [DecidableEq κ] in
@[simp] theorem values_mapValues (f : ν → μ) (t : Table κ ν) :
    (t.mapValues f).values = t.values.map f := by
  simp [values, mapValues, Function.comp_def]

omit [DecidableEq κ] in
@[simp] theorem keys_mapValues (f : ν → μ) (t : Table κ ν) : (t.mapValues f).keys = t.keys := by
  simp [keys, mapValues, Function.comp_def]

theorem find_mapValues (f : ν → μ) (k : κ) (l : List (κ × ν)) :
    find k (l.map fun e => (e.1, f e.2)) = (find k l).map f := by
  induction l with
  | nil => rfl
  | cons e l ih =>
      rw [List.map_cons, find, find, ih]
      split <;> rfl

@[simp] theorem get?_mapValues (f : ν → μ) (t : Table κ ν) (k : κ) :
    (t.mapValues f).get? k = (t.get? k).map f :=
  find_mapValues f k t.entries

theorem putEntry_mapValues (f : ν → μ) (k : κ) (v : ν) (l : List (κ × ν)) :
    putEntry k (f v) (l.map fun e => (e.1, f e.2)) =
      (putEntry k v l).map fun e => (e.1, f e.2) := by
  induction l with
  | nil => rfl
  | cons e l ih =>
      rw [List.map_cons, putEntry, putEntry, ih]
      split <;> rfl

@[simp] theorem mapValues_put (f : ν → μ) (t : Table κ ν) (k : κ) (v : ν) :
    (t.put k v).mapValues f = (t.mapValues f).put k (f v) :=
  congrArg Table.mk (putEntry_mapValues f k v t.entries).symm

@[simp] theorem mapValues_erase (f : ν → μ) (t : Table κ ν) (k : κ) :
    (t.erase k).mapValues f = (t.mapValues f).erase k := by
  simp [mapValues, erase, List.filter_map, Function.comp_def]

end Table

/-! ### Guises -/

/-- Other numbers for the processes, another scale of priorities and a later start of
the clock. Numbers and priorities are those in use. -/
structure Guise where
  pids : Set Int
  levels : Set Int
  pid : Int → Int
  level : Int → Int
  delay : Nat
  /-- The lines of the time before the start. -/
  before : List TickRecord
  apart : Set.InjOn pid pids
  mono : StrictMonoOn level levels

namespace Guise

variable (φ : Guise)

/-- A process in the guise, under its old name. -/
def process (p : Process) : Process :=
  { p with
    pid := φ.pid p.pid
    arrival := p.arrival + φ.delay
    base := φ.level p.base
    boosts := p.boosts.mapValues φ.level
    exitTick := p.exitTick.map (· + φ.delay) }

/-- A declaration in the guise. -/
def spec (spec : ProcessSpec) : ProcessSpec :=
  { spec with
    pid := φ.pid spec.pid
    arrival := spec.arrival + φ.delay
    priority := φ.level spec.priority }

/-- A line of a timeline in the guise. -/
def line (line : TickRecord) : TickRecord :=
  { line with tick := line.tick + φ.delay, pid := line.pid.map φ.pid }

variable {φ} {a b : Int}

theorem pid_eq_iff (used : a ∈ φ.pids) (used' : b ∈ φ.pids) : φ.pid a = φ.pid b ↔ a = b :=
  φ.apart.eq_iff used used'

theorem level_min (used : a ∈ φ.levels) (used' : b ∈ φ.levels) :
    φ.level (min a b) = min (φ.level a) (φ.level b) := by
  rcases le_total a b with le | le
  · rw [min_eq_left le, min_eq_left ((φ.mono.le_iff_le used used').mpr le)]
  · rw [min_eq_right le, min_eq_right ((φ.mono.le_iff_le used' used).mpr le)]

theorem min_mem (used : a ∈ φ.levels) (used' : b ∈ φ.levels) : min a b ∈ φ.levels := by
  rcases min_choice a b with is | is <;> rwa [is]

theorem level_foldl_min {l : List Int} (used : a ∈ φ.levels) (levels : ∀ v ∈ l, v ∈ φ.levels) :
    (l.map φ.level).foldl min (φ.level a) = φ.level (l.foldl min a) := by
  induction l generalizing a with
  | nil => rfl
  | cons v l ih =>
      obtain ⟨first, others⟩ := List.forall_mem_cons.mp levels
      rw [List.map_cons, List.foldl_cons, List.foldl_cons, ← level_min used first,
        ih (min_mem used first) others]

end Guise

/-- The number and the priorities of a process are in use. -/
structure Process.Within (φ : Guise) (p : Process) : Prop where
  pid : p.pid ∈ φ.pids
  base : p.base ∈ φ.levels
  boosts : ∀ v ∈ p.boosts.values, v ∈ φ.levels

/-- The second process stands for the first. Only where the number is kept need the
name be kept as well, since a process may be called by its number. -/
structure Process.Guised (φ : Guise) (p q : Process) : Prop where
  process : { q with name := p.name } = φ.process p
  name : φ.pid p.pid = p.pid → q.name = p.name
  within : p.Within φ

namespace Process

variable {φ : Guise} {p q : Process} {r v : Int}

theorem Within.priority (within : p.Within φ) : p.priority ∈ φ.levels := by
  rcases p.priority_eq with is | mem
  · rw [is]
    exact within.base
  · exact within.boosts _ mem

namespace Guised

/-! ### What the two processes show -/

theorem pid (guised : p.Guised φ q) : q.pid = φ.pid p.pid := congrArg (·.pid) guised.process

theorem arrival (guised : p.Guised φ q) : q.arrival = p.arrival + φ.delay :=
  congrArg (·.arrival) guised.process

theorem lifespan (guised : p.Guised φ q) : q.lifespan = p.lifespan :=
  congrArg (·.lifespan) guised.process

theorem base (guised : p.Guised φ q) : q.base = φ.level p.base :=
  congrArg (·.base) guised.process

theorem requests (guised : p.Guised φ q) : q.requests = p.requests :=
  congrArg (·.requests) guised.process

theorem state (guised : p.Guised φ q) : q.state = p.state := congrArg (·.state) guised.process

theorem age (guised : p.Guised φ q) : q.age = p.age := congrArg (·.age) guised.process

theorem boosts (guised : p.Guised φ q) : q.boosts = p.boosts.mapValues φ.level :=
  congrArg (·.boosts) guised.process

theorem queue (guised : p.Guised φ q) : q.queue = p.queue := congrArg (·.queue) guised.process

theorem exitTick (guised : p.Guised φ q) : q.exitTick = p.exitTick.map (· + φ.delay) :=
  congrArg (·.exitTick) guised.process

theorem remaining (guised : p.Guised φ q) : q.remaining = p.remaining := by
  unfold Process.remaining
  rw [guised.lifespan, guised.age]

theorem finished (guised : p.Guised φ q) : q.finished = p.finished := by
  unfold Process.finished
  rw [guised.lifespan, guised.age]

theorem canContinue (guised : p.Guised φ q) : q.canContinue = p.canContinue := by
  unfold Process.canContinue
  rw [guised.state, guised.finished]

/-- The effective priority is graded like every other. -/
theorem priority (guised : p.Guised φ q) : q.priority = φ.level p.priority := by
  unfold Process.priority
  rw [guised.base, guised.boosts, Table.values_mapValues]
  exact Guise.level_foldl_min guised.within.base guised.within.boosts

/-! ### Changes -/

theorem inState (guised : p.Guised φ q) (state : State) :
    (p.inState state).Guised φ (q.inState state) where
  process := congrArg (Process.inState · state) guised.process
  name := guised.name
  within := ⟨guised.within.pid, guised.within.base, guised.within.boosts⟩

theorem marked (guised : p.Guised φ q) (queue : Option QueueId) :
    (p.marked queue).Guised φ (q.marked queue) where
  process := congrArg (Process.marked · queue) guised.process
  name := guised.name
  within := ⟨guised.within.pid, guised.within.base, guised.within.boosts⟩

theorem older (guised : p.Guised φ q) : p.older.Guised φ q.older where
  process := congrArg Process.older guised.process
  name := guised.name
  within := ⟨guised.within.pid, guised.within.base, guised.within.boosts⟩

theorem leftAt (guised : p.Guised φ q) (tick : Nat) :
    (p.leftAt tick).Guised φ (q.leftAt (tick + φ.delay)) where
  process := congrArg (Process.leftAt · (tick + φ.delay)) guised.process
  name := guised.name
  within := ⟨guised.within.pid, guised.within.base, guised.within.boosts⟩

/-- A change of the boosts that comes to the same on both scales. -/
theorem elevated (guised : p.Guised φ q) (boosts : Table Int Int)
    (levels : ∀ v ∈ boosts.values, v ∈ φ.levels) :
    { p with boosts := boosts }.Guised φ { q with boosts := boosts.mapValues φ.level } where
  process :=
    congrArg (fun p : Process => { p with boosts := boosts.mapValues φ.level }) guised.process
  name := guised.name
  within := ⟨guised.within.pid, guised.within.base, levels⟩

theorem boost (guised : p.Guised φ q) (used : v ∈ φ.levels) :
    (p.boost r v).Guised φ (q.boost r (φ.level v)) := by
  have raised : { p with boosts := p.boosts.put r v }.Guised φ
      { q with boosts := q.boosts.put r (φ.level v) } := by
    rw [guised.boosts, ← Table.mapValues_put]
    refine guised.elevated _ fun w mem => ?_
    rcases Table.mem_values_put mem with rfl | old
    · exact used
    · exact guised.within.boosts w old
  unfold Process.boost
  rw [guised.boosts, Table.get?_mapValues, ← guised.boosts]
  cases given : p.boosts.get? r with
  | none => exact raised
  | some w =>
      have before := guised.within.boosts w (Table.mem_values_of_get? given)
      simp only [Option.map_some, φ.mono.lt_iff_lt used before]
      split
      · exact raised
      · exact guised

theorem unboost (guised : p.Guised φ q) : (p.unboost r).Guised φ (q.unboost r) := by
  unfold Process.unboost
  rw [guised.boosts, ← Table.mapValues_erase]
  refine guised.elevated _ fun w mem => guised.within.boosts w ?_
  exact (List.Sublist.map _ List.filter_sublist).subset mem

theorem clearBoosts (guised : p.Guised φ q) : p.clearBoosts.Guised φ q.clearBoosts :=
  guised.elevated {} nofun

end Guised

/-- What is built from a declaration in the guise stands for what is built from the
declaration. -/
theorem guised_build {spec : ProcessSpec} (pid : spec.pid ∈ φ.pids)
    (priority : spec.priority ∈ φ.levels) (built : spec.build = .ok p)
    (built' : (φ.spec spec).build = .ok q) : p.Guised φ q := by
  unfold ProcessSpec.build at built built'
  split at built <;> cases built
  split at built' <;> cases built'
  refine ⟨rfl, fun same => ?_, ⟨pid, priority, nofun⟩⟩
  simp only [Guise.spec, same]

end Process

end Uniprocessor
