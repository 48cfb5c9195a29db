import Uniprocessor.Proofs.Simulation.Turns

/-!
First come, first served follows its recurrence.

Take a workload whose processes ask for nothing, its jobs in the order of their
arrival, and in that of the workload where they arrive together
(`Simulation.sublist_inOrderOfArrival`). A job starts as soon as it has arrived and
the one before it is finished (`Workload.start`), and its window lasts for its work
from then on (`Workload.Due`).
Windows do not overlap, and in every tick the first job with work left that has
arrived is the one whose window it is (`Workload.chosen_iff_due`). So what is left of
each job goes by the time alone (`Workload.serve_leftAfter`), and every tick of a run
is one of the job whose window it is, or idle (`first_come_recurrence`).
-/

namespace Uniprocessor

open SimulationM (Staged)

namespace Workload

variable {w : Workload} {n m : Nat} {i h : Nat} {chosen : Option Nat}

/-! ### The recurrence -/

/-- When the jobs arrive, in the order of their arrival. -/
def arrival (w : Workload) (i : Nat) : Int :=
  (((Simulation.inOrderOfArrival w.processes)[i]?).map (·.arrival)).getD 0

/-- When a job starts: once it has arrived and the one before it is finished. -/
def start (w : Workload) : Nat → Int
  | 0 => w.arrival 0
  | i + 1 => max (w.arrival (i + 1)) (w.start i + w.work i)

/-- It is the job's turn at the tick. -/
def Due (w : Workload) (tick : Int) (i : Nat) : Prop :=
  w.start i ≤ tick ∧ tick < w.start i + w.work i

/-- How much work is left of each job after so many ticks, by the recurrence. -/
def leftAfter (w : Workload) (n : Nat) : Backlog :=
  fun i => w.work i - ((n : Int) - w.start i).toNat

theorem arrival_le_start (w : Workload) (i : Nat) : w.arrival i ≤ w.start i := by
  cases i with
  | zero => exact Int.le_refl _
  | succ i => exact Int.le_max_left _ _

/-- A job starts when all that come before it are finished. -/
theorem finish_le_start (w : Workload) (earlier : i < h) : w.start i + w.work i ≤ w.start h := by
  induction h, earlier using Nat.le_induction with
  | base => exact Int.le_max_right _ _
  | succ h _ ih =>
      have next : w.start h + w.work h ≤ w.start (h + 1) := Int.le_max_right _ _
      omega

theorem job_of_work (work : 0 < w.work i) :
    ∃ spec, (Simulation.inOrderOfArrival w.processes)[i]? = some spec := by
  cases found : (Simulation.inOrderOfArrival w.processes)[i]? with
  | none => simp [Workload.work, found] at work
  | some spec => exact ⟨spec, rfl⟩

/-- What a tick needs to know of those who have arrived by then, the first `m` jobs. -/
structure Arrived (w : Workload) (n m : Nat) : Prop where
  here : ∀ i < m, w.arrival i ≤ n ∧ 0 < w.work i
  absent : ∀ i, m ≤ i → 0 < w.work i → (n : Int) < w.arrival i

/-- The first job with work left that has arrived is the one whose turn it is. -/
theorem chosen_iff_due (arrived : w.Arrived n m)
    (served : Backlog.Served m (w.leftAfter n) chosen)
    (first : ∀ h, chosen = some h → ∀ i < h, w.leftAfter n i = 0) (i : Nat) :
    chosen = some i ↔ w.Due n i := by
  have due : ∀ h, chosen = some h → w.Due n h := by
    intro h named
    obtain ⟨bound, left⟩ := served.worked h named
    obtain ⟨come, _⟩ := arrived.here h bound
    unfold leftAfter at left first
    refine ⟨?_, by omega⟩
    cases h with
    | zero => exact come
    | succ h =>
        have finished := first _ named h (Nat.lt_succ_self h)
        have work := (arrived.here h (by omega)).2
        exact Int.max_le.mpr ⟨come, by omega⟩
  constructor
  · exact due i
  · rintro ⟨started, unfinished⟩
    have left : 0 < w.leftAfter n i := by
      unfold leftAfter
      omega
    have come := w.arrival_le_start i
    have bound : i < m := by
      by_contra late
      have after := arrived.absent i (Nat.not_lt.mp late) (by omega)
      omega
    cases is : chosen with
    | none =>
        have nothing := served.rested is i bound
        omega
    | some h =>
        obtain ⟨started', unfinished'⟩ := due h is
        -- Those in front of the chosen one are finished, and those behind it wait for its end.
        rcases Nat.lt_trichotomy h i with before | same | after
        · have order := w.finish_le_start before
          omega
        · rw [same]
        · have nothing := first h is i after
          omega

/-- A tick leaves what the recurrence says. -/
theorem serve_leftAfter (turn : ∀ i, chosen = some i ↔ w.Due n i) :
    (w.leftAfter n).serve chosen = w.leftAfter (n + 1) := by
  funext i
  unfold Backlog.serve leftAfter
  have here := turn i
  unfold Due at here
  split
  · rename_i own
    obtain ⟨started, unfinished⟩ := here.mp own
    omega
  · rename_i other
    have out := mt here.mpr other
    omega

theorem valid_of_job {spec : ProcessSpec} (valid : w.Valid)
    (job : (Simulation.inOrderOfArrival w.processes)[i]? = some spec) : spec.Valid :=
  valid.specs spec (List.mem_mergeSort.mp (List.mem_of_getElem? job))

/-- The work of a job is its lifespan. -/
theorem work_of_job {spec : ProcessSpec} (valid : w.Valid)
    (job : (Simulation.inOrderOfArrival w.processes)[i]? = some spec) :
    (w.work i : Int) = spec.lifespan ∧ 0 < w.work i := by
  have lifespan := (valid_of_job valid job).lifespan
  simp only [work, job, Option.map_some, Option.getD_some]
  omega

theorem due_iff {spec : ProcessSpec} {tick : Int} (valid : w.Valid)
    (job : (Simulation.inOrderOfArrival w.processes)[i]? = some spec) :
    w.Due tick i ↔ w.start i ≤ tick ∧ tick < w.start i + spec.lifespan := by
  rw [Due, (work_of_job valid job).1]

/-- It is nobody's turn if and only if it is that of no job. -/
theorem nobody_due_iff {tick : Int} (valid : w.Valid) :
    (∀ i, ¬ w.Due tick i) ↔
      ∀ i spec, (Simulation.inOrderOfArrival w.processes)[i]? = some spec →
        ¬ (w.start i ≤ tick ∧ tick < w.start i + spec.lifespan) := by
  constructor
  · intro rests i spec job
    rw [← due_iff valid job]
    exact rests i
  · intro rests i due
    have work : 0 < w.work i := by
      have started := due.1
      have unfinished := due.2
      omega
    obtain ⟨spec, job⟩ := job_of_work work
    exact rests i spec job ((due_iff valid job).mp due)

theorem start_nonneg (valid : w.Valid) (i : Nat) : 0 ≤ w.start i := by
  have first : 0 ≤ w.arrival 0 := by
    unfold arrival
    cases found : (Simulation.inOrderOfArrival w.processes)[0]? with
    | none => exact Int.le_refl 0
    | some spec => exact (valid_of_job valid found).arrival
  have start : 0 ≤ w.start 0 := first
  rcases Nat.eq_zero_or_pos i with rfl | positive
  · exact start
  · have order := w.finish_le_start positive
    omega

/-- Before the first tick all work is left. -/
theorem leftAfter_zero (valid : w.Valid) : w.leftAfter 0 = w.work := by
  funext i
  have start := start_nonneg valid i
  unfold leftAfter
  omega

end Workload

variable {w : Workload} {s t u g e : Simulation} {chosen : Option Handle} {event : TickEvent}
  {protocol : Protocol} {n : Nat} {i : Handle} {spec : ProcessSpec}

/-! ### Jobs and processes -/

namespace Simulation.Steady

/-- Who has arrived goes by the time. -/
theorem arrived (steady : t.Steady w) (valid : w.Valid) (clock : t.kernel.tick = n + 1) :
    w.Arrived n t.kernel.handles.length := by
  obtain ⟨arrived, admits⟩ := steady.admits
  rw [admits.length_handles]
  constructor
  · intro i bound
    have found : (inOrderOfArrival w.processes)[i]? = some arrived[i] := by
      rw [admits.order, List.getElem?_append_left bound, List.getElem?_eq_getElem bound]
    have before := admits.before arrived[i] (List.getElem_mem bound)
    rw [clock] at before
    refine ⟨?_, (Workload.work_of_job valid found).2⟩
    simp only [Workload.arrival, found, Option.map_some, Option.getD_some]
    omega
  · intro i bound work
    obtain ⟨spec, found⟩ := Workload.job_of_work work
    have pending : spec ∈ t.pending := by
      rw [admits.order, List.getElem?_append_right bound] at found
      exact List.mem_of_getElem? found
    have later := admits.later spec pending
    rw [clock] at later
    simp only [Workload.arrival, found, Option.map_some, Option.getD_some]
    omega

/-- A handle is that of a job if and only if its process has the number of the job. -/
theorem pid_eq_iff (steady : t.Steady w) (valid : w.Valid) {h : Handle}
    (used : h ∈ t.kernel.handles) (job : (inOrderOfArrival w.processes)[i]? = some spec) :
    (t.kernel.process h).pid = spec.pid ↔ h = i := by
  obtain ⟨_, admits⟩ := steady.admits
  obtain ⟨own, found, built⟩ := admits.job steady.sound.roster used
  have pid : (t.kernel.process h).pid = own.pid := (ProcessSpec.declares_of_build built).pid
  have apart : ((inOrderOfArrival w.processes).map (·.pid)).Nodup :=
    ((List.mergeSort_perm _ _).map _).nodup_iff.mpr valid.pids
  rw [pid]
  constructor
  · intro same
    obtain ⟨bound, _⟩ := List.getElem?_eq_some_iff.mp found
    refine (List.getElem?_inj (by simpa using bound) apart).mp ?_
    rw [List.getElem?_map, List.getElem?_map, found, job]
    simp [same]
  · rintro rfl
    rw [found] at job
    cases job
    rfl

end Simulation.Steady

/-! ### Runs -/

namespace Simulation

/-- The simulation follows the recurrence: so much work is left, and each line so far is one
of the job whose turn it was, or idle. -/
structure Recurs (t : Simulation) (w : Workload) : Prop where
  left : t.backlog w = w.leftAfter t.kernel.tick
  worked : ∀ line ∈ t.timeline.toList, ∀ i spec,
    (inOrderOfArrival w.processes)[i]? = some spec →
      (line.worked spec.pid = true ↔ w.Due line.tick i)
  idle : ∀ line ∈ t.timeline.toList, line.event = .idle ↔ ∀ i, ¬ w.Due line.tick i

theorem Fresh.recurs (fresh : s.Fresh) (valid : w.Valid) (empty : s.timeline = #[]) :
    s.Recurs w := by
  refine ⟨?_, by simp [empty], by simp [empty]⟩
  rw [fresh.kernel.tick, Workload.leftAfter_zero valid]
  funext i
  rw [backlog, Kernel.process_of_unused (by simp [fresh.kernel.handles])]
  rfl

/-- A tick in which everybody keeps its turn keeps up the recurrence. -/
theorem Recurs.tick (recurs : s.Recurs w) (valid : w.Valid) (steady : u.Steady w)
    (effect : s.Effect u chosen event) (backlog : u.backlog w = (s.backlog w).serve chosen)
    (works : ∀ h, chosen = some h → event = .run ∨ event = .exit)
    (turn : ∀ i, chosen = some i ↔ w.Due s.kernel.tick i) : u.Recurs w := by
  have timeline := congrArg Array.toList effect.timeline
  rw [Array.toList_push] at timeline
  refine ⟨?_, ?_, ?_⟩
  · rw [backlog, recurs.left, effect.clock, Workload.serve_leftAfter turn]
  · intro line mem i spec job
    rw [timeline] at mem
    rcases List.mem_append.mp mem with old | new
    · exact recurs.worked line old i spec job
    · obtain rfl := List.mem_singleton.mp new
      rw [← turn]
      cases chosen with
      | none => simp [TickRecord.worked]
      | some h =>
          have own := steady.pid_eq_iff valid (effect.able h rfl).1 job
          rcases works h rfl with rfl | rfl <;> simp [TickRecord.worked, TickRecord.busy, own]
  · intro line mem
    rw [timeline] at mem
    rcases List.mem_append.mp mem with old | new
    · exact recurs.idle line old
    · obtain rfl := List.mem_singleton.mp new
      simp only [← turn]
      cases chosen with
      | none => simp [effect.rests rfl]
      | some h => rcases works h rfl with rfl | rfl <;> simp

/-- A run under first come, first served follows the recurrence. -/
theorem MadeOf.recurs (made : s.MadeOf w) (valid : w.Valid)
    (bare : ∀ spec ∈ w.processes, spec.requests = []) (policy : s.policy = .of .firstCome protocol)
    (reached : s.Boundary t) : t.Recurs w := by
  refine made.along (P := fun t => t.Recurs w)
    (fun u fresh is => fresh.recurs valid (by rw [is, made.timeline])) ?_ reached
  intro t g e chosen event before steady recurs staged after
  have policy' := (before.policy made.fresh made.early).trans policy
  have line := staged.inTurn_gathered steady.sound (made.inTurn bare policy before)
  have effect := staged.effect steady.sound
  have served : Backlog.Served _ (w.leftAfter t.kernel.tick) chosen :=
    recurs.left ▸ staged.served bare steady
  have turn : ∀ i, chosen = some i ↔ w.Due t.kernel.tick i := by
    refine Workload.chosen_iff_due (after.arrived valid effect.clock) (by simpa using served) ?_
    rintro h rfl i earlier
    rw [← recurs.left]
    exact staged.first bare steady policy' line earlier
  refine recurs.tick valid after effect (staged.backlog bare steady) ?_ turn
  rintro h rfl
  exact staged.works_of_bare bare steady

/-! ### The end of a run -/

namespace Recurs

/-- When all is done the windows of all jobs are over. -/
theorem finish_le (recurs : t.Recurs w) (steady : t.Steady w) (done : t.done = true)
    (work : 0 < w.work i) : i ∈ t.kernel.handles ∧ w.start i + w.work i ≤ t.kernel.tick := by
  obtain ⟨nobody, left⟩ := steady.sound.roster.left_of_done done
  obtain ⟨spec, job⟩ := Workload.job_of_work work
  have used : i ∈ t.kernel.handles := by
    obtain ⟨bound, _⟩ := List.getElem?_eq_some_iff.mp job
    rw [inOrderOfArrival, List.length_mergeSort] at bound
    rw [steady.mem_handles_iff, steady.everybody nobody]
    exact bound
  have finished : t.backlog w i = 0 := by
    rw [steady.backlog_eq_zero_iff used, ne_eq, steady.left, not_not]
    exact left i used
  rw [recurs.left, Workload.leftAfter] at finished
  exact ⟨used, by omega⟩

/-- A job is worked on in every tick of its window that is over, and in no other one. -/
theorem worksAt_iff (recurs : t.Recurs w) (valid : w.Valid) (logged : t.Logged)
    (past : w.start i + w.work i ≤ t.kernel.tick)
    (job : (inOrderOfArrival w.processes)[i]? = some spec) (tick : Int) :
    worksAt t.timeline.toList spec.pid tick = true ↔ w.Due tick i := by
  rw [Uniprocessor.worksAt_iff]
  constructor
  · rintro ⟨line, mem, rfl, worked⟩
    exact (recurs.worked line mem i spec job).mp worked
  · rintro ⟨started, unfinished⟩
    have start := Workload.start_nonneg valid i
    have bound : tick.toNat < t.timeline.toList.length := by
      rw [← logged.clock]
      omega
    have numbered := logged.numbered _ _ (List.getElem?_eq_getElem bound)
    have own : (t.timeline.toList[tick.toNat]).tick = tick := by omega
    refine ⟨_, List.getElem_mem bound, own, ?_⟩
    refine (recurs.worked _ (List.getElem_mem bound) i spec job).mpr ?_
    rw [own]
    exact ⟨started, unfinished⟩

/-- Whoever has left did so at the end of its window. -/
theorem exitTick_eq (recurs : t.Recurs w) (valid : w.Valid) (steady : t.Steady w)
    (logged : t.Logged) (used : i ∈ t.kernel.handles)
    (past : w.start i + w.work i ≤ t.kernel.tick)
    (job : (inOrderOfArrival w.processes)[i]? = some spec) {n : Nat}
    (exits : (t.kernel.process i).exitTick = some n) : (n : Int) = w.start i + w.work i := by
  have pid := (steady.pid_eq_iff valid used job).mpr rfl
  have recorded := logged.recorded i used
  rw [pid] at recorded
  obtain ⟨line, mem, left, tick, before⟩ := recorded.line_of_exitTick exits
  have worked : line.worked spec.pid = true := by
    simp only [TickRecord.left, Bool.and_eq_true] at left
    simp [TickRecord.worked, TickRecord.busy, left]
  have due := (recurs.worked line mem i spec job).mp worked
  have work := (Workload.work_of_job valid job).2
  obtain ⟨last, mem', now, worked'⟩ := Uniprocessor.worksAt_iff.mp
    ((recurs.worksAt_iff valid logged past job (w.start i + w.work i - 1)).mpr
      ⟨by omega, by omega⟩)
  have earlier := before last mem' (TickRecord.pid_of_worked worked')
  have unfinished := due.2
  omega

end Recurs

end Simulation

/-- On a parsed workload whose processes ask for nothing, take the jobs in the order of their
arrival, and as they are in the workload where they arrive together. In the run under first
come, first served each of them works in just the ticks from its start, as many as its
lifespan says, and leaves at the end of them; every other tick is idle. -/
theorem first_come_recurrence {text : Text} {w : Workload} {resources : Int}
    (parsed : Workload.ofText text = .ok w) (positive : 0 < resources)
    (fits : ∀ r ∈ w.resourceIds, r < resources)
    (bare : ∀ spec ∈ w.processes, spec.requests = []) (protocol : Protocol) :
    ∃ s t, Simulation.create w (.of .firstCome protocol) resources none = .ok s ∧
      s.run = .ok t.report t ∧
      (∀ i spec, (Simulation.inOrderOfArrival w.processes)[i]? = some spec →
        (∀ tick, worksAt t.report.timeline spec.pid tick = true ↔
          w.start i ≤ tick ∧ tick < w.start i + spec.lifespan) ∧
        ∃ p ∈ t.report.processes, p.pid = spec.pid ∧
          p.exitTick = some (w.start i + spec.lifespan)) ∧
      ∀ line ∈ t.report.timeline, line.event = .idle ↔
        ∀ i spec, (Simulation.inOrderOfArrival w.processes)[i]? = some spec →
          ¬ (w.start i ≤ line.tick ∧ line.tick < w.start i + spec.lifespan) := by
  have valid := Workload.valid_ofText parsed
  obtain ⟨s, created, made, policy, unlimited⟩ :=
    Simulation.exists_madeOf parsed positive fits .firstCome protocol none
  obtain ⟨t, u, reached, done, ends, ran⟩ := made.ends unlimited bare
  have steady := made.steady reached
  have recurs := made.recurs valid bare policy reached
  have logged := made.logged reached
  have timeline : u.report.timeline = t.timeline.toList := by rw [ends.report]; rfl
  have processes : u.report.processes = t.processes.map ProcessStats.ofProcess := by
    rw [ends.report]
    rfl
  refine ⟨s, u, created, ran, fun i spec job => ?_, fun line mem => ?_⟩
  · obtain ⟨lifespan, work⟩ := Workload.work_of_job valid job
    obtain ⟨used, past⟩ := recurs.finish_le steady done work
    rw [timeline, processes]
    refine ⟨fun tick => (recurs.worksAt_iff valid logged past job tick).trans
      (Workload.due_iff valid job), _, List.mem_map_of_mem ?_,
      (steady.pid_eq_iff valid used job).mpr rfl, ?_⟩
    · rw [steady.sound.roster.processes]
      exact List.mem_map_of_mem used
    · obtain ⟨n, exits⟩ := steady.exitTick_of_left
        ((steady.sound.roster.left_of_done done).2 i used)
      have last := recurs.exitTick_eq valid steady logged used past job exits
      simp [ProcessStats.ofProcess, exits, last, lifespan]
  · rw [timeline] at mem
    exact (recurs.idle line mem).trans (Workload.nobody_due_iff valid)

/-- Two processes arrive together after an idle tick, and a third one after the second has left. -/
def Workload.stagger : Text :=
  Text.ofString ("process 2 \x7b\n start 1\n lifespan 2\n\x7d\n" ++
    "process 1 \x7b\n start 1\n lifespan 1\n\x7d\n" ++
    "process 3 \x7b\n start 6\n lifespan 1\n\x7d\n")

def Workload.staggered : Workload where
  processes := [{ pid := 2, lifespan := 2, arrival := 1 },
    { pid := 1, lifespan := 1, arrival := 1 },
    { pid := 3, lifespan := 1, arrival := 6 }]

theorem Workload.ofText_stagger : Workload.ofText stagger = .ok staggered := by decide +kernel

theorem first_come_recurrence_stagger :
    ∃ s t, Simulation.create .staggered (.of .firstCome .fifo) 1 none = .ok s ∧
      s.run = .ok t.report t ∧
      (∀ i spec, (Simulation.inOrderOfArrival Workload.staggered.processes)[i]? = some spec →
        (∀ tick, worksAt t.report.timeline spec.pid tick = true ↔
          Workload.staggered.start i ≤ tick ∧
            tick < Workload.staggered.start i + spec.lifespan) ∧
        ∃ p ∈ t.report.processes, p.pid = spec.pid ∧
          p.exitTick = some (Workload.staggered.start i + spec.lifespan)) ∧
      ∀ line ∈ t.report.timeline, line.event = .idle ↔
        ∀ i spec, (Simulation.inOrderOfArrival Workload.staggered.processes)[i]? = some spec →
          ¬ (Workload.staggered.start i ≤ line.tick ∧
            line.tick < Workload.staggered.start i + spec.lifespan) :=
  first_come_recurrence Workload.ofText_stagger (by decide) (by decide +kernel) (by decide) .fifo

/-- Those who arrive together start in the order of the workload. -/
example : [0, 1, 2].map Workload.staggered.start = [1, 3, 6] := by cbv

end Uniprocessor
