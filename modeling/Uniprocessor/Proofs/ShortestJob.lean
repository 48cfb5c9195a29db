import Uniprocessor.Proofs.Simulation.Shortest

/-!
Shortest job first and shortest remaining time first agree on those who arrive together.

Where processes ask for nothing and arrive together, those who have left are the first of
all in the order of their work at any time (`Simulation.Sorted`), so in the timeline they
leave in the order of their lifespans, and in that of the workload where these are the
same (`Simulation.Sorted.exits_prefix`). Whenever it is asked, shortest remaining time first
would decide the same (`Simulation.MadeOf.accords`). So its run is the same.
-/

namespace Uniprocessor

open SimulationM (Staged)

/-- The numbers of those who have left, in the order of their leaving. -/
def exits (lines : List TickRecord) : List Int :=
  (lines.filter (·.event == .exit)).filterMap (·.pid)

/-- The processes in the order of their lifespans, those with the same lifespan as they are in
the workload. -/
def Workload.byLifespan (w : Workload) : List ProcessSpec :=
  w.processes.mergeSort fun a b => a.lifespan ≤ b.lifespan

variable {w : Workload} {s t g e u : Simulation} {chosen : Option Handle} {event : TickEvent}
  {p : Protocol} {left : List Handle} {n : Int}

theorem Simulation.Effect.exits (effect : s.Effect u chosen event) :
    exits u.timeline.toList = exits s.timeline.toList ++
      (if event = .exit then chosen.toList else []).map fun h => (u.kernel.process h).pid := by
  rw [effect.timeline, Array.toList_push, Uniprocessor.exits, Uniprocessor.exits,
    List.filter_append, List.filterMap_append]
  congr 1
  by_cases left : event = .exit
  · cases chosen <;> simp [left]
  · simp [left]

namespace Simulation

/-- Those who have left so far, in the order of their leaving, are the first in the order of
their work. -/
structure Sorted (t : Simulation) (w : Workload) (left : List Handle) : Prop where
  lined : t.kernel.Lined w (t.backlog w) left
  exits : exits t.timeline.toList = left.map fun h => (t.kernel.process h).pid

theorem Fresh.sorted (fresh : s.Fresh) (empty : s.timeline = #[]) : s.Sorted w [] where
  lined := by
    refine ⟨by simp [fresh.kernel.queue], ?_⟩
    simp [Policy.continuing, fresh.kernel.current, fresh.kernel.queue, fresh.kernel.handles]
  exits := by simp [empty, Uniprocessor.exits]

theorem Sorted.tick (sorted : s.Sorted w left)
    (bare : ∀ spec ∈ w.processes, spec.requests = [])
    (together : ∀ spec ∈ w.processes, spec.arrival = n) (before : s.Steady w)
    (after : (e.close (e.line chosen event)).Steady w) (policy : s.policy = .of .shortestJob p)
    (staged : Staged s g e chosen event) :
    (e.close (e.line chosen event)).Sorted w
      (left ++ if event = .exit then chosen.toList else []) where
  lined := staged.lined bare before after policy
    (staged.lined_gathered before together sorted.lined)
  exits := by
    have effect := staged.effect before.sound
    rw [effect.exits, sorted.exits, List.map_append]
    congr 1
    exact List.map_congr_left fun h mem => (effect.pid (sorted.lined.subset mem)).symm

namespace MadeOf

/-- Between any two ticks of a run under shortest job first those who have left are sorted. -/
theorem sorted (made : s.MadeOf w) (bare : ∀ spec ∈ w.processes, spec.requests = [])
    (together : ∀ spec ∈ w.processes, spec.arrival = n)
    (policy : s.policy = .of .shortestJob p) (reached : s.Boundary t) :
    ∃ left, t.Sorted w left := by
  refine made.along (P := fun t => ∃ left, t.Sorted w left) ?_ ?_ reached
  · intro u fresh is
    exact ⟨[], fresh.sorted (by rw [is, made.timeline])⟩
  · rintro t g e chosen event before steady ⟨left, sorted⟩ staged after
    have policy' := (before.policy made.fresh made.early).trans policy
    exact ⟨_, sorted.tick bare together steady after policy' staged⟩

/-- Whenever shortest job first is asked in the run, shortest remaining time first would decide
the same. -/
theorem accords (made : s.MadeOf w) (bare : ∀ spec ∈ w.processes, spec.requests = [])
    (together : ∀ spec ∈ w.processes, spec.arrival = n)
    (policy : s.policy = .of .shortestJob p) : s.Accords .shortestJob .shortestRemaining := by
  intro m g chosen picks
  obtain ⟨u, e, event, ticks⟩ := picks.ticks made.fresh made.early
  have steady := made.steady ticks.boundary
  obtain ⟨left, sorted⟩ := made.sorted bare together policy ticks.boundary
  have lined := ticks.staged.lined_gathered steady together sorted.lined
  exact lined.accords (fun h mem => (ticks.staged.lifespan_eq steady mem).1)
    (fun h mem => (ticks.staged.lifespan_eq steady mem).2) fun h => Nat.sub_le _ _

end MadeOf

/-- Once all are there, the order of their work is that of the lifespans. -/
theorem Steady.map_byWork (steady : t.Steady w)
    (together : ∀ spec ∈ w.processes, spec.arrival = n) (nobody : t.pending = []) :
    (w.byWork t.kernel.handles).map (fun h => (t.kernel.process h).pid) =
      w.byLifespan.map (·.pid) := by
  obtain ⟨arrived, admits⟩ := steady.admits
  have order : inOrderOfArrival w.processes = w.processes := by
    refine List.mergeSort_of_pairwise (List.pairwise_of_forall_mem_list fun a mem b mem' => ?_)
    simp [together a mem, together b mem']
  have everybody : w.processes = arrived := by
    rw [← order, admits.order, nobody, List.append_nil]
  -- A job keeps its number and its lifespan as a process.
  let job (h : Handle) : Int × Int := ((t.kernel.process h).pid, (t.kernel.process h).lifespan)
  have same : w.processes.map (fun spec => (spec.pid, spec.lifespan)) =
      t.kernel.handles.map job := by
    rw [everybody]
    refine admits.map_eq (g := fun p => (p.pid, (p.lifespan : Int))) fun {spec p} built => ?_
    have declares := ProcessSpec.declares_of_build built
    exact (Prod.ext declares.pid declares.lifespan).symm
  have sorted : (w.byWork t.kernel.handles).map job =
      w.byLifespan.map fun spec => (spec.pid, spec.lifespan) := by
    have left : (w.byWork t.kernel.handles).map job =
        (t.kernel.handles.map job).mergeSort fun a b => a.2 ≤ b.2 := by
      refine List.map_mergeSort fun i mem j mem' => ?_
      simp only [job, admits.lifespan_eq steady.sound.roster mem,
        admits.lifespan_eq steady.sound.roster mem']
    rw [left, ← same]
    symm
    exact List.map_mergeSort fun a _ b _ => rfl
  have pids := congrArg (List.map Prod.fst) sorted
  simpa [job, Function.comp_def] using pids

namespace Sorted

/-- In the timeline processes leave in the order of their lifespans. -/
theorem exits_prefix (sorted : t.Sorted w left) (steady : t.Steady w)
    (together : ∀ spec ∈ w.processes, spec.arrival = n) :
    Uniprocessor.exits t.timeline.toList <+: w.byLifespan.map (·.pid) := by
  rw [sorted.exits]
  rcases steady.all_or_none together with empty | nobody
  · have none : left = [] := by
      refine List.eq_nil_iff_forall_not_mem.mpr fun h mem => ?_
      have used := sorted.lined.subset mem
      rw [empty] at used
      cases used
    rw [none]
    exact List.nil_prefix
  · rw [← steady.map_byWork together nobody, ← sorted.lined.line, List.append_assoc,
      List.map_append]
    exact List.prefix_append _ _

/-- When all is done everybody has left so. -/
theorem exits_of_done (sorted : t.Sorted w left) (steady : t.Steady w)
    (together : ∀ spec ∈ w.processes, spec.arrival = n) (done : t.done = true) :
    Uniprocessor.exits t.timeline.toList = w.byLifespan.map (·.pid) := by
  obtain ⟨nobody, gone⟩ := steady.sound.roster.left_of_done done
  have none : Policy.candidates t.kernel = [] := by
    refine List.eq_nil_iff_forall_not_mem.mpr fun h mem => ?_
    obtain ⟨used, present⟩ := steady.sound.present_of_candidate mem
    exact present (gone h used)
  obtain ⟨free, empty⟩ := List.append_eq_nil_iff.mp none
  rw [sorted.exits, ← steady.map_byWork together nobody, ← sorted.lined.line, free, empty]
  simp [Workload.byWork]

end Sorted

end Simulation

/-- On a parsed workload whose processes ask for nothing and arrive together, shortest job
first and shortest remaining time first make the same run under any protocols: the simulations
agree after any number of steps, and the reports differ in the name of the policy only. The
processes leave in the order of their lifespans, and in that of the workload where these are
the same; all of them do unless there is a limit. -/
theorem shortest_disciplines_agree {text : Text} {w : Workload} {resources n : Int}
    (parsed : Workload.ofText text = .ok w) (positive : 0 < resources)
    (fits : ∀ r ∈ w.resourceIds, r < resources)
    (bare : ∀ spec ∈ w.processes, spec.requests = [])
    (together : ∀ spec ∈ w.processes, spec.arrival = n) (p q : Protocol)
    (limit : Option Int) :
    ∃ s t, Simulation.create w (.of .shortestJob p) resources limit = .ok s ∧
      Simulation.create w (.of .shortestRemaining q) resources limit = .ok t ∧
      s.RunsAlike t ∧
      ∃ report s', s.run = .ok report s' ∧
        exits report.timeline <+: w.byLifespan.map (·.pid) ∧
        (limit = none → exits report.timeline = w.byLifespan.map (·.pid)) := by
  obtain ⟨s, created, made, policy, limited⟩ :=
    Simulation.exists_madeOf parsed positive fits .shortestJob p limit
  have empty : s.timeline.size = 0 := by rw [made.timeline]; rfl
  obtain ⟨t, created', alike⟩ := (made.accords bare together policy).runsAlike_of_created created
    made.fresh policy made.early empty q
  obtain ⟨v, u, reached, ends, ran⟩ := SimulationM.run_ended made.fresh made.early
  have timeline : u.report.timeline = v.timeline.toList := by rw [ends.report]; rfl
  refine ⟨s, t, created, created', alike, u.report, u, ran, ?_, fun unlimited => ?_⟩
  · obtain ⟨left, sorted⟩ := made.sorted bare together policy reached
    rw [timeline]
    exact sorted.exits_prefix (made.steady reached) together
  · obtain ⟨v', u', reached', done, ends', ran'⟩ := made.ends (limited.trans unlimited) bare
    obtain rfl := (EStateM.Result.ok.inj (ran.symm.trans ran')).2
    obtain ⟨left, sorted⟩ := made.sorted bare together policy reached'
    have timeline' : u.report.timeline = v'.timeline.toList := by rw [ends'.report]; rfl
    rw [timeline']
    exact sorted.exits_of_done (made.steady reached') together done

/-- Three processes arrive together, two of them with the same lifespan. -/
def Workload.heat : Text :=
  Text.ofString ("process 3 \x7b\n start 1\n lifespan 2\n\x7d\n" ++
    "process 1 \x7b\n start 1\n lifespan 2\n\x7d\n" ++
    "process 2 \x7b\n start 1\n lifespan 1\n\x7d\n")

def Workload.heated : Workload where
  processes := [{ pid := 3, lifespan := 2, arrival := 1 },
    { pid := 1, lifespan := 2, arrival := 1 },
    { pid := 2, lifespan := 1, arrival := 1 }]

theorem Workload.ofText_heat : Workload.ofText heat = .ok heated := by decide +kernel

theorem shortest_disciplines_agree_heat :
    ∃ s t, Simulation.create .heated (.of .shortestJob .fifo) 1 none = .ok s ∧
      Simulation.create .heated (.of .shortestRemaining .fifo) 1 none = .ok t ∧
      s.RunsAlike t ∧
      ∃ report s', s.run = .ok report s' ∧
        exits report.timeline <+: Workload.heated.byLifespan.map (·.pid) ∧
        ((none : Option Int) = none →
          exits report.timeline = Workload.heated.byLifespan.map (·.pid)) :=
  shortest_disciplines_agree Workload.ofText_heat (by decide) (by decide +kernel) (by decide)
    (show ∀ spec ∈ Workload.heated.processes, spec.arrival = 1 by decide) .fifo .fifo none

/-- Those with the same lifespan leave in the order of the workload. -/
example : Workload.heated.byLifespan.map (·.pid) = [2, 3, 1] := by cbv

end Uniprocessor
