import Uniprocessor.Proofs.Kernel.Selection
import Uniprocessor.Proofs.Simulation.Accord
import Uniprocessor.Proofs.Simulation.Turns

/-!
Turns under shortest job first, where all arrive together.

The processes ask for nothing and arrive together. Those who have left, whoever goes
on, and the ready queue once it is sorted by the work of the jobs are then all who
have arrived, sorted in that way (`Kernel.Lined`), and nobody in the ready queue has
done any work. Taking the least out of the ready queue is one step of a stable sort, so
a tick keeps up the line (`SimulationM.Staged.lined`), and who has left stands in it in
front, in the order of leaving (`Simulation.Sorted`).

Whoever goes on had no more work to do at the start than those who are ready have now,
and has less left. So shortest remaining time first would decide the same
(`Kernel.Lined.accords`).
-/

namespace Uniprocessor

open Policy (candidates continuing)
open SimulationM (Staged)

variable {w : Workload} {s t g e : Simulation} {chosen : Option Handle} {event : TickEvent}
  {p : Protocol} {k : Kernel} {b : Backlog} {left : List Handle} {h : Handle} {tick : Int}

/-- Where nobody goes on, shortest job first takes the least of the ready queue. -/
theorem Discipline.chosen_shortestJob_of_free (free : continuing k = none) :
    (shortestJob.decision k).chosen = k.least? (fun p => p.lifespan) .ready := by
  simp [decision, free, Kernel.least?]

/-! ### The line -/

/-- The handles in the order of the work of their jobs, those with the same work as they were. -/
def Workload.byWork (w : Workload) (line : List Handle) : List Handle :=
  line.mergeSort fun i j => (w.work i : Int) ≤ w.work j

theorem Workload.mem_byWork {line : List Handle} : h ∈ w.byWork line ↔ h ∈ line :=
  List.mem_mergeSort

theorem Workload.pairwise_byWork (line : List Handle) :
    (w.byWork line).Pairwise fun i j => w.work i ≤ w.work j := by
  have sorted : (w.byWork line).Pairwise fun i j => decide ((w.work i : Int) ≤ w.work j) :=
    List.pairwise_mergeSort (by simpa using fun i j k => Nat.le_trans)
      (by simpa using fun i j => Nat.le_total _ _) _
  exact sorted.imp fun le => by simpa using le

/-- Of those who have arrived, those of `left` have left, in the order of their work, and
the others stand in that order behind them. -/
structure Kernel.Lined (k : Kernel) (w : Workload) (b : Backlog) (left : List Handle) : Prop where
  whole : ∀ i ∈ k.queue .ready, b i = w.work i
  line : left ++ (continuing k).toList ++ w.byWork (k.queue .ready) = w.byWork k.handles

namespace Kernel.Lined

variable (lined : k.Lined w b left)

include lined

theorem subset (mem : h ∈ left) : h ∈ k.handles := by
  rw [← Workload.mem_byWork (w := w), ← lined.line, List.append_assoc]
  exact List.mem_append_left _ mem

/-- Whoever goes on has no more work in all than anybody who is ready. -/
theorem work_le {j : Handle} (goes : continuing k = some h) (mem : j ∈ k.queue .ready) :
    w.work h ≤ w.work j := by
  have sorted := w.pairwise_byWork k.handles
  rw [← lined.line, goes] at sorted
  refine (List.pairwise_append.mp sorted).2.2 h ?_ j (Workload.mem_byWork.mpr mem)
  exact List.mem_append_right _ (by simp)

/-- Shortest remaining time first would decide the same as shortest job first. -/
theorem accords (work : ∀ i ∈ candidates k, (k.process i).lifespan = w.work i)
    (remaining : ∀ i ∈ candidates k, (k.process i).remaining = b i) (most : ∀ i, b i ≤ w.work i) :
    Discipline.Accords .shortestJob .shortestRemaining k := by
  intro l twin
  have same : (Policy.leastOf (fun p => p.remaining) l).chosen =
        (Policy.leastOf (fun p => p.remaining) k).chosen ∧
      (Policy.leastOf (fun p => p.remaining) l).back =
        (Policy.leastOf (fun p => p.remaining) k).back :=
    Policy.leastOf_twin twin fun _ => rfl
  show (Policy.leastOf _ l).chosen = _ ∧ (Policy.leastOf _ l).back = _
  rw [same.1, same.2]
  have ready : ∀ i ∈ k.queue .ready, i ∈ candidates k := fun i mem => List.mem_append_right _ mem
  -- If somebody goes on, what it has left is no more than its work, and whoever is ready has not
  -- begun; if nobody does, the two measures agree on all who are ready.
  cases goes : continuing k with
  | none =>
      have same : k.least? (fun p => p.remaining) .ready =
          k.least? (fun p => p.lifespan) .ready := by
        refine List.minOn?_congr fun i mem j mem' => ?_
        simp only [remaining i (ready i mem), remaining j (ready j mem'), work i (ready i mem),
          work j (ready j mem'), lined.whole i mem, lined.whole j mem']
      rw [Policy.leastOf_of_free goes, same, Discipline.chosen_shortestJob_of_free goes]
      exact ⟨rfl, rfl⟩
  | some h =>
      rw [Policy.leastOf_of_stays goes]
      · simp [Discipline.decision, goes]
      · intro best least
        have mem := Policy.least?_mem least
        have own := remaining h (List.mem_append_left _ (by simp [goes]))
        have other := remaining best (ready best mem)
        have whole := lined.whole best mem
        have order := lined.work_le goes mem
        have bound := most h
        omega

end Kernel.Lined

/-- The one that shortest job first chooses comes next, and the others are lined up behind it. -/
theorem Workload.byWork_next (alone : (k.queue .ready).Nodup)
    (away : ∀ h, continuing k = some h → h ∉ k.queue .ready)
    (work : ∀ i ∈ k.queue .ready, (k.process i).lifespan = w.work i)
    (is : chosen = (Discipline.shortestJob.decision k).chosen) :
    chosen.toList ++ w.byWork ((k.queue .ready).filter (chosen ≠ some ·)) =
      (continuing k).toList ++ w.byWork (k.queue .ready) := by
  subst is
  -- Whoever goes on is in front and not in the queue. Otherwise the least one leaves the queue and
  -- comes to the front of the sorted line.
  cases goes : continuing k with
  | some h =>
      have kept : (k.queue .ready).filter (some h ≠ some ·) = k.queue .ready := by
        refine List.filter_eq_self.mpr fun j mem => decide_eq_true fun is => ?_
        exact away h goes (Option.some.inj is ▸ mem)
      simp only [Discipline.decision, goes, Option.some_or, kept]
  | none =>
      have found : k.least? (fun p => p.lifespan) .ready =
          (k.queue .ready).minOn? fun i => (w.work i : Int) :=
        List.minOn?_congr fun i mem j mem' => by simp only [work i mem, work j mem']
      rw [Discipline.chosen_shortestJob_of_free goes, found]
      cases least : (k.queue .ready).minOn? fun i => (w.work i : Int) with
      | none => simp
      | some h =>
          have erased : (k.queue .ready).filter (some h ≠ some ·) = (k.queue .ready).erase h := by
            rw [alone.erase_eq_filter]
            congr 1
            funext j
            simp [eq_comm, bne, Bool.beq_eq_decide_eq]
          rw [erased]
          exact (List.mergeSort_eq_cons_of_minOn? least).symm

/-! ### Who is there -/

namespace Simulation

/-- Where all arrive together, somebody is there only once nobody is still to come. -/
theorem Steady.all_or_none (steady : t.Steady w)
    (together : ∀ spec ∈ w.processes, spec.arrival = tick) :
    t.kernel.handles = [] ∨ t.pending = [] := by
  obtain ⟨arrived, admits⟩ := steady.admits
  cases here : arrived with
  | nil => exact .inl (List.eq_nil_of_length_eq_zero (by rw [admits.length_handles, here]; rfl))
  | cons first rest =>
      refine .inr (List.eq_nil_iff_forall_not_mem.mpr fun spec mem => ?_)
      have old : first ∈ arrived := by
        rw [here]
        exact List.mem_cons_self
      have before := admits.before first old
      have after := admits.later spec mem
      rw [together first (admits.mem_iff.mpr (.inl old))] at before
      rw [together spec (admits.mem_iff.mpr (.inr mem))] at after
      omega

end Simulation

namespace SimulationM.Staged

/-- The line stands when the policy is asked. -/
theorem lined_gathered (steady : s.Steady w) (together : ∀ spec ∈ w.processes, spec.arrival = tick)
    (staged : Staged s g e chosen event) (lined : s.kernel.Lined w (s.backlog w) left) :
    g.kernel.Lined w (s.backlog w) left := by
  have gathered := (gathers_of_run steady.sound rfl staged.gathered).gathered steady.sound rfl
  obtain ⟨more, handles, ready⟩ := gathered.ready
  -- Before anybody has come the line is empty; afterwards everybody has, and none is left to join.
  rcases steady.all_or_none together with nobody | come
  · have waiting : s.kernel.queue .ready = [] := by
      refine List.eq_nil_iff_forall_not_mem.mpr fun i mem => ?_
      have used := steady.sound.order.linked.used mem
      rw [nobody] at used
      cases used
    have line : left ++ (continuing s.kernel).toList ++ [] = [] := by
      have line := lined.line
      rwa [waiting, nobody, Workload.byWork, List.mergeSort_nil] at line
    rw [nobody, List.nil_append] at handles
    rw [waiting, List.nil_append] at ready
    refine ⟨fun i _ => steady.backlog_of_absent (by simp [nobody]), ?_⟩
    have free := List.append_eq_nil_iff.mp ((List.append_eq_nil_iff.mp line).1)
    rw [gathered.continuing, free.1, free.2, ready, handles]
    rfl
  · have everybody := steady.everybody come
    obtain ⟨arrived, enlists⟩ := staged.enlists steady
    have most := congrArg List.length enlists.order
    have grown := congrArg List.length handles
    rw [Simulation.inOrderOfArrival, List.length_mergeSort, List.length_append,
      ← enlists.length_handles] at most
    rw [List.length_append] at grown
    obtain rfl : more = [] := List.eq_nil_of_length_eq_zero (by omega)
    rw [List.append_nil] at handles ready
    exact ⟨by rw [ready]; exact lined.whole, by rw [gathered.continuing, ready, handles, lined.line]⟩

/-- What a process of the workload has to do. -/
theorem lifespan_eq (steady : s.Steady w) (staged : Staged s g e chosen event)
    (candidate : h ∈ candidates g.kernel) :
    (g.kernel.process h).lifespan = w.work h ∧
      (g.kernel.process h).remaining = s.backlog w h := by
  have gathered : Sound ⟨.choosing, g⟩ := steady.sound.reaches staged.arrived
  obtain ⟨_, enlists⟩ := staged.enlists steady
  have used := (gathered.present_of_candidate candidate).1
  exact ⟨enlists.lifespan_eq gathered.roster used, (staged.backlog_eq steady enlists used).symm⟩

/-- Whoever was chosen goes on or has left. -/
theorem goes_or_left (bare : ∀ spec ∈ w.processes, spec.requests = []) (before : s.Steady w)
    (after : (e.close (e.line chosen event)).Steady w) (staged : Staged s g e chosen event) :
    (if event = .exit then chosen.toList else []) ++
      (continuing (e.close (e.line chosen event)).kernel).toList = chosen.toList := by
  have current := (staged.effect before.sound).current
  cases chosen with
  | none =>
      rw [continuing, current]
      simp
  | some h =>
      rcases before.sound.closes staged.reaches (by simp) rfl with
        ⟨rfl, state⟩ | ⟨rfl, _⟩ | ⟨rfl, state⟩
      · rw [after.sound.continuing_of_running rfl (by simpa using state)]
        simp
      · have works := staged.works_of_bare bare before
        simp at works
      · have gone : ((e.close (e.line (some h) .exit)).kernel.process h).state = .exited := by
          simpa using state
        rw [continuing, current]
        simp only [Option.filter, Process.canContinue, gone]
        simp

/-- A tick under shortest job first leaves the line, with whoever has left in front. -/
theorem lined (bare : ∀ spec ∈ w.processes, spec.requests = []) (before : s.Steady w)
    (after : (e.close (e.line chosen event)).Steady w) (policy : s.policy = .of .shortestJob p)
    (staged : Staged s g e chosen event) (lined : g.kernel.Lined w (s.backlog w) left) :
    (e.close (e.line chosen event)).kernel.Lined w
      ((e.close (e.line chosen event)).backlog w)
      (left ++ if event = .exit then chosen.toList else []) := by
  have gathered : Sound ⟨.choosing, g⟩ := before.sound.reaches staged.arrived
  obtain ⟨_, _, is, _⟩ := staged.scheduled before.sound policy
  have stays : ∀ j, continuing g.kernel = some j → chosen = some j := by
    intro j goes
    simp [is, Discipline.decision, goes]
  have ready : (e.close (e.line chosen event)).kernel.queue .ready =
      (g.kernel.queue .ready).filter (chosen ≠ some ·) := by
    simpa using staged.ready_of_bare bare before after policy stays rfl
  have handles : (e.close (e.line chosen event)).kernel.handles = g.kernel.handles := by
    simpa using gathered.handles_of_reaches (by simp) staged.acts
  have next : chosen.toList ++ w.byWork ((g.kernel.queue .ready).filter (chosen ≠ some ·)) =
      (continuing g.kernel).toList ++ w.byWork (g.kernel.queue .ready) :=
    Workload.byWork_next (gathered.order.linked.nodup .ready)
      (fun h => Policy.not_ready_of_continuing gathered.order.schedulable)
      (fun i mem => (staged.lifespan_eq before (List.mem_append_right _ mem)).1) is
  constructor
  · intro i mem
    rw [ready, List.mem_filter] at mem
    have other : chosen ≠ some i := by simpa using mem.2
    rw [staged.backlog bare before, Backlog.serve, if_neg other]
    exact lined.whole i mem.1
  · rw [ready, handles, List.append_assoc left, staged.goes_or_left bare before after,
      List.append_assoc, next, ← List.append_assoc, lined.line]

end SimulationM.Staged

end Uniprocessor
