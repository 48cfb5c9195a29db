import Uniprocessor.Proofs.Simulation.Bare
import Uniprocessor.Proofs.Simulation.Picks

/-!
Turns under first come, first served.

Where processes ask for nothing, those who could be chosen stand in the order of
their arrival between any two ticks (`Simulation.MadeOf.inTurn`). Newcomers get behind
everybody else (`Simulation.Gathered.inTurn`), and since nobody sleeps a tick brings
nobody back: those who could be chosen after it are those before it, with or without
the first one (`SimulationM.Staged.inTurn`). So a tick works on the first job with work
left (`SimulationM.Staged.first`).
-/

namespace Uniprocessor

open Policy (candidates continuing)

variable {w : Workload} {s t g e : Simulation} {chosen : Option Handle} {event : TickEvent}
  {protocol : Protocol} {h i : Handle}

/-- Those who could be chosen stand in the order of their arrival. -/
def Kernel.InTurn (k : Kernel) : Prop := (candidates k).Pairwise (· < ·)

/-- Once the first one is taken out, the ready queue is all that is left of the line. -/
theorem Policy.filter_ready_of_candidates {k : Kernel} {rest : List Handle}
    (line : candidates k = h :: rest) (apart : h ∉ rest) :
    (k.queue .ready).filter (some h ≠ some ·) = rest := by
  have kept : rest.filter (some h ≠ some ·) = rest := by
    refine List.filter_eq_self.mpr fun j mem => decide_eq_true fun is => ?_
    exact apart (Option.some.inj is ▸ mem)
  cases goes : continuing k with
  | none =>
      have ready : k.queue .ready = h :: rest := by simpa [candidates, goes] using line
      rw [ready, List.filter_cons_of_neg (by simp), kept]
  | some j =>
      have ready : h = j ∧ k.queue .ready = rest := by
        simpa [candidates, goes, eq_comm] using line
      rw [ready.2, kept]

namespace Simulation

/-- Newcomers get behind everybody else. -/
theorem Gathered.inTurn (gathered : s.Gathered g) (sound : Sound ⟨.arriving, s⟩)
    (sound' : Sound ⟨.choosing, g⟩) (turn : s.kernel.InTurn) : g.kernel.InTurn := by
  obtain ⟨more, handles, ready⟩ := gathered.ready
  have ordered : (s.kernel.handles ++ more).Pairwise (· < ·) := by
    have listed : g.kernel.handles = List.range g.kernel.handles.length := sound'.roster.handles
    rw [← handles, listed]
    exact List.pairwise_lt_range
  obtain ⟨_, later, before⟩ := List.pairwise_append.mp ordered
  have joined : candidates g.kernel = candidates s.kernel ++ more := by
    rw [candidates, candidates, gathered.continuing, ready, List.append_assoc]
  unfold Kernel.InTurn
  rw [joined]
  refine List.pairwise_append.mpr ⟨turn, later, fun i mem j new => before i ?_ j new⟩
  rcases List.mem_append.mp mem with goes | mem
  · exact Policy.used_of_running (Policy.running_of_continuing (Option.mem_toList.mp goes))
  · exact sound.order.linked.used mem

/-- Whoever could be chosen has arrived and has work left. -/
theorem Steady.backlog_pos (steady : t.Steady w) (candidate : h ∈ candidates t.kernel) :
    h < t.kernel.handles.length ∧ 0 < t.backlog w h := by
  obtain ⟨used, present⟩ := steady.sound.present_of_candidate candidate
  refine ⟨steady.mem_handles_iff.mp used, Nat.pos_of_ne_zero fun finished => ?_⟩
  exact (steady.backlog_eq_zero_iff used).mp finished ((steady.left h).mpr present)

end Simulation

namespace SimulationM.Staged

/-- When the policy is asked they still stand so. -/
theorem inTurn_gathered (sound : Sound ⟨.arriving, s⟩) (staged : Staged s g e chosen event)
    (turn : s.kernel.InTurn) : g.kernel.InTurn :=
  ((gathers_of_run sound rfl staged.gathered).gathered sound rfl).inTurn sound
    (sound.reaches staged.arrived) turn

/-- A tick brings nobody back. -/
theorem candidate_before (bare : ∀ spec ∈ w.processes, spec.requests = []) (before : s.Steady w)
    (after : (e.close (e.line chosen event)).Steady w) (staged : Staged s g e chosen event)
    (candidate : i ∈ candidates (e.close (e.line chosen event)).kernel) :
    i ∈ candidates g.kernel := by
  obtain ⟨bound, left⟩ := after.backlog_pos candidate
  rw [staged.backlog bare before] at left
  have less := (s.backlog w).serve_le chosen i
  exact (staged.mem_candidates_iff bare before).mpr ⟨by simpa using bound, by omega⟩

/-- Where whoever can goes on and nobody is sent back, the ready queue loses the one that is
chosen, and nobody joins it. -/
theorem ready_of_bare {d : Discipline} (bare : ∀ spec ∈ w.processes, spec.requests = [])
    (before : s.Steady w) (after : (e.close (e.line chosen event)).Steady w)
    (policy : s.policy = .of d protocol) (staged : Staged s g e chosen event)
    (stays : ∀ j, continuing g.kernel = some j → chosen = some j)
    (back : (d.decision g.kernel).back = none) :
    e.kernel.queue .ready = (g.kernel.queue .ready).filter (chosen ≠ some ·) := by
  obtain ⟨⟨more, ready⟩, _⟩ := staged.leaves before.sound policy
  rw [back, Option.toList_none, List.append_nil] at ready
  have ended : Sound ⟨.closing chosen event, e⟩ := before.sound.reaches staged.reaches
  -- Nobody sleeps, so nobody is woken: whoever is ready has been so before.
  have nobody : more = [] := by
    refine List.eq_nil_iff_forall_not_mem.mpr fun j new => ?_
    have mem : j ∈ e.kernel.queue .ready := by
      rw [ready]
      exact List.mem_append_right _ new
    have other : chosen ≠ some j := by
      rintro rfl
      exact staged.unready before.sound (ended.state_of_mem_ready mem)
    have candidate := staged.candidate_before bare before after
      (List.mem_append_right _ (by simpa using mem))
    rcases List.mem_append.mp candidate with goes | old
    · exact other (stays j (Option.mem_toList.mp goes))
    · have alone : (e.kernel.queue .ready).Nodup := ended.order.linked.nodup .ready
      rw [ready] at alone
      have kept : j ∈ (g.kernel.queue .ready).filter (chosen ≠ some ·) :=
        List.mem_filter.mpr ⟨old, decide_eq_true other⟩
      exact (List.nodup_append.mp alone).2.2 j kept j new rfl
  rw [ready, nobody, List.append_nil]

/-- First come, first served chooses the first in the line. -/
theorem chosen_eq_head (sound : Sound ⟨.arriving, s⟩) (policy : s.policy = .of .firstCome protocol)
    (staged : Staged s g e chosen event) : chosen = (candidates g.kernel).head? := by
  obtain ⟨_, _, is, _⟩ := staged.scheduled sound policy
  exact is

/-- Whoever is behind the first one stays in the ready queue, and nobody joins them. -/
theorem ready_of_line {rest : List Handle} (bare : ∀ spec ∈ w.processes, spec.requests = [])
    (before : s.Steady w) (after : (e.close (e.line chosen event)).Steady w)
    (policy : s.policy = .of .firstCome protocol) (staged : Staged s g e chosen event)
    (line : candidates g.kernel = h :: rest) (apart : h ∉ rest) :
    e.kernel.queue .ready = rest := by
  have named := staged.chosen_eq_head before.sound policy
  have stays : ∀ j, continuing g.kernel = some j → chosen = some j := by
    intro j goes
    simp [named, candidates, goes]
  rw [staged.ready_of_bare bare before after policy stays rfl, named, line, List.head?_cons,
    Policy.filter_ready_of_candidates line apart]

/-- A tick under first come, first served leaves the line as it was, with or without the
first one. -/
theorem inTurn (bare : ∀ spec ∈ w.processes, spec.requests = []) (before : s.Steady w)
    (after : (e.close (e.line chosen event)).Steady w)
    (policy : s.policy = .of .firstCome protocol) (staged : Staged s g e chosen event)
    (turn : g.kernel.InTurn) : (e.close (e.line chosen event)).kernel.InTurn := by
  unfold Kernel.InTurn at turn ⊢
  -- Nobody joins the line. Whoever is first has the tick and leaves the front or stays there.
  cases line : candidates g.kernel with
  | nil =>
      have nobody : candidates (e.close (e.line chosen event)).kernel = [] := by
        refine List.eq_nil_iff_forall_not_mem.mpr fun j mem => ?_
        have mem := staged.candidate_before bare before after mem
        rw [line] at mem
        cases mem
      rw [nobody]
      exact .nil
  | cons h rest =>
      rw [line] at turn
      have apart : h ∉ rest := fun mem =>
        absurd ((List.pairwise_cons.mp turn).1 h mem) (Nat.lt_irrefl h)
      have ready := staged.ready_of_line bare before after policy line apart
      have named := staged.chosen_eq_head before.sound policy
      rw [line, List.head?_cons] at named
      have current := (staged.effect before.sound).current
      rw [named] at current
      have kept : (candidates (e.close (e.line chosen event)).kernel).Sublist (h :: rest) := by
        have left : (e.close (e.line chosen event)).kernel.queue .ready = rest := by
          simpa using ready
        rw [candidates, left]
        cases goes : continuing (e.close (e.line chosen event)).kernel with
        | none => exact List.sublist_cons_self h rest
        | some j =>
            have own := current.symm.trans (Policy.continuing_eq_some_iff.mp goes).1
            cases own
            exact .refl _
      exact turn.sublist kept

/-- Under first come, first served a tick works on the first job with work left. -/
theorem first (bare : ∀ spec ∈ w.processes, spec.requests = []) (steady : s.Steady w)
    (policy : s.policy = .of .firstCome protocol) (staged : Staged s g e (some h) event)
    (turn : g.kernel.InTurn) (earlier : i < h) : s.backlog w i = 0 := by
  by_contra left
  have bound := ((staged.served bare steady).worked h rfl).1
  have mem := (staged.mem_candidates_iff bare steady).mpr
    ⟨Nat.lt_trans earlier bound, Nat.pos_of_ne_zero left⟩
  have line : candidates g.kernel = h :: (candidates g.kernel).tail :=
    List.eq_cons_of_mem_head? (staged.chosen_eq_head steady.sound policy).symm
  unfold Kernel.InTurn at turn
  rw [line] at mem turn
  rcases List.mem_cons.mp mem with rfl | behind
  · exact Nat.lt_irrefl _ earlier
  · exact Nat.lt_asymm earlier ((List.pairwise_cons.mp turn).1 i behind)

end SimulationM.Staged

namespace Simulation

/-- Between the ticks of a run under first come, first served those who could be chosen stand
in the order of their arrival. -/
theorem MadeOf.inTurn (made : s.MadeOf w) (bare : ∀ spec ∈ w.processes, spec.requests = [])
    (policy : s.policy = .of .firstCome protocol) (reached : s.Boundary t) :
    t.kernel.InTurn := by
  refine made.along (P := fun t => t.kernel.InTurn) ?_ ?_ reached
  · intro u fresh _
    have nobody : candidates u.kernel = [] := by
      simp [candidates, continuing, fresh.kernel.current, fresh.kernel.queue]
    unfold Kernel.InTurn
    rw [nobody]
    exact .nil
  · intro t g e chosen event before steady turn staged after
    have policy' := (before.policy made.fresh made.early).trans policy
    exact staged.inTurn bare steady after policy' (staged.inTurn_gathered steady.sound turn)

end Simulation

end Uniprocessor
