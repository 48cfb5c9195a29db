import Uniprocessor.Proofs.Protocol.Even
import Uniprocessor.Proofs.Simulation.Accord

/-!
Equal priorities turn every priority discipline into first come, first served.

If all processes of a workload have the same priority and no ceiling is stated, every
ceiling is that priority, and kernels are even at every moment of a run, whatever the
protocol is (`Moment.Even`, `lasting_even`): nobody is ever boosted. All candidates then
have the same key. The running process wins its ties and the head of the ready queue
all others, so a search by priority finds the first candidate and sends nobody back
(`Discipline.inTurn_of_even`).
-/

namespace Uniprocessor

open Policy (continuing candidates)

/-- The kernel is even, and will stay so when the others arrive. -/
structure Moment.Even (c : Int) (m : Moment) : Prop where
  kernel : m.sim.kernel.Even c
  pending : ∀ spec ∈ m.sim.pending, spec.priority = c

variable {m m' : Moment} {s t : Simulation} {c : Int} {d : Discipline}

/-! ### Moves -/

/-- In an orderly kernel whoever owns a resource or stands in a queue is in use. -/
theorem Kernel.Orderly.even {k : Kernel} (order : k.Orderly)
    (boosts : ∀ p, (k.process p).boosts = {}) (base : ∀ p ∈ k.handles, (k.process p).base = c)
    (ceiling : ∀ r v, (k.resource r).ceiling = some v → c ≤ v) : k.Even c :=
  ⟨boosts, base, ceiling, fun r p owned => (order.owners r p owned).2.1,
    fun _ _ mem => order.linked.used mem⟩

/-- Every move keeps kernels even. -/
theorem Sound.even (sound : Sound m) (even : m.Even c) (move : Move m m') : m'.Even c := by
  have ceiling : ∀ r v, (m'.sim.kernel.resource r).ceiling = some v → c ≤ v := by
    intro r v found
    exact even.kernel.ceiling r v (move.ceiling r ▸ found)
  have based : ∀ p ∈ m.sim.kernel.handles, (m'.sim.kernel.process p).base = c := by
    intro p used
    exact (congrArg (·.base) (sound.stays move used).2).trans (even.kernel.base p used)
  have settled := sound.settled move
  have order := (sound.move move).order
  have boosts := even.kernel.boosts
  -- Bases are the same and no ceiling is more urgent, so no boost would be.
  cases move with
  | @arrive s spec later p k next due built same =>
      have mem : spec ∈ s.pending := by rw [next]; exact .head _
      refine ⟨order.even (fun h => ?_) (fun h used => ?_) ceiling, fun i mem => ?_⟩
      · by_cases new : s.kernel.nextHandle = h
        · simp [same.process, new, ProcessSpec.boosts_of_build built]
        · simpa [same.process, new] using boosts h
      · by_cases new : s.kernel.nextHandle = h
        · have base := (ProcessSpec.declares_of_build built).base.trans (even.pending spec mem)
          simpa [same.process, new] using base
        · have joined : k.handles = s.kernel.handles ++ [s.kernel.nextHandle] :=
            same.handles.trans (Kernel.handles_receive sound.roster.fresh p)
          have used : h ∈ k.handles := used
          exact based h (by simpa [joined, Ne.symm new] using used)
      · exact even.pending i (by rw [next]; exact .tail _ mem)
  | settle | elapse | yield => exact ⟨even.kernel, even.pending⟩
  | preempt _ same | idle _ _ same | resume _ same | take _ _ same | leave _ same =>
      obtain ⟨handles, _⟩ := settled nofun
      refine ⟨order.even (fun p => ?_) (fun p used => based p (handles ▸ used)) ceiling,
        even.pending⟩
      simpa [same.process, apply_ite] using boosts p
  | work =>
      obtain ⟨handles, _⟩ := settled nofun
      refine ⟨order.even (fun p => ?_) (fun p used => based p (handles ▸ used)) ceiling,
        even.pending⟩
      simpa [apply_ite] using boosts p
  | @grant s h q later k next due free ran alike memory =>
      obtain ⟨current, _, used, _⟩ := sound.running rfl
      exact ⟨Protocol.even_acquire even.kernel current used ran, even.pending⟩
  | @refuse s h owner q later k next due owned ran alike tracked =>
      obtain ⟨current, _, used, _⟩ := sound.running rfl
      exact ⟨Protocol.even_acquire even.kernel current used ran, even.pending⟩
  | @giveBack s h r left todo k found last ran alike tracked =>
      obtain ⟨current, _, used, _⟩ := sound.running rfl
      exact ⟨Protocol.even_release even.kernel current used ran, even.pending⟩

theorem lasting_even : Lasting (Moment.Even c) where
  move := Sound.even
  close _ even := ⟨even.kernel.congr (by simp) (by simp) (by simp) (by simp)
    (by simpa using even.kernel.owner) (by simpa using even.kernel.member), even.pending⟩

/-- At the start nobody is boosted. -/
theorem Simulation.Fresh.even (fresh : s.Fresh)
    (ceiling : ∀ r v, (s.kernel.resource r).ceiling = some v → c ≤ v)
    (pending : ∀ spec ∈ s.pending, spec.priority = c) : Moment.Even c ⟨.arriving, s⟩ := by
  refine ⟨fresh.kernel.orderly.even (fun p => ?_) (fun p used => ?_) ceiling, pending⟩
  · rw [Kernel.process_of_unused (by simp [fresh.kernel.handles])]
    rfl
  · rw [fresh.kernel.handles] at used
    cases used

theorem Simulation.Boundary.even (fresh : s.Fresh) (early : s.started = false)
    (ceiling : ∀ r v, (s.kernel.resource r).ceiling = some v → c ≤ v)
    (pending : ∀ spec ∈ s.pending, spec.priority = c) (reached : s.Boundary t) :
    Moment.Even c ⟨.arriving, t⟩ :=
  (lasting_even.boundary_of_begun fresh early (fresh.even ceiling pending)
    (fun _ alike fresh' => fresh'.even (fun r v found => ceiling r v (alike.ceiling r ▸ found))
      pending) reached).2

/-! ### Choices -/

/-- Where all keys are the same the first member is the least. -/
theorem minOn?_eq_head? {α : Type} {f : α → Int} {l : List α} (same : ∀ a ∈ l, f a = c) :
    l.minOn? f = l.head? := by
  induction l with
  | nil => rfl
  | cons a l ih =>
      rw [List.minOn?_cons, ih fun b mem => same b (.tail _ mem)]
      cases l with
      | nil => rfl
      | cons b l =>
          have tie : f a ≤ f b := by rw [same a (.head _), same b (.tail _ (.head _))]
          simp [minOn, tie]

/-- Where all are equally urgent a search by priority goes in turn. -/
theorem Discipline.inTurn_of_even {k : Kernel} (even : k.Even c)
    (sees : d.ignoresPriority = false) : d.InTurn k := by
  have used : ∀ h ∈ candidates k, h ∈ k.handles := by
    intro h mem
    rcases List.mem_append.mp mem with goes | waits
    · exact Policy.used_of_running (Policy.running_of_continuing (Option.mem_toList.mp goes))
    · exact even.member _ h waits
  have first : (candidates k).minOn? (fun h => (k.process h).priority) = (candidates k).head? :=
    minOn?_eq_head? fun h mem => even.priority (used h mem)
  have decided : d.decision k = Policy.leastOf Process.priority k := by
    cases d <;> first | rfl | cases sees
  unfold InTurn
  rw [decided]
  refine ⟨first, ?_⟩
  unfold Policy.leastOf
  rw [first]
  cases goes : continuing k with
  | none => rfl
  | some h => simp [candidates, goes, Option.filter]

theorem Simulation.goesInTurn_of_even (fresh : s.Fresh) (early : s.started = false)
    (ceiling : ∀ r v, (s.kernel.resource r).ceiling = some v → c ≤ v)
    (pending : ∀ spec ∈ s.pending, spec.priority = c) (sees : d.ignoresPriority = false) :
    s.GoesInTurn d := by
  intro n g chosen picks
  obtain ⟨u, e, event, ticks⟩ := picks.ticks fresh early
  have even := ticks.boundary.even fresh early ceiling pending
  exact Discipline.inTurn_of_even
    (lasting_even.reaches ticks.sound even ticks.staged.arrived).kernel sees

/-- If all processes of a parsed workload have the same priority and no ceiling is stated,
a discipline that goes by priority boosts nobody at any moment of any tick, under any protocol,
and makes the same run as first come, first served: the simulations agree after any number of
steps, and the reports of the runs differ in the name of the policy only. -/
theorem equal_priorities_firstCome {text : Text} {w : Workload} {resources c : Int}
    {d : Discipline} (parsed : Workload.ofText text = .ok w) (positive : 0 < resources)
    (fits : ∀ r ∈ w.resourceIds, r < resources) (implied : w.explicitCeilings = {})
    (equal : ∀ spec ∈ w.processes, spec.priority = c) (sees : d.ignoresPriority = false)
    (p p' : Protocol) (limit : Option Int) :
    ∃ s t, Simulation.create w (.of d p) resources limit = .ok s ∧
      Simulation.create w (.of .firstCome p') resources limit = .ok t ∧
      (∀ u m, s.Boundary u → Moment.Reaches ⟨.arriving, u⟩ m →
        ∀ h, (m.sim.kernel.process h).boosts = {}) ∧
      (∀ n, ∃ u, EStateM.run (SimulationM.steps n) s = .ok () u ∧ s.Boundary u) ∧
      s.RunsAlike t := by
  obtain ⟨k, s, created, fresh, is, capped⟩ := Simulation.create_of_valid_capped
    (Workload.valid_ofText parsed) positive fits d p limit
  have early : s.started = false := by rw [is]
  have policy : s.policy = .of d p := by rw [is]
  have ceiling : ∀ r v, (s.kernel.resource r).ceiling = some v → c ≤ v := by
    intro r v found
    have stated : w.ceilings.get? r = some v := by
      rw [← capped r, ← found, is]
    obtain ⟨spec, mem, rfl, _⟩ := ((Workload.isLeast_ceiling implied).mp stated).1
    exact (equal spec mem).ge
  have pending : ∀ spec ∈ s.pending, spec.priority = c := by
    intro spec mem
    rw [is] at mem
    exact equal spec (List.mem_mergeSort.mp mem)
  obtain ⟨t, created', alike⟩ := Simulation.runsAlike_of_created created fresh policy early
    (by rw [is]; rfl) (Simulation.goesInTurn_of_even fresh early ceiling pending sees) p'
  refine ⟨s, t, created, created', fun u m reached moves => ?_,
    SimulationM.run_steps fresh early, alike⟩
  have even := reached.even fresh early ceiling pending
  exact (lasting_even.reaches (reached.sound fresh early) even moves).kernel.boosts

/-- A workload in which a process comes for what another one of its priority holds. -/
def Workload.tie : Text :=
  Text.ofString ("process 1 \x7b\n lifespan 3\n acquire 0 0 2\n\x7d\n" ++
    "process 2 \x7b\n start 1\n lifespan 2\n acquire 0 0 1\n\x7d\n")

def Workload.tied : Workload where
  processes := [
    { pid := 1, lifespan := 3, requests := [⟨0, 0, 2⟩] },
    { pid := 2, lifespan := 2, arrival := 1, requests := [⟨0, 0, 1⟩] }]

theorem Workload.ofText_tie : ofText tie = .ok tied := by decide +kernel

theorem equal_priorities_firstCome_tie :
    ∃ s t, Simulation.create .tied (.of .priorityInheritance .inheritance) 1 none = .ok s ∧
      Simulation.create .tied (.of .firstCome .fifo) 1 none = .ok t ∧
      (∀ u m, s.Boundary u → Moment.Reaches ⟨.arriving, u⟩ m →
        ∀ h, (m.sim.kernel.process h).boosts = {}) ∧
      (∀ n, ∃ u, EStateM.run (SimulationM.steps n) s = .ok () u ∧ s.Boundary u) ∧
      s.RunsAlike t :=
  equal_priorities_firstCome Workload.ofText_tie (by decide) (by decide +kernel) rfl
    (c := defaultPriority) (by decide) rfl .inheritance .fifo none

end Uniprocessor
