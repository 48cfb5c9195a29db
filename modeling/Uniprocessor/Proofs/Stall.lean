import Mathlib
import Uniprocessor.Proofs.Protocol.Chain
import Uniprocessor.Proofs.Wakeups

/-!
Stall detection is exact.

A simulation counts as stuck where nobody is still to come, nobody can run and
somebody sleeps. That is a deadlock: every process that has not left waits on
another one that waits too, and following owners leads into a circle
(`Simulation.Deadlocked`), since a free resource with waiters would have somebody
ready who comes for it. It is one for good: all further ticks are idle, so no
step ever does any work or changes the state of a process (`Simulation.Still`).

Conversely a simulation that is still for good, with nobody to come and somebody
left, is stuck: every discipline names somebody where somebody can run, and
whoever is named grows older or falls asleep (`Moment.Spent`). That it does no
more work is not enough. A process that can run may be about to fall asleep as
the last one, and until it does so nothing is stuck (`not_stuck_before_last_refusal`).
-/

namespace Uniprocessor

namespace Simulation

/-- No process has grown older or changed its state from one to the other. -/
def Unmoved (t u : Simulation) : Prop :=
  ∀ h, (u.kernel.process h).age = (t.kernel.process h).age ∧
    (u.kernel.process h).state = (t.kernel.process h).state

/-- No number of steps does any work or changes the state of a process. -/
def Still (t : Simulation) : Prop :=
  ∀ n, ∃ u, EStateM.run (SimulationM.steps n) t = .ok () u ∧ t.Unmoved u

/-- Whoever has not left waits on another one that waits too, and following
owners leads into a circle. -/
def Deadlocked (t : Simulation) : Prop :=
  ∀ h ∈ t.kernel.handles, (t.kernel.process h).state ≠ .exited →
    (t.kernel.process h).state = .waiting ∧
    (∃ o, t.kernel.WaitsOn h o ∧ o ≠ h ∧ (t.kernel.process o).state = .waiting) ∧
    t.kernel.Circles h

/-- Nobody is still to come, and nobody can run. -/
structure Dormant (t : Simulation) : Prop where
  pending : t.pending = []
  ready : t.kernel.queue .ready = []
  free : Policy.continuing t.kernel = none

end Simulation

/-- What the process at work has come to since the choice: nobody is older yet, or
it has done its tick of work, or it has fallen asleep. -/
def Moment.Spent (age : Handle → Nat) (m : Moment) : Prop :=
  match m.phase with
  | .arriving => False
  | .choosing | .issuing _ => ∀ j, (m.sim.kernel.process j).age = age j
  | .expiring h _ | .closing (some h) .run | .closing (some h) .exit =>
      (m.sim.kernel.process h).age = age h + 1
  | .closing (some h) .blocked => (m.sim.kernel.process h).state = .waiting
  | .closing (some _) .idle => False
  | .closing none _ => True

variable {s t u : Simulation} {h : Handle} {m m' : Moment}

/-! ### Deadlock -/

namespace Simulation

theorem stuck_iff : t.stuck = true ↔ t.Dormant ∧ ∃ p ∈ t.processes, asleep p = true := by
  simp only [stuck, Bool.and_eq_true, List.isEmpty_iff, Option.isNone_iff_eq_none,
    List.any_eq_true, Kernel.ready_eq]
  constructor
  · rintro ⟨⟨⟨pending, ready⟩, free⟩, somebody⟩
    exact ⟨⟨pending, ready, free⟩, somebody⟩
  · rintro ⟨⟨pending, ready, free⟩, somebody⟩
    exact ⟨⟨⟨pending, ready⟩, free⟩, somebody⟩

/-- Where nobody can run, whoever has not left is in the queue of a resource. -/
theorem Dormant.waiting (dormant : t.Dormant) (sound : Sound ⟨.arriving, t⟩)
    (used : h ∈ t.kernel.handles) (present : (t.kernel.process h).state ≠ .exited) :
    (t.kernel.process h).state = .waiting ∧ ∃ r, h ∈ t.kernel.queue (.waiting r) := by
  cases sound.order.placed h used with
  | ready _ marked =>
      have mem := (sound.order.linked.mark h _).mp marked
      rw [dormant.ready] at mem
      cases mem
  | running running => exact absurd running (sound.idle_of_free rfl dormant.free h used)
  | waiting r state marked => exact ⟨state, r, (sound.order.linked.mark h _).mp marked⟩
  | exited gone => exact absurd gone present

/-- Where nobody can run, everything that somebody waits for is owned. -/
theorem Dormant.owned (dormant : t.Dormant) (attended : t.Attended) {r : Int}
    (mem : h ∈ t.kernel.queue (.waiting r)) : (t.kernel.resource r).owner ≠ none := by
  intro free
  obtain ⟨j, ready, _⟩ := attended r ⟨free, List.ne_nil_of_mem mem⟩
  rw [dormant.ready] at ready
  cases ready

/-- Where nobody can run, everybody who has not left is part of a deadlock. -/
theorem Dormant.deadlocked (dormant : t.Dormant) (sound : Sound ⟨.arriving, t⟩)
    (attended : t.Attended) : t.Deadlocked := by
  intro h used present
  obtain ⟨state, r, mem⟩ := dormant.waiting sound used present
  obtain ⟨o, owner⟩ := Option.ne_none_iff_exists'.mp (dormant.owned attended mem)
  obtain ⟨_, used', present', apart⟩ := sound.order.owners r o owner
  have other : o ≠ h := by
    rintro rfl
    exact apart ((sound.order.linked.mark o _).mpr mem)
  refine ⟨state, ⟨o, ⟨r, owner, mem⟩, other, (dormant.waiting sound used' present').1⟩, ?_⟩
  -- A chain that leads into no circle would end at somebody who can run.
  apply Classical.byContradiction
  intro straight
  obtain ⟨e, used'', _, ready | running⟩ := sound.order.chain_ends_able used present straight
    fun q r _ mem => dormant.owned attended mem
  · rw [dormant.ready] at ready
    cases ready
  · exact sound.idle_of_free rfl dormant.free e used'' running

/-! ### Nothing moves any more -/

theorem Unmoved.refl (t : Simulation) : t.Unmoved t := fun _ => ⟨rfl, rfl⟩

theorem Unmoved.trans {v : Simulation} (first : t.Unmoved u) (second : u.Unmoved v) :
    t.Unmoved v := by
  intro h
  exact ⟨(second h).1.trans (first h).1, (second h).2.trans (first h).2⟩

theorem Unmoved.alike (alike : t.kernel.Alike u.kernel) : t.Unmoved u :=
  fun h => ⟨alike.age h, alike.state h⟩

/-- Where nobody is still to come, the choice is made at once. -/
theorem gathered_of_nobody {g e : Simulation} {chosen : Option Handle} {event : TickEvent}
    (nobody : t.pending = []) (staged : SimulationM.Staged t g e chosen event) : g = t := by
  have gathered := staged.gathered
  rw [nobody] at gathered
  cases gathered
  rfl

/-- A tick in which nobody can run is idle and leaves everything as it is. -/
theorem Dormant.tick (dormant : t.Dormant) (sound : Sound ⟨.arriving, t⟩) :
    ∃ line u, EStateM.run SimulationM.tick t = .ok line u ∧ u.Dormant ∧ t.Unmoved u ∧
      line.event = .idle := by
  obtain ⟨g, e, chosen, event, staged⟩ := SimulationM.run_staged sound
  have here := gathered_of_nobody dormant.pending staged
  subst here
  obtain ⟨k, _, choice⟩ := staged.chose
  -- Nobody can be chosen, so the tick is a single move, an idle one.
  cases chosen with
  | some h =>
      rcases choice.candidate with goes | mem
      · rw [dormant.free] at goes
        cases goes
      · rw [dormant.ready] at mem
        cases mem
  | none =>
      obtain ⟨rfl, move⟩ := staged.rests rfl
      cases move with
      | idle free empty same =>
          refine ⟨_, _, staged.ended, ⟨dormant.pending, ?_, ?_⟩, ?_, rfl⟩
          · simp [same.queue, dormant.ready]
          · simp [Policy.continuing, same.current]
          · intro h
            simp [same.process]

theorem dormant_iff_of_alike (alike : t.kernel.Alike u.kernel) (pending : u.pending = t.pending) :
    u.Dormant ↔ t.Dormant := by
  have able : ∀ h, (u.kernel.process h).canContinue = (t.kernel.process h).canContinue :=
    alike.view Process.canContinue fun _ => rfl
  have free : Policy.continuing u.kernel = Policy.continuing t.kernel := by
    simp only [Policy.continuing, alike.current, able]
  constructor
  · intro dormant
    exact ⟨pending ▸ dormant.pending, (alike.queue _) ▸ dormant.ready, free ▸ dormant.free⟩
  · intro dormant
    exact ⟨pending.trans dormant.pending, (alike.queue _).trans dormant.ready,
      free.trans dormant.free⟩

/-- From a boundary at which nobody can run, no step moves anything. -/
theorem Dormant.still (dormant : t.Dormant) (fresh : s.Fresh) (early : s.started = false)
    (reached : s.Boundary t) : t.Still := by
  intro n
  induction n generalizing t with
  | zero => exact ⟨t, rfl, .refl t⟩
  | succ n ih =>
      obtain ⟨t', begun, reached', started, alike, is⟩ := reached.begin fresh early
      have dormant' := (dormant_iff_of_alike alike (by rw [is])).mpr dormant
      obtain ⟨line, u, ran, dormant'', unmoved, _⟩ := dormant'.tick (reached'.sound fresh early)
      obtain ⟨v, rest, unmoved'⟩ := ih dormant'' (.ticked reached' started ran)
      refine ⟨v, ?_, ((Unmoved.alike alike).trans unmoved).trans unmoved'⟩
      have stepped := (SimulationM.run_step_of_begun begun).trans ran
      exact (EStateM.run_bind_of_ok stepped _).trans rest

end Simulation

/-! ### Where somebody can run something moves -/

/-- Whoever is at work does its tick of work or falls asleep. -/
theorem Sound.spent {age : Handle → Nat} (sound : Sound m) (spent : m.Spent age)
    (move : Move m m') : m'.Spent age := by
  cases move with
  | arrive | settle => cases spent
  | @preempt s h k goes same =>
      intro j
      by_cases own : h = j <;> simpa [same.process, own] using spent j
  | idle => trivial
  | resume goes same =>
      intro j
      simpa [same.process] using spent j
  | @take s h k switches free mem same =>
      intro j
      by_cases own : h = j <;> simpa [same.process, own] using spent j
  | grant next due free ran alike memory =>
      intro j
      simpa [alike.age] using spent j
  | refuse next due owned ran alike tracked => simp [Moment.Spent, alike.state]
  | @work s h satisfied => simpa [Moment.Spent] using spent h
  | elapse found more => exact spent
  | @giveBack s h r left todo k found last ran alike tracked =>
      have awake : (s.kernel.queue (.waiting r)).head? ≠ some h := sound.not_waiting rfl
      simpa [Moment.Spent, alike.age, awake] using spent
  | yield unfinished => exact spent
  | leave finished same => simpa [Moment.Spent, same.process] using spent

/-- A tick in which somebody can run moves somebody. -/
theorem Sound.moved (sound : Sound ⟨.arriving, t⟩) (nobody : t.pending = [])
    (able : ¬ t.Dormant) {line : TickRecord}
    (ran : EStateM.run SimulationM.tick t = .ok line u) : ¬ t.Unmoved u := by
  intro unmoved
  obtain ⟨g, e, chosen, event, staged⟩ := SimulationM.run_staged sound
  have here := Simulation.gathered_of_nobody nobody staged
  subst here
  obtain ⟨k, _, choice⟩ := staged.chose
  have gathered : Sound ⟨.choosing, g⟩ := sound.reaches staged.arrived
  -- Nobody is chosen only if nobody can be. Whoever is chosen grows older or falls asleep.
  cases chosen with
  | none =>
      obtain ⟨free, empty, _⟩ := choice.of_none
      exact able ⟨nobody, empty, free⟩
  | some h =>
      have awake : (g.kernel.process h).state ≠ .waiting := by
        rcases (gathered.able_of_named choice).2 with state | state <;> simp [state]
      have spent : Moment.Spent (fun j => (g.kernel.process j).age) ⟨.closing (some h) event, e⟩ :=
        gathered.keeps Sound.spent (fun _ => rfl) staged.acts
      have same := staged.ended.symm.trans ran
      cases same
      obtain ⟨age, state⟩ := unmoved h
      cases event with
      | run | exit =>
          have older : (e.kernel.process h).age = (g.kernel.process h).age + 1 := spent
          have age : (e.kernel.process h).age = (g.kernel.process h).age := by simpa using age
          omega
      | blocked =>
          have asleep : (e.kernel.process h).state = .waiting := spent
          have state : (e.kernel.process h).state = (g.kernel.process h).state := by
            simpa using state
          exact awake (state ▸ asleep)
      | idle => exact spent

/-- A simulation that is still for good, with nobody to come and somebody left, is stuck. -/
theorem Simulation.Boundary.stuck_of_still (fresh : s.Fresh) (early : s.started = false)
    (reached : s.Boundary t) (nobody : t.pending = []) (left : t.done = false)
    (still : t.Still) : t.stuck = true := by
  have sound := reached.sound fresh early
  have dormant : t.Dormant := by
    -- If somebody could run, the next tick would move it.
    apply Classical.byContradiction
    intro able
    obtain ⟨t', begun, reached', _, alike, is⟩ := reached.begin fresh early
    have pending : t'.pending = t.pending := by rw [is]
    obtain ⟨line, u, ran, _⟩ :=
      Lasting.sound.run_tick (reached'.sound fresh early) trivial
    have stepped : EStateM.run (SimulationM.steps 1) t = .ok () u :=
      EStateM.run_bind_of_ok ((SimulationM.run_step_of_begun begun).trans ran) _
    obtain ⟨v, ran', unmoved⟩ := still 1
    have same := stepped.symm.trans ran'
    cases same
    refine (reached'.sound fresh early).moved (pending.trans nobody)
      (fun dormant => able ((dormant_iff_of_alike alike pending).mp dormant)) ran ?_
    intro h
    exact ⟨(unmoved h).1.trans (alike.age h).symm, (unmoved h).2.trans (alike.state h).symm⟩
  refine stuck_iff.mpr ⟨dormant, ?_⟩
  obtain ⟨p, mem, present⟩ : ∃ p ∈ t.processes, p.state ≠ .exited := by
    simpa [done, nobody] using left
  have listed := mem
  rw [sound.roster.processes] at listed
  obtain ⟨h, used, rfl⟩ := List.mem_map.mp listed
  exact ⟨_, mem, by simp [asleep, (dormant.waiting sound used present).1]⟩

/-! ### Exactness -/

/-- After any number of steps on a parsed workload, under every built-in policy
and protocol: if the simulation is stuck then everybody who has not left waits on
another one that waits too, in a circle, and no step ever moves anything again.
Conversely, if nobody is still to come, somebody has not left and no step ever
moves anything, then the simulation is stuck. -/
theorem stall_exact {text : Text} {w : Workload} {resources : Int}
    (parsed : Workload.ofText text = .ok w) (positive : 0 < resources)
    (fits : ∀ r ∈ w.resourceIds, r < resources) (d : Discipline) (protocol : Protocol)
    (limit : Option Int) (n : Nat) :
    ∃ s t, Simulation.create w (.of d protocol) resources limit = .ok s ∧
      EStateM.run (SimulationM.steps n) s = .ok () t ∧
      (t.stuck = true → t.Deadlocked ∧ t.Still) ∧
      (t.pending = [] → t.done = false → t.Still → t.stuck = true) := by
  obtain ⟨k, s, created, fresh, is⟩ := Simulation.create_of_valid (Workload.valid_ofText parsed)
    positive fits d protocol limit
  have early : s.started = false := by rw [is]
  obtain ⟨t, ran, reached⟩ := SimulationM.run_steps fresh early n
  refine ⟨s, t, created, ran, ?_, reached.stuck_of_still fresh early⟩
  intro stuck
  have dormant := (Simulation.stuck_iff.mp stuck).1
  obtain ⟨sound, attended⟩ :=
    lasting_attended.boundary fresh early (fun _ fresh' _ => fresh'.attended) reached
  exact ⟨dormant.deadlocked sound (attended.between nofun), dormant.still fresh early reached⟩

/-- Two processes that hold a resource each and ask for the other one. -/
def Workload.crossing : Text :=
  Text.ofString ("process 1 \x7b\n lifespan 3\n acquire 0 0 2\n acquire 1 1 2\n\x7d\n" ++
    "process 2 \x7b\n lifespan 3\n acquire 1 0 2\n acquire 0 1 2\n\x7d\n")

def Workload.crossed : Workload where
  processes := [
    { pid := 1, lifespan := 3, requests := [⟨0, 0, 2⟩, ⟨1, 1, 2⟩] },
    { pid := 2, lifespan := 3, requests := [⟨1, 0, 2⟩, ⟨0, 1, 2⟩] }]

set_option maxRecDepth 10000 in
theorem Workload.ofText_crossing : ofText crossing = .ok crossed := by decide_cbv

theorem Workload.resourceIds_crossed : crossed.resourceIds = [0, 1] := by decide_cbv

/-- After four steps each of the two waits for the other one. -/
theorem stuck_crossed :
    (Simulation.after .crossed (.of (.roundRobin 1) .fifo) 2 4).any
      (fun t => t.stuck ∧ t.pending.isEmpty ∧ t.done = false) = true := by
  decide_cbv

theorem stall_exact_crossed :
    ∃ s t, Simulation.create .crossed (.of (.roundRobin 1) .fifo) 2 none = .ok s ∧
      EStateM.run (SimulationM.steps 4) s = .ok () t ∧
      (t.stuck = true ∧ t.pending = [] ∧ t.done = false) ∧
      (t.stuck = true → t.Deadlocked ∧ t.Still) ∧
      (t.pending = [] → t.done = false → t.Still → t.stuck = true) := by
  have positive : (0 : Int) < 2 := by decide
  have fits : ∀ r ∈ Workload.crossed.resourceIds, r < (2 : Int) := by
    simp [Workload.resourceIds_crossed]
  obtain ⟨u, after, here⟩ := (Option.any_eq_true _ _).mp stuck_crossed
  obtain ⟨stuck, nobody, left⟩ := of_decide_eq_true here
  obtain ⟨r, created', ran'⟩ := Simulation.after_eq_some after
  obtain ⟨s, t, created, ran, exactly⟩ :=
    stall_exact Workload.ofText_crossing positive fits (.roundRobin 1) .fifo none 4
  cases created.symm.trans created'
  cases ran.symm.trans ran'
  exact ⟨_, _, created, ran, ⟨stuck, List.isEmpty_iff.mp nobody, left⟩, exactly⟩

/-! ### The last refusal -/

/-- Nobody is to come, somebody is left and nothing is stuck; one step more does
no work and wakes nobody, and then everything is stuck. -/
def Simulation.Hesitates (t : Simulation) : Prop :=
  t.pending = [] ∧ t.done = false ∧ t.stuck = false ∧
    match EStateM.run (SimulationM.steps 1) t with
    | .error _ _ => False
    | .ok _ u => u.stuck = true ∧ u.kernel.handles = t.kernel.handles ∧
        ∀ h ∈ t.kernel.handles, (u.kernel.process h).age = (t.kernel.process h).age ∧
          ((t.kernel.process h).state = .waiting → (u.kernel.process h).state = .waiting)

instance (t : Simulation) : Decidable t.Hesitates := by
  unfold Simulation.Hesitates
  cases EStateM.run (SimulationM.steps 1) t <;> infer_instance

/-- After three steps the first process sleeps, and the second is about to ask for
what the first one holds. -/
theorem hesitates_crossed :
    (Simulation.after .crossed (.of (.roundRobin 1) .fifo) 2 3).any (·.Hesitates) = true := by
  decide_cbv

/-- No number of steps does any work or wakes anybody. -/
def Simulation.Fruitless (t : Simulation) : Prop :=
  ∀ n, ∃ u, EStateM.run (SimulationM.steps n) t = .ok () u ∧
    ∀ h, (u.kernel.process h).age = (t.kernel.process h).age ∧
      ((t.kernel.process h).state = .waiting → (u.kernel.process h).state = .waiting)

/-- Where one step more makes everything stuck, no step bears fruit. -/
theorem Simulation.Hesitates.fruitless (hesitates : t.Hesitates) (fresh : s.Fresh)
    (early : s.started = false) (reached : s.Boundary t) : t.Fruitless := by
  obtain ⟨u, ran, reached'⟩ := reached.steps fresh early 1
  obtain ⟨_, _, _, rest⟩ := hesitates
  rw [ran] at rest
  obtain ⟨stuck, handles, kept⟩ := rest
  have still : u.Still := (stuck_iff.mp stuck).1.still fresh early reached'
  intro n
  cases n with
  | zero => exact ⟨t, rfl, fun _ => ⟨rfl, id⟩⟩
  | succ n =>
      obtain ⟨v, rest, unmoved⟩ := still n
      refine ⟨v, SimulationM.run_steps_succ ran rest, ?_⟩
      intro h
      by_cases used : h ∈ t.kernel.handles
      · obtain ⟨age, waits⟩ := kept h used
        exact ⟨(unmoved h).1.trans age, fun asleep => (unmoved h).2.trans (waits asleep)⟩
      · have same : u.kernel.process h = t.kernel.process h := by
          rw [Kernel.process_of_unused used, Kernel.process_of_unused (handles ▸ used)]
        rw [← same]
        exact ⟨(unmoved h).1, fun asleep => (unmoved h).2.trans asleep⟩

/-- A simulation need not be stuck although nobody is to come, somebody is left,
and no number of steps does any work or wakes anybody: a process that is ready
may still have to fall asleep. -/
theorem not_stuck_before_last_refusal :
    ∃ w s t, Workload.ofText Workload.crossing = .ok w ∧
      Simulation.create w (.of (.roundRobin 1) .fifo) 2 none = .ok s ∧
      EStateM.run (SimulationM.steps 3) s = .ok () t ∧
      t.pending = [] ∧ t.done = false ∧ t.Fruitless ∧ t.stuck = false := by
  obtain ⟨t, after, hesitates⟩ := (Option.any_eq_true _ _).mp hesitates_crossed
  have hesitates := of_decide_eq_true hesitates
  obtain ⟨s, created, ran⟩ := Simulation.after_eq_some after
  have positive : (0 : Int) < 2 := by decide
  have fits : ∀ r ∈ Workload.crossed.resourceIds, r < (2 : Int) := by
    simp [Workload.resourceIds_crossed]
  obtain ⟨fresh, early, reached⟩ := Simulation.boundary_of_steps
    (Workload.valid_ofText Workload.ofText_crossing) positive fits created ran
  exact ⟨_, s, t, Workload.ofText_crossing, created, ran, hesitates.1, hesitates.2.1,
    hesitates.fruitless fresh early reached, hesitates.2.2.1⟩

end Uniprocessor
