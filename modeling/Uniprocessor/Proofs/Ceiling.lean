import Mathlib
import Uniprocessor.Proofs.Protocol.Ceiling
import Uniprocessor.Proofs.Simulation.Run

/-!
Ceilings keep processes from blocking, up to ties.

Where no ceiling is stated, every resource has the most urgent priority among
those who request it, so the ceilings cover everybody (`Simulation.Smooth`).
Whoever is named under the priority ceiling policy is most urgent, and no owner
of what it may need is less urgent. So it leads, unless it ties with such an
owner (`Sound.leads`), and whoever leads is granted what it asks for: all moves
of its tick keep things smooth (`Sound.works`).

A tie is decided for the running process and then by the order of the ready
queue. An owner that has been preempted stands at the tail, and may lose. The
first process that is named although another one owns what it may need is exactly
as urgent as that owner, and before that nobody blocks
(`ceiling_never_blocks_before_tie`). After it there may be a deadlock
(`ceiling_deadlock`).
-/

namespace Uniprocessor

/-- The process may need what another one owns that is exactly as urgent. -/
def Kernel.Ties (k : Kernel) (h : Handle) : Prop :=
  ∃ r o, k.Declares h r ∧ (k.resource r).owner = some o ∧ o ≠ h ∧
    (k.process o).priority = (k.process h).priority

/-- In none of the first steps is somebody named who ties with the owner of what
it may need. -/
def Simulation.Decisive (s : Simulation) (n : Nat) : Prop :=
  ∀ i < n, ∀ t g h, EStateM.run (SimulationM.steps i) s = .ok () t → t.Picks g (some h) →
    ¬ g.kernel.Ties h

/-- The ceilings do their work and cover those who are still to come, and nobody
has been blocked so far. -/
structure Simulation.Smooth (s : Simulation) : Prop where
  policy : s.policy = .of .priorityCeiling .ceiling
  guarded : s.kernel.Guarded
  covered : ∀ spec ∈ s.pending, ∀ q ∈ spec.requests,
    ∃ v, (s.kernel.resource q.resource).ceiling = some v ∧ v ≤ spec.priority
  timeline : ∀ line ∈ s.timeline, line.event ≠ .blocked
  unstalled : s.stalled = false

/-- Before the choice of a tick all is smooth. -/
def Moment.Gathers (m : Moment) : Prop :=
  match m.phase with
  | .arriving | .choosing => m.sim.Smooth
  | _ => True

/-- After the choice all is smooth, the process that asks leads, and it is not
refused. -/
def Moment.Works (m : Moment) : Prop :=
  match m.phase with
  | .arriving | .choosing => False
  | .issuing h => m.sim.Smooth ∧ m.sim.kernel.Leads h
  | .expiring _ _ => m.sim.Smooth
  | .closing _ event => m.sim.Smooth ∧ event ≠ .blocked

variable {m m' : Moment} {s t g e : Simulation} {h : Handle} {chosen : Option Handle}
  {event : TickEvent}

namespace Simulation.Smooth

/-- What moves must leave as it is. -/
theorem moves (smooth : m.sim.Smooth) (moves : m.Reaches m') (guarded : m'.sim.kernel.Guarded)
    (ceiling : ∀ r, (m'.sim.kernel.resource r).ceiling = (m.sim.kernel.resource r).ceiling)
    (pending : ∀ spec ∈ m'.sim.pending, spec ∈ m.sim.pending) : m'.sim.Smooth where
  policy := by
    rw [show m'.sim.policy = m.sim.policy from congrArg (·.policy) moves.unchanged]
    exact smooth.policy
  guarded := guarded
  covered spec mem q asked := by
    rw [ceiling]
    exact smooth.covered spec (pending spec mem) q asked
  timeline := by
    rw [show m'.sim.timeline = m.sim.timeline from congrArg (·.timeline) moves.unchanged]
    exact smooth.timeline
  unstalled := (congrArg (·.stalled) moves.unchanged).trans smooth.unstalled

/-- A choice leaves all smooth. -/
theorem shuffled {phase : Phase} (smooth : g.Smooth) (shuffled : g.kernel.Shuffled s.kernel)
    (moves : Moment.Reaches ⟨.choosing, g⟩ ⟨phase, s⟩) : s.Smooth := by
  have pending : s.pending = g.pending := moves.pending nofun
  exact smooth.moves moves (smooth.guarded.shuffled shuffled) shuffled.ceiling
    fun spec mem => pending ▸ mem

/-- The end of a tick on which nobody was blocked. -/
theorem close {line : TickRecord} (smooth : s.Smooth) (free : line.event ≠ .blocked) :
    (s.close line).Smooth where
  policy := smooth.policy
  guarded := smooth.guarded.congr (fun _ => rfl) (fun _ => rfl) (fun _ => rfl) (fun _ => rfl) rfl
    fun _ => id
  covered := smooth.covered
  timeline i mem := by
    rcases Array.mem_push.mp mem with old | rfl
    · exact smooth.timeline i old
    · exact free
  unstalled := smooth.unstalled

/-- Nobody sleeps, so nothing is stuck. -/
theorem not_stuck (smooth : s.Smooth) (sound : Sound ⟨.arriving, s⟩) : s.stuck = false := by
  have awake : s.processes.any asleep = false := by
    rw [List.any_eq_false]
    intro p mem
    rw [sound.roster.processes] at mem
    obtain ⟨h, used, rfl⟩ := List.mem_map.mp mem
    cases sound.order.placed h used with
    | ready state | running state | exited state => simp [asleep, state]
    | waiting r _ marked => exact absurd marked (smooth.guarded.not_waiting sound.order h r)
  simp [stuck, awake]

end Simulation.Smooth

/-! ### Before the choice -/

namespace Sound

/-- Those who arrive are covered by the ceilings. -/
theorem gathers (sound : Sound m) (gathers : m.Gathers) (move : Move m m') : m'.Gathers := by
  cases move with
  | @arrive s spec later p k next due built same =>
      have smooth : s.Smooth := gathers
      have mem : spec ∈ s.pending := by
        rw [next]
        exact .head _
      obtain ⟨p', built', _, _, _, requests, base, _, _, boosts, _⟩ :=
        (sound.roster.pending spec mem).1.build
      obtain rfl : p = p' := Except.ok.inj (built.symm.trans built')
      have joins := Kernel.joins_of_receive sound.roster.fresh boosts same
      refine smooth.moves (.single <| .arrive next due built same) ?_ joins.ceiling ?_
      · apply smooth.guarded.join sound.order joins
        intro q asked
        have asked : q ∈ spec.requests := by simpa [same.process, requests] using asked
        simpa [same.process, base] using smooth.covered spec mem q asked
      · intro i mem
        rw [next]
        exact List.mem_cons_of_mem _ mem
  | settle early => exact gathers
  | preempt goes same =>
      have shuffled := sound.shuffled (.preempt goes same)
      have smooth : Simulation.Smooth _ := gathers
      exact smooth.moves (.single <| .preempt goes same) (smooth.guarded.shuffled shuffled)
        shuffled.ceiling fun _ => id
  | idle | resume | take | grant | refuse | work | elapse | giveBack | yield | leave => trivial

theorem smooth_of_arrivals (sound : Sound ⟨.arriving, s⟩) (smooth : s.Smooth)
    (arrivals : Moment.Reaches ⟨.arriving, s⟩ ⟨.choosing, g⟩) : g.Smooth :=
  sound.keeps Sound.gathers (show Moment.Gathers ⟨.arriving, s⟩ from smooth) arrivals

/-! ### The choice -/

variable {k : Kernel}

/-- Nobody is more urgent than the one named. -/
theorem priority_le_of_named (sound : Sound ⟨.choosing, g⟩) (smooth : g.Smooth)
    (scheduled : g.policy.schedule.run g.kernel = .ok (some h) k) {x : Handle}
    (here : g.kernel.Present x) :
    (g.kernel.process h).priority ≤ (g.kernel.process x).priority := by
  have able : x ∈ g.kernel.queue .ready ∨ (g.kernel.process x).state = .running := by
    cases sound.order.placed x here.1 with
    | ready _ marked => exact .inl ((sound.order.linked.mark x _).mp marked)
    | running running => exact .inr running
    | waiting r _ marked => exact absurd marked (smooth.guarded.not_waiting sound.order x r)
    | exited gone => exact absurd gone here.2
  rw [smooth.policy] at scheduled
  have named : (Policy.takePreemptively Process.priority).run g.kernel = .ok (some h) k := scheduled
  exact sound.key_le_of_able rfl (fun _ => rfl) named able

/-- Whoever is named has not left. -/
theorem present_of_named (sound : Sound ⟨.choosing, g⟩)
    (choice : Policy.Choice g.kernel (some h) k) : g.kernel.Present h := by
  obtain ⟨used, able⟩ := sound.able_of_named choice
  refine ⟨used, ?_⟩
  rcases able with state | state <;> simp [state]

/-- Where another one owns what the process named may need, both are equally urgent. -/
theorem tied (sound : Sound ⟨.choosing, g⟩) (smooth : g.Smooth)
    (scheduled : g.policy.schedule.run g.kernel = .ok (some h) k)
    (choice : Policy.Choice g.kernel (some h) k) {r : Int} {o : Handle}
    (declares : g.kernel.Declares h r) (owned : (g.kernel.resource r).owner = some o)
    (other : o ≠ h) : (g.kernel.process o).priority = (g.kernel.process h).priority := by
  obtain ⟨_, used, present, _⟩ := sound.order.owners r o owned
  apply le_antisymm
  · exact smooth.guarded.shielded r o h owned (sound.present_of_named choice) other.symm declares
  · exact sound.priority_le_of_named smooth scheduled ⟨used, present⟩

/-- Whoever is named and ties with no owner leads. -/
theorem leads (sound : Sound ⟨.choosing, g⟩) (smooth : g.Smooth)
    (scheduled : g.policy.schedule.run g.kernel = .ok (some h) k)
    (choice : Policy.Choice g.kernel (some h) k) (decides : ¬ g.kernel.Ties h) :
    g.kernel.Leads h := by
  constructor
  · intro x here
    exact sound.priority_le_of_named smooth scheduled here
  · intro r o declares owned
    by_contra other
    exact decides ⟨r, o, declares, owned, other,
      sound.tied smooth scheduled choice declares owned other⟩

/-! ### After the choice -/

/-- Whoever leads is granted what it asks for, and gives back what is due. -/
theorem works (sound : Sound m) (works : m.Works) (move : Move m m') : m'.Works := by
  have pending : ∀ {s' : Simulation}, s'.pending = m.sim.pending →
      ∀ spec ∈ s'.pending, spec ∈ m.sim.pending := fun same spec mem => same ▸ mem
  -- Whoever works finds free what it asks for. Taking a resource and giving one back change what
  -- the ceilings guard; the other moves do not.
  cases move with
  | arrive | settle | preempt | idle | resume | take => cases works
  | @grant s h q later k next due free ran alike memory =>
      obtain ⟨smooth, leads⟩ := works
      have smooth : s.Smooth := smooth
      obtain ⟨current, running, used, _⟩ := sound.running rfl
      have inTable := sound.inTable_of_outstanding used next
      have raising : (Protocol.acquire .ceiling q.resource).run s.kernel = .ok true k := by
        have ran := ran
        rwa [smooth.policy] at ran
      rw [Protocol.run_acquire_raising current inTable free] at raising
      cases raising
      have takes := Kernel.takes_of_grant smooth.guarded used free
        (.acquired (s.kernel.process h).pid q.resource)
      exact ⟨smooth.moves (.single <| .grant next due free ran alike memory)
        (smooth.guarded.take leads free takes) takes.ceiling (pending rfl), leads.take takes⟩
  | @refuse s h owner q later k next due owned ran alike tracked =>
      obtain ⟨smooth, leads⟩ := works
      have asked : q ∈ (s.kernel.process h).requests :=
        List.mem_of_mem_drop (show q ∈ s.outstanding h by
          rw [next]
          exact .head _)
      exact absurd (leads.alone q.resource owner ⟨q, asked, rfl⟩ owned)
        (sound.owner_ne next due owned)
  | @work s h satisfied =>
      obtain ⟨smooth, leads⟩ := works
      have smooth : s.Smooth := smooth
      have used := (sound.running rfl).2.2.1
      refine smooth.moves (.single <| .work satisfied) ?_ (by simp) (pending rfl)
      refine smooth.guarded.congr ?_ (by simp) (by simp) (by simp) (by simp [used]) ?_
      · intro p
        by_cases own : h = p <;> simp [own, Process.standing, Process.older]
      · intro p gone
        by_cases own : h = p <;> simp [own, gone, Process.older]
  | elapse found more =>
      have smooth : Simulation.Smooth _ := works
      exact smooth.moves (.single <| .elapse found more) smooth.guarded (fun _ => rfl) (pending rfl)
  | @giveBack s h r left todo k found last ran alike tracked =>
      have smooth : s.Smooth := works
      obtain ⟨current, running, used, _⟩ := sound.running rfl
      have lowering : (Protocol.release .ceiling r).run s.kernel = .ok () k := by
        have ran := ran
        rwa [smooth.policy] at ran
      rw [Protocol.run_release_lowering sound.order current sound.owned_of_todo] at lowering
      cases lowering
      have yields := Kernel.yields_of_release sound.order used (smooth.guarded.calm r)
      exact smooth.moves (.single <| .giveBack found last ran alike tracked)
        (smooth.guarded.yield sound.owned_of_todo ⟨used, by simp [running]⟩ yields)
        yields.ceiling (pending rfl)
  | yield unfinished => exact ⟨works, by decide⟩
  | @leave s h k finished same =>
      have smooth : s.Smooth := works
      have used := (sound.running rfl).2.2.1
      refine ⟨smooth.moves (.single <| .leave finished same) ?_ (by simp [same.ceiling])
        (pending rfl), by decide⟩
      refine smooth.guarded.congr ?_ (by simp [same.owner]) (by simp [same.ceiling])
        (by simp [same.queue]) (by simp [same.handles, used]) ?_
      · intro p
        by_cases own : h = p <;> simp [same.process, own, Process.standing]
      · intro p gone
        by_cases own : h = p <;> simp [same.process, own, gone]

/-- A tick in which nobody ties leaves all smooth. -/
theorem smooth_tick (sound : Sound ⟨.arriving, s⟩) (smooth : s.Smooth)
    (staged : SimulationM.Staged s g e chosen event)
    (decides : ∀ h, chosen = some h → ¬ g.kernel.Ties h) :
    (e.close (e.line chosen event)).Smooth := by
  have sound' : Sound ⟨.choosing, g⟩ := sound.reaches staged.arrived
  have smooth' := sound.smooth_of_arrivals smooth staged.arrived
  suffices e.Smooth ∧ event ≠ .blocked from this.1.close this.2
  cases chosen with
  | none =>
      obtain ⟨rfl, move⟩ := staged.rests rfl
      exact ⟨smooth'.shuffled (sound'.shuffled move) (.single move), nofun⟩
  | some h =>
      obtain ⟨k, scheduled, choice⟩ := staged.chose
      obtain ⟨d, shuffled, turn, work⟩ := staged.turns h rfl
      have leads := sound'.leads smooth' scheduled choice (decides h rfl)
      have works : Moment.Works ⟨.issuing h, d⟩ :=
        ⟨smooth'.shuffled shuffled turn, leads.shuffled shuffled⟩
      exact (sound'.reaches turn).keeps Sound.works works work

end Sound

/-! ### Runs -/

namespace Simulation

theorem Decisive.mono {n i : Nat} (decisive : s.Decisive n) (below : i ≤ n) : s.Decisive i :=
  fun j early => decisive j (early.trans_le below)

/-- At the start all is smooth if the ceilings cover everybody. -/
theorem Fresh.smooth (fresh : s.Fresh) (policy : s.policy = .of .priorityCeiling .ceiling)
    (covered : ∀ spec ∈ s.pending, ∀ q ∈ spec.requests,
      ∃ v, (s.kernel.resource q.resource).ceiling = some v ∧ v ≤ spec.priority)
    (timeline : ∀ line ∈ s.timeline, line.event ≠ .blocked) (unstalled : s.stalled = false) :
    s.Smooth := by
  refine ⟨policy, ?_, covered, timeline, unstalled⟩
  have nobody : ∀ h, h ∉ s.kernel.handles := by simp [fresh.kernel.handles]
  constructor
  · intro p r v
    rw [Kernel.process_of_unused (nobody p), fresh.kernel.owner]
    exact ⟨nofun, nofun⟩
  · intro p used
    exact absurd used (nobody p)
  · intro x y here
    exact absurd here.1 (nobody x)
  · intro r o x owned
    rw [fresh.kernel.owner] at owned
    cases owned
  · intro r
    exact fresh.kernel.queue _

/-- While nobody ties all is smooth. -/
theorem Boundary.smooth (fresh : s.Fresh) (early : s.started = false)
    (empty : s.timeline.size = 0) (smooth : s.Smooth) (reached : s.Boundary t)
    (decisive : s.Decisive t.timeline.size) : t.Smooth := by
  -- On how the boundary is reached. What was decisive up to here was so before the last tick as
  -- well.
  induction reached with
  | made => exact smooth
  | begun ran =>
      obtain ⟨k, begun, alike, fresh'⟩ := SimulationM.run_startOnce_alike fresh early
      have is := begun.symm.trans ran
      cases is
      refine fresh'.smooth smooth.policy ?_ smooth.timeline smooth.unstalled
      intro spec mem q asked
      obtain ⟨v, level, below⟩ := smooth.covered spec mem q asked
      exact ⟨v, (alike.ceiling _).trans level, below⟩
  | @ticked t u line before started ran ih =>
      have sound := before.sound fresh early
      have size := (SimulationM.run_tick_settings sound ran).2.2.2.2
      rw [size] at decisive
      obtain ⟨g, e, chosen, event, staged⟩ := SimulationM.run_staged sound
      have is := staged.ended.symm.trans ran
      cases is
      refine sound.smooth_tick (ih (decisive.mono (Nat.le_succ _))) staged ?_
      rintro h rfl
      obtain ⟨v, steps, same⟩ := before.counted fresh early empty
      have picks := picks_of_staged sound (SimulationM.run_startOnce_of_started started) staged
      exact decisive t.timeline.size (Nat.lt_succ_self _) v g h steps (picks.congr same)

/-- Where all is smooth whoever is named next is as urgent as the other owners of
what it may need. -/
theorem Boundary.picks_tied (fresh : s.Fresh) (early : s.started = false) (reached : s.Boundary t)
    (smooth : ∀ u, s.Boundary u → u.timeline = t.timeline → u.Smooth) :
    ∃ g chosen, t.Picks g chosen ∧ ∀ h, chosen = some h → ∀ r o, g.kernel.Declares h r →
      (g.kernel.resource r).owner = some o → o ≠ h →
        (g.kernel.process o).priority = (g.kernel.process h).priority := by
  obtain ⟨u, begun, reached', _, _, is⟩ := reached.begin fresh early
  have sound := reached'.sound fresh early
  obtain ⟨g, e, chosen, event, staged⟩ := SimulationM.run_staged sound
  refine ⟨g, chosen, picks_of_staged sound begun staged, ?_⟩
  rintro h rfl r o declares owned other
  obtain ⟨k, scheduled, choice⟩ := staged.chose
  have smooth := sound.smooth_of_arrivals (smooth u reached' (by rw [is])) staged.arrived
  exact (sound.reaches staged.arrived).tied smooth scheduled choice declares owned other

/-- A run that ends while all is smooth does not end for a deadlock. -/
theorem Smooth.conclude (smooth : t.Smooth) (sound : Sound ⟨.arriving, t⟩) :
    t.conclude.stalled = false := by
  unfold Simulation.conclude
  split
  · exact smooth.unstalled
  · exact smooth.unstalled
  · exact smooth.unstalled
  · rename_i pids verdict
    have stuck := smooth.not_stuck sound
    simp only [Simulation.verdict, stuck] at verdict
    split at verdict
    · cases verdict
    · split at verdict <;> cases verdict

/-- A run in which nobody ties reports no blocked tick and no deadlock. -/
theorem Smooth.run (smooth : s.Smooth) (fresh : s.Fresh) (early : s.started = false)
    (empty : s.timeline.size = 0) :
    ∃ report t, s.run = .ok report t ∧ (s.Decisive report.timeline.length →
      report.stalled = false ∧ ∀ line ∈ report.timeline, line.event ≠ .blocked) := by
  obtain ⟨_, n, t, u, k, _, _, _, reached, ended, _, ran⟩ := SimulationM.run_run fresh early
  refine ⟨_, _, ran, ?_⟩
  have same : u.timeline = t.timeline := by
    rcases ended with ⟨_, rfl⟩ | ⟨_, rfl⟩
    · simp
    · rfl
  have listed : (u.onto k).report.timeline = t.timeline.toList := congrArg Array.toList same
  rw [listed, Array.length_toList]
  intro decisive
  have smooth := reached.smooth fresh early empty smooth decisive
  constructor
  · rcases ended with ⟨_, rfl⟩ | ⟨_, rfl⟩
    · exact smooth.conclude (reached.sound fresh early)
    · exact smooth.unstalled
  · intro line mem
    exact smooth.timeline line (Array.mem_toList_iff.mp mem)

/-- Where no ceilings are stated they cover everybody, and all begins smoothly. -/
theorem create_smooth {w : Workload} {resources : Int} (valid : w.Valid)
    (implied : w.explicitCeilings = {}) (positive : 0 < resources)
    (fits : ∀ r ∈ w.resourceIds, r < resources) (limit : Option Int) :
    ∃ s, create w (.of .priorityCeiling .ceiling) resources limit = .ok s ∧ s.Fresh ∧
      s.started = false ∧ s.timeline.size = 0 ∧ s.Smooth ∧
      ∀ r, (s.kernel.resource r).ceiling = w.ceilings.get? r := by
  obtain ⟨k, s, created, fresh, is, ceilings⟩ :=
    create_of_valid_capped valid positive fits .priorityCeiling .ceiling limit
  have ceilings : ∀ r, (s.kernel.resource r).ceiling = w.ceilings.get? r := by rwa [is]
  have empty : s.timeline = #[] := by
    rw [is]
    rfl
  refine ⟨s, created, fresh, by rw [is], by simp [empty], ?_, ceilings⟩
  apply fresh.smooth
  · rw [is]
  · intro spec mem q asked
    have declared : spec ∈ w.processes := by
      rw [is] at mem
      exact List.mem_mergeSort.mp mem
    rw [ceilings]
    exact Workload.exists_ceiling implied declared asked
  · simp [empty]
  · rw [is]

end Simulation

/-- On a parsed workload that states no ceilings, under the priority ceiling
policy, the ceiling of a resource is the most urgent priority among those who
request it. Up to the first tick at which somebody is named who ties with another
owner of what it may need, nobody is blocked and nothing is stuck; whoever is
named at that tick while another one owns what it may need is exactly as urgent
as the owner. A run without such a tick reports no blocked tick and no deadlock. -/
theorem ceiling_never_blocks_before_tie {text : Text} {w : Workload} {resources : Int}
    (parsed : Workload.ofText text = .ok w) (implied : w.explicitCeilings = {})
    (positive : 0 < resources) (fits : ∀ r ∈ w.resourceIds, r < resources)
    (limit : Option Int) :
    ∃ s, Simulation.create w (.of .priorityCeiling .ceiling) resources limit = .ok s ∧
      (∀ r v, (s.kernel.resource r).ceiling = some v ↔
        IsLeast {b | ∃ spec ∈ w.processes, spec.priority = b ∧
          ∃ q ∈ spec.requests, q.resource = r} v) ∧
      (∀ n, s.Decisive n → ∃ t g chosen, EStateM.run (SimulationM.steps n) s = .ok () t ∧
        t.stuck = false ∧ (∀ line ∈ t.timeline, line.event ≠ .blocked) ∧ t.Picks g chosen ∧
        ∀ h, chosen = some h → ∀ r o, g.kernel.Declares h r →
          (g.kernel.resource r).owner = some o → o ≠ h →
            (g.kernel.process o).priority = (g.kernel.process h).priority) ∧
      ∃ report t, s.run = .ok report t ∧ (s.Decisive report.timeline.length →
        report.stalled = false ∧ ∀ line ∈ report.timeline, line.event ≠ .blocked) := by
  obtain ⟨s, created, fresh, early, empty, smooth, ceilings⟩ :=
    Simulation.create_smooth (Workload.valid_ofText parsed) implied positive fits limit
  refine ⟨s, created, ?_, ?_, smooth.run fresh early empty⟩
  · intro r v
    rw [ceilings, Workload.isLeast_ceiling implied]
  · intro n decisive
    obtain ⟨t, ran, reached⟩ := SimulationM.run_steps fresh early n
    have size : t.timeline.size = n := by
      rw [Simulation.Boundary.made.size_timeline_steps fresh early ran, empty, Nat.zero_add]
    -- A run that was decisive up to here was smooth at every boundary with this timeline.
    have always : ∀ u, s.Boundary u → u.timeline = t.timeline → u.Smooth := by
      intro u reached' same
      exact reached'.smooth fresh early empty smooth (by rwa [same, size])
    obtain ⟨g, chosen, picks, tied⟩ := reached.picks_tied fresh early always
    have smooth := always t reached rfl
    exact ⟨t, g, chosen, ran, smooth.not_stuck (reached.sound fresh early), smooth.timeline,
      picks, tied⟩

/-! ### A workload without ties -/

theorem Kernel.ties_iff {k : Kernel} : k.Ties h ↔ ∃ q ∈ (k.process h).requests,
    ∃ o ∈ (k.resource q.resource).owner, o ≠ h ∧
      (k.process o).priority = (k.process h).priority := by
  constructor
  · rintro ⟨_, o, ⟨q, asked, rfl⟩, owned, other, same⟩
    exact ⟨q, asked, o, owned, other, same⟩
  · rintro ⟨q, asked, o, owned, other, same⟩
    exact ⟨q.resource, o, ⟨q, asked, rfl⟩, owned, other, same⟩

instance (k : Kernel) (h : Handle) : Decidable (k.Ties h) := decidable_of_iff' _ Kernel.ties_iff

/-- Nobody who is named in the first five steps ties. -/
theorem decided_contended :
    (List.range 5).all (fun i =>
      ((Simulation.after .contended (.of .priorityCeiling .ceiling) 1 i).bind
        Simulation.picked).all fun x => x.2.all fun h => !x.1.kernel.Ties h) = true := by
  decide_cbv

/-- The run of the workload ends after five ticks. -/
theorem length_contended :
    (match Simulation.create .contended (.of .priorityCeiling .ceiling) 1 none with
    | .error _ => none
    | .ok s =>
        match s.run with
        | .error _ _ => none
        | .ok report _ => some report.timeline.length) = some 5 := by
  decide_cbv

theorem ceiling_never_blocks_before_tie_contended :
    ∃ s report t, Simulation.create .contended (.of .priorityCeiling .ceiling) 1 none = .ok s ∧
      s.run = .ok report t ∧ report.timeline.length = 5 ∧ s.Decisive report.timeline.length ∧
      report.stalled = false ∧ ∀ line ∈ report.timeline, line.event ≠ .blocked := by
  have fits : ∀ r ∈ Workload.contended.resourceIds, r < (1 : Int) := by
    simp [Workload.resourceIds_contended]
  obtain ⟨s, created, _, _, report, t, ran, calm⟩ :=
    ceiling_never_blocks_before_tie Workload.ofText_contention rfl Int.one_pos fits none
  have length : report.timeline.length = 5 := by
    have computed := length_contended
    rw [created] at computed
    dsimp only at computed
    rw [ran] at computed
    exact Option.some.inj computed
  have decisive : s.Decisive report.timeline.length := by
    intro i below t g h steps picks ties
    have decided := List.all_eq_true.mp decided_contended i (List.mem_range.mpr (length ▸ below))
    simp [Simulation.after_of_run created steps, picks.picked_eq, ties] at decided
  exact ⟨s, report, t, created, ran, length, decisive, calm decisive⟩

/-! ### A tie that is lost -/

/-- Two processes that request the same resources the other way round, the first
of which is preempted by a third one after its first tick. -/
def Workload.displacing : Text :=
  Text.ofString ("process 1 \x7b\n lifespan 3\n prio 6\n acquire 0 0 3\n acquire 1 1 1\n\x7d\n" ++
    "process 2 \x7b\n start 1\n lifespan 2\n prio 5\n acquire 1 0 2\n acquire 0 1 1\n\x7d\n" ++
    "process 3 \x7b\n start 1\n lifespan 1\n prio 1\n\x7d\n")

def Workload.displaced : Workload where
  processes := [
    { pid := 1, lifespan := 3, priority := 6, requests := [⟨0, 0, 3⟩, ⟨1, 1, 1⟩] },
    { pid := 2, lifespan := 2, arrival := 1, priority := 5, requests := [⟨1, 0, 2⟩, ⟨0, 1, 1⟩] },
    { pid := 3, lifespan := 1, arrival := 1, priority := 1 }]

set_option maxRecDepth 10000 in
theorem Workload.ofText_displacing : ofText displacing = .ok displaced := by decide_cbv

/-- The second process is named before the first, blocks, and then the first one does. -/
theorem blocked_displaced :
    (Simulation.after .displaced (.of .priorityCeiling .ceiling) 2 5).any (fun t =>
      t.stuck && t.timeline.toList.any (fun line => line.event = .blocked)) = true := by
  decide_cbv

/-- Under the priority ceiling policy processes may block, and everything may be
stuck, on a parsed workload that states no ceilings. -/
theorem ceiling_deadlock :
    ∃ w s t, Workload.ofText Workload.displacing = .ok w ∧ w.explicitCeilings = {} ∧
      Simulation.create w (.of .priorityCeiling .ceiling) 2 none = .ok s ∧
      EStateM.run (SimulationM.steps 5) s = .ok () t ∧ t.stuck = true ∧
      ∃ line ∈ t.timeline, line.event = .blocked := by
  obtain ⟨t, after, found⟩ := (Option.any_eq_true _ _).mp blocked_displaced
  obtain ⟨s, created, ran⟩ := Simulation.after_eq_some after
  simp only [Bool.and_eq_true, List.any_eq_true, Array.mem_toList_iff, decide_eq_true_eq] at found
  exact ⟨_, s, t, Workload.ofText_displacing, rfl, created, ran, found.1, found.2⟩

end Uniprocessor
