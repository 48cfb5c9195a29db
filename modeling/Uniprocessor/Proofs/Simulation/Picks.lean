import Uniprocessor.Proofs.Policy.Decision
import Uniprocessor.Proofs.Simulation.Effect
import Uniprocessor.Proofs.Simulation.Enlistment
import Uniprocessor.Proofs.Simulation.Traffic

/-!
Who is picked, tick by tick.

Each tick from the start asks the policy once, in one state (`Simulation.PicksAt`),
and leads to the next one (`Simulation.Ticks.next`). Between two choices the ready
queue loses nobody but the one that was chosen and gains only at its tail, whoever
goes on was chosen and has worked, whoever was chosen is not in the queue, and the
slice is what the policy has decided (`Simulation.Follows`,
`Simulation.PicksAt.follows`). The timeline tells who was picked
(`Simulation.PicksAt.line`).
-/

namespace Uniprocessor

open Policy (continuing)
open SimulationM (Staged steps startOnce)

/-! ### Between two choices -/

/-- While a process is at work, others only get behind those who are ready. -/
theorem Moment.Reaches.ready {m m' : Moment} (reaches : m.Reaches m') {h : Handle}
    (phase : m.phase = .issuing h) :
    ∃ more, m'.sim.kernel.queue .ready = m.sim.kernel.queue .ready ++ more := by
  have grown : (m'.phase ≠ .arriving ∧ m'.phase ≠ .choosing) ∧
      ∃ more, m'.sim.kernel.queue .ready = m.sim.kernel.queue .ready ++ more := by
    refine Moment.keeps (P := fun n => (n.phase ≠ .arriving ∧ n.phase ≠ .choosing) ∧
      ∃ more, n.sim.kernel.queue .ready = m.sim.kernel.queue .ready ++ more) ?_
      ⟨by simp [phase], [], by simp⟩ reaches
    rintro n n' ⟨late, more, grown⟩ move
    refine ⟨?_, ?_⟩
    · cases move <;> simp_all
    -- Only a resource that is given back adds to the queue, and at its end.
    · cases move with
      | arrive | settle => exact absurd rfl late.1
      | preempt | idle | resume | take => exact absurd rfl late.2
      | grant _ _ _ _ alike | refuse _ _ _ _ alike =>
          exact ⟨more, by simpa [alike.queue] using grown⟩
      | work => exact ⟨more, by simpa using grown⟩
      | elapse | yield => exact ⟨more, grown⟩
      | @giveBack s h r left todo k _ _ _ alike =>
          have grown : s.kernel.queue .ready = m.sim.kernel.queue .ready ++ more := grown
          exact ⟨more ++ (s.kernel.queue (.waiting r)).head?.toList, by simp [alike.queue, grown]⟩
      | leave _ same => exact ⟨more, by simpa [same.queue] using grown⟩
  exact grown.2

/-- Whoever has had a tick runs, waits or is gone at its end, as the event says. -/
theorem Sound.closes {m m' : Moment} (sound : Sound m) (reaches : m.Reaches m') {h : Handle}
    {event : TickEvent} (before : ∀ event, m.phase ≠ .closing (some h) event)
    (after : m'.phase = .closing (some h) event) :
    (event = .run ∧ (m'.sim.kernel.process h).state = .running) ∨
      (event = .blocked ∧ (m'.sim.kernel.process h).state = .waiting) ∨
      (event = .exit ∧ (m'.sim.kernel.process h).state = .exited) := by
  refine sound.keeps (P := fun n => ∀ event, n.phase = .closing (some h) event →
    (event = .run ∧ (n.sim.kernel.process h).state = .running) ∨
      (event = .blocked ∧ (n.sim.kernel.process h).state = .waiting) ∨
      (event = .exit ∧ (n.sim.kernel.process h).state = .exited))
    ?_ (fun event is => absurd is (before event)) reaches event after
  intro n n' sound _ move event is
  -- Only these moves end the tick of a process.
  cases move with
  | refuse _ _ _ _ alike =>
      cases is
      exact .inr (.inl ⟨rfl, by simp [alike.state]⟩)
  | yield =>
      cases is
      exact .inl ⟨rfl, (sound.running rfl).2.1⟩
  | leave _ same =>
      cases is
      exact .inr (.inr ⟨rfl, by simp [same.process]⟩)
  | _ => cases is

namespace SimulationM.Staged

variable {s g e : Simulation} {chosen : Option Handle} {event : TickEvent} {h : Handle}
  {d : Discipline} {protocol : Protocol}

/-- The discipline has carried out its decision. -/
theorem scheduled (sound : Sound ⟨.arriving, s⟩) (staged : Staged s g e chosen event)
    (policy : s.policy = .of d protocol) :
    ∃ k, g.policy.schedule.run g.kernel = .ok chosen k ∧
      chosen = (d.decision g.kernel).chosen ∧
      Policy.Scheduled g.kernel (d.decision g.kernel) k := by
  have same : g.policy = .of d protocol :=
    (congrArg (·.policy) staged.arrived.unchanged).trans policy
  have order := (sound.reaches staged.arrived).order
  obtain ⟨k, ran, scheduled⟩ := d.scheduled order.schedulable
  obtain ⟨k', chose, _⟩ := staged.chose
  have ran' : g.policy.schedule.run g.kernel = .ok (d.decision g.kernel).chosen k := by
    rw [same]
    exact ran
  rw [chose] at ran'
  cases ran'
  exact ⟨k, chose, rfl, scheduled⟩

/-- What a tick leaves of the ready queue and of the slice. -/
theorem leaves (sound : Sound ⟨.arriving, s⟩) (staged : Staged s g e chosen event)
    (policy : s.policy = .of d protocol) :
    (∃ more, e.kernel.queue .ready =
      (g.kernel.queue .ready ++ (d.decision g.kernel).back.toList).filter (chosen ≠ some ·) ++
        more) ∧
      e.kernel.memory.sliceUsed = (d.decision g.kernel).slice := by
  obtain ⟨k, chose, is, scheduled⟩ := staged.scheduled sound policy
  rw [is, ← scheduled.ready]
  have slice : k.memory.sliceUsed = (d.decision g.kernel).slice := by rw [scheduled.memory]
  cases named : chosen with
  | none =>
      subst named
      obtain rfl := staged.idled chose
      exact ⟨⟨[], by simp⟩, slice⟩
  | some h =>
      subst named
      obtain ⟨_, _, _, kept⟩ := staged.works sound chose
      obtain ⟨d, handed, _, _, works⟩ := staged.dispatched sound chose
      obtain ⟨k', is, same, _⟩ := run_dispatch_eq_ok handed
      obtain ⟨more, grown⟩ := works.ready rfl
      refine ⟨⟨more, ?_⟩, kept.trans slice⟩
      simpa [is, same.queue] using grown

/-- Whoever was chosen is not ready when the tick ends. -/
theorem unready (sound : Sound ⟨.arriving, s⟩) (staged : Staged s g e (some h) event) :
    (e.kernel.process h).state ≠ .ready := by
  rcases sound.closes staged.reaches nofun rfl with ⟨_, state⟩ | ⟨_, state⟩ | ⟨_, state⟩ <;>
    simp [state]

/-- Whoever was chosen and still runs when the tick ends has worked. -/
theorem older (sound : Sound ⟨.arriving, s⟩) (staged : Staged s g e (some h) event)
    (running : (e.kernel.process h).state = .running) :
    (e.kernel.process h).age = (g.kernel.process h).age + 1 := by
  have gathered := congrArg (·.age) (lives sound staged.arrived h)
  have closed := congrArg (·.age) (lives sound staged.reaches h)
  rcases sound.closes staged.reaches nofun rfl with ⟨rfl, _⟩ | ⟨_, state⟩ | ⟨_, state⟩
  · simp [Simulation.lifeIn, Process.life] at gathered closed
    rw [gathered, closed]
  · simp [state] at running
  · simp [state] at running

end SimulationM.Staged

namespace Simulation

variable {s t u g e g' e' : Simulation} {chosen chosen' : Option Handle}
  {event event' : TickEvent} {h : Handle} {n : Nat}

/-- In the state `g` the tick `n` asks the policy, which names `chosen`. -/
def PicksAt (s : Simulation) (n : Nat) (g : Simulation) (chosen : Option Handle) : Prop :=
  ∃ t, EStateM.run (steps n) s = .ok () t ∧ t.Picks g chosen

/-- The tick `n` begins at `u` and has these parts. -/
structure Ticks (s : Simulation) (n : Nat) (u g e : Simulation) (chosen : Option Handle)
    (event : TickEvent) : Prop where
  reached : ∃ t, EStateM.run (steps n) s = .ok () t ∧ EStateM.run startOnce t = .ok () u ∧
    u.timeline = t.timeline
  boundary : s.Boundary u
  sound : Sound ⟨.arriving, u⟩
  started : u.started = true
  policy : u.policy = s.policy
  staged : Staged u g e chosen event

namespace Ticks

theorem gathered (ticks : s.Ticks n u g e chosen event) : u.Gathered g :=
  (SimulationM.gathers_of_run ticks.sound rfl ticks.staged.gathered).gathered ticks.sound rfl

/-- In every state that a tick asks the policy, all is in order. -/
theorem choosing (ticks : s.Ticks n u g e chosen event) : Sound ⟨.choosing, g⟩ :=
  ticks.sound.reaches ticks.staged.arrived

theorem picksAt (ticks : s.Ticks n u g e chosen event) : s.PicksAt n g chosen := by
  obtain ⟨t, stepped, begun, _⟩ := ticks.reached
  exact ⟨t, stepped, picks_of_staged ticks.sound begun ticks.staged⟩

/-- Everybody who is there when the policy is asked was declared by the workload. -/
theorem declaration {w : Workload} (fresh : s.Fresh) (early : s.started = false)
    (pending : s.pending = inOrderOfArrival w.processes) (ticks : s.Ticks n u g e chosen event)
    (used : h ∈ g.kernel.handles) :
    ∃ spec ∈ w.processes, spec.Declares (g.kernel.process h).declared := by
  obtain ⟨arrived, admits⟩ := ticks.boundary.admits fresh early pending
  have admitted : ∃ arrived, Moment.Admits ⟨.choosing, g⟩ w arrived :=
    ticks.sound.keeps Sound.admits ⟨arrived, admits.arriving⟩ ticks.staged.arrived
  obtain ⟨arrived', admits'⟩ := admitted
  obtain ⟨spec, mem, built⟩ := admits'.declaration used
  exact ⟨spec, admits'.mem_iff.mpr (.inl mem), ProcessSpec.declares_of_build built⟩

/-- Every tick leads one step on. -/
theorem stepped (ticks : s.Ticks n u g e chosen event) :
    EStateM.run (steps (n + 1)) s = .ok () (e.close (e.line chosen event)) := by
  obtain ⟨t, stepped, begun, _⟩ := ticks.reached
  exact SimulationM.run_steps_last stepped
    ((SimulationM.run_step_of_begun begun).trans ticks.staged.ended)

/-- Every tick leads to the next. -/
theorem next (ticks : s.Ticks n u g e chosen event) :
    ∃ g' e' chosen' event',
      s.Ticks (n + 1) (e.close (e.line chosen event)) g' e' chosen' event' := by
  have sound := ticks.sound.tick ticks.staged.ended
  have settings := SimulationM.run_tick_settings ticks.sound ticks.staged.ended
  have started := settings.1.trans ticks.started
  obtain ⟨g', e', chosen', event', staged⟩ := SimulationM.run_staged sound
  have begun := SimulationM.run_startOnce_of_started started
  exact ⟨g', e', chosen', event', ⟨_, ticks.stepped, begun, rfl⟩,
    .ticked ticks.boundary ticks.started ticks.staged.ended, sound, started,
    settings.2.1.trans ticks.policy, staged⟩

end Ticks

/-- Every tick of a simulation from its start has its parts. -/
theorem exists_ticks (fresh : s.Fresh) (early : s.started = false) (n : Nat) :
    ∃ u g e chosen event, s.Ticks n u g e chosen event := by
  obtain ⟨t, stepped, reached⟩ := SimulationM.run_steps fresh early n
  obtain ⟨u, begun, reached', started, _, is⟩ := reached.begin fresh early
  have timeline : u.timeline = t.timeline := by rw [is]
  have sound := reached'.sound fresh early
  obtain ⟨g, e, chosen, event, staged⟩ := SimulationM.run_staged sound
  exact ⟨u, g, e, chosen, event, ⟨t, stepped, begun, timeline⟩, reached', sound, started,
    reached'.policy fresh early, staged⟩

/-- Every choice between two ticks of a run is one of its picks. -/
theorem Boundary.picksAt (fresh : s.Fresh) (early : s.started = false)
    (empty : s.timeline.size = 0) (reached : s.Boundary u) (started : u.started = true)
    (staged : Staged u g e chosen event) : s.PicksAt u.timeline.size g chosen := by
  obtain ⟨t, stepped, same⟩ := reached.counted fresh early empty
  have begun := same.trans (SimulationM.run_startOnce_of_started started)
  exact ⟨t, stepped, picks_of_staged (reached.sound fresh early) begun staged⟩

/-- Who is picked in which state is settled. -/
theorem PicksAt.eq (picks : s.PicksAt n g chosen) (picks' : s.PicksAt n g' chosen') :
    g = g' ∧ chosen = chosen' := by
  obtain ⟨t, stepped, picked⟩ := picks
  obtain ⟨t', stepped', picked'⟩ := picks'
  rw [stepped] at stepped'
  cases stepped'
  have same := picked.picked_eq.symm.trans picked'.picked_eq
  cases same
  exact ⟨rfl, rfl⟩

/-- Who is picked is picked in the parts of a tick. -/
theorem PicksAt.ticks (fresh : s.Fresh) (early : s.started = false)
    (picks : s.PicksAt n g chosen) : ∃ u e event, s.Ticks n u g e chosen event := by
  obtain ⟨u, g', e, chosen', event, ticks⟩ := exists_ticks fresh early n
  obtain ⟨rfl, rfl⟩ := picks.eq ticks.picksAt
  exact ⟨u, e, event, ticks⟩

/-- At the start nobody has been chosen who could go on. -/
theorem PicksAt.continuing_first (fresh : s.Fresh) (early : s.started = false)
    (picks : s.PicksAt 0 g chosen) : continuing g.kernel = none := by
  obtain ⟨u, e, event, ticks⟩ := picks.ticks fresh early
  obtain ⟨t, stepped, begun, _⟩ := ticks.reached
  cases stepped
  obtain ⟨k, begun', fresh'⟩ := SimulationM.run_startOnce fresh early
  rw [begun'] at begun
  cases begun
  have idle := fresh'.kernel.current
  rw [ticks.gathered.continuing, continuing, idle]
  rfl

/-- The timeline tells who was picked in every tick so far. -/
theorem PicksAt.line {m : Nat} (fresh : s.Fresh) (early : s.started = false)
    (empty : s.timeline.size = 0) (picks : s.PicksAt n g chosen)
    (stepped : EStateM.run (steps m) s = .ok () t) (past : n < m) :
    ∃ line, t.timeline[n]? = some line ∧
      line.pid = chosen.map fun h => (g.kernel.process h).pid := by
  -- On the steps made: the tick is the last of them, or its line was there before.
  induction m generalizing t with
  | zero => cases past
  | succ m ih =>
      obtain ⟨u, g', e, chosen', event, ticks⟩ := exists_ticks fresh early m
      rw [ticks.stepped] at stepped
      cases stepped
      obtain ⟨v, before, begun, timeline⟩ := ticks.reached
      have counted := Boundary.made.size_timeline_steps fresh early before
      rw [(ticks.staged.effect ticks.sound).timeline, timeline, Array.getElem?_push]
      by_cases last : n = m
      · subst last
        obtain ⟨rfl, rfl⟩ := picks.eq ticks.picksAt
        obtain ⟨line, w, ran, pid⟩ := (picks_of_staged ticks.sound begun ticks.staged).stepped
        rw [SimulationM.run_step_of_begun begun, ticks.staged.ended] at ran
        cases ran
        exact ⟨_, if_pos (by omega), pid⟩
      · rw [if_neg (by omega)]
        exact ih before (by omega)

/-! ### From one choice to the next -/

/-- What the decision of a discipline in `g` leaves for the next one, in `g'`. -/
structure Follows (d : Discipline) (g g' : Simulation) : Prop where
  ready : ∃ more, g'.kernel.queue .ready =
    (g.kernel.queue .ready ++ (d.decision g.kernel).back.toList).filter
      ((d.decision g.kernel).chosen ≠ some ·) ++ more
  slice : g'.kernel.memory.sliceUsed = (d.decision g.kernel).slice
  /-- Only whoever was chosen goes on, and it has worked meanwhile. -/
  continuing : ∀ h, continuing g'.kernel = some h → (d.decision g.kernel).chosen = some h ∧
    (g'.kernel.process h).age = (g.kernel.process h).age + 1
  away : ∀ h, (d.decision g.kernel).chosen = some h → h ∉ g'.kernel.queue .ready
  pid : ∀ h ∈ g.kernel.handles, h ∈ g'.kernel.handles ∧
    (g'.kernel.process h).pid = (g.kernel.process h).pid

variable {d : Discipline} {protocol : Protocol}

/-- A discipline picks whom it has decided for. -/
theorem Ticks.chosen_eq (policy : s.policy = .of d protocol)
    (ticks : s.Ticks n u g e chosen event) : chosen = (d.decision g.kernel).chosen := by
  obtain ⟨_, _, is, _⟩ := ticks.staged.scheduled ticks.sound (ticks.policy.trans policy)
  exact is

/-- From the state of one choice to that of the next. -/
theorem Ticks.follows (policy : s.policy = .of d protocol)
    (ticks : s.Ticks n u g e chosen event)
    (ticks' : s.Ticks (n + 1) (e.close (e.line chosen event)) g' e' chosen' event') :
    g.Follows d g' := by
  have is := ticks.chosen_eq policy
  have effect := ticks.staged.effect ticks.sound
  have gathered := ticks'.gathered
  obtain ⟨⟨more, ready⟩, slice⟩ := ticks.staged.leaves ticks.sound (ticks.policy.trans policy)
  obtain ⟨more', _, joined⟩ := gathered.ready
  refine ⟨⟨more ++ more', ?_⟩, gathered.slice.trans slice, fun h goes => ?_, fun h named mem => ?_,
    fun h used => ?_⟩
  · rw [joined, ← is, ← List.append_assoc, ← ready]
    rfl
  -- Nobody turns to the processor in between, so it was chosen in the last tick and ran.
  · rw [gathered.continuing] at goes
    have named : chosen = some h :=
      effect.current.symm.trans (Policy.continuing_eq_some_iff.mp goes).1
    subst named
    have running := Policy.running_of_continuing goes
    have old := (gathered.process h (Policy.used_of_running running)).2
    have older : (e.kernel.process h).age = _ := ticks.staged.older ticks.sound running
    exact ⟨is.symm, by rw [old]; exact older⟩
  · obtain rfl := is.trans named
    -- It is no newcomer, and has not been ready since its tick.
    have used := (effect.able h rfl).1
    have old := (gathered.process h used).2
    have state := ticks'.choosing.state_of_mem_ready mem
    rw [old] at state
    exact ticks.staged.unready ticks.sound state
  · have stays := ticks.choosing.stays_of_reaches ticks.staged.acts used
    have old := gathered.process h stays.1
    exact ⟨old.1, (congrArg (·.pid) old.2).trans (congrArg (·.pid) stays.2)⟩

theorem PicksAt.chosen_eq (fresh : s.Fresh) (early : s.started = false)
    (policy : s.policy = .of d protocol) (picks : s.PicksAt n g chosen) :
    chosen = (d.decision g.kernel).chosen := by
  obtain ⟨u, e, event, ticks⟩ := picks.ticks fresh early
  exact ticks.chosen_eq policy

theorem PicksAt.follows (fresh : s.Fresh) (early : s.started = false)
    (policy : s.policy = .of d protocol) (picks : s.PicksAt n g chosen)
    (picks' : s.PicksAt (n + 1) g' chosen') : g.Follows d g' := by
  obtain ⟨u, e, event, ticks⟩ := picks.ticks fresh early
  obtain ⟨g'', e', chosen'', event', ticks'⟩ := ticks.next
  obtain ⟨rfl, rfl⟩ := picks'.eq ticks'.picksAt
  exact ticks.follows policy ticks'

/-- A number stays with its process. -/
theorem PicksAt.pid (fresh : s.Fresh) (early : s.started = false)
    (policy : s.policy = .of d protocol) (picks : s.PicksAt n g chosen)
    (used : h ∈ g.kernel.handles) {i : Nat} (picks' : s.PicksAt (n + i) g' chosen') :
    h ∈ g'.kernel.handles ∧ (g'.kernel.process h).pid = (g.kernel.process h).pid := by
  induction i generalizing g' chosen' with
  | zero =>
      obtain ⟨rfl, _⟩ := picks.eq picks'
      exact ⟨used, rfl⟩
  | succ i ih =>
      obtain ⟨u, g₀, e, chosen₀, event, ticks⟩ := exists_ticks fresh early (n + i)
      obtain ⟨used', same⟩ := ih ticks.picksAt
      obtain ⟨used'', same'⟩ := (ticks.picksAt.follows fresh early policy picks').pid h used'
      exact ⟨used'', same'.trans same⟩

end Simulation

end Uniprocessor
