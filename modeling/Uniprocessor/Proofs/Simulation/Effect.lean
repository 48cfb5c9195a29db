import Uniprocessor.Proofs.Simulation.Life

/-!
What a tick makes of a simulation.

A tick notes one line, moves the clock, leaves whoever was chosen as the current
process, counts a switch if that is somebody else than before, and adds to lives
what its line says (`Simulation.Effect`). All this is read off where the tick has
got to at each of its moves (`Moment.Turned`, `Sound.lives`).
-/

namespace Uniprocessor

/-- Who is current, where a tick has got to. -/
@[simp] def Phase.turn (before : Option Handle) : Phase → Option Handle
  | .arriving | .choosing => before
  | .issuing h | .expiring h _ => some h
  | .closing chosen _ => chosen

/-- What the count of switches grows by when the processor passes from one to the other. -/
def switch (before after : Option Handle) : Nat := if after = none ∨ after = before then 0 else 1

@[simp] theorem switch_self (before : Option Handle) : switch before before = 0 := by simp [switch]

@[simp] theorem switch_none (before : Option Handle) : switch before none = 0 := by simp [switch]

variable {m m' : Moment} {s g e : Simulation} {chosen : Option Handle} {event : TickEvent}

/-- Since a tick began the processor has passed to whoever is current, and that has
been counted. -/
structure Moment.Turned (m : Moment) (s : Simulation) : Prop where
  current : m.sim.kernel.current = m.phase.turn s.kernel.current
  counted : m.sim.switches = s.switches + switch s.kernel.current (m.phase.turn s.kernel.current)

/-- The processor passes to the one that is chosen, and stays with it. -/
theorem Move.turned (move : Move m m') (turned : m.Turned s) : m'.Turned s := by
  obtain ⟨current, counted⟩ := turned
  cases move with
  | arrive _ _ _ same => exact ⟨by simpa [same.current] using current, counted⟩
  | settle early => exact ⟨current, counted⟩
  | preempt goes same => exact ⟨by simpa [same.current] using current, counted⟩
  | idle free empty same => exact ⟨by simp [same.current], counted.trans (by simp)⟩
  | @resume s' h k goes same =>
      -- Whoever goes on has been current already.
      have own : s'.kernel.current = some h := (Policy.continuing_eq_some_iff.mp goes).1
      have before : s.kernel.current = some h := current.symm.trans own
      exact ⟨by simp [same.current, own], counted.trans (by simp [before])⟩
  | @take s' h k switches free mem same passes =>
      have before : s'.kernel.current = s.kernel.current := current
      have counted : s'.switches = s.switches := counted.trans (by simp)
      refine ⟨by simp [same.current], ?_⟩
      show switches = s.switches + switch s.kernel.current (some h)
      rw [passes, before, counted]
      simp [switch, eq_comm]
  | grant _ _ _ _ alike | refuse _ _ _ _ alike =>
      exact ⟨by simpa [alike.current] using current, counted⟩
  | work => exact ⟨by simpa using current, counted⟩
  | elapse | yield => exact ⟨current, counted⟩
  | giveBack _ _ _ alike => exact ⟨by simpa [alike.current] using current, counted⟩
  | leave _ same => exact ⟨by simpa [same.current] using current, counted⟩

/-- What a tick in which `chosen` had the processor made of a simulation. -/
structure Simulation.Effect (s u : Simulation) (chosen : Option Handle) (event : TickEvent) :
    Prop where
  timeline : u.timeline = s.timeline.push
    ⟨s.kernel.tick, chosen.map fun h => (u.kernel.process h).pid, event⟩
  clock : u.kernel.tick = s.kernel.tick + 1
  current : u.kernel.current = chosen
  switches : u.switches = s.switches + switch s.kernel.current chosen
  stays : ∀ h ∈ s.kernel.handles, h ∈ u.kernel.handles ∧
    (u.kernel.process h).declared = (s.kernel.process h).declared
  life : ∀ h, (u.kernel.process h).life = s.lifeIn (.closing chosen event) h
  rests : chosen = none → event = .idle
  able : ∀ h, chosen = some h → h ∈ u.kernel.handles ∧ (s.kernel.process h).state ≠ .exited

namespace Simulation

variable {u : Simulation} {h : Handle}

theorem Effect.pid (effect : s.Effect u chosen event) (old : h ∈ s.kernel.handles) :
    (u.kernel.process h).pid = (s.kernel.process h).pid :=
  congrArg (·.pid) (effect.stays h old).2

theorem Effect.arrival (effect : s.Effect u chosen event) (old : h ∈ s.kernel.handles) :
    (u.kernel.process h).arrival = (s.kernel.process h).arrival :=
  congrArg (·.arrival) (effect.stays h old).2

/-- A tick changes nothing in the life of anybody who was not chosen. -/
theorem lifeIn_of_other (other : chosen ≠ some h) :
    s.lifeIn (.closing chosen event) h = (s.kernel.process h).life := by
  cases chosen with
  | none => simp [lifeIn, Process.life]
  | some j =>
      have apart : j ≠ h := fun is => other (congrArg some is)
      cases event <;> simp [lifeIn, Process.life, apart]

/-- A tick adds to the life of whoever was chosen what its line says. -/
theorem lifeIn_own (present : (s.kernel.process h).state ≠ .exited) :
    s.lifeIn (.closing (some h) event) h =
      ⟨(s.kernel.process h).age + (event == .run || event == .exit).toNat, event == .exit,
        if event == .exit then some (s.kernel.tick + 1) else (s.kernel.process h).exitTick⟩ := by
  cases event <;> simp [lifeIn, present]

end Simulation

namespace SimulationM.Staged

/-- Lives go on within a tick as far as it has got. -/
theorem lives (sound : Sound ⟨.arriving, s⟩) {m : Moment}
    (reaches : Moment.Reaches ⟨.arriving, s⟩ m) (h : Handle) :
    (m.sim.kernel.process h).life = s.lifeIn m.phase h := by
  have start : (s.kernel.process h).life = s.lifeIn .arriving h := by
    simp [Simulation.lifeIn, Process.life]
  induction reaches with
  | refl => exact start
  | tail before move ih =>
      exact (sound.reaches before).lives (Moment.Reaches.tick before) ih move

/-- Every tick has its effect. -/
theorem effect (sound : Sound ⟨.arriving, s⟩) (staged : Staged s g e chosen event) :
    s.Effect (e.close (e.line chosen event)) chosen event := by
  have reaches := staged.reaches
  have unchanged := Moment.Reaches.unchanged reaches
  have turned : Moment.Turned ⟨.closing chosen event, e⟩ s := by
    exact Moment.keeps (fun _ _ turned move => move.turned turned) ⟨rfl, by simp⟩ reaches
  have clock : e.kernel.tick = s.kernel.tick := Moment.Reaches.tick reaches
  have gathered : Sound ⟨.choosing, g⟩ := sound.reaches staged.arrived
  refine ⟨?_, ?_, turned.current, turned.counted, ?_, ?_, fun nobody => (staged.rests nobody).1, ?_⟩
  · have timeline : e.timeline = s.timeline := congrArg (·.timeline) unchanged
    show e.timeline.push _ = _
    rw [timeline, Simulation.line, clock]
    rfl
  · show e.kernel.tick + 1 = _
    rw [clock]
  · intro h used
    simpa using sound.stays_of_reaches reaches used
  · intro h
    simpa using lives sound reaches h
  · rintro h rfl
    -- It could run when it was chosen, so it had not left.
    obtain ⟨k, _, choice⟩ := staged.chose
    obtain ⟨used, able⟩ := gathered.able_of_named choice
    have present : (g.kernel.process h).state ≠ .exited := by
      rcases able with running | ready
      · simp [running]
      · simp [ready]
    have before : (g.kernel.process h).life = (s.kernel.process h).life := by
      rw [lives sound staged.arrived h]
      simp [Simulation.lifeIn, Process.life]
    refine ⟨by simpa using (gathered.stays_of_reaches staged.acts used).1, ?_⟩
    exact fun gone => present ((Process.exited_of_life before).mpr gone)

end SimulationM.Staged

end Uniprocessor
