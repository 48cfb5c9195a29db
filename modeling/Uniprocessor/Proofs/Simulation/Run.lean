import Uniprocessor.Proofs.Simulation.Start
import Uniprocessor.Simulation.Run

/-!
Whole runs.

A simulation stands between two ticks as it is made, once it is started and
after each tick (`Simulation.Boundary`). Steps from the start lead from one
boundary to the next (`SimulationM.run_steps`), and so does the loop of a run.
In each step those due arrive and the policy names somebody or nobody
(`Simulation.Picks`).

A property of moments is lasting if every move of a sound simulation keeps it,
and the end of a tick too (`Lasting`); it then holds at every boundary
(`Lasting.boundary`). The loop makes ticks while its verdict is `going`
(`Simulation.Goes`), and concludes with the first other verdict
(`SimulationM.run_run`).
-/

namespace Uniprocessor

/-- The states of a simulation between its ticks. -/
inductive Simulation.Boundary (s : Simulation) : Simulation → Prop where
  | made : Boundary s s
  | begun {t : Simulation} (ran : EStateM.run SimulationM.startOnce s = .ok () t) : Boundary s t
  | ticked {t u : Simulation} {line : TickRecord} (before : Boundary s t)
      (started : t.started = true) (ran : EStateM.run SimulationM.tick t = .ok line u) :
      Boundary s u

/-! ### Properties that last -/

/-- A property that moves keep and that holds again when a tick has ended. -/
structure Lasting (P : Moment → Prop) : Prop where
  move : ∀ {m m' : Moment}, Sound m → P m → Move m m' → P m'
  close : ∀ {s : Simulation} {chosen : Option Handle} {event : TickEvent},
    Sound ⟨.closing chosen event, s⟩ → P ⟨.closing chosen event, s⟩ →
      P ⟨.arriving, s.close (s.line chosen event)⟩

namespace Lasting

open SimulationM

variable {P : Moment → Prop} {s t : Simulation}

theorem reaches (lasting : Lasting P) {m m' : Moment} (sound : Sound m) (holds : P m)
    (reaches : m.Reaches m') : P m' :=
  sound.keeps lasting.move holds reaches

/-- A tick ends well in a sound simulation that still has the property. -/
theorem run_tick (lasting : Lasting P) (sound : Sound ⟨.arriving, s⟩) (holds : P ⟨.arriving, s⟩) :
    ∃ line t, EStateM.run tick s = .ok line t ∧ Sound ⟨.arriving, t⟩ ∧ P ⟨.arriving, t⟩ := by
  obtain ⟨chosen, event, t, ran, moves⟩ := SimulationM.run_tick sound
  have sound' := sound.reaches moves
  exact ⟨_, _, ran, sound'.close _, lasting.close sound' (lasting.reaches sound holds moves)⟩

/-- Whatever tick ran, it ended so. -/
theorem tick {line : TickRecord} (lasting : Lasting P) (sound : Sound ⟨.arriving, s⟩)
    (holds : P ⟨.arriving, s⟩) (ran : EStateM.run SimulationM.tick s = .ok line t) :
    Sound ⟨.arriving, t⟩ ∧ P ⟨.arriving, t⟩ := by
  obtain ⟨line, u, ran', final⟩ := lasting.run_tick sound holds
  rw [ran'] at ran
  cases ran
  exact final

/-- What lasts holds at every boundary if it holds of what is made and of what is begun. -/
theorem boundary_of_begun (lasting : Lasting P) (fresh : s.Fresh) (early : s.started = false)
    (made : P ⟨.arriving, s⟩)
    (begun : ∀ k, s.kernel.Alike k → ({ s with started := true }.onto k).Fresh →
      P ⟨.arriving, { s with started := true }.onto k⟩)
    (reached : s.Boundary t) : Sound ⟨.arriving, t⟩ ∧ P ⟨.arriving, t⟩ := by
  induction reached with
  | made => exact ⟨fresh.sound, made⟩
  | begun ran =>
      obtain ⟨k, ran', alike, fresh'⟩ := run_startOnce_alike fresh early
      rw [ran'] at ran
      cases ran
      exact ⟨fresh'.sound, begun k alike fresh'⟩
  | ticked before started ran ih => exact lasting.tick ih.1 ih.2 ran

/-- What lasts holds at every boundary. -/
theorem boundary (lasting : Lasting P) (fresh : s.Fresh) (early : s.started = false)
    (holds : ∀ u : Simulation, u.Fresh → u.policy = s.policy → P ⟨.arriving, u⟩)
    (reached : s.Boundary t) : Sound ⟨.arriving, t⟩ ∧ P ⟨.arriving, t⟩ :=
  lasting.boundary_of_begun fresh early (holds s fresh rfl) (fun _ _ fresh' => holds _ fresh' rfl)
    reached

end Lasting

/-- Nothing but being sound. -/
theorem Lasting.sound : Lasting fun _ => True := ⟨fun _ _ _ => trivial, fun _ _ => trivial⟩

theorem Sound.tick {s t : Simulation} {line : TickRecord} (sound : Sound ⟨.arriving, s⟩)
    (ran : EStateM.run SimulationM.tick s = .ok line t) : Sound ⟨.arriving, t⟩ :=
  (Lasting.sound.tick sound trivial ran).1

/-! ### Steps -/

namespace SimulationM

/-- Steps one after another, the first of which starts the simulation. -/
def steps : Nat → SimulationM Unit
  | 0 => pure ()
  | n + 1 => do
      let _ ← step
      steps n

variable {s t : Simulation} {line : TickRecord}

theorem run_startOnce_of_started (started : s.started = true) :
    EStateM.run startOnce s = .ok () s := by
  simp [startOnce, started]

/-- A step is a tick once the simulation has been started. -/
theorem run_step_of_begun (begun : EStateM.run startOnce s = .ok () t) :
    EStateM.run step s = EStateM.run tick t :=
  EStateM.run_bind_of_ok begun _

/-- Ticks change no settings and note their line. -/
theorem run_tick_settings (sound : Sound ⟨.arriving, s⟩) (ran : EStateM.run tick s = .ok line t) :
    t.started = s.started ∧ t.policy = s.policy ∧ t.workload = s.workload ∧ t.limit = s.limit ∧
      t.timeline.size = s.timeline.size + 1 := by
  obtain ⟨chosen, event, u, ran', moves⟩ := run_tick sound
  rw [ran'] at ran
  cases ran
  have same := Moment.Reaches.unchanged moves
  refine ⟨congrArg (·.started) same, congrArg (·.policy) same, congrArg (·.workload) same,
    congrArg (·.limit) same, ?_⟩
  have before : u.timeline = s.timeline := congrArg (·.timeline) same
  show (u.timeline.push _).size = _
  rw [Array.size_push, before]

/-- Steps of a started simulation are ticks. -/
theorem run_steps_of_started (sound : Sound ⟨.arriving, t⟩) (reached : s.Boundary t)
    (started : t.started = true) (n : Nat) :
    ∃ u, EStateM.run (steps n) t = .ok () u ∧ s.Boundary u := by
  induction n generalizing t with
  | zero => exact ⟨t, rfl, reached⟩
  | succ n ih =>
      obtain ⟨line, u, ran, sound', _⟩ := Lasting.sound.run_tick sound trivial
      obtain ⟨v, rest, reached'⟩ := ih sound' (.ticked reached started ran)
        ((run_tick_settings sound ran).1.trans started)
      refine ⟨v, ?_, reached'⟩
      have stepped : EStateM.run step t = .ok line u :=
        (run_step_of_begun (run_startOnce_of_started started)).trans ran
      exact (EStateM.run_bind_of_ok stepped _).trans rest

/-- One step more at the end. -/
theorem run_steps_last {u : Simulation} {n : Nat} (first : EStateM.run (steps n) s = .ok () t)
    (last : EStateM.run step t = .ok line u) : EStateM.run (steps (n + 1)) s = .ok () u := by
  induction n generalizing s with
  | zero =>
      cases first
      exact EStateM.run_bind_of_ok last _
  | succ n ih =>
      have split : EStateM.run (step >>= fun _ => steps n) s = .ok () t := first
      rw [EStateM.run_bind] at split
      cases stepped : EStateM.run step s with
      | ok line v =>
          rw [stepped] at split
          exact (EStateM.run_bind_of_ok stepped _).trans (ih split)
      | error fault v =>
          rw [stepped] at split
          cases split

/-- One step more at the start. -/
theorem run_steps_succ {u : Simulation} {n : Nat} (first : EStateM.run (steps 1) s = .ok () t)
    (rest : EStateM.run (steps n) t = .ok () u) : EStateM.run (steps (n + 1)) s = .ok () u := by
  have made : steps 1 = step >>= fun _ => pure () := rfl
  rw [made, EStateM.run_bind] at first
  cases stepped : EStateM.run step s with
  | ok line v =>
      rw [stepped] at first
      cases first
      exact (EStateM.run_bind_of_ok stepped _).trans rest
  | error fault v =>
      rw [stepped] at first
      cases first

end SimulationM

namespace Simulation.Boundary

variable {s t : Simulation}

theorem sound (fresh : s.Fresh) (early : s.started = false) (reached : s.Boundary t) :
    Sound ⟨.arriving, t⟩ :=
  (Lasting.sound.boundary fresh early (fun _ _ _ => trivial) reached).1

/-- What holds at the start, and again after every tick before which it held,
holds at every boundary. -/
theorem along {P : Simulation → Prop} (fresh : s.Fresh) (early : s.started = false)
    (start : ∀ u : Simulation, u.Fresh →
      u = { s with started := u.started, kernel := u.kernel } → P u)
    (ticked : ∀ {t g e : Simulation} {chosen : Option Handle} {event : TickEvent},
      Sound ⟨.arriving, t⟩ → P t → SimulationM.Staged t g e chosen event →
        P (e.close (e.line chosen event)))
    (reached : s.Boundary t) : P t := by
  induction reached with
  | made => exact start s fresh rfl
  | begun ran =>
      obtain ⟨k, ran', fresh'⟩ := SimulationM.run_startOnce fresh early
      rw [ran'] at ran
      cases ran
      exact start _ fresh' rfl
  | ticked before started ran ih =>
      have sound := before.sound fresh early
      obtain ⟨g, e, chosen, event, staged⟩ := SimulationM.run_staged sound
      have same := staged.ended.symm.trans ran
      cases same
      exact ticked sound ih staged

/-- Between two ticks nothing has happened yet, or a tick has just ended. -/
theorem fresh_or_ticked (fresh : s.Fresh) (early : s.started = false) (reached : s.Boundary t) :
    (t.Fresh ∧ t = { s with started := t.started, kernel := t.kernel }) ∨
      ∃ u g e chosen event, s.Boundary u ∧ SimulationM.Staged u g e chosen event ∧
        t = e.close (e.line chosen event) := by
  cases reached with
  | made => exact .inl ⟨fresh, rfl⟩
  | begun ran =>
      obtain ⟨k, ran', fresh'⟩ := SimulationM.run_startOnce fresh early
      rw [ran'] at ran
      cases ran
      exact .inl ⟨fresh', rfl⟩
  | @ticked u _ line before started ran =>
      obtain ⟨g, e, chosen, event, staged⟩ := SimulationM.run_staged (before.sound fresh early)
      have same := staged.ended.symm.trans ran
      cases same
      exact .inr ⟨u, g, e, chosen, event, before, staged, rfl⟩

/-- Two runs go side by side: what holds of them at the start, and again when both have made
a tick before which it held, holds whenever their clocks agree. -/
theorem side_by_side {R : Simulation → Simulation → Prop} {s₀ t₀ : Simulation}
    (fresh : s₀.Fresh) (early : s₀.started = false) (fresh' : t₀.Fresh)
    (early' : t₀.started = false)
    (start : ∀ s t : Simulation, s.Fresh → t.Fresh →
      s = { s₀ with started := s.started, kernel := s.kernel } →
      t = { t₀ with started := t.started, kernel := t.kernel } → R s t)
    (ticked : ∀ {s t g g' e e' : Simulation} {chosen chosen' : Option Handle}
      {event event' : TickEvent}, s₀.Boundary s → t₀.Boundary t →
      s.kernel.tick = t.kernel.tick → R s t → SimulationM.Staged s g e chosen event →
      SimulationM.Staged t g' e' chosen' event' → s₀.Boundary (e.close (e.line chosen event)) →
      t₀.Boundary (e'.close (e'.line chosen' event')) →
      R (e.close (e.line chosen event)) (e'.close (e'.line chosen' event')))
    (reached : s₀.Boundary s) (reached' : t₀.Boundary t)
    (clock : s.kernel.tick = t.kernel.tick) : R s t := by
  have after : ∀ {u g e : Simulation} {chosen : Option Handle} {event : TickEvent},
      SimulationM.Staged u g e chosen event →
        (e.close (e.line chosen event)).kernel.tick = u.kernel.tick + 1 :=
    fun staged => congrArg (· + 1) (Moment.Reaches.tick staged.reaches)
  -- On the clock. At its beginning both are fresh, since a tick would have moved it; later both
  -- have made a tick from where the clocks agreed as well.
  induction now : s.kernel.tick generalizing s t with
  | zero =>
      rcases reached.fresh_or_ticked fresh early with
        ⟨first, is⟩ | ⟨_, _, _, _, _, _, staged, rfl⟩
      · rcases reached'.fresh_or_ticked fresh' early' with
          ⟨first', is'⟩ | ⟨_, _, _, _, _, _, staged, rfl⟩
        · exact start s t first first' is is'
        · have later := after staged
          omega
      · have later := after staged
        omega
  | succ n ih =>
      rcases reached.fresh_or_ticked fresh early with
        ⟨first, _⟩ | ⟨s', _, _, _, _, before, staged, rfl⟩
      · have never := first.kernel.tick
        omega
      rcases reached'.fresh_or_ticked fresh' early' with
        ⟨first, _⟩ | ⟨t', _, _, _, _, before', staged', rfl⟩
      · have never := first.kernel.tick
        omega
      have later := after staged
      have later' := after staged'
      have same : s'.kernel.tick = t'.kernel.tick := by omega
      exact ticked before before' same (ih before before' same (by omega)) staged staged' reached
        reached'

/-- Nothing is flagged before the end of a run, and its limit stays. -/
theorem flags (fresh : s.Fresh) (early : s.started = false) (reached : s.Boundary t) :
    t.limit = s.limit ∧ t.stalled = s.stalled ∧ t.truncated = s.truncated := by
  refine reached.along (P := fun t => t.limit = s.limit ∧ t.stalled = s.stalled ∧
    t.truncated = s.truncated) fresh early ?_ ?_
  · intro u _ is
    rw [is]
    exact ⟨rfl, rfl, rfl⟩
  · intro t g e chosen event _ same staged
    have kept : e = _ := Moment.Reaches.unchanged staged.reaches
    rw [kept]
    exact same

/-- A run keeps its policy. -/
theorem policy (fresh : s.Fresh) (early : s.started = false) (reached : s.Boundary t) :
    t.policy = s.policy := by
  refine reached.along (P := fun t => t.policy = s.policy) fresh early ?_ ?_
  · intro u _ is
    rw [is]
  · intro u g e chosen event _ same staged
    exact (congrArg (·.policy) (Moment.Reaches.unchanged staged.reaches)).trans same

/-- From every boundary the next step begins with a simulation that has been started. -/
theorem begin (fresh : s.Fresh) (early : s.started = false) (reached : s.Boundary t) :
    ∃ u, EStateM.run SimulationM.startOnce t = .ok () u ∧ s.Boundary u ∧ u.started = true ∧
      t.kernel.Alike u.kernel ∧ u = { t with started := true, kernel := u.kernel } := by
  have again : ∀ {t : Simulation}, s.Boundary t → t.started = true →
      ∃ u, EStateM.run SimulationM.startOnce t = .ok () u ∧ s.Boundary u ∧ u.started = true ∧
        t.kernel.Alike u.kernel ∧ u = { t with started := true, kernel := u.kernel } := by
    intro t reached started
    refine ⟨t, SimulationM.run_startOnce_of_started started, reached, started, .refl _, ?_⟩
    rw [← started]
  cases reached with
  | made =>
      obtain ⟨k, begun, alike, _⟩ := SimulationM.run_startOnce_alike fresh early
      exact ⟨_, begun, .begun begun, rfl, alike, rfl⟩
  | begun ran =>
      obtain ⟨k, begun, _⟩ := SimulationM.run_startOnce fresh early
      have is := begun.symm.trans ran
      cases is
      exact again (.begun begun) rfl
  | @ticked t u line before started ran =>
      have settings := SimulationM.run_tick_settings (before.sound fresh early) ran
      exact again (.ticked before started ran) (settings.1.trans started)

/-- Steps from a boundary end well, whatever their number. -/
theorem steps (fresh : s.Fresh) (early : s.started = false) (reached : s.Boundary t) (n : Nat) :
    ∃ u, EStateM.run (SimulationM.steps n) t = .ok () u ∧ s.Boundary u := by
  cases n with
  | zero => exact ⟨t, rfl, reached⟩
  | succ n =>
      obtain ⟨t', begun, reached', started, _⟩ := reached.begin fresh early
      obtain ⟨u, ran, reached''⟩ := SimulationM.run_steps_of_started (reached'.sound fresh early)
        reached' started (n + 1)
      refine ⟨u, ?_, reached''⟩
      have stepped : EStateM.run SimulationM.step t = EStateM.run SimulationM.step t' :=
        (SimulationM.run_step_of_begun begun).trans
          (SimulationM.run_step_of_begun (SimulationM.run_startOnce_of_started started)).symm
      rw [← ran]
      simp only [SimulationM.steps, EStateM.run_bind, stepped]

/-- Every step is one tick. -/
theorem size_timeline_steps {u : Simulation} {n : Nat} (fresh : s.Fresh)
    (early : s.started = false) (reached : s.Boundary t)
    (ran : EStateM.run (SimulationM.steps n) t = .ok () u) :
    u.timeline.size = t.timeline.size + n := by
  induction n generalizing t with
  | zero =>
      cases ran
      rfl
  | succ n ih =>
      obtain ⟨t', begun, reached', started, _, is⟩ := reached.begin fresh early
      have sound := reached'.sound fresh early
      obtain ⟨line, v, ticked, _⟩ := Lasting.sound.run_tick sound trivial
      have stepped := (SimulationM.run_step_of_begun begun).trans ticked
      have rest : EStateM.run (SimulationM.steps n) v = .ok () u :=
        (EStateM.run_bind_of_ok stepped _).symm.trans ran
      have size := (SimulationM.run_tick_settings sound ticked).2.2.2.2
      have same : t'.timeline = t.timeline := by rw [is]
      rw [ih (.ticked reached' started ticked) rest, size, same]
      omega

/-- The number of ticks so far tells how many steps lead here, up to the start. -/
theorem counted (fresh : s.Fresh) (early : s.started = false) (empty : s.timeline.size = 0)
    (reached : s.Boundary t) :
    ∃ u, EStateM.run (SimulationM.steps t.timeline.size) s = .ok () u ∧
      EStateM.run SimulationM.startOnce u = EStateM.run SimulationM.startOnce t := by
  -- On how the boundary is reached: the start takes no step, and every tick takes one.
  induction reached with
  | made =>
      rw [empty]
      exact ⟨s, rfl, rfl⟩
  | begun ran =>
      obtain ⟨k, begun, _⟩ := SimulationM.run_startOnce fresh early
      have is := begun.symm.trans ran
      cases is
      refine ⟨s, ?_, begun⟩
      show EStateM.run (SimulationM.steps s.timeline.size) s = .ok () s
      rw [empty]
      rfl
  | @ticked t u line before started ran ih =>
      obtain ⟨v, stepped, same⟩ := ih
      have begun := same.trans (SimulationM.run_startOnce_of_started started)
      rw [(SimulationM.run_tick_settings (before.sound fresh early) ran).2.2.2.2]
      exact ⟨u, SimulationM.run_steps_last stepped
        ((SimulationM.run_step_of_begun begun).trans ran), rfl⟩

end Simulation.Boundary

/-- Steps from the start end well, whatever their number. -/
theorem SimulationM.run_steps {s : Simulation} (fresh : s.Fresh) (early : s.started = false)
    (n : Nat) : ∃ t, EStateM.run (steps n) s = .ok () t ∧ s.Boundary t :=
  Simulation.Boundary.made.steps fresh early n

/-! ### Picking -/

namespace Simulation

variable {s t t' g e : Simulation} {chosen : Option Handle} {event : TickEvent}

/-- In the state `g` the next step asks the policy, which names `chosen`. -/
structure Picks (t g : Simulation) (chosen : Option Handle) : Prop where
  gathered : ∃ u, EStateM.run SimulationM.startOnce t = .ok () u ∧
    EStateM.run (SimulationM.arrivals u.pending) u = .ok () g
  scheduled : ∃ k, g.policy.schedule.run g.kernel = .ok chosen k
  stepped : ∃ line u, EStateM.run SimulationM.step t = .ok line u ∧
    line.pid = chosen.map fun h => (g.kernel.process h).pid

/-- It does not matter whether the simulation has been started already. -/
theorem Picks.congr (picks : t.Picks g chosen)
    (same : EStateM.run SimulationM.startOnce t' = EStateM.run SimulationM.startOnce t) :
    t'.Picks g chosen := by
  have stepped : EStateM.run SimulationM.step t' = EStateM.run SimulationM.step t := by
    show EStateM.run (SimulationM.startOnce >>= fun _ => SimulationM.tick) t' =
      EStateM.run (SimulationM.startOnce >>= fun _ => SimulationM.tick) t
    rw [EStateM.run_bind, EStateM.run_bind, same]
  obtain ⟨gathered, scheduled, line⟩ := picks
  rw [← same] at gathered
  rw [← stepped] at line
  exact ⟨gathered, scheduled, line⟩

/-- Whoever is named at the choice of a tick is picked. -/
theorem picks_of_staged (sound : Sound ⟨.arriving, s⟩)
    (begun : EStateM.run SimulationM.startOnce t = .ok () s)
    (staged : SimulationM.Staged s g e chosen event) : t.Picks g chosen := by
  obtain ⟨k, scheduled, choice⟩ := staged.chose
  refine ⟨⟨s, begun, staged.gathered⟩, ⟨k, scheduled⟩,
    _, _, (SimulationM.run_step_of_begun begun).trans staged.ended, ?_⟩
  have gathered : Sound ⟨.choosing, g⟩ := sound.reaches staged.arrived
  cases chosen with
  | none => rfl
  | some h =>
      have used := (gathered.able_of_named choice).1
      exact congrArg (fun p => some p.pid) (gathered.stays_of_reaches staged.acts used).2

/-- Every boundary has a state in which its next step picks somebody or nobody. -/
theorem Boundary.picks (fresh : s.Fresh) (early : s.started = false) (reached : s.Boundary t) :
    ∃ u g chosen, s.Boundary u ∧ Moment.Reaches ⟨.arriving, u⟩ ⟨.choosing, g⟩ ∧
      t.Picks g chosen := by
  obtain ⟨u, begun, reached', _⟩ := reached.begin fresh early
  have sound := reached'.sound fresh early
  obtain ⟨g, e, chosen, event, staged⟩ := SimulationM.run_staged sound
  exact ⟨u, g, chosen, reached', staged.arrived, picks_of_staged sound begun staged⟩

/-- The state in which the next step asks the policy, and the answer. -/
def picked (t : Simulation) : Option (Simulation × Option Handle) :=
  match EStateM.run SimulationM.startOnce t with
  | .error _ _ => none
  | .ok _ u =>
      match EStateM.run (SimulationM.arrivals u.pending) u with
      | .error _ _ => none
      | .ok _ g =>
          match g.policy.schedule.run g.kernel with
          | .error _ _ => none
          | .ok chosen _ => some (g, chosen)

theorem Picks.picked_eq (picks : t.Picks g chosen) : t.picked = some (g, chosen) := by
  obtain ⟨u, begun, gathered⟩ := picks.gathered
  obtain ⟨k, scheduled⟩ := picks.scheduled
  simp only [picked, begun, gathered, scheduled]

end Simulation

/-! ### Runs on fixed workloads -/

/-- The simulation of a workload after so many steps, if nothing fails. -/
def Simulation.after (w : Workload) (policy : Policy) (resources : Int) (n : Nat) :
    Option Simulation :=
  match Simulation.create w policy resources none with
  | .error _ => none
  | .ok s =>
      match EStateM.run (SimulationM.steps n) s with
      | .ok _ t => some t
      | .error _ _ => none

theorem Simulation.after_eq_some {w : Workload} {policy : Policy} {resources : Int} {n : Nat}
    {t : Simulation} (found : Simulation.after w policy resources n = some t) :
    ∃ s, Simulation.create w policy resources none = .ok s ∧
      EStateM.run (SimulationM.steps n) s = .ok () t := by
  unfold Simulation.after at found
  split at found
  · cases found
  · rename_i s created
    split at found
    · rename_i u ran
      cases found
      exact ⟨s, created, ran⟩
    · cases found

theorem Simulation.after_of_run {w : Workload} {policy : Policy} {resources : Int} {n : Nat}
    {s t : Simulation} (created : Simulation.create w policy resources none = .ok s)
    (ran : EStateM.run (SimulationM.steps n) s = .ok () t) :
    Simulation.after w policy resources n = some t := by
  simp only [Simulation.after, created, ran]

/-- What has been reached after so many steps from the start is a boundary. -/
theorem Simulation.boundary_of_steps {w : Workload} {d : Discipline} {protocol : Protocol}
    {resources : Int} {limit : Option Int} {n : Nat} {s t : Simulation} (valid : w.Valid)
    (positive : 0 < resources) (fits : ∀ r ∈ w.resourceIds, r < resources)
    (created : Simulation.create w (.of d protocol) resources limit = .ok s)
    (ran : EStateM.run (SimulationM.steps n) s = .ok () t) :
    s.Fresh ∧ s.started = false ∧ s.Boundary t := by
  obtain ⟨k, s', created', fresh, is⟩ := create_of_valid valid positive fits d protocol limit
  obtain rfl : s = s' := Except.ok.inj (created.symm.trans created')
  have early : s.started = false := by rw [is]
  obtain ⟨t', ran', reached⟩ := SimulationM.run_steps fresh early n
  rw [ran] at ran'
  cases ran'
  exact ⟨fresh, early, reached⟩

/-! ### The loop of a run -/

namespace Simulation

/-- So many ticks lead from one state to the other, and the verdict before each
of them was to go on. -/
inductive Goes : Nat → Simulation → Simulation → Prop where
  | stay {s : Simulation} : Goes 0 s s
  | go {s t u : Simulation} {line : TickRecord} {n : Nat} (going : s.verdict = .going)
      (ran : EStateM.run SimulationM.tick s = .ok line t) (rest : Goes n t u) : Goes (n + 1) s u

/-- What a run notes when it ends. -/
def conclude (s : Simulation) : Simulation :=
  match s.verdict with
  | .finished | .going => s
  | .atLimit limit => { s with truncated := true }.onto (s.kernel.record (.stopped limit))
  | .stuck pids => { s with stalled := true }.onto (s.kernel.record (.stalled pids))

theorem alike_conclude (s : Simulation) : s.kernel.Alike s.conclude.kernel := by
  unfold conclude
  split
  · exact .refl _
  · exact .refl _
  · exact .record _ _
  · exact .record _ _

@[simp] theorem conclude_views (s : Simulation) :
    s.conclude.policy = s.policy ∧ s.conclude.pending = s.pending ∧ s.conclude.table = s.table ∧
      (∀ pid, s.conclude.held pid = s.held pid) ∧
      (∀ pid, s.conclude.grantedTo pid = s.grantedTo pid) ∧
      s.conclude.timeline = s.timeline := by
  unfold conclude
  split <;> exact ⟨rfl, rfl, rfl, fun _ => rfl, fun _ => rfl, rfl⟩

/-- A run that has come to one state ends with the other: they differ in the flags,
the log and what the policy remembers, and only what is stuck stalls. -/
structure Ends (t u : Simulation) : Prop where
  alike : t.kernel.Alike u.kernel
  process : ∀ h, u.kernel.process h = t.kernel.process h
  rest : u = { t with kernel := u.kernel, stalled := u.stalled, truncated := u.truncated }
  stalled : u.stalled = true → t.stalled = true ∨ t.stuck = true
  truncated : u.truncated = true → t.truncated = true ∨ t.limit ≠ none

theorem Ends.refl (t : Simulation) : t.Ends t := ⟨.refl _, fun _ => rfl, rfl, .inl, .inl⟩

theorem Ends.onto {t u : Simulation} {k : Kernel} (ends : t.Ends u) (alike : u.kernel.Alike k)
    (process : ∀ h, k.process h = u.kernel.process h) : t.Ends (u.onto k) where
  alike := ends.alike.trans alike
  process h := (process h).trans (ends.process h)
  rest := by
    rw [ends.rest]
    rfl
  stalled := ends.stalled
  truncated := ends.truncated

theorem Ends.table {t u : Simulation} (ends : t.Ends u) : u.table = t.table :=
  congrArg (·.table) ends.rest

theorem Ends.processes {t u : Simulation} (ends : t.Ends u) : u.processes = t.processes := by
  unfold Simulation.processes
  rw [ends.table]
  exact List.map_congr_left fun h _ => ends.process h

theorem Ends.done {t u : Simulation} (ends : t.Ends u) : u.done = t.done := by
  have pending : u.pending = t.pending := congrArg (·.pending) ends.rest
  unfold Simulation.done
  rw [ends.processes, pending]

/-- The report of a run is that of the boundary at which it ended, but for the flags. -/
theorem Ends.report {t u : Simulation} (ends : t.Ends u) :
    u.report = { t.report with stalled := u.stalled, truncated := u.truncated } := by
  have policy : u.policy = t.policy := congrArg (·.policy) ends.rest
  have timeline : u.timeline = t.timeline := congrArg (·.timeline) ends.rest
  have switches : u.switches = t.switches := congrArg (·.switches) ends.rest
  unfold Simulation.report
  rw [ends.processes, policy, timeline, switches]

theorem stuck_of_verdict {s : Simulation} {pids : List Int} (is : s.verdict = .stuck pids) :
    s.stuck = true := by
  unfold verdict at is
  split at is
  · cases is
  · split at is
    · cases is
    · split at is
      · assumption
      · cases is

theorem limit_of_atLimit {s : Simulation} {limit : Int} (is : s.verdict = .atLimit limit) :
    s.limit ≠ none := by
  intro unlimited
  unfold verdict at is
  rw [unlimited] at is
  split at is
  · cases is
  · dsimp only [Option.filter] at is
    split at is <;> cases is

theorem ends_conclude (s : Simulation) : s.Ends s.conclude := by
  cases is : s.verdict with
  | finished | going =>
      have same : s.conclude = s := by simp only [conclude, is]
      rw [same]
      exact .refl s
  | atLimit limit =>
      simp only [conclude, is]
      exact ⟨.record _ _, by simp, rfl, .inl, fun _ => .inr (limit_of_atLimit is)⟩
  | stuck pids =>
      simp only [conclude, is]
      exact ⟨.record _ _, by simp, rfl, fun _ => .inr (stuck_of_verdict is), .inl⟩

namespace Goes

variable {s t u : Simulation} {n : Nat}

theorem sound (goes : Goes n s t) (sound : Sound ⟨.arriving, s⟩) : Sound ⟨.arriving, t⟩ := by
  induction goes with
  | stay => exact sound
  | go going ran rest ih => exact ih (sound.tick ran)

/-- The loop goes from boundary to boundary. -/
theorem boundary (goes : Goes n t u) (sound : Sound ⟨.arriving, t⟩) (started : t.started = true)
    (reached : s.Boundary t) : s.Boundary u := by
  induction goes with
  | stay => exact reached
  | go going ran rest ih =>
      exact ih (sound.tick ran) ((SimulationM.run_tick_settings sound ran).1.trans started)
        (.ticked reached started ran)

end Goes

end Simulation

namespace SimulationM

open Simulation

variable {s : Simulation}

/-- The loop makes ticks while the verdict is to go on, and then concludes,
unless its fuel ends first. -/
theorem run_untilVerdict (sound : Sound ⟨.arriving, s⟩) (fuel : Nat) :
    ∃ n t u, Goes n s t ∧ EStateM.run (untilVerdict fuel) s = .ok () u ∧
      (t.verdict ≠ .going ∧ u = t.conclude ∨ n = fuel ∧ u = t) := by
  induction fuel generalizing s with
  | zero => exact ⟨0, s, s, .stay, rfl, .inr ⟨rfl, rfl⟩⟩
  | succ fuel ih =>
      cases verdict : s.verdict with
      | going =>
          obtain ⟨line, t, ran, sound', _⟩ := Lasting.sound.run_tick sound trivial
          obtain ⟨n, t', u, goes, rest, ended⟩ := ih sound'
          refine ⟨n + 1, t', u, .go verdict ran goes, ?_, ?_⟩
          · simp [untilVerdict, verdict, ran, rest]
          · rcases ended with ⟨done, is⟩ | ⟨spent, is⟩
            · exact .inl ⟨done, is⟩
            · exact .inr ⟨by rw [spent], is⟩
      | finished | atLimit limit | stuck pids =>
          refine ⟨0, s, s.conclude, .stay, ?_, .inl ⟨by simp [verdict], rfl⟩⟩
          simp [untilVerdict, verdict, conclude]

/-- The end of a run: what the loop came to, after the policy has been torn down.
That touches no process. -/
theorem run_concluded (fresh : s.Fresh) (early : s.started = false) :
    ∃ s₀ n t u k, s₀.Fresh ∧ s₀ = { s with started := true, kernel := s₀.kernel } ∧
      Goes n s₀ t ∧ s.Boundary t ∧
      (t.verdict ≠ .going ∧ u = t.conclude ∨ n = s₀.fuel ∧ u = t) ∧
      (u.kernel.Alike k ∧ ∀ h, k.process h = u.kernel.process h) ∧
      s.run = .ok (u.onto k).report (u.onto k) := by
  obtain ⟨k₀, begun, fresh'⟩ := run_startOnce fresh early
  let s₀ := { s with started := true }.onto k₀
  obtain ⟨n, t, u, goes, looped, ended⟩ := run_untilVerdict fresh'.sound s₀.fuel
  obtain ⟨d, protocol, policy⟩ := (goes.sound fresh'.sound).policy
  -- Neither the loop nor its end changes the policy, so it is the one that is torn down.
  have policy : u.policy = .of d protocol := by
    rcases ended with ⟨_, rfl⟩ | ⟨_, rfl⟩
    · simpa using policy
    · exact policy
  obtain ⟨k, reset, same⟩ := Protocol.run_reset (k := u.kernel) protocol
  have torn : EStateM.run (onKernel u.policy.tearDown) u = .ok () (u.onto k) := by
    rw [policy]
    exact run_onKernel reset
  have reached := goes.boundary fresh'.sound rfl (.begun begun)
  refine ⟨s₀, n, t, u, k, fresh', rfl, goes, reached, ended, same, ?_⟩
  have attempt := (EStateM.run_bind_of_ok (EStateM.run_get s₀) fun s => untilVerdict s.fuel).trans
    looped
  have cleanUp := (EStateM.run_bind_of_ok (EStateM.run_get u)
    fun s => onKernel s.policy.tearDown).trans torn
  exact (EStateM.run_bind_of_ok begun _).trans
    ((EStateM.run_bind_of_ok (EStateM.run_tryFinally_of_ok attempt cleanUp) _).trans
      (EStateM.run_bind_of_ok (EStateM.run_get _) _))

theorem run_run (fresh : s.Fresh) (early : s.started = false) :
    ∃ s₀ n t u k, s₀.Fresh ∧ s₀ = { s with started := true, kernel := s₀.kernel } ∧
      Goes n s₀ t ∧ s.Boundary t ∧
      (t.verdict ≠ .going ∧ u = t.conclude ∨ n = s₀.fuel ∧ u = t) ∧
      u.kernel.Alike k ∧ s.run = .ok (u.onto k).report (u.onto k) := by
  obtain ⟨s₀, n, t, u, k, fresh₀, is, goes, reached, ended, ⟨alike, _⟩, ran⟩ :=
    run_concluded fresh early
  exact ⟨s₀, n, t, u, k, fresh₀, is, goes, reached, ended, alike, ran⟩

/-- A run ends at a boundary. -/
theorem run_ended (fresh : s.Fresh) (early : s.started = false) :
    ∃ t u, s.Boundary t ∧ t.Ends u ∧ s.run = .ok u.report u := by
  obtain ⟨_, _, t, u, k, _, _, _, reached, ended, ⟨alike, process⟩, ran⟩ :=
    run_concluded fresh early
  refine ⟨t, u.onto k, reached, ?_, ran⟩
  rcases ended with ⟨_, rfl⟩ | ⟨_, rfl⟩
  · exact t.ends_conclude.onto alike process
  · exact (Ends.refl u).onto alike process

end SimulationM

end Uniprocessor
