import Uniprocessor.Proofs.Indifference
import Uniprocessor.Proofs.Simulation.Picks

/-!
Disciplines that decide as another one does.

Two decisions that choose the same process and send the same one back leave twins of
twins (`Policy.Scheduled.twin`). So a discipline that decides as another one would,
wherever it is asked in a run (`Simulation.Accords`), makes the same run as the other
one, whatever the protocols are. The simulations show the same after any number of
steps, and the reports differ in the name of the policy only
(`Simulation.Accords.runsAlike`). One of them may be first come, first served, which
lets those go in turn who could be chosen (`Simulation.GoesInTurn`).
-/

namespace Uniprocessor

open EStateM (Together)
open SimulationM (steps startOnce tick arrivals)

/-! ### Decisions about twins -/

namespace Policy

variable {paced : Prop} {others : List Handle} {k k' l l' : Kernel} {δ δ' : Decision}

/-- Twins are left as twins by decisions that choose the same process and send the same one
back. -/
theorem Scheduled.twin (left : Scheduled k δ k') (right : Scheduled l δ' l')
    (twin : k.Twin paced others l) (chosen : δ'.chosen = δ.chosen) (back : δ'.back = δ.back)
    (slice : paced → δ'.slice = δ.slice) : k'.Twin paced others l' where
  process h := by
    have same := twin.process h
    -- The one that is chosen, the one that is sent back, and everybody else.
    by_cases named : δ.chosen = some h
    · rw [left.chosen h named, right.chosen h (chosen.trans named), back]
      split
      · exact congrArg (fun p : Process => (p.inState .ready).marked none) same
      · exact congrArg (·.marked none) same
    · by_cases sent : δ.back = some h
      · rw [left.preempted h sent named, right.preempted h (back.trans sent) (chosen ▸ named)]
        exact congrArg Process.preempted same
      · rw [left.other h named sent, right.other h (chosen ▸ named) (back ▸ sent), same]
  owner r := by rw [left.owner, right.owner, twin.owner]
  ceiling r := by rw [left.ceiling, right.ceiling, twin.ceiling]
  queue q := by
    by_cases ready : q = .ready
    · subst ready
      rw [left.ready, right.ready, twin.queue, chosen, back]
    · rw [left.queue q ready, right.queue q ready, twin.queue]
  handles := by rw [left.handles, right.handles, twin.handles]
  current := by rw [left.current, right.current, twin.current]
  size := by rw [left.size, right.size, twin.size]
  tick := by rw [left.tick, right.tick, twin.tick]
  slice pace := by rw [left.memory, right.memory, slice pace]
  known := twin.known.grow (fun h used => left.handles ▸ used) left.current left.owner

theorem candidates_twin (twin : k.Twin paced others l) : candidates l = candidates k := by
  unfold candidates
  rw [continuing_twin twin, twin.queue]

/-- A key that does not look at boosts decides the same for twins. -/
theorem leastOf_twin (twin : k.Twin paced others l) {key : Process → Int}
    (blind : ∀ p : Process, key p.clearBoosts = key p) :
    (leastOf key l).chosen = (leastOf key k).chosen ∧
      (leastOf key l).back = (leastOf key k).back := by
  have same : (fun h => key (l.process h)) = fun h => key (k.process h) :=
    funext fun h => twin.view key blind h
  simp only [leastOf, candidates_twin twin, continuing_twin twin, same, and_self]

end Policy

namespace Discipline

variable {d d' : Discipline} {k l : Kernel}

/-- The other discipline chooses the same process and sends the same one back, whoever is
boosted. -/
def Accords (d d' : Discipline) (k : Kernel) : Prop :=
  ∀ l : Kernel, k.Twin False [] l →
    (d'.decision l).chosen = (d.decision k).chosen ∧ (d'.decision l).back = (d.decision k).back

/-- Disciplines that decide the same schedule twins together. -/
theorem Accords.together (accords : d.Accords d' k) (ready : k.Schedulable)
    (ready' : l.Schedulable) (twin : k.Twin False [] l) :
    Together (Kernel.Twin False []) d.schedule d'.schedule k l := by
  obtain ⟨k', left, scheduled⟩ := d.scheduled ready
  obtain ⟨l', right, scheduled'⟩ := d'.scheduled ready'
  obtain ⟨chosen, back⟩ := accords l twin
  intro a b u v ran ran'
  rw [left] at ran
  rw [right] at ran'
  cases ran
  cases ran'
  exact ⟨chosen.symm, scheduled.twin scheduled' twin chosen back nofun⟩

/-- Whoever goes on is chosen, otherwise the head of the ready queue, and nobody is sent
back. -/
def InTurn (d : Discipline) (k : Kernel) : Prop :=
  (d.decision k).chosen = (Policy.candidates k).head? ∧ (d.decision k).back = none

/-- A discipline that goes in turn decides as first come, first served does. -/
theorem InTurn.accords (turn : d.InTurn k) : d.Accords .firstCome k := by
  intro l twin
  rw [turn.1, turn.2, ← Policy.candidates_twin twin]
  exact ⟨rfl, rfl⟩

end Discipline

namespace Simulation

variable {s t u v g : Simulation} {d d' : Discipline} {p q : Protocol}

/-- Wherever the discipline is asked, it decides as the other one does. -/
def Accords (s : Simulation) (d d' : Discipline) : Prop :=
  ∀ n g chosen, s.PicksAt n g chosen → d.Accords d' g.kernel

/-- Wherever the discipline is asked, it decides as first come, first served does. -/
def GoesInTurn (s : Simulation) (d : Discipline) : Prop :=
  ∀ n g chosen, s.PicksAt n g chosen → d.InTurn g.kernel

theorem GoesInTurn.accords (turns : s.GoesInTurn d) : s.Accords d .firstCome :=
  fun n g chosen picks => (turns n g chosen picks).accords

/-- The simulations show the same after any number of steps, and their runs leave the same
and end with the same report, but for the name of the policy. -/
structure RunsAlike (s t : Simulation) : Prop where
  steps : ∀ n, ∃ s' t', EStateM.run (steps n) s = .ok () s' ∧
    EStateM.run (SimulationM.steps n) t = .ok () t' ∧ s'.Matches t'
  run : ∃ report s' t', s.run = .ok report s' ∧
    t.run = .ok { report with policy := t.policy.title } t' ∧ s'.Matches t'

/-- The twins stand between two ticks of runs from `s` and `t`. -/
structure Abreast (s t u v : Simulation) : Prop where
  twin : u.Twin False [] v
  left : s.Boundary u
  right : t.Boundary v

section Abreast

variable (fresh : s.Fresh) (fresh' : t.Fresh) (early : s.started = false)
  (early' : t.started = false)

include fresh fresh' early early'

theorem Abreast.begin (abreast : s.Abreast t u v) :
    Together (fun u v => s.Abreast t u v ∧ u.started = true) startOnce startOnce u v := by
  intro a b u' v' ran ran'
  obtain ⟨u'', begun, left, started, _⟩ := abreast.left.begin fresh early
  obtain ⟨v'', begun', right, _⟩ := abreast.right.begin fresh' early'
  have twin := (SimulationM.together_startOnce abreast.twin _ _ _ _ ran ran').2
  rw [begun] at ran
  rw [begun'] at ran'
  cases ran
  cases ran'
  exact ⟨rfl, ⟨twin, left, right⟩, started⟩

variable (empty : s.timeline.size = 0) (policy : s.policy = .of d p)
  (policy' : t.policy = .of d' q) (accords : s.Accords d d')

include empty policy policy' accords

theorem Abreast.tick (abreast : s.Abreast t u v) (started : u.started = true) :
    Together (fun u v => s.Abreast t u v ∧ u.started = true) tick tick u v := by
  have sound := abreast.left.sound fresh early
  have sound' := abreast.right.sound fresh' early'
  intro a b u' v' ran ran'
  have schedules : ∀ g g', EStateM.run (arrivals u.pending) u = .ok () g →
      EStateM.run (arrivals v.pending) v = .ok () g' → g.Twin False [] g' →
      Together (Kernel.Twin False []) g.policy.schedule g'.policy.schedule g.kernel g'.kernel := by
    intro g g' ran ran' twin
    obtain ⟨g₀, e, chosen, event, staged⟩ := SimulationM.run_staged sound
    obtain rfl : g = g₀ := by
      have same := ran.symm.trans staged.gathered
      cases same
      rfl
    have decides := accords _ g chosen (abreast.left.picksAt fresh early empty started staged)
    obtain ⟨choosing, kept⟩ := SimulationM.gathered_of_run sound ran
    obtain ⟨choosing', kept'⟩ := SimulationM.gathered_of_run sound' ran'
    rw [kept, kept', abreast.left.policy fresh early, abreast.right.policy fresh' early', policy,
      policy']
    exact decides.together choosing.order.schedulable choosing'.order.schedulable twin.kernel
  have both := SimulationM.together_tick_of abreast.twin schedules _ _ _ _ ran ran'
  exact ⟨both.1, ⟨both.2, .ticked abreast.left started ran,
    .ticked abreast.right (abreast.twin.started.trans started) ran'⟩,
    (SimulationM.run_tick_settings sound ran).1.trans started⟩

theorem Abreast.steps (abreast : s.Abreast t u v) (n : Nat) :
    Together (s.Abreast t) (SimulationM.steps n) (SimulationM.steps n) u v := by
  induction n generalizing u v with
  | zero => exact .pure _ abreast
  | succ n ih =>
      have step : Together (fun u v => s.Abreast t u v ∧ u.started = true) SimulationM.step
          SimulationM.step u v :=
        (abreast.begin fresh fresh' early early').bind fun _ _ _ abreast =>
          abreast.1.tick fresh fresh' early early' empty policy policy' accords abreast.2
      exact step.bind_run fun _ _ _ _ _ abreast => ih abreast.1

/-- A discipline that decides as another one does runs like it. -/
theorem Accords.runsAlike (twin : s.Twin False [] t) : s.RunsAlike t where
  steps n := by
    obtain ⟨s', stepped, _⟩ := SimulationM.run_steps fresh early n
    obtain ⟨t', stepped', _⟩ := SimulationM.run_steps fresh' early' n
    have start : s.Abreast t s t := ⟨twin, .made, .made⟩
    have abreast := (start.steps fresh fresh' early early' empty policy policy' accords n _ _ _ _
      stepped stepped').2
    exact ⟨s', t', stepped, stepped', abreast.twin.matches⟩
  run := by
    obtain ⟨_, u, _, _, ran⟩ := SimulationM.run_ended fresh early
    obtain ⟨v₀, v, reached, ends, ran'⟩ := SimulationM.run_ended fresh' early'
    have start : s.Abreast t s t := ⟨twin, .made, .made⟩
    obtain ⟨-, -, twin'⟩ := SimulationM.alongside_run (fun _ _ both => both.1.twin)
      (fun _ _ both => both.1.tick fresh fresh' early early' empty policy policy' accords both.2)
      (start.begin fresh fresh' early early') _ _ _ _ ran ran'
    have same : v.policy = t.policy :=
      (congrArg (·.policy) ends.rest).trans (reached.policy fresh' early')
    refine ⟨u.report, u, v, ran, ?_, twin'.matches⟩
    rw [← same, ← twin'.report]
    exact ran'

end Abreast

variable {w : Workload} {resources : Int} {limit : Option Int}

/-- The simulations of a workload under two disciplines run alike if the one decides as the
other one does. -/
theorem Accords.runsAlike_of_created (accords : s.Accords d d')
    (created : create w (.of d p) resources limit = .ok s) (fresh : s.Fresh)
    (policy : s.policy = .of d p) (early : s.started = false) (empty : s.timeline.size = 0)
    (q : Protocol) : ∃ t, create w (.of d' q) resources limit = .ok t ∧ s.RunsAlike t := by
  refine ⟨{ s with policy := .of d' q }, ?_, ?_⟩
  · rw [create_policy w (.of d p), created]
    rfl
  · have fresh' : Fresh { s with policy := .of d' q } :=
      ⟨fresh.kernel, ⟨d', q, rfl⟩, fresh.table, fresh.pids, fresh.pending⟩
    exact accords.runsAlike fresh fresh' early early empty policy rfl (fresh.twin policy q nofun)

theorem runsAlike_of_created (created : create w (.of d p) resources limit = .ok s)
    (fresh : s.Fresh) (policy : s.policy = .of d p) (early : s.started = false)
    (empty : s.timeline.size = 0) (turns : s.GoesInTurn d) (q : Protocol) :
    ∃ t, create w (.of .firstCome q) resources limit = .ok t ∧ s.RunsAlike t :=
  turns.accords.runsAlike_of_created created fresh policy early empty q

end Simulation

end Uniprocessor
