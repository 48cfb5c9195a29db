import Uniprocessor.Proofs.Simulation.Run

/-!
No wake-up is lost.

A release wakes the head of the queue and hands nothing over, so a resource may
be free while others sleep in its queue. Between two ticks somebody ready then
has exactly this resource as the next request, due at its age
(`Simulation.Attended`). Within a tick it may also be the process at work that
is about to ask for it (`Moment.Attended`). Whoever comes for a resource stays
in the ready queue until it is taken from there and asks, and a free resource
gets no new waiters, so every move keeps this.
-/

namespace Uniprocessor

/-- Nobody owns the resource, but somebody waits for it. -/
def Simulation.Forsaken (s : Simulation) (r : Int) : Prop :=
  (s.kernel.resource r).owner = none ∧ s.kernel.queue (.waiting r) ≠ []

/-- A process of the ready queue has the resource as its next request, due at its age. -/
def Simulation.Comes (s : Simulation) (r : Int) : Prop :=
  ∃ h ∈ s.kernel.queue .ready, (s.kernel.process h).state = .ready ∧ s.Asks h r

/-- Somebody comes for every free resource that has waiters. -/
def Simulation.Attended (s : Simulation) : Prop := ∀ r, s.Forsaken r → s.Comes r

/-- The process at work is about to ask for the resource. -/
def Moment.Asking (m : Moment) (r : Int) : Prop := ∃ h, m.phase = .issuing h ∧ m.sim.Asks h r

/-- Somebody comes for every free resource that has waiters, or asks for it now. -/
def Moment.Attended (m : Moment) : Prop :=
  ∀ r, m.sim.Forsaken r → m.sim.Comes r ∨ m.Asking r

variable {m m' : Moment} {s : Simulation} {h : Handle} {r : Int}

/-! ### Those who come -/

/-- A member of the ready queue stays there until it is chosen. -/
theorem Move.stays_ready (move : Move m m') (mem : h ∈ m.sim.kernel.queue .ready) :
    h ∈ m'.sim.kernel.queue .ready ∨ m'.phase = .issuing h := by
  cases move with
  | @take s j k switches free mem' same =>
      by_cases chosen : j = h
      · exact .inr (congrArg Phase.issuing chosen)
      · apply Or.inl
        simpa [same.queue, List.mem_erase_of_ne (Ne.symm chosen)] using mem
  | arrive _ _ _ same | preempt _ same => exact .inl (by simpa [same.queue] using .inl mem)
  | idle _ _ same | resume _ same | leave _ same => exact .inl (by simpa [same.queue] using mem)
  | grant _ _ _ _ alike | refuse _ _ _ _ alike => exact .inl (by simpa [alike.queue] using mem)
  | giveBack _ _ _ alike => exact .inl (by simpa [alike.queue] using .inl mem)
  | work => exact .inl (by simpa using mem)
  | settle | elapse | yield => exact .inl mem

/-- Whoever comes for a resource still comes after a move, or asks for it now. -/
theorem Sound.comes (sound : Sound m) (move : Move m m') (comes : m.sim.Comes r) :
    m'.sim.Comes r ∨ m'.Asking r := by
  obtain ⟨h, mem, ready, asks⟩ := comes
  have resting : m.phase.active ≠ some h := by
    intro busy
    have running := (sound.active h busy).2
    rw [ready] at running
    cases running
  have kept := sound.undisturbed move (sound.order.linked.used mem) resting
  have asks' : m'.sim.Asks h r := (kept.asks_iff r).mpr asks
  rcases move.stays_ready mem with mem' | chosen
  · exact .inl ⟨h, mem', (sound.move move).state_of_mem_ready mem', asks'⟩
  · exact .inr ⟨h, chosen, asks'⟩

/-! ### Free resources -/

/-- A process asks for one resource at a time. -/
theorem Simulation.Asks.resource_eq {q : Request} {later : List Request} (asks : s.Asks h r)
    (next : s.outstanding h = q :: later) : q.resource = r := by
  obtain ⟨q', later', next', resource, _⟩ := asks
  rw [next] at next'
  cases next'
  exact resource

/-- What the process at work asks for is not free after its next move. -/
theorem Move.not_forsaken (move : Move m m') (asking : m.Asking r) : ¬ m'.sim.Forsaken r := by
  obtain ⟨h, issuing, asks⟩ := asking
  rintro ⟨free', _⟩
  cases move with
  | grant next due free ran alike =>
      cases issuing
      simp [alike.owner, asks.resource_eq next] at free'
  | refuse next due owned ran alike =>
      cases issuing
      rw [asks.resource_eq next] at owned
      simp [alike.owner, owned] at free'
  | work satisfied =>
      cases issuing
      exact satisfied r asks
  | _ => cases issuing

/-- A free resource with waiters was one before, unless it has just been given
back; then the one who was woken comes for it. -/
theorem Sound.forsaken (sound : Sound m) (move : Move m m') (forsaken : m'.sim.Forsaken r) :
    m.sim.Forsaken r ∨ m'.sim.Comes r := by
  obtain ⟨free', waiters'⟩ := forsaken
  have whole := move
  cases move with
  | @giveBack s j i left todo k found last ran alike tracked =>
      -- Only a resource given back becomes free with its waiters still there.
      by_cases here : i = r
      · subst here
        have rest : (s.kernel.queue (.waiting i)).tail ≠ [] := by
          simpa [alike.queue] using waiters'
        obtain ⟨w, first⟩ : ∃ w, (s.kernel.queue (.waiting i)).head? = some w := by
          cases members : s.kernel.queue (.waiting i) with
          | nil => simp [members] at rest
          | cons w _ => exact ⟨w, rfl⟩
        have mem : w ∈ k.queue .ready := by simp [alike.queue, first]
        have marked := (sound.waiting_of_head? first).1
        obtain ⟨used, resting⟩ := sound.woken rfl first
        -- It asked for this resource when it fell asleep, and nothing of its own has changed since.
        have kept := sound.undisturbed whole used (by simpa using resting)
        refine .inr ⟨w, mem, (sound.move whole).state_of_mem_ready mem, ?_⟩
        exact (kept.asks_iff i).mpr ((sound.accounts w used).asks i marked)
      · exact .inl ⟨by simpa [alike.owner, here] using free',
          by simpa [alike.queue, here] using waiters'⟩
  | @grant s j q later k next due free ran alike memory =>
      by_cases here : q.resource = r
      · simp [alike.owner, here] at free'
      · exact .inl ⟨by simpa [alike.owner, here] using free',
          by simpa [alike.queue] using waiters'⟩
  | @refuse s j owner q later k next due owned ran alike tracked =>
      by_cases here : q.resource = r
      · rw [here] at owned
        simp [alike.owner, owned] at free'
      · exact .inl ⟨by simpa [alike.owner] using free',
          by simpa [alike.queue, here] using waiters'⟩
  | arrive _ _ _ same | preempt _ same | idle _ _ same | resume _ same | take _ _ same
  | leave _ same =>
      exact .inl ⟨by simpa [same.owner] using free', by simpa [same.queue] using waiters'⟩
  | work => exact .inl ⟨by simpa using free', by simpa using waiters'⟩
  | settle | elapse | yield => exact .inl ⟨free', waiters'⟩

/-! ### Runs -/

theorem Sound.attended (sound : Sound m) (attended : m.Attended) (move : Move m m') :
    m'.Attended := by
  intro r forsaken
  rcases sound.forsaken move forsaken with before | comes
  · rcases attended r before with comes | asking
    · exact sound.comes move comes
    · exact absurd forsaken (move.not_forsaken asking)
  · exact .inl comes

/-- Where no process is at work somebody comes for it later. -/
theorem Moment.Attended.between (attended : m.Attended) (idle : ∀ h, m.phase ≠ .issuing h) :
    m.sim.Attended := by
  intro r forsaken
  refine (attended r forsaken).resolve_right ?_
  rintro ⟨h, issuing, _⟩
  exact idle h issuing

/-- The clock, the log and the boosts have no part in it. -/
theorem Simulation.Attended.congr {s' : Simulation} (attended : s.Attended)
    (places : s.kernel.SamePlaces s'.kernel) (kept : ∀ h, Undisturbed s s' h) : s'.Attended := by
  rintro r ⟨free, waiters⟩
  rw [places.owner] at free
  rw [places.queue] at waiters
  obtain ⟨h, mem, ready, asks⟩ := attended r ⟨free, waiters⟩
  refine ⟨h, ?_, (places.state h).trans ready, ((kept h).asks_iff r).mpr asks⟩
  rw [places.queue]
  exact mem

theorem lasting_attended : Lasting Moment.Attended where
  move := Sound.attended
  close {s chosen event} sound attended := by
    have before : s.Attended := attended.between nofun
    refine fun r forsaken => .inl (before.congr ?_ (fun h => ?_) r forsaken) <;>
      constructor <;> simp

/-- Nobody waits at the start. -/
theorem Simulation.Fresh.attended (fresh : s.Fresh) : Moment.Attended ⟨.arriving, s⟩ := by
  rintro r ⟨_, waiters⟩
  exact absurd (fresh.kernel.queue _) waiters

theorem Simulation.Attended.onto {k : Kernel} (attended : s.Attended) (alike : s.kernel.Alike k) :
    (s.onto k).Attended :=
  attended.congr alike.samePlaces fun h => Undisturbed.alike (.refl s h) alike

theorem Simulation.Attended.conclude (attended : s.Attended) : s.conclude.Attended := by
  have alike := s.alike_conclude
  refine attended.congr alike.samePlaces fun h => Undisturbed.alike (k := s.kernel) ?_ alike
  constructor <;> simp

/-- Between the ticks of every run of a parsed workload, whichever built-in
policy and protocol are in charge, a free resource with waiters is the next
request of a process in the ready queue, due at its age. So it is when the run
has ended. -/
theorem no_lost_wakeup {text : Text} {w : Workload} {resources : Int}
    (parsed : Workload.ofText text = .ok w) (positive : 0 < resources)
    (fits : ∀ r ∈ w.resourceIds, r < resources) (d : Discipline) (protocol : Protocol)
    (limit : Option Int) :
    ∃ s, Simulation.create w (.of d protocol) resources limit = .ok s ∧
      (∀ t, s.Boundary t → t.Attended) ∧
      (∀ n, ∃ t, EStateM.run (SimulationM.steps n) s = .ok () t ∧ s.Boundary t) ∧
      ∃ report t, s.run = .ok report t ∧ t.Attended := by
  obtain ⟨k, s, created, fresh, is⟩ := Simulation.create_of_valid (Workload.valid_ofText parsed)
    positive fits d protocol limit
  have early : s.started = false := by rw [is]
  have always : ∀ t, s.Boundary t → t.Attended := fun t reached =>
    (lasting_attended.boundary fresh early (fun u fresh' _ => fresh'.attended) reached).2.between
      nofun
  refine ⟨s, created, always, SimulationM.run_steps fresh early, ?_⟩
  obtain ⟨s₀, n, t, u, k', _, _, goes, reached, ended, alike, ran⟩ :=
    SimulationM.run_run fresh early
  refine ⟨_, _, ran, ?_⟩
  rcases ended with ⟨_, rfl⟩ | ⟨_, rfl⟩
  · exact (always t reached).conclude.onto alike
  · exact (always u reached).onto alike

theorem no_lost_wakeup_contended :
    ∃ s, Simulation.create .contended (.of .priorityInheritance .inheritance) 1 none = .ok s ∧
      (∀ t, s.Boundary t → t.Attended) ∧
      (∀ n, ∃ t, EStateM.run (SimulationM.steps n) s = .ok () t ∧ s.Boundary t) ∧
      ∃ report t, s.run = .ok report t ∧ t.Attended :=
  no_lost_wakeup Workload.ofText_contention (by decide)
    (by simp [Workload.resourceIds_contended]) .priorityInheritance .inheritance none

end Uniprocessor
