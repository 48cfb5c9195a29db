import Uniprocessor.Proofs.Accounting
import Uniprocessor.Proofs.Backlog
import Uniprocessor.Proofs.Policy.Decision

/-!
The backlog of a run, and what its processes have paid so far.

The jobs of a workload are numbered in the order of their arrival, which is how
handles are given out. Of each job as much work is left as its process has still to
do (`Simulation.backlog`), and a tick takes one off one job at most
(`Simulation.Effect.backlog`). Where processes ask for nothing, nobody ever
waits, so every tick takes one off a job with work left whenever one has arrived
(`SimulationM.Staged.served`), and shortest remaining time first works on a job
with the least work left (`SimulationM.Staged.shortest`).

Every job that has not left pays for each tick, so when all have left they have
paid the sum of their times of exit (`Simulation.paid`).
-/

namespace Uniprocessor

variable {w : Workload} {s t u g e : Simulation} {h : Handle} {chosen : Option Handle}
  {event : TickEvent} {arrived : List ProcessSpec}

/-- The work of the jobs in the order of their arrival. -/
def Workload.work (w : Workload) (i : Nat) : Nat :=
  (((Simulation.inOrderOfArrival w.processes)[i]?).map (·.lifespan.toNat)).getD 0

/-- Those whose time of arrival is over. -/
def Workload.arrivedBy (w : Workload) (tick : Nat) : List ProcessSpec :=
  (Simulation.inOrderOfArrival w.processes).takeWhile (fun spec => spec.arrival < tick)

namespace Simulation

/-- How much work is left of each job. -/
def backlog (t : Simulation) (w : Workload) : Backlog :=
  fun i => w.work i - (t.kernel.process i).age

/-- What the jobs have paid: each of them a unit for every tick until it has left. -/
def paid (t : Simulation) (w : Workload) : Nat :=
  ∑ i ∈ Finset.range w.processes.length, (t.kernel.process i).exitTick.getD t.kernel.tick

/-- The jobs that have not left. -/
def staying (t : Simulation) (w : Workload) : Finset Nat :=
  {i ∈ Finset.range w.processes.length | (t.kernel.process i).exitTick = none}

/-- What is so between the ticks of a run of the workload. -/
structure Steady (t : Simulation) (w : Workload) : Prop where
  sound : Sound ⟨.arriving, t⟩
  admits : ∃ arrived, t.Admits w arrived
  aged : ∀ h, (t.kernel.process h).Aged
  left : ∀ h, (t.kernel.process h).exitTick = none ↔ (t.kernel.process h).state ≠ .exited

/-! ### Who has arrived -/

/-- Who has arrived goes by the time alone. -/
theorem Admits.arrived_eq (admits : t.Admits w arrived) : arrived = w.arrivedBy t.kernel.tick := by
  unfold Workload.arrivedBy
  rw [admits.order, List.takeWhile_append_of_pos (by simpa using admits.before)]
  cases next : t.pending with
  | nil => simp
  | cons first rest =>
      have late := admits.later first (by rw [next]; exact .head _)
      simp [Int.not_lt.mpr late]

theorem Enlists.length_handles (enlists : t.Enlists w arrived) :
    t.kernel.handles.length = arrived.length := by
  simpa using congrArg List.length enlists.built.symm

/-- Handles number the jobs in the order of their arrival. -/
theorem Enlists.job (enlists : t.Enlists w arrived) (roster : Roster t)
    (used : h ∈ t.kernel.handles) :
    ∃ spec, (inOrderOfArrival w.processes)[h]? = some spec ∧
      spec.build = .ok (t.kernel.process h).declared := by
  have bound : h < t.kernel.handles.length := by
    rw [roster.handles] at used
    simpa using used
  have bound' : h < arrived.length := enlists.length_handles ▸ bound
  have own : t.kernel.handles[h] = h := by
    have found := List.getElem_of_eq roster.handles bound
    simpa using found
  have built := congrArg (·[h]?) enlists.built
  simp only [List.getElem?_map, List.getElem?_eq_getElem bound, List.getElem?_eq_getElem bound',
    Option.map_some, own, Option.some.injEq] at built
  refine ⟨arrived[h], ?_, built⟩
  rw [enlists.order, List.getElem?_append_left bound', List.getElem?_eq_getElem bound']

/-- A process in the kernel has the work of its job. -/
theorem Enlists.lifespan_eq (enlists : t.Enlists w arrived) (roster : Roster t)
    (used : h ∈ t.kernel.handles) : (t.kernel.process h).lifespan = w.work h := by
  obtain ⟨spec, found, built⟩ := enlists.job roster used
  have lifespan : ((t.kernel.process h).lifespan : Int) = spec.lifespan :=
    (ProcessSpec.declares_of_build built).lifespan
  simp [Workload.work, found, ← lifespan]

/-! ### Between two ticks -/

namespace Steady

theorem length_handles (steady : t.Steady w) :
    t.kernel.handles.length = (w.arrivedBy t.kernel.tick).length := by
  obtain ⟨arrived, admits⟩ := steady.admits
  rw [admits.length_handles, admits.arrived_eq]

theorem mem_handles_iff (steady : t.Steady w) :
    h ∈ t.kernel.handles ↔ h < t.kernel.handles.length := by
  have listed := steady.sound.roster.handles
  constructor
  · intro used
    rw [listed] at used
    simpa using used
  · intro bound
    rw [listed]
    simpa using bound

theorem length_handles_le (steady : t.Steady w) :
    t.kernel.handles.length ≤ w.processes.length := by
  obtain ⟨arrived, admits⟩ := steady.admits
  have order := congrArg List.length admits.order
  rw [admits.length_handles]
  simp only [inOrderOfArrival, List.length_mergeSort, List.length_append] at order
  omega

theorem exitTick_of_left (steady : t.Steady w) (left : (t.kernel.process h).state = .exited) :
    ∃ n, (t.kernel.process h).exitTick = some n :=
  Option.ne_none_iff_exists'.mp fun stays => (steady.left h).mp stays left

/-- A job that has arrived is finished just when it has left. -/
theorem backlog_eq_zero_iff (steady : t.Steady w) (used : h ∈ t.kernel.handles) :
    t.backlog w h = 0 ↔ (t.kernel.process h).exitTick ≠ none := by
  obtain ⟨arrived, admits⟩ := steady.admits
  have work := admits.lifespan_eq steady.sound.roster used
  rw [ne_eq, steady.left, not_not, backlog, ← work]
  constructor
  · intro finished
    by_contra present
    have young := ((steady.sound.accounts h used).unfinished present).resolve_right nofun
    have young : (t.kernel.process h).age < (t.kernel.process h).lifespan := young
    omega
  · intro gone
    have spent := (steady.aged h).spent gone
    omega

/-- Jobs that have not arrived have all their work left. -/
theorem backlog_of_absent (steady : t.Steady w) {i : Nat}
    (absent : t.kernel.handles.length ≤ i) : t.backlog w i = w.work i := by
  have unused : i ∉ t.kernel.handles := fun used =>
    absurd (steady.mem_handles_iff.mp used) (Nat.not_lt.mpr absent)
  unfold Simulation.backlog
  rw [Kernel.process_of_unused unused]
  rfl

/-- The jobs that stay are all but those that are finished. -/
theorem card_staying (steady : t.Steady w) :
    (t.staying w).card + (Backlog.finished t.kernel.handles.length (t.backlog w)).card =
      w.processes.length := by
  have split := Finset.card_filter_add_card_filter_not (s := Finset.range w.processes.length)
    fun i => (t.kernel.process i).exitTick = none
  rw [Finset.card_range] at split
  have left : {i ∈ Finset.range w.processes.length | ¬ (t.kernel.process i).exitTick = none} =
      Backlog.finished t.kernel.handles.length (t.backlog w) := by
    ext i
    simp only [Finset.mem_filter, Finset.mem_range, Backlog.finished]
    constructor
    · rintro ⟨_, gone⟩
      have used : i ∈ t.kernel.handles := by
        by_contra unused
        rw [Kernel.process_of_unused unused] at gone
        exact gone rfl
      exact ⟨steady.mem_handles_iff.mp used, (steady.backlog_eq_zero_iff used).mpr gone⟩
    · rintro ⟨bound, finished⟩
      have used := steady.mem_handles_iff.mpr bound
      have total := steady.length_handles_le
      exact ⟨by omega, (steady.backlog_eq_zero_iff used).mp finished⟩
  rw [left] at split
  exact split

end Steady

/-- Between its ticks every run of the workload is so. -/
theorem Boundary.steady (fresh : s.Fresh) (early : s.started = false)
    (pending : s.pending = inOrderOfArrival w.processes) (empty : s.timeline = #[])
    (none : s.switches = 0) (reached : s.Boundary t) : t.Steady w := by
  obtain ⟨sound, aged⟩ := lasting_aged.boundary fresh early (fun _ fresh' _ => fresh'.aged) reached
  have logged := reached.logged fresh early pending empty none
  refine ⟨sound, reached.admits fresh early pending, aged, fun h => ?_⟩
  by_cases used : h ∈ t.kernel.handles
  · have recorded := logged.recorded h used
    constructor
    · rintro stays gone
      obtain ⟨line, mem, left⟩ := recorded.left.mpr (by simpa [Process.life] using gone)
      obtain ⟨⟨n, exits, _⟩, _⟩ := recorded.last line mem left
      have exits : (t.kernel.process h).exitTick = some n := exits
      rw [stays] at exits
      cases exits
    · exact fun present => recorded.present (by simpa [Process.life] using present)
  · rw [Kernel.process_of_unused used]
    exact iff_of_true rfl (by decide)

/-! ### A tick -/

namespace Effect

/-- A tick takes one off one job at most. -/
theorem backlog (effect : s.Effect u chosen event) (w : Workload) :
    u.backlog w = (s.backlog w).serve
      (if event = .run ∨ event = .exit then chosen else none) := by
  funext i
  have age : (u.kernel.process i).age = _ := congrArg (·.age) (effect.life i)
  unfold Simulation.backlog Backlog.serve
  rw [age]
  cases chosen with
  | none => cases event <;> simp [lifeIn]
  | some h =>
      by_cases own : h = i
      · cases event <;> simp [lifeIn, own, Nat.sub_add_eq]
      · cases event <;> simp [lifeIn, own, beq_eq_false_iff_ne.mpr own]

/-- Nobody leaves the kernel in a tick. -/
theorem length_handles_le (effect : s.Effect u chosen event) (before : s.Steady w)
    (after : u.Steady w) :
    s.kernel.handles.length ≤ u.kernel.handles.length := by
  by_contra fewer
  have used := before.mem_handles_iff.mpr (Nat.not_le.mp fewer)
  have bound := after.mem_handles_iff.mp (effect.stays _ used).1
  exact lt_irrefl _ bound

/-- In a tick all pay who have not left before it. -/
theorem paid (effect : s.Effect u chosen event) (steady : s.Steady w) :
    u.paid w = s.paid w + (s.staying w).card := by
  unfold Simulation.paid staying
  rw [Finset.card_filter, ← Finset.sum_add_distrib]
  refine Finset.sum_congr rfl fun i _ => ?_
  have exits : (u.kernel.process i).exitTick = _ := congrArg (·.exitTick) (effect.life i)
  rw [exits, effect.clock]
  cases stays : (s.kernel.process i).exitTick with
  | none =>
      simp only [lifeIn, stays]
      split <;> simp
  | some n =>
      -- Whoever has left is not chosen, so it does not leave again.
      have other : chosen ≠ some i := by
        intro own
        have present := (effect.able i own).2
        rw [(steady.left i).mpr present] at stays
        cases stays
      have same : s.lifeIn (.closing chosen event) i = (s.kernel.process i).life :=
        lifeIn_of_other other
      simp only [same, Process.life, stays]
      simp

end Effect

/-! ### Processes that ask for nothing -/

/-- A process of a workload without requests asks for nothing. -/
theorem Enlists.outstanding_eq_nil (enlists : t.Enlists w arrived)
    (bare : ∀ spec ∈ w.processes, spec.requests = []) (used : h ∈ t.kernel.handles) :
    t.outstanding h = [] := by
  obtain ⟨spec, here, built⟩ := enlists.declaration used
  have requests : (t.kernel.process h).requests = Request.sort spec.requests :=
    (ProcessSpec.declares_of_build built).requests
  have declared : spec ∈ w.processes := enlists.mem_iff.mpr (.inl here)
  simp [outstanding, requests, bare spec declared, Request.sort]

/-- So nobody sleeps. -/
theorem awake_of_bare {phase : Phase} (sound : Sound ⟨phase, t⟩)
    (enlists : t.Enlists w arrived) (bare : ∀ spec ∈ w.processes, spec.requests = [])
    (used : h ∈ t.kernel.handles) : asleep (t.kernel.process h) = false := by
  cases sound.order.placed h used with
  | ready state | running state | exited state => simp [asleep, state]
  | waiting r _ queue =>
      obtain ⟨q, later, next, _⟩ := (sound.accounts h used).asks r queue
      rw [enlists.outstanding_eq_nil bare used] at next
      cases next

end Simulation

/-- A chosen process that asks for nothing works. -/
theorem Sound.works_of_bare {m m' : Moment} (bare : ∀ spec ∈ w.processes, spec.requests = [])
    (sound : Sound m) (admits : ∃ arrived, m.Admits w arrived)
    (before : m.phase = .arriving) (reaches : m.Reaches m')
    (is : m'.phase = .closing (some h) event) : event = .run ∨ event = .exit := by
  have kept : (∃ arrived, m'.Admits w arrived) ∧
      ∀ h event, m'.phase = .closing (some h) event → event = .run ∨ event = .exit := by
    refine sound.keeps (P := fun n => (∃ arrived, n.Admits w arrived) ∧
      ∀ h event, n.phase = .closing (some h) event → event = .run ∨ event = .exit)
      ?_ ⟨admits, by simp [before]⟩ reaches
    rintro n n' sound ⟨admits, works⟩ move
    refine ⟨sound.admits admits move, ?_⟩
    obtain ⟨arrived, admits⟩ := admits
    cases move with
    | refuse next =>
        have nothing := admits.outstanding_eq_nil bare (sound.running rfl).2.2.1
        rw [nothing] at next
        cases next
    | yield => rintro _ _ ⟨⟩; exact .inl rfl
    | leave => rintro _ _ ⟨⟩; exact .inr rfl
    | arrive | settle | preempt | idle | resume | take | grant | work | elapse | giveBack => nofun
  exact kept.2 h event is

/-- Once the arrivals are over nobody is enrolled any more. -/
theorem Sound.handles_of_reaches {m m' : Moment} (sound : Sound m) (late : m.phase ≠ .arriving)
    (reaches : m.Reaches m') : m'.sim.kernel.handles = m.sim.kernel.handles := by
  have kept : m'.phase ≠ .arriving ∧ m'.sim.kernel.handles = m.sim.kernel.handles := by
    refine sound.keeps (P := fun n => n.phase ≠ .arriving ∧
      n.sim.kernel.handles = m.sim.kernel.handles) ?_ ⟨late, rfl⟩ reaches
    rintro n n' sound ⟨late, same⟩ move
    refine ⟨?_, (sound.settled move late).1.trans same⟩
    cases move with
    | arrive | settle => exact absurd rfl late
    | preempt | idle | resume | take | grant | refuse | work | elapse | giveBack | yield | leave =>
        exact nofun
  exact kept.2

/-- Whoever could be chosen has arrived and not left. -/
theorem Sound.present_of_candidate {phase : Phase} (sound : Sound ⟨phase, s⟩)
    (candidate : h ∈ Policy.candidates s.kernel) :
    h ∈ s.kernel.handles ∧ (s.kernel.process h).state ≠ .exited := by
  rcases List.mem_append.mp candidate with goes | mem
  · have running := Policy.running_of_continuing (Option.mem_toList.mp goes)
    exact ⟨Policy.used_of_running running, by simp [running]⟩
  · exact ⟨sound.order.linked.used mem, by simp [sound.state_of_mem_ready mem]⟩

namespace SimulationM.Staged

/-- What is left of a job before a tick is what its process has still to do when
the policy is asked. -/
theorem backlog_eq (steady : s.Steady w) (staged : Staged s g e chosen event)
    (enlists : g.Enlists w arrived) (used : h ∈ g.kernel.handles) :
    s.backlog w h = (g.kernel.process h).remaining := by
  have gathered : Sound ⟨.choosing, g⟩ := steady.sound.reaches staged.arrived
  have age : (g.kernel.process h).age = _ := congrArg (·.age) (lives steady.sound staged.arrived h)
  simp only [Simulation.lifeIn, Phase.worked, Bool.toNat_false, Nat.add_zero] at age
  rw [Simulation.backlog, Process.remaining, enlists.lifespan_eq gathered.roster used, age]

/-- Where processes ask for nothing, whoever has work left is able to run. -/
theorem able_of_backlog (bare : ∀ spec ∈ w.processes, spec.requests = []) (steady : s.Steady w)
    (staged : Staged s g e chosen event) (enlists : g.Enlists w arrived)
    (used : h ∈ g.kernel.handles) (left : 0 < s.backlog w h) :
    h ∈ g.kernel.queue .ready ∨ (g.kernel.process h).state = .running := by
  have gathered : Sound ⟨.choosing, g⟩ := steady.sound.reaches staged.arrived
  cases gathered.order.placed h used with
  | ready _ queue => exact .inl ((gathered.order.linked.mark h _).mp queue)
  | running state => exact .inr state
  | waiting r state =>
      have awake := Simulation.awake_of_bare gathered enlists bare used
      have asleep : (g.kernel.process h).state = .waiting := state
      simp [Simulation.asleep, asleep] at awake
  | exited state =>
      have spent := (lasting_aged.reaches steady.sound steady.aged staged.arrived h).spent state
      rw [staged.backlog_eq steady enlists used, Process.remaining] at left
      have spent : (g.kernel.process h).age = (g.kernel.process h).lifespan := spent
      omega

/-- Who is there when the policy is asked has arrived as declared. -/
theorem enlists (steady : s.Steady w) (staged : Staged s g e chosen event) :
    ∃ arrived, g.Enlists w arrived := by
  obtain ⟨arrived, admits⟩ := steady.admits
  obtain ⟨arrived', admitted⟩ :=
    steady.sound.keeps Sound.admits ⟨arrived, admits.arriving⟩ staged.arrived
  exact ⟨arrived', admitted.toEnlists⟩

/-- They are those who are there at the end of the tick. -/
theorem mem_handles_iff (steady : s.Steady w) (staged : Staged s g e chosen event) :
    h ∈ g.kernel.handles ↔ h < e.kernel.handles.length := by
  have gathered : Sound ⟨.choosing, g⟩ := steady.sound.reaches staged.arrived
  have listed : g.kernel.handles = List.range g.kernel.handles.length := gathered.roster.handles
  rw [gathered.handles_of_reaches nofun staged.acts, listed, List.mem_range, List.length_range]

/-- Where processes ask for nothing, those could be chosen who have work left. -/
theorem mem_candidates_iff (bare : ∀ spec ∈ w.processes, spec.requests = []) (steady : s.Steady w)
    (staged : Staged s g e chosen event) :
    h ∈ Policy.candidates g.kernel ↔ h < e.kernel.handles.length ∧ 0 < s.backlog w h := by
  obtain ⟨_, enlists⟩ := staged.enlists steady
  have gathered : Sound ⟨.choosing, g⟩ := steady.sound.reaches staged.arrived
  rw [← staged.mem_handles_iff steady]
  constructor
  · intro candidate
    obtain ⟨used, present⟩ := gathered.present_of_candidate candidate
    have young : (g.kernel.process h).age < (g.kernel.process h).lifespan :=
      ((gathered.accounts h used).unfinished present).resolve_right nofun
    refine ⟨used, ?_⟩
    rw [staged.backlog_eq steady enlists used]
    exact Nat.sub_pos_of_lt young
  · rintro ⟨used, left⟩
    rcases staged.able_of_backlog bare steady enlists used left with mem | running
    · exact List.mem_append_right _ mem
    · have goes := gathered.continuing_of_running rfl running
      exact List.mem_append_left _ (Option.mem_toList.mpr goes)

/-- So a tick works on a job with work left if there is any. -/
theorem served (bare : ∀ spec ∈ w.processes, spec.requests = []) (steady : s.Steady w)
    (staged : Staged s g e chosen event) :
    Backlog.Served e.kernel.handles.length (s.backlog w) chosen := by
  obtain ⟨k, _, choice⟩ := staged.chose
  constructor
  · rintro h rfl
    refine (staged.mem_candidates_iff bare steady).mp ?_
    simpa [Policy.candidates] using choice.candidate
  · rintro rfl i bound
    by_contra left
    have mem := (staged.mem_candidates_iff bare steady).mpr ⟨bound, Nat.pos_of_ne_zero left⟩
    obtain ⟨free, empty, _⟩ := choice.of_none
    simp [Policy.candidates, free, empty] at mem

/-- Whoever is chosen works. -/
theorem works_of_bare (bare : ∀ spec ∈ w.processes, spec.requests = []) (steady : s.Steady w)
    (staged : Staged s g e (some h) event) : event = .run ∨ event = .exit := by
  obtain ⟨arrived, admits⟩ := steady.admits
  exact Sound.works_of_bare bare steady.sound ⟨arrived, admits.arriving⟩ rfl staged.reaches rfl

/-- A tick is idle just when nobody is chosen. -/
theorem idle_iff (bare : ∀ spec ∈ w.processes, spec.requests = []) (steady : s.Steady w)
    (staged : Staged s g e chosen event) : event = .idle ↔ chosen = none := by
  constructor
  · rintro rfl
    by_contra somebody
    obtain ⟨h, rfl⟩ := Option.ne_none_iff_exists'.mp somebody
    have works := staged.works_of_bare bare steady
    simp at works
  · exact fun nobody => (staged.rests nobody).1

/-- Whoever is chosen has one unit of work less afterwards. -/
theorem backlog (bare : ∀ spec ∈ w.processes, spec.requests = []) (steady : s.Steady w)
    (staged : Staged s g e chosen event) :
    (e.close (e.line chosen event)).backlog w = (s.backlog w).serve chosen := by
  rw [(staged.effect steady.sound).backlog]
  cases chosen with
  | none => simp
  | some h => rw [if_pos (staged.works_of_bare bare steady)]

/-- Under shortest remaining time first a tick works on a job with the least work left. -/
theorem shortest {protocol : Protocol} (bare : ∀ spec ∈ w.processes, spec.requests = [])
    (steady : s.Steady w) (policy : s.policy = .of .shortestRemaining protocol)
    (staged : Staged s g e chosen event) :
    Backlog.Shortest e.kernel.handles.length (s.backlog w) chosen := by
  obtain ⟨_, enlists⟩ := staged.enlists steady
  have gathered : Sound ⟨.choosing, g⟩ := steady.sound.reaches staged.arrived
  have policy' : g.policy = .of .shortestRemaining protocol :=
    (congrArg (·.policy) (Moment.Reaches.unchanged staged.arrived)).trans policy
  have served := staged.served bare steady
  intro i bound left
  have used := (staged.mem_handles_iff steady).mpr bound
  have able := staged.able_of_backlog bare steady enlists used left
  obtain ⟨h, rfl⟩ : ∃ h, chosen = some h := by
    refine Option.ne_none_iff_exists'.mp fun rests => ?_
    have nothing := served.rested rests i bound
    omega
  obtain ⟨bound', work⟩ := served.worked h rfl
  obtain ⟨k, scheduled, choice⟩ := staged.chose
  have asked : (Policy.takePreemptively fun p => p.remaining).run g.kernel = .ok (some h) k := by
    rw [policy'] at scheduled
    exact scheduled
  have least := gathered.key_le_of_able rfl (fun _ => rfl) asked able
  have own := staged.backlog_eq steady enlists (gathered.able_of_named choice).1
  have other := staged.backlog_eq steady enlists used
  exact ⟨h, bound', rfl, work, by omega⟩

end SimulationM.Staged

end Uniprocessor
