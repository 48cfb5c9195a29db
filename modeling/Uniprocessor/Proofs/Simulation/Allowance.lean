import Mathlib.Algebra.BigOperators.Group.Finset.Piecewise
import Mathlib.Algebra.Order.BigOperators.Ring.Finset
import Uniprocessor.Proofs.Simulation.Run

/-!
How many ticks a simulation may still take.

Each process may still take a tick for what is left of its work, one for every
request that is not granted yet, one for every resource that it has to give
back, and one for falling asleep, if it is awake (`Simulation.share`). Those who
are still to come may take what their declarations say, and idle ticks can only
pass until the last of them arrives. All this is the allowance of a simulation.

A process that falls asleep pays for a blocked tick. It is woken when somebody
gives back a resource, who pays for that; the resource was paid for by the
request that was granted. So no move raises the allowance, and work and refusals
lower it (`Sound.credit`). An idle tick brings the last arrival closer, since no
tick of a run is idle unless somebody is still to come (`Sound.lively`).
-/

namespace Uniprocessor

/-! ### What may still be taken -/

/-- When the last of them arrives; zero if there is nobody. -/
def latestArrival (specs : List ProcessSpec) : Nat :=
  specs.foldr (fun spec t => max spec.arrival.toNat t) 0

theorem latestArrival_le_iff {specs : List ProcessSpec} {n : Nat} :
    latestArrival specs ≤ n ↔ ∀ spec ∈ specs, spec.arrival.toNat ≤ n := by
  induction specs with
  | nil => simp [latestArrival]
  | cons spec later ih =>
      rw [List.forall_mem_cons, ← ih]
      exact max_le_iff

/-- The ticks that a process may take over its whole life. -/
def ProcessSpec.share (spec : ProcessSpec) : Nat :=
  spec.lifespan.toNat + spec.requests.length + 1

namespace Simulation

/-- What a process still has to do: work, ask, and give back. -/
def toDo (s : Simulation) (h : Handle) : Nat :=
  (s.kernel.process h).remaining + (s.outstanding h).length + (s.heldOf h).keys.length

/-- One for a process that does not wait. -/
def awake (s : Simulation) (h : Handle) : Nat :=
  if (s.kernel.process h).state = .waiting then 0 else 1

/-- The ticks that a process may still take. -/
def share (s : Simulation) (h : Handle) : Nat := s.toDo h + s.awake h

/-- The ticks that everybody may still take. -/
def allowance (s : Simulation) : Nat :=
  (latestArrival s.pending - s.kernel.tick) + (s.pending.map ProcessSpec.share).sum +
    ∑ h ∈ s.kernel.handles.toFinset, s.share h

end Simulation

/-- What has been taken from the allowance for the tick that is under way. -/
def Phase.taken : Phase → Nat
  | .expiring _ _ | .closing _ .run | .closing _ .exit | .closing _ .blocked => 1
  | _ => 0

/-- The allowance with what the tick under way has taken. -/
def Moment.credit (m : Moment) : Nat := m.sim.allowance + m.phase.taken

variable {m m' : Moment} {s s' : Simulation} {phase : Phase} {h : Handle}

/-! ### Sums of shares -/

namespace Simulation

/-- Where nobody may take more, the allowance does not grow. -/
theorem allowance_le (pending : s'.pending = s.pending)
    (tick : s.kernel.tick ≤ s'.kernel.tick) (handles : s'.kernel.handles = s.kernel.handles)
    (shares : ∀ h ∈ s.kernel.handles, s'.share h ≤ s.share h) : s'.allowance ≤ s.allowance := by
  have total : ∑ h ∈ s.kernel.handles.toFinset, s'.share h ≤
      ∑ h ∈ s.kernel.handles.toFinset, s.share h :=
    Finset.sum_le_sum fun h mem => shares h (List.mem_toFinset.mp mem)
  unfold allowance
  rw [pending, handles]
  omega

/-- Where somebody may take less, it shrinks. -/
theorem allowance_lt (pending : s'.pending = s.pending)
    (tick : s.kernel.tick ≤ s'.kernel.tick) (handles : s'.kernel.handles = s.kernel.handles)
    (shares : ∀ h ∈ s.kernel.handles, s'.share h ≤ s.share h) (used : h ∈ s.kernel.handles)
    (less : s'.share h < s.share h) : s'.allowance < s.allowance := by
  have total : ∑ h ∈ s.kernel.handles.toFinset, s'.share h <
      ∑ h ∈ s.kernel.handles.toFinset, s.share h :=
    Finset.sum_lt_sum (fun h mem => shares h (List.mem_toFinset.mp mem))
      ⟨h, List.mem_toFinset.mpr used, less⟩
  unfold allowance
  rw [pending, handles]
  omega

/-- One process may take more if another may take less. -/
theorem allowance_exchange {w : Handle} (pending : s'.pending = s.pending)
    (tick : s.kernel.tick ≤ s'.kernel.tick) (handles : s'.kernel.handles = s.kernel.handles)
    (shares : ∀ j ∈ s.kernel.handles, j ≠ w → s'.share j ≤ s.share j)
    (more : s'.share w ≤ s.share w + 1) (used : h ∈ s.kernel.handles) (other : h ≠ w)
    (less : s'.share h < s.share h) : s'.allowance ≤ s.allowance := by
  have bound : ∀ j ∈ s.kernel.handles.toFinset,
      s'.share j ≤ s.share j + if j = w then 1 else 0 := by
    intro j mem
    by_cases woken : j = w
    · subst woken
      simpa using more
    · simpa [woken] using shares j (List.mem_toFinset.mp mem) woken
  -- One process takes less, so the sum stays below what one more for `w` would make it.
  have total : ∑ j ∈ s.kernel.handles.toFinset, s'.share j <
      ∑ j ∈ s.kernel.handles.toFinset, (s.share j + if j = w then 1 else 0) :=
    Finset.sum_lt_sum bound ⟨h, List.mem_toFinset.mpr used, by simpa [other] using less⟩
  have once : (∑ j ∈ s.kernel.handles.toFinset, if j = w then 1 else 0) ≤ 1 := by
    rw [Finset.sum_ite_eq']
    split <;> omega
  rw [Finset.sum_add_distrib] at total
  unfold allowance
  rw [pending, handles]
  omega

end Simulation

/-! ### What a move takes -/

/-- The head of the queue of the resource that is next to be counted down, which
is woken if that resource is given back. -/
def Moment.Wakes (m : Moment) (j : Handle) : Prop :=
  ∃ h r todo, m.phase = .expiring h (r :: todo) ∧
    (m.sim.kernel.queue (.waiting r)).head? = some j

theorem Moment.not_wakes (calm : ∀ h r todo, m.phase ≠ .expiring h (r :: todo)) (j : Handle) :
    ¬ m.Wakes j := by
  rintro ⟨h, r, todo, expiring, _⟩
  exact calm h r todo expiring

/-- Nobody but the process at work has less to do after a move. -/
theorem Sound.toDo_eq (sound : Sound m) (move : Move m m') {j : Handle}
    (used : j ∈ m.sim.kernel.handles) (resting : m.phase.active ≠ some j) :
    m'.sim.toDo j = m.sim.toDo j := by
  have kept := sound.undisturbed move used resting
  unfold Simulation.toDo Process.remaining
  rw [kept.lifespan, kept.age, kept.outstanding, kept.heldOf]

/-- Whoever sleeps is woken by the one who gives back its resource and by nobody else. -/
theorem Sound.sleeps (sound : Sound m) (move : Move m m') {j : Handle}
    (used : j ∈ m.sim.kernel.handles) (undisturbed : ¬ m.Wakes j)
    (asleep : (m.sim.kernel.process j).state = .waiting) :
    (m'.sim.kernel.process j).state = .waiting := by
  -- Whoever moves by itself is awake, so it is not `j`. The others wake nobody but the first in
  -- line.
  cases move with
  | @arrive s spec later p k next due built same =>
      have old : s.kernel.nextHandle ≠ j := fun is => sound.roster.fresh (is ▸ used)
      simpa [same.process, old] using asleep
  | @preempt s h k goes same =>
      have other : h ≠ j := by
        rintro rfl
        rw [Policy.running_of_continuing goes] at asleep
        cases asleep
      simpa [same.process, other] using asleep
  | @take s h k switches free mem same =>
      have other : h ≠ j := by
        rintro rfl
        rw [sound.state_of_mem_ready mem] at asleep
        cases asleep
      simpa [same.process, other] using asleep
  | @leave s h k finished same =>
      have other : h ≠ j := by
        rintro rfl
        rw [(sound.running rfl).2.1] at asleep
        cases asleep
      simpa [same.process, other] using asleep
  | @giveBack s h r left todo k found last ran alike =>
      have later : (s.kernel.queue (.waiting r)).head? ≠ some j :=
        fun first => undisturbed ⟨h, r, todo, rfl, first⟩
      simpa [alike.state, later] using asleep
  | @work s h satisfied =>
      by_cases own : h = j <;> simpa [own] using asleep
  | @refuse s h owner q later k next due owned ran alike =>
      by_cases own : h = j
      · simp [alike.state, own]
      · simpa [alike.state, own] using asleep
  | grant _ _ _ _ alike => simpa [alike.state] using asleep
  | idle _ _ same | resume _ same => simpa [same.process] using asleep
  | settle | elapse | yield => exact asleep

/-- A move lets nobody take more, unless somebody is woken. -/
theorem Sound.share_le (sound : Sound m) (move : Move m m') {j : Handle}
    (used : j ∈ m.sim.kernel.handles) (resting : m.phase.active ≠ some j)
    (undisturbed : ¬ m.Wakes j) : m'.sim.share j ≤ m.sim.share j := by
  have same := sound.toDo_eq move used resting
  have sleeps := sound.sleeps move used undisturbed
  unfold Simulation.share Simulation.awake
  by_cases asleep : (m.sim.kernel.process j).state = .waiting
  · simp [same, asleep, sleeps asleep]
  · rw [same, if_neg asleep]
    split <;> omega

/-- Those who arrive may take what they declared. -/
theorem Sound.allowance_arrive {spec : ProcessSpec} {later : List ProcessSpec} {p : Process}
    {k : Kernel} (sound : Sound ⟨.arriving, s⟩)
    (move : Move ⟨.arriving, s⟩ ⟨.arriving, (s.enter p.pid later).onto k⟩)
    (next : s.pending = spec :: later) (built : spec.build = .ok p)
    (same : (s.kernel.receive p).Same k) :
    ((s.enter p.pid later).onto k).allowance ≤ s.allowance := by
  obtain ⟨_, built', _, _, lifespan, requests, _, state, age, _⟩ :=
    (sound.roster.pending spec (by rw [next]; exact .head _)).1.build
  rw [built] at built'
  cases built'
  have fresh := sound.roster.fresh
  have handles : k.handles = s.kernel.handles ++ [s.kernel.nextHandle] :=
    same.handles.trans (Kernel.handles_receive fresh p)
  -- The newcomer brings what its declaration held, and nobody's share has grown.
  have newcomer : ((s.enter p.pid later).onto k).share s.kernel.nextHandle = spec.share := by
    simp [Simulation.share, Simulation.toDo, Simulation.awake, Simulation.outstanding,
      Simulation.heldOf, Process.remaining, ProcessSpec.share, same.process, lifespan, requests,
      state, age, Table.keys]
  have others : ∑ j ∈ s.kernel.handles.toFinset, ((s.enter p.pid later).onto k).share j ≤
      ∑ j ∈ s.kernel.handles.toFinset, s.share j :=
    Finset.sum_le_sum fun j mem =>
      sound.share_le move (List.mem_toFinset.mp mem) (by rintro ⟨⟩) (by rintro ⟨_, _, _, ⟨⟩, _⟩)
  have everybody : ((s.enter p.pid later).onto k).kernel.handles.toFinset =
      insert s.kernel.nextHandle s.kernel.handles.toFinset := by
    ext j
    simp [handles, or_comm]
  have latest : latestArrival later ≤ latestArrival s.pending := by
    rw [next]
    exact le_max_right _ _
  have tick : k.tick = s.kernel.tick := by simp [same.tick]
  unfold Simulation.allowance
  rw [everybody, Finset.sum_insert (by simpa using fresh), newcomer]
  simp only [Simulation.onto_views, Simulation.enter_views, tick]
  rw [next, List.map_cons, List.sum_cons]
  rw [next] at latest
  omega

/-- A granted request pays for giving the resource back. -/
theorem Sound.share_grant {q : Request} {later : List Request} {k : Kernel}
    (next : s.outstanding h = q :: later)
    (alike : (s.kernel.assign q.resource (some h)).Alike k) :
    (((s.hold h ((s.heldOf h).put q.resource q.hold)).countGrant h).onto k).share h ≤
      s.share h := by
  have rest := SimulationM.outstanding_grant ((s.heldOf h).put q.resource q.hold) next alike
  have entries := (s.heldOf h).length_keys_put_le q.resource q.hold
  have held : (((s.hold h ((s.heldOf h).put q.resource q.hold)).countGrant h).onto k).heldOf h =
      (s.heldOf h).put q.resource q.hold := by
    simp [Simulation.heldOf, alike.pid]
  have awake : (((s.hold h ((s.heldOf h).put q.resource q.hold)).countGrant h).onto k).awake h =
      s.awake h := by
    simp [Simulation.awake, alike.state]
  have remaining : (k.process h).remaining = (s.kernel.process h).remaining := by
    simp [Process.remaining, alike.lifespan, alike.age]
  simp only [Simulation.share, Simulation.toDo, rest, held, awake, next, List.length_cons,
    Simulation.onto_views, remaining]
  omega

/-- A process that falls asleep has paid for the blocked tick. -/
theorem Sound.share_refuse {r : Int} {k : Kernel} (sound : Sound ⟨.issuing h, s⟩)
    (alike : (s.kernel.park r h).Alike k) : (s.onto k).share h < s.share h := by
  have running := (sound.running rfl).2.1
  simp [Simulation.share, Simulation.toDo, Simulation.awake, Simulation.outstanding,
    Simulation.heldOf, Process.remaining, alike.lifespan, alike.age, alike.requests, alike.pid,
    alike.state, running]

/-- A tick of work leaves less of it. -/
theorem Sound.share_work (sound : Sound ⟨.issuing h, s⟩) :
    (s.onto (s.kernel.edit h Process.older)).share h < s.share h := by
  have young := sound.young
  simp only [Simulation.share, Simulation.toDo, Simulation.awake, Simulation.outstanding,
    Simulation.heldOf, Process.remaining, Simulation.onto_views, Kernel.process_edit, if_true,
    Process.older_fields]
  omega

/-- Counting down gives nothing back. -/
theorem Sound.share_elapse {r left : Int} (known : r ∈ (s.heldOf h).keys) :
    (s.hold h ((s.heldOf h).put r left)).share h = s.share h := by
  have entries : ((s.heldOf h).put r left).keys = (s.heldOf h).keys := by
    rw [Table.keys_put, if_pos known]
  have held : (s.hold h ((s.heldOf h).put r left)).heldOf h = (s.heldOf h).put r left := by
    simp [Simulation.heldOf]
  unfold Simulation.share Simulation.toDo
  rw [held, entries]
  rfl

/-- To leave takes nothing. -/
theorem Sound.share_leave {k : Kernel} (sound : Sound ⟨.expiring h [], s⟩)
    (same : (s.kernel.retire h).Same k) : (s.onto k).share h = s.share h := by
  have running := (sound.running rfl).2.1
  simp [Simulation.share, Simulation.toDo, Simulation.awake, Simulation.outstanding,
    Simulation.heldOf, Process.remaining, same.process, running]

/-- Whoever gives a resource back has paid for it. -/
theorem Sound.share_giveBack {r : Int} {todo : List Int} {k : Kernel}
    (sound : Sound ⟨.expiring h (r :: todo), s⟩) (left : Int) (alike : (s.kernel.free r).Alike k) :
    ((s.hold h (((s.heldOf h).put r left).erase r)).onto k).share h < s.share h := by
  have known := (sound.todo h _ rfl).2 r (.head _)
  have entries : (((s.heldOf h).put r left).erase r).keys.length < (s.heldOf h).keys.length := by
    have same : ((s.heldOf h).put r left).keys = (s.heldOf h).keys := by
      rw [Table.keys_put, if_pos known]
    rw [← same]
    exact Table.length_keys_erase_lt (same ▸ known)
  have later := sound.not_waiting (r := r) rfl
  have held : ((s.hold h (((s.heldOf h).put r left).erase r)).onto k).heldOf h =
      ((s.heldOf h).put r left).erase r := by
    simp [Simulation.heldOf, alike.pid, later]
  simp only [Simulation.share, Simulation.toDo, held, Simulation.awake, Simulation.outstanding,
    Process.remaining, Simulation.onto_views, Simulation.hold_views, alike.lifespan, alike.age,
    alike.requests, alike.pid, alike.state, Kernel.process_free, if_neg later]
  omega

/-- Where nobody is woken, only the process at work has to be looked at. -/
theorem Sound.shares (sound : Sound m) (move : Move m m') (undisturbed : ∀ j, ¬ m.Wakes j)
    (own : ∀ h, m.phase.active = some h → m'.sim.share h ≤ m.sim.share h) :
    ∀ j ∈ m.sim.kernel.handles, m'.sim.share j ≤ m.sim.share j := by
  intro j used
  by_cases busy : m.phase.active = some j
  · exact own j busy
  · exact sound.share_le move used busy (undisturbed j)

theorem Sound.allowance_le (sound : Sound m) (move : Move m m') (late : m.phase ≠ .arriving)
    (undisturbed : ∀ j, ¬ m.Wakes j)
    (own : ∀ h, m.phase.active = some h → m'.sim.share h ≤ m.sim.share h) :
    m'.sim.allowance ≤ m.sim.allowance := by
  obtain ⟨handles, pending⟩ := sound.settled move late
  exact Simulation.allowance_le pending move.tick.ge handles (sound.shares move undisturbed own)

theorem Sound.allowance_lt (sound : Sound m) (move : Move m m') (late : m.phase ≠ .arriving)
    (undisturbed : ∀ j, ¬ m.Wakes j) (busy : m.phase.active = some h)
    (less : m'.sim.share h < m.sim.share h) : m'.sim.allowance < m.sim.allowance := by
  obtain ⟨handles, pending⟩ := sound.settled move late
  have own : ∀ j, m.phase.active = some j → m'.sim.share j ≤ m.sim.share j := by
    intro j active
    rw [busy] at active
    cases active
    exact less.le
  exact Simulation.allowance_lt pending move.tick.ge handles (sound.shares move undisturbed own)
    (sound.running busy).2.2.1 less

/-- A resource that is given back pays for the one who is woken. -/
theorem Sound.allowance_giveBack {r left : Int} {todo : List Int} {k : Kernel}
    (sound : Sound ⟨.expiring h (r :: todo), s⟩)
    (move : Move ⟨.expiring h (r :: todo), s⟩
      ⟨.expiring h todo, (s.hold h (((s.heldOf h).put r left).erase r)).onto k⟩)
    (alike : (s.kernel.free r).Alike k) :
    ((s.hold h (((s.heldOf h).put r left).erase r)).onto k).allowance ≤ s.allowance := by
  have used := (sound.running rfl).2.2.1
  have less := sound.share_giveBack left alike
  obtain ⟨handles, pending⟩ := sound.settled move nofun
  have tick := move.tick
  have others : ∀ j ∈ s.kernel.handles, (s.kernel.queue (.waiting r)).head? ≠ some j →
      ((s.hold h (((s.heldOf h).put r left).erase r)).onto k).share j ≤ s.share j := by
    intro j inUse later
    by_cases own : h = j
    · exact own ▸ less.le
    · refine sound.share_le move inUse (by simpa using own) ?_
      rintro ⟨_, _, _, ⟨⟩, first⟩
      exact later first
  -- Whoever is woken may gain a tick, and the share of the giver has lost one.
  cases first : (s.kernel.queue (.waiting r)).head? with
  | none =>
      refine Simulation.allowance_le pending tick.ge handles fun j inUse => others j inUse ?_
      simp [first]
  | some w =>
      obtain ⟨inUse, other⟩ := sound.woken rfl first
      refine Simulation.allowance_exchange pending tick.ge handles (w := w) ?_ ?_ used other less
      · intro j inUse' different
        exact others j inUse' (by simpa [first] using Ne.symm different)
      · have same : Simulation.toDo _ w = s.toDo w :=
          sound.toDo_eq move inUse (by simpa using other)
        have asleep := (sound.waiting_of_head? first).2
        unfold Simulation.share Simulation.awake
        rw [same, if_pos asleep]
        split <;> omega

/-- No move gives anybody more ticks than it takes. -/
theorem Sound.credit (sound : Sound m) (move : Move m m') : m'.credit ≤ m.credit := by
  have whole := move
  -- A move that takes a tick must use one up; the others must only add none.
  cases move with
  | arrive next due built same =>
      exact Nat.add_le_add_right (sound.allowance_arrive whole next built same) _
  | settle | yield => exact le_rfl
  | preempt | idle | resume | take =>
      have kept := sound.allowance_le whole nofun (Moment.not_wakes nofun) nofun
      exact Nat.add_le_add_right kept _
  | grant next due free ran alike =>
      have kept := sound.allowance_le whole nofun (Moment.not_wakes nofun) (by
        rintro _ ⟨⟩
        exact Sound.share_grant next alike)
      exact Nat.add_le_add_right kept _
  | refuse next due owned ran alike =>
      exact sound.allowance_lt whole nofun (Moment.not_wakes nofun) rfl (sound.share_refuse alike)
  | work =>
      exact sound.allowance_lt whole nofun (Moment.not_wakes nofun) rfl sound.share_work
  | @elapse s h r left todo found more =>
      have known : r ∈ (s.heldOf h).keys := (sound.todo h _ rfl).2 r (.head _)
      have shares : ∀ j ∈ s.kernel.handles,
          (s.hold h ((s.heldOf h).put r (left - 1))).share j ≤ s.share j := by
        intro j used
        by_cases own : h = j
        · exact own ▸ (Sound.share_elapse known).le
        · have same : Simulation.toDo _ j = s.toDo j :=
            sound.toDo_eq whole used (by simpa using own)
          exact (congrArg (· + s.awake j) same).le
      have kept : (s.hold h ((s.heldOf h).put r (left - 1))).allowance ≤ s.allowance :=
        Simulation.allowance_le rfl le_rfl rfl shares
      exact Nat.add_le_add_right kept _
  | giveBack found last ran alike =>
      exact Nat.add_le_add_right (sound.allowance_giveBack whole alike) _
  | leave finished same =>
      have kept := sound.allowance_le whole nofun (Moment.not_wakes nofun) (by
        rintro _ ⟨⟩
        exact (sound.share_leave same).le)
      exact Nat.add_le_add_right kept _

theorem Sound.credit_of_reaches (sound : Sound m) (moves : m.Reaches m') :
    m'.credit ≤ m.credit := by
  induction moves with
  | refl => exact le_rfl
  | tail before move ih => exact ((sound.reaches before).credit move).trans ih

/-! ### What a tick takes -/

/-- Somebody is still to come, or somebody can run. -/
def Simulation.Lively (s : Simulation) : Prop :=
  s.pending ≠ [] ∨ s.kernel.queue .ready ≠ [] ∨ (Policy.continuing s.kernel).isSome

/-- What becomes of this in a tick: once everybody due has arrived, those who
are still to come do so later, and if the tick is idle somebody is still to come. -/
def Moment.Lively (m : Moment) : Prop :=
  match m.phase with
  | .arriving => m.sim.Lively
  | .choosing => m.sim.kernel.tick < latestArrival m.sim.pending ∨
      m.sim.kernel.queue .ready ≠ [] ∨ (Policy.continuing m.sim.kernel).isSome
  | .closing _ .idle => m.sim.kernel.tick < latestArrival m.sim.pending
  | _ => True

theorem Move.lively (move : Move m m') (lively : m.Lively) : m'.Lively := by
  cases move with
  | arrive next due built same => exact .inr (.inl (by simp [same.queue]))
  | @settle s early =>
      rcases lively with coming | able
      · apply Or.inl
        obtain ⟨spec, later, next⟩ := List.exists_cons_of_ne_nil coming
        have arrives := early spec later next
        have latest := latestArrival_le_iff.mp (le_refl (latestArrival s.pending)) spec (by
          rw [next]
          exact .head _)
        show s.kernel.tick < latestArrival s.pending
        omega
      · exact .inr able
  | preempt goes same => exact .inr (.inl (by simp [same.queue]))
  | @idle s k free empty same =>
      have coming : s.kernel.tick < latestArrival s.pending := by
        simpa [Moment.Lively, free, empty] using lively
      simpa [Moment.Lively, same.tick] using coming
  | _ => trivial

/-- A tick that can be made takes something from the allowance. -/
theorem SimulationM.allowance_tick {line : TickRecord} {t : Simulation}
    (sound : Sound ⟨.arriving, s⟩) (lively : s.Lively)
    (ran : EStateM.run SimulationM.tick s = .ok line t) : t.allowance < s.allowance := by
  obtain ⟨chosen, event, u, ran', moves⟩ := run_tick sound
  rw [ran'] at ran
  cases ran
  have start : Moment.Lively ⟨.arriving, s⟩ := lively
  have live : Moment.Lively ⟨.closing chosen event, u⟩ :=
    Moment.keeps (P := Moment.Lively) (fun _ _ live move => move.lively live) start moves
  have credit : u.allowance + Phase.taken (.closing chosen event) ≤ s.allowance :=
    sound.credit_of_reaches moves
  have later : (u.close (u.line chosen event)).allowance ≤ u.allowance :=
    Simulation.allowance_le rfl (Nat.le_succ _) rfl fun _ _ => le_rfl
  -- Work, leaving and a refusal have used a tick up; an idle one brings an arrival nearer.
  cases event with
  | run | exit | blocked => exact (Nat.lt_succ_of_le later).trans_le credit
  | idle =>
      have closer : (u.close (u.line chosen .idle)).allowance < u.allowance := by
        have coming : u.kernel.tick < latestArrival u.pending := live
        have shares : ∀ h, (u.close (u.line chosen .idle)).share h = u.share h := fun _ => rfl
        simp only [Simulation.allowance, shares, Simulation.close_views, Kernel.later_frame]
        omega
      exact closer.trans_le credit

end Uniprocessor
