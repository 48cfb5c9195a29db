import Uniprocessor.Proofs.Policy.Decision
import Uniprocessor.Proofs.Simulation.Sound

/-!
Every move keeps the invariant of a run.

A move disturbs no account but that of the process at work
(`Sound.undisturbed`), since no two processes share a number. What is left for
each move is the order of the kernel and the one account that it changes; the
common part is `Sound.change`.
-/

namespace Uniprocessor.Sound

variable {s s' : Simulation} {phase phase' : Phase} {h : Handle} {k : Kernel}

/-! ### What is so in a sound state -/

theorem running (sound : Sound ⟨phase, s⟩) (active : phase.active = some h) :
    s.kernel.current = some h ∧ (s.kernel.process h).state = .running ∧ h ∈ s.kernel.handles ∧
      (s.kernel.process h).queue = none := by
  obtain ⟨current, running⟩ := sound.active h active
  have used := Policy.used_of_running running
  exact ⟨current, running, used, (sound.order.placed h used).queue_of_running running⟩

theorem state_of_mem_ready (sound : Sound ⟨phase, s⟩) (mem : h ∈ s.kernel.queue .ready) :
    (s.kernel.process h).state = .ready :=
  (sound.order.placed h (sound.order.linked.used mem)).state_of_ready
    ((sound.order.linked.mark h _).mpr mem)

/-- Whoever is named has arrived and is able to run. -/
theorem able_of_named (sound : Sound ⟨phase, s⟩) (choice : Policy.Choice s.kernel (some h) k) :
    h ∈ s.kernel.handles ∧
      ((s.kernel.process h).state = .running ∨ (s.kernel.process h).state = .ready) := by
  rcases choice.candidate with goes | mem
  · have running := Policy.running_of_continuing goes
    exact ⟨Policy.used_of_running running, .inl running⟩
  · exact ⟨sound.order.linked.used mem, .inr (sound.state_of_mem_ready mem)⟩

/-- A running process has work left, so where nobody is at work it goes on. -/
theorem continuing_of_running {j : Handle} (sound : Sound ⟨phase, s⟩) (calm : phase.active = none)
    (running : (s.kernel.process j).state = .running) : Policy.continuing s.kernel = some j := by
  have used := Policy.used_of_running running
  have current := (sound.order.placed j used).current_of_running running
  have young : (s.kernel.process j).age < (s.kernel.process j).lifespan := by
    apply ((sound.accounts j used).unfinished (by simp [running])).resolve_right
    intro busy
    rw [Phase.active_of_expires busy] at calm
    cases calm
  exact Policy.continuing_eq_some_iff.mpr
    ⟨current, by simp [Process.canContinue, Process.finished, running, young]⟩

/-- A preemptive discipline names nobody with a greater key than anybody who is
able to run. -/
theorem key_le_of_able {key : Process → Int} {j : Handle} (sound : Sound ⟨phase, s⟩)
    (calm : phase.active = none) (blind : ∀ p : Process, key p.unplaced = key p)
    (ran : (Policy.takePreemptively key).run s.kernel = .ok (some h) k)
    (able : j ∈ s.kernel.queue .ready ∨ (s.kernel.process j).state = .running) :
    key (s.kernel.process h) ≤ key (s.kernel.process j) := by
  apply Policy.key_le_of_takePreemptively sound.order blind ran
  rcases able with mem | running
  · exact .inr mem
  · exact .inl (sound.continuing_of_running calm running)

/-- Where nobody goes on nobody is running. -/
theorem idle_of_free (sound : Sound ⟨phase, s⟩) (calm : phase.active = none)
    (free : Policy.continuing s.kernel = none) : s.kernel.Idle := by
  intro j _ running
  rw [sound.continuing_of_running calm running] at free
  cases free

/-- A process that is about to work has work left. -/
theorem young (sound : Sound ⟨.issuing h, s⟩) :
    (s.kernel.process h).age < (s.kernel.process h).lifespan := by
  obtain ⟨_, running, used, _⟩ := sound.running rfl
  exact ((sound.accounts h used).unfinished (by simp [running])).resolve_right nofun

/-- What a process asks for is in the table. -/
theorem inTable_of_outstanding (sound : Sound ⟨phase, s⟩) (used : h ∈ s.kernel.handles)
    {q : Request} {later : List Request} (next : s.outstanding h = q :: later) :
    0 ≤ q.resource ∧ q.resource < s.kernel.size := by
  have account := sound.accounts h used
  have asked : q ∈ (s.kernel.process h).requests :=
    List.mem_of_mem_drop (show q ∈ s.outstanding h by
      rw [next]
      exact .head _)
  exact ⟨(account.valid.fits q asked).resource, account.room q asked⟩

/-- Nobody asks for what it owns. -/
theorem owner_ne {q : Request} {later : List Request} {owner : Handle}
    (sound : Sound ⟨.issuing h, s⟩) (next : s.outstanding h = q :: later)
    (due : q.due = (s.kernel.process h).age)
    (owned : (s.kernel.resource q.resource).owner = some owner) : owner ≠ h := by
  rintro rfl
  obtain ⟨_, _, used, _⟩ := sound.running rfl
  have account := sound.accounts owner used
  have held := (account.owned _).mp owned
  rw [Table.mem_keys_iff, account.ledger.not_held account.valid next due] at held
  cases held

/-- What is still to be counted down is owned by the process at work. -/
theorem owned_of_todo {r : Int} {todo : List Int} (sound : Sound ⟨.expiring h (r :: todo), s⟩) :
    (s.kernel.resource r).owner = some h := by
  obtain ⟨_, _, used, _⟩ := sound.running rfl
  exact ((sound.accounts h used).owned r).mpr ((sound.todo h _ rfl).2 r (.head _))

/-- Whoever is woken was waiting, so it is neither at work nor gone. -/
theorem waiting_of_head? (sound : Sound ⟨phase, s⟩) {r : Int} {j : Handle}
    (first : (s.kernel.queue (.waiting r)).head? = some j) :
    (s.kernel.process j).queue = some (.waiting r) ∧ (s.kernel.process j).state = .waiting := by
  have mem : j ∈ s.kernel.queue (.waiting r) := List.mem_of_mem_head? (Option.mem_def.mpr first)
  have marked := (sound.order.linked.mark j _).mpr mem
  exact ⟨marked, (sound.order.placed j (sound.order.linked.used mem)).state_of_waiting marked⟩

theorem not_waiting (sound : Sound ⟨phase, s⟩) (active : phase.active = some h) {r : Int} :
    (s.kernel.queue (.waiting r)).head? ≠ some h := by
  intro first
  have running := (sound.active h active).2
  rw [(sound.waiting_of_head? first).2] at running
  cases running

/-- Whoever is woken is in use, and it is not the process at work. -/
theorem woken (sound : Sound ⟨phase, s⟩) (active : phase.active = some h) {r : Int} {j : Handle}
    (first : (s.kernel.queue (.waiting r)).head? = some j) : j ∈ s.kernel.handles ∧ h ≠ j := by
  have mem : j ∈ s.kernel.queue (.waiting r) := List.mem_of_mem_head? (Option.mem_def.mpr first)
  refine ⟨sound.order.linked.used mem, ?_⟩
  rintro rfl
  exact sound.not_waiting active first

/-- The first of those to come is valid, and nobody has its number. -/
theorem arriving {spec : ProcessSpec} {later : List ProcessSpec} (sound : Sound ⟨.arriving, s⟩)
    (next : s.pending = spec :: later) :
    ∃ p, spec.build = .ok p ∧ p.Valid ∧ p.pid = spec.pid ∧ p.requests = spec.requests ∧
      p.state = .ready ∧ p.age = 0 ∧ p.queue = none ∧
      ∀ j ∈ s.kernel.handles, p.pid ≠ (s.kernel.process j).pid := by
  have mem : spec ∈ s.pending := by
    rw [next]
    exact .head _
  obtain ⟨p, built, valid, pid, _, requests, _, state, age, _, queue⟩ :=
    (sound.roster.pending spec mem).1.build
  refine ⟨p, built, valid, pid, requests, state, age, queue, ?_⟩
  intro j used
  rw [pid]
  exact Ne.symm (sound.roster.pid_ne_pending used mem)

/-! ### What a move leaves alone -/

/-- A move disturbs no account but that of the process at work. -/
theorem undisturbed {m m' : Moment} (sound : Sound m) (move : Move m m') {j : Handle}
    (used : j ∈ m.sim.kernel.handles) (other : m.phase.active ≠ some j) :
    Undisturbed m.sim m'.sim j := by
  -- The process at work is not `j`. Of the others some change their place, which no account reads,
  -- and a newcomer has a number and a handle of its own.
  cases move with
  | @arrive s spec later p k next due built same =>
      obtain ⟨_, built', _, _, _, _, _, _, others⟩ := sound.arriving next
      rw [built] at built'
      cases built'
      have old : s.kernel.nextHandle ≠ j := fun is => sound.roster.fresh (is ▸ used)
      have differ := others j used
      refine Undisturbed.alike ?_ same.alike
      constructor <;> simp [old, differ]
  | settle early => exact .refl _ j
  | @preempt s h k goes same =>
      have running := Policy.running_of_continuing goes
      refine Undisturbed.alike ?_ same.alike
      by_cases here : h = j
      · subst here
        constructor <;> simp [running]
      · constructor <;> simp [here]
  | idle free empty same =>
      refine Undisturbed.alike ?_ same.alike
      constructor <;> simp
  | resume goes same =>
      refine Undisturbed.alike ?_ same.alike
      constructor <;> simp
  | @take s h k switches free mem same =>
      have ready := sound.state_of_mem_ready mem
      refine Undisturbed.alike ?_ same.alike
      by_cases here : h = j
      · subst here
        constructor <;> simp [ready]
      · constructor <;> simp [here]
  | @grant s h q later k next due free ran alike memory =>
      have away : h ≠ j := fun is => other (is ▸ rfl)
      have apart := sound.roster.pid_ne (sound.running rfl).2.2.1 used away
      refine Undisturbed.alike ?_ alike
      constructor <;> simp [apart]
      case owner =>
        intro r
        by_cases here : q.resource = r
        · subst here
          simp [free, away]
        · simp [here]
  | @refuse s h owner q later k next due owned ran alike tracked =>
      have away : h ≠ j := fun is => other (is ▸ rfl)
      refine Undisturbed.alike ?_ alike
      constructor <;> simp [away]
  | @work s h satisfied =>
      have away : h ≠ j := fun is => other (is ▸ rfl)
      constructor <;> simp [away]
  | @elapse s h r left todo found more =>
      have away : h ≠ j := fun is => other (is ▸ rfl)
      have apart := sound.roster.pid_ne (sound.running rfl).2.2.1 used away
      constructor <;> simp [apart]
  | @giveBack s h r left todo k found last ran alike tracked =>
      have away : h ≠ j := fun is => other (is ▸ rfl)
      have apart := sound.roster.pid_ne (sound.running rfl).2.2.1 used away
      have owner := sound.owned_of_todo
      have others : ∀ i, (if r = i then none else (s.kernel.resource i).owner) = some j ↔
          (s.kernel.resource i).owner = some j := by
        intro i
        by_cases here : r = i
        · subst here
          simp [owner, away]
        · simp [here]
      refine Undisturbed.alike ?_ alike
      -- The first in line is woken: its state is all that changes for it.
      by_cases first : (s.kernel.queue (.waiting r)).head? = some j
      · have asleep := (sound.waiting_of_head? first).2
        constructor <;> simp [first, others, asleep, apart]
      · constructor <;> simp [first, others, apart]
  | yield unfinished => exact .refl _ j
  | @leave s h k finished same =>
      have away : h ≠ j := fun is => other (is ▸ rfl)
      refine Undisturbed.alike ?_ same.alike
      constructor <;> simp [away]

/-- A process that has arrived stays, as it was declared. -/
theorem stays {m m' : Moment} (sound : Sound m) (move : Move m m') {j : Handle}
    (used : j ∈ m.sim.kernel.handles) : j ∈ m'.sim.kernel.handles ∧
      (m'.sim.kernel.process j).declared = (m.sim.kernel.process j).declared := by
  cases move with
  | arrive next due built same =>
      have fresh := sound.roster.fresh
      constructor
      · simp only [Simulation.onto_views, same.handles, Kernel.handles_receive fresh]
        exact List.mem_append_left _ used
      · simp only [Simulation.onto_views, same.process, Kernel.process_receive]
        rw [if_neg]
        rintro rfl
        exact fresh used
  | settle | elapse | yield => exact ⟨used, rfl⟩
  | preempt goes same =>
      have running := Policy.running_of_continuing goes
      simpa [same.handles, same.process, Policy.used_of_running running] using used
  | idle free empty same => simpa [same.handles, same.process] using used
  | resume goes same => simpa [same.handles, same.process] using used
  | take free mem same =>
      simpa [same.handles, same.process, sound.order.linked.used mem] using used
  | grant next due free ran alike => simpa [alike.handles, alike.declared] using used
  | refuse next due owned ran alike =>
      have inUse := (sound.running rfl).2.2.1
      simpa [alike.handles, alike.declared, inUse] using used
  | work =>
      have inUse := (sound.running rfl).2.2.1
      simpa [inUse] using used
  | giveBack found last ran alike =>
      simpa [alike.handles, alike.declared, sound.order.handles_free] using used
  | leave finished same =>
      have inUse := (sound.running rfl).2.2.1
      simpa [same.handles, same.process, inUse] using used

/-- Once everybody due has arrived, nobody else does. -/
theorem settled {m m' : Moment} (sound : Sound m) (move : Move m m') (late : m.phase ≠ .arriving) :
    m'.sim.kernel.handles = m.sim.kernel.handles ∧ m'.sim.pending = m.sim.pending := by
  cases move with
  | arrive | settle => exact absurd rfl late
  | preempt goes same =>
      have used := Policy.used_of_running (Policy.running_of_continuing goes)
      simp [same.handles, used]
  | take free mem same => simp [same.handles, sound.order.linked.used mem]
  | idle _ _ same | resume _ same => simp [same.handles]
  | grant _ _ _ _ alike => simp [alike.handles]
  | refuse _ _ _ _ alike => simp [alike.handles, (sound.running rfl).2.2.1]
  | work => simp [(sound.running rfl).2.2.1]
  | giveBack _ _ _ alike => simp [alike.handles, sound.order.handles_free]
  | leave _ same => simp [same.handles, (sound.running rfl).2.2.1]
  | elapse | yield => exact ⟨rfl, rfl⟩

/-- A choice changes nothing but the places of those who can run. -/
theorem shuffled {m : Moment} (sound : Sound ⟨.choosing, s⟩) (move : Move ⟨.choosing, s⟩ m) :
    s.kernel.Shuffled m.sim.kernel := by
  cases move with
  | @preempt _ h k goes same =>
      have running := Policy.running_of_continuing goes
      refine Kernel.Shuffled.trans ?_ same.shuffled
      constructor
      case process | exited =>
        intro j
        by_cases own : h = j
        · subst own
          simp [Process.unplaced, Process.inState, Process.marked, running]
        · simp [own]
      all_goals simp [Policy.used_of_running running]
  | idle free empty same =>
      refine Kernel.Shuffled.trans ?_ same.shuffled
      constructor <;> simp
  | resume goes same => exact same.shuffled
  | @take _ h k switches free mem same =>
      have ready := sound.state_of_mem_ready mem
      refine Kernel.Shuffled.trans ?_ same.shuffled
      constructor
      case process | exited =>
        intro j
        by_cases own : h = j
        · subst own
          simp [Process.unplaced, Process.inState, Process.marked, ready]
        · simp [own]
      all_goals simp [sound.order.linked.used mem]

/-! ### What a move keeps -/

/-- A move that changes the kernel, up to boosts, log and memory, and the books
of the process at work only. -/
theorem change (sound : Sound ⟨phase, s⟩) (move : Move ⟨phase, s⟩ ⟨phase', s'⟩)
    (alike : k.Alike s'.kernel) (order : k.Orderly) (tracked : s'.kernel.Tracked)
    (handles : k.handles = s.kernel.handles) (size : k.size = s.kernel.size)
    (table : s'.table = s.table) (pending : s'.pending = s.pending)
    (late : ∀ j, phase.active ≠ some j → phase'.late j = [])
    (own : ∀ h, phase.active = some h → Account phase' (s'.onto k) h)
    (active : ∀ j, phase'.active = some j → k.current = some j ∧ (k.process j).state = .running)
    (todo : ∀ j todo, phase' = .expiring j todo →
      todo.Nodup ∧ ∀ r ∈ todo, r ∈ (s'.heldOf j).keys) : Sound ⟨phase', s'⟩ where
  policy := by
    rw [show s'.policy = s.policy from congrArg (·.policy) move.unchanged]
    exact sound.policy
  order := order.congr alike.samePlaces
  tracked := tracked
  roster := sound.roster.congr (alike.handles.trans handles)
    (fun j used => congrArg (·.pid) (sound.stays move used).2) table pending
    (alike.size.trans size)
  booked j used := by
    have used : j ∈ s.kernel.handles := handles ▸ alike.handles ▸ used
    rw [show (s'.kernel.process j).pid = (s.kernel.process j).pid from
      congrArg (·.pid) (sound.stays move used).2]
    exact move.booked (sound.booked j used)
  accounts j used := by
    have used : j ∈ s.kernel.handles := handles ▸ alike.handles ▸ used
    -- The account of the process at work is given; the others are undisturbed.
    by_cases busy : phase.active = some j
    · exact (own j busy).alike alike
    · refine (sound.undisturbed move used busy).account (sound.accounts j used) ?_ ?_
      · rw [late j busy, Phase.late_of_active_ne busy]
      · intro expires
        exact absurd (Phase.active_of_expires expires) busy
  active j is := by
    obtain ⟨current, running⟩ := active j is
    exact ⟨alike.current.trans current, (alike.state j).trans running⟩
  todo := todo

theorem settle (sound : Sound ⟨.arriving, s⟩) (move : Move ⟨.arriving, s⟩ ⟨.choosing, s⟩) :
    Sound ⟨.choosing, s⟩ :=
  sound.change move (.refl _) sound.order sound.tracked rfl rfl rfl rfl
    (fun _ _ => rfl) nofun nofun nofun

theorem preempt (sound : Sound ⟨.choosing, s⟩) (move : Move ⟨.choosing, s⟩ ⟨.choosing, s.onto k⟩)
    (goes : Policy.continuing s.kernel = some h) (same : (s.kernel.sendBack h).Same k) :
    Sound ⟨.choosing, s.onto k⟩ := by
  have running := Policy.running_of_continuing goes
  have used := Policy.used_of_running running
  have tracked : (s.kernel.sendBack h).Tracked := sound.tracked.congr (by simp) (by simp)
  exact sound.change move same.alike (sound.order.sendBack used running) (tracked.same same)
    (by simp [used]) (by simp) rfl rfl (fun _ _ => rfl) nofun nofun nofun

theorem idle (sound : Sound ⟨.choosing, s⟩)
    (move : Move ⟨.choosing, s⟩ ⟨.closing none .idle, s.onto k⟩)
    (free : Policy.continuing s.kernel = none) (same : (s.kernel.turnTo none).Same k) :
    Sound ⟨.closing none .idle, s.onto k⟩ := by
  have tracked : (s.kernel.turnTo none).Tracked := sound.tracked.congr (by simp) (by simp)
  exact sound.change move same.alike (sound.order.rest (sound.idle_of_free rfl free))
    (tracked.same same) (by simp) (by simp) rfl rfl (fun _ _ => rfl) nofun nofun nofun

theorem resume (sound : Sound ⟨.choosing, s⟩) (move : Move ⟨.choosing, s⟩ ⟨.issuing h, s.onto k⟩)
    (goes : Policy.continuing s.kernel = some h) (same : s.kernel.Same k) :
    Sound ⟨.issuing h, s.onto k⟩ := by
  refine sound.change move same.alike sound.order (sound.tracked.same same) rfl rfl rfl rfl
    (fun _ _ => rfl) nofun ?_ nofun
  rintro j ⟨⟩
  exact ⟨(Policy.continuing_eq_some_iff.mp goes).1, Policy.running_of_continuing goes⟩

theorem take {switches : Nat} (sound : Sound ⟨.choosing, s⟩)
    (move : Move ⟨.choosing, s⟩ ⟨.issuing h, (s.switched switches).onto k⟩)
    (free : Policy.continuing s.kernel = none) (mem : h ∈ s.kernel.queue .ready)
    (same : (s.kernel.dispatch h).Same k) :
    Sound ⟨.issuing h, (s.switched switches).onto k⟩ := by
  have used := sound.order.linked.used mem
  have tracked : (s.kernel.dispatch h).Tracked := sound.tracked.congr (by simp) (by simp)
  refine sound.change move same.alike (sound.order.dispatch mem (sound.idle_of_free rfl free))
    (tracked.same same) (by simp [used]) (by simp) rfl rfl (fun _ _ => rfl) nofun ?_ nofun
  rintro j ⟨⟩
  simp

theorem grant {q : Request} {later : List Request} (sound : Sound ⟨.issuing h, s⟩)
    (move : Move ⟨.issuing h, s⟩
      ⟨.issuing h, ((s.hold h ((s.heldOf h).put q.resource q.hold)).countGrant h).onto k⟩)
    (next : s.outstanding h = q :: later) (due : q.due = (s.kernel.process h).age)
    (alike : (s.kernel.assign q.resource (some h)).Alike k) (memory : k.memory = s.kernel.memory) :
    Sound ⟨.issuing h, ((s.hold h ((s.heldOf h).put q.resource q.hold)).countGrant h).onto k⟩ := by
  obtain ⟨current, running, used, unmarked⟩ := sound.running rfl
  have account := sound.accounts h used
  have inTable := sound.inTable_of_outstanding used next
  have ledger := account.ledger.grant account.valid next due
  refine sound.change move alike (sound.order.grant used running inTable)
    (sound.tracked.congr memory (by simp [alike.size])) (by simp) (by simp) rfl rfl
    (fun _ _ => rfl) ?_ ?_ nofun
  · rintro _ ⟨⟩
    refine ⟨by simpa using account.valid, by simpa using account.room, ?_, ?_, ?_, ?_⟩
    · simpa [Simulation.heldOf] using ledger
    · intro r
      have owned := account.owned r
      by_cases here : q.resource = r
      · simp [Simulation.heldOf, Table.mem_keys_put, here]
      · simpa [Simulation.heldOf, Table.mem_keys_put, here, Ne.symm here] using owned
    · simp [unmarked]
    · simpa [Phase.Expires] using account.unfinished
  · rintro j ⟨⟩
    simp [current, running]

theorem refuse {q : Request} {later : List Request} {owner : Handle}
    (sound : Sound ⟨.issuing h, s⟩)
    (move : Move ⟨.issuing h, s⟩ ⟨.closing (some h) .blocked, s.onto k⟩)
    (next : s.outstanding h = q :: later) (due : q.due = (s.kernel.process h).age)
    (owned : (s.kernel.resource q.resource).owner = some owner)
    (alike : (s.kernel.park q.resource h).Alike k) (tracked : k.Tracked) :
    Sound ⟨.closing (some h) .blocked, s.onto k⟩ := by
  obtain ⟨current, running, used, unmarked⟩ := sound.running rfl
  have account := sound.accounts h used
  have inTable := (sound.order.owners _ _ owned).1
  have apart : (s.kernel.resource q.resource).owner ≠ some h := by
    simp [owned, sound.owner_ne next due owned]
  refine sound.change move alike (sound.order.park used running inTable apart) tracked
    (by simp [used]) (by simp) rfl rfl (fun _ _ => rfl) ?_ nofun nofun
  rintro _ ⟨⟩
  refine ⟨account.valid.congr (by simp), by simpa using account.room, ?_, ?_, ?_, ?_⟩
  · simpa [Simulation.heldOf] using account.ledger.congr (by simp) (by simp)
  · intro r
    simpa [Simulation.heldOf] using account.owned r
  · intro r mark
    have here : q.resource = r := by simpa using mark
    refine ⟨q, later, ?_, here, by simpa using due⟩
    simpa [Simulation.outstanding] using next
  · simpa [Phase.Expires, running] using account.unfinished

theorem work (sound : Sound ⟨.issuing h, s⟩)
    (move : Move ⟨.issuing h, s⟩
      ⟨.expiring h (s.heldOf h).keys, s.onto (s.kernel.edit h Process.older)⟩) :
    Sound ⟨.expiring h (s.heldOf h).keys, s.onto (s.kernel.edit h Process.older)⟩ := by
  obtain ⟨current, running, used, unmarked⟩ := sound.running rfl
  have account := sound.accounts h used
  have places : s.kernel.SamePlaces (s.kernel.edit h Process.older) := by
    constructor <;> simp [used]
  refine sound.change move (.refl _) (sound.order.congr places)
    (sound.tracked.congr (by simp) (by simp)) (by simp [used]) (by simp) rfl rfl ?_ ?_ ?_ ?_
  · intro j away
    exact if_neg fun is => away (congrArg some is)
  · rintro _ ⟨⟩
    refine ⟨account.valid.congr (by simp), by simpa using account.room, ?_, ?_, ?_, ?_⟩
    · simpa [Simulation.heldOf] using account.ledger.work
    · intro r
      simpa [Simulation.heldOf] using account.owned r
    · simp [unmarked]
    · exact fun _ => .inr ⟨_, rfl⟩
  · rintro j ⟨⟩
    simp [current, running]
  · rintro j todo ⟨⟩
    simpa [Simulation.heldOf] using account.ledger.nodup

theorem elapse {r left : Int} {todo : List Int} (sound : Sound ⟨.expiring h (r :: todo), s⟩)
    (move : Move ⟨.expiring h (r :: todo), s⟩
      ⟨.expiring h todo, s.hold h ((s.heldOf h).put r (left - 1))⟩)
    (found : (s.heldOf h).get? r = some left) (more : left - 1 ≠ 0) :
    Sound ⟨.expiring h todo, s.hold h ((s.heldOf h).put r (left - 1))⟩ := by
  obtain ⟨current, running, used, unmarked⟩ := sound.running rfl
  have account := sound.accounts h used
  obtain ⟨nodup, held⟩ := sound.todo h _ rfl
  have apart := (List.nodup_cons.mp nodup).1
  have ledger := account.ledger_of_expiring
  refine sound.change move (.refl s.kernel) sound.order sound.tracked rfl rfl rfl rfl ?_ ?_ ?_ ?_
  · intro j away
    exact if_neg fun is => away (congrArg some is)
  · rintro _ ⟨⟩
    refine ⟨account.valid, account.room, ?_, ?_, ?_, ?_⟩
    · simpa [Simulation.heldOf] using ledger.elapse apart found more
    · intro i
      have owned := account.owned i
      -- Only a count has changed, so the same resources are held.
      by_cases here : r = i
      · subst here
        simpa [Simulation.heldOf, Table.mem_keys_put] using owned.mpr (held r (.head _))
      · simpa [Simulation.heldOf, Table.mem_keys_put, Ne.symm here] using owned
    · simp [unmarked]
    · exact fun _ => .inr ⟨_, rfl⟩
  · rintro j ⟨⟩
    exact ⟨current, running⟩
  · rintro j l ⟨⟩
    refine ⟨(List.nodup_cons.mp nodup).2, ?_⟩
    intro i mem
    have known := held i (List.mem_cons_of_mem _ mem)
    simp only [Simulation.heldOf] at known ⊢
    simp [Table.mem_keys_put, known]

theorem giveBack {r left : Int} {todo : List Int} (sound : Sound ⟨.expiring h (r :: todo), s⟩)
    (move : Move ⟨.expiring h (r :: todo), s⟩
      ⟨.expiring h todo, (s.hold h (((s.heldOf h).put r (left - 1)).erase r)).onto k⟩)
    (found : (s.heldOf h).get? r = some left) (last : left - 1 = 0)
    (alike : (s.kernel.free r).Alike k) (tracked : k.Tracked) :
    Sound ⟨.expiring h todo, (s.hold h (((s.heldOf h).put r (left - 1)).erase r)).onto k⟩ := by
  obtain ⟨current, running, used, unmarked⟩ := sound.running rfl
  have account := sound.accounts h used
  obtain ⟨nodup, held⟩ := sound.todo h _ rfl
  have apart := (List.nodup_cons.mp nodup).1
  have ledger := account.ledger_of_expiring
  have awake := sound.not_waiting (r := r) rfl
  refine sound.change move alike sound.order.free tracked sound.order.handles_free
    (by simp) rfl rfl ?_ ?_ ?_ ?_
  · intro j away
    exact if_neg fun is => away (congrArg some is)
  · rintro _ ⟨⟩
    refine ⟨by simpa [awake] using account.valid, by simpa [awake] using account.room,
      ?_, fun i => ?_, ?_, ?_⟩
    · simpa [Simulation.heldOf, awake] using ledger.giveBack apart found last
    · have owned := account.owned i
      -- The resource is held no longer, and its entry is gone as well.
      by_cases here : r = i
      · simp [Simulation.heldOf, Table.mem_keys_erase, here]
      · simpa [Simulation.heldOf, awake, Table.mem_keys_erase, Table.mem_keys_put, here,
          Ne.symm here] using owned
    · simp [unmarked, awake]
    · exact fun _ => .inr ⟨_, rfl⟩
  · rintro j ⟨⟩
    simp [awake, current, running]
  · rintro j l ⟨⟩
    refine ⟨(List.nodup_cons.mp nodup).2, ?_⟩
    intro i mem
    have known := held i (List.mem_cons_of_mem _ mem)
    have differ : i ≠ r := fun same => apart (same ▸ mem)
    simp only [Simulation.heldOf, Simulation.onto_views, alike.pid] at known ⊢
    simp [awake, Table.mem_keys_erase, Table.mem_keys_put, known, differ]

theorem yield (sound : Sound ⟨.expiring h [], s⟩)
    (move : Move ⟨.expiring h [], s⟩ ⟨.closing (some h) .run, s⟩)
    (unfinished : (s.kernel.process h).age < (s.kernel.process h).lifespan) :
    Sound ⟨.closing (some h) .run, s⟩ := by
  refine sound.change move (.refl _) sound.order sound.tracked rfl rfl rfl rfl
    (fun _ _ => rfl) ?_ nofun nofun
  rintro _ ⟨⟩
  have account := sound.accounts h (sound.running rfl).2.2.1
  exact ⟨account.valid, account.room, account.ledger_of_expiring, account.owned, account.asks,
    fun _ => .inl unfinished⟩

theorem leave (sound : Sound ⟨.expiring h [], s⟩)
    (move : Move ⟨.expiring h [], s⟩ ⟨.closing (some h) .exit, s.onto k⟩)
    (finished : (s.kernel.process h).lifespan ≤ (s.kernel.process h).age)
    (same : (s.kernel.retire h).Same k) : Sound ⟨.closing (some h) .exit, s.onto k⟩ := by
  obtain ⟨_, running, used, unmarked⟩ := sound.running rfl
  have account := sound.accounts h used
  have nothing : ∀ r, (s.kernel.resource r).owner ≠ some h := by
    intro r owned
    have held := (account.owned r).mp owned
    rw [account.ledger_of_expiring.empty_of_finished account.valid finished] at held
    cases held
  have tracked : (s.kernel.retire h).Tracked := sound.tracked.congr (by simp) (by simp)
  refine sound.change move same.alike (sound.order.retire used running nothing)
    (tracked.same same) (by simp [used]) (by simp) rfl rfl (fun _ _ => rfl) ?_ nofun nofun
  rintro _ ⟨⟩
  refine ⟨account.valid.congr (by simp), by simpa using account.room, ?_, ?_, ?_, ?_⟩
  · simpa [Simulation.heldOf] using account.ledger_of_expiring.congr (by simp) (by simp)
  · intro r
    simpa [Simulation.heldOf] using account.owned r
  · simp [unmarked]
  · simp

/-- The end of a tick moves the clock and nothing else. -/
theorem close {chosen : Option Handle} {event : TickEvent} (line : TickRecord)
    (sound : Sound ⟨.closing chosen event, s⟩) : Sound ⟨.arriving, s.close line⟩ where
  policy := sound.policy
  order := sound.order.congr (by constructor <;> simp)
  tracked := sound.tracked.congr rfl rfl
  roster := sound.roster.congr (by simp) (by simp) rfl rfl rfl
  booked j used := (sound.booked j (by simpa using used)).congr rfl rfl
  accounts j used := by
    have kept : Undisturbed s (s.close line) j := by constructor <;> simp
    refine kept.account (sound.accounts j (by simpa using used)) rfl ?_
    rintro ⟨_, ⟨⟩⟩
  active := nofun
  todo := nofun

theorem arrive {spec : ProcessSpec} {later : List ProcessSpec} {p : Process}
    (sound : Sound ⟨.arriving, s⟩)
    (move : Move ⟨.arriving, s⟩ ⟨.arriving, (s.enter p.pid later).onto k⟩)
    (next : s.pending = spec :: later) (built : spec.build = .ok p)
    (same : (s.kernel.receive p).Same k) :
    Sound ⟨.arriving, (s.enter p.pid later).onto k⟩ := by
  obtain ⟨_, built', valid, pid, requests, state, age, queue, _⟩ := sound.arriving next
  rw [built] at built'
  cases built'
  have fresh := sound.roster.fresh
  have alike := same.alike
  have handles : k.handles = s.kernel.handles ++ [s.kernel.nextHandle] :=
    same.handles.trans (Kernel.handles_receive fresh p)
  -- Whoever has been there keeps all of its own; of the newcomer all is known from its declaration.
  have process : ∀ j ∈ s.kernel.handles, k.process j = s.kernel.process j := by
    intro j used
    have other : s.kernel.nextHandle ≠ j := fun is => fresh (is ▸ used)
    simp [same.process, other]
  have newcomer : k.process s.kernel.nextHandle = p.marked (some .ready) := by
    simp [same.process]
  have tracked : (s.kernel.receive p).Tracked := sound.tracked.congr (by simp) (by simp)
  have roster : Roster ((s.enter p.pid later).onto k) := by
    rw [pid]
    exact sound.roster.enter next handles (by simp [same.size])
      (fun j used => by rw [process j used]) (by simp [newcomer, pid])
  have oldOrNew : ∀ j ∈ k.handles, j ∈ s.kernel.handles ∨ j = s.kernel.nextHandle := by
    intro j used
    rwa [handles, List.mem_append, List.mem_singleton] at used
  have booked : ∀ j ∈ k.handles,
      ((s.enter p.pid later).onto k).Booked (k.process j).pid := by
    intro j used
    rcases oldOrNew j used with old | rfl
    · rw [process j old]
      exact move.booked (sound.booked j old)
    · rw [newcomer]
      exact (Simulation.Booked.enter s p.pid later).congr rfl rfl
  refine ⟨sound.policy, (sound.order.receive fresh state queue).congr alike.samePlaces,
    tracked.same same, roster, booked, fun j used => ?_, nofun, nofun⟩
  rcases oldOrNew j used with old | rfl
  · exact (sound.undisturbed move old nofun).account (sound.accounts j old) rfl nofun
  · have unowned : ∀ r, (s.kernel.resource r).owner ≠ some s.kernel.nextHandle :=
      fun r owned => fresh (sound.order.owners r _ owned).2.1
    have room := (sound.roster.pending spec (by
      rw [next]
      exact .head _)).2
    refine Account.alike (k := s.kernel.receive p) ?_ alike
    refine ⟨valid.congr (by simp), by simpa [requests] using room, ?_, ?_, ?_, ?_⟩
    · simpa [Simulation.heldOf] using (Ledger.fresh p).congr (by simp) (by simp)
    · intro r
      simp [Simulation.heldOf, unowned, Table.mem_keys_iff]
    · simp
    · have positive := valid.lifespan
      simpa [age] using fun _ => .inl positive

/-- Every move keeps the invariant. -/
theorem move {m m' : Moment} (sound : Sound m) (move : Move m m') : Sound m' := by
  have whole := move
  cases move with
  | arrive next due built same => exact sound.arrive whole next built same
  | settle early => exact sound.settle whole
  | preempt goes same => exact sound.preempt whole goes same
  | idle free empty same => exact sound.idle whole free same
  | resume goes same => exact sound.resume whole goes same
  | take free mem same => exact sound.take whole free mem same
  | grant next due free ran alike memory => exact sound.grant whole next due alike memory
  | refuse next due owned ran alike tracked =>
      exact sound.refuse whole next due owned alike tracked
  | work satisfied => exact sound.work whole
  | elapse found more => exact sound.elapse whole found more
  | giveBack found last ran alike tracked => exact sound.giveBack whole found last alike tracked
  | yield unfinished => exact sound.yield whole unfinished
  | leave finished same => exact sound.leave whole finished same

theorem reaches {m m' : Moment} (sound : Sound m) (moves : m.Reaches m') : Sound m' :=
  Moment.keeps (fun _ _ => move) sound moves

/-- What every move from a sound moment keeps holds as far as moves lead. -/
theorem keeps {P : Moment → Prop} (step : ∀ {m m' : Moment}, Sound m → P m → Move m m' → P m')
    {m m' : Moment} (sound : Sound m) (start : P m) (moves : m.Reaches m') : P m' := by
  induction moves with
  | refl => exact start
  | tail before move ih => exact step (sound.reaches before) ih move

theorem stays_of_reaches {m m' : Moment} (sound : Sound m) (moves : m.Reaches m') {j : Handle}
    (used : j ∈ m.sim.kernel.handles) : j ∈ m'.sim.kernel.handles ∧
      (m'.sim.kernel.process j).declared = (m.sim.kernel.process j).declared := by
  induction moves with
  | refl => exact ⟨used, rfl⟩
  | tail before move ih =>
      obtain ⟨used', same⟩ := ih
      obtain ⟨used'', same'⟩ := (sound.reaches before).stays move used'
      exact ⟨used'', same'.trans same⟩

end Uniprocessor.Sound
