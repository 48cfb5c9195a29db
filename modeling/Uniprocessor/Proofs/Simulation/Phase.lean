import Mathlib.Logic.Relation
import Uniprocessor.Proofs.Kernel.Alike
import Uniprocessor.Simulation

/-!
A tick taken apart into moves.

A tick passes through phases: processes arrive, a process is chosen, it issues
its requests, works and counts down what it holds, and the tick closes. What
happens in each phase is one of a few moves (`Move`). Each says when it happens
and what it leaves, up to the log and the slice of the policy; where the
protocol acts, it says how the protocol ran and what this amounts to but for
boosts.

A property of moments that every move keeps holds all through a tick
(`Moment.keeps`). The clock stands still meanwhile (`Move.tick`), and a number that
the books list stays listed (`Move.booked`).

What a number holds and has been granted is said here of every number, with nothing
held and nothing granted where the books have no entry. No run of the program uses
that: it faults where an entry is missing.
-/

namespace Uniprocessor

namespace Simulation

/-- The resources that a process number holds, with the ticks of work left. -/
def held (s : Simulation) (pid : Int) : Table Int Int := (s.holding.get? pid).getD {}

/-- How many requests of a process number have been granted. -/
def grantedTo (s : Simulation) (pid : Int) : Nat := (s.granted.get? pid).getD 0

/-- The books list the number, with what it holds and what it has been granted. -/
structure Booked (s : Simulation) (pid : Int) : Prop where
  holding : pid ∈ s.holding.keys
  granted : pid ∈ s.granted.keys

/-- The requests of a process that have not been granted yet. -/
def outstanding (s : Simulation) (h : Handle) : List Request :=
  (s.kernel.process h).requests.drop (s.grantedTo (s.kernel.process h).pid)

/-- What a process holds. -/
def heldOf (s : Simulation) (h : Handle) : Table Int Int := s.held (s.kernel.process h).pid

/-- The next request of a process is for the resource and due now. -/
def Asks (s : Simulation) (h : Handle) (r : Int) : Prop :=
  ∃ q later, s.outstanding h = q :: later ∧ q.resource = r ∧ q.due = (s.kernel.process h).age

/-- Gives a process other holdings. -/
def hold (s : Simulation) (h : Handle) (held : Table Int Int) : Simulation :=
  { s with holding := s.holding.put (s.kernel.process h).pid held }

/-- Counts one more granted request. -/
def countGrant (s : Simulation) (h : Handle) : Simulation :=
  let pid := (s.kernel.process h).pid
  { s with granted := s.granted.put pid (s.grantedTo pid + 1) }

/-- Opens the books of a process that arrives. -/
def enter (s : Simulation) (pid : Int) (later : List ProcessSpec) : Simulation :=
  { s with
    pending := later
    table := s.table.put pid s.kernel.nextHandle
    holding := s.holding.put pid {}
    granted := s.granted.put pid 0 }

/-- The same simulation on another kernel. -/
def onto (s : Simulation) (k : Kernel) : Simulation := { s with kernel := k }

/-- The simulation with another count of switches. -/
def switched (s : Simulation) (switches : Nat) : Simulation := { s with switches := switches }

/-- The line of a tick. -/
def line (s : Simulation) (chosen : Option Handle) (event : TickEvent) : TickRecord :=
  ⟨s.kernel.tick, chosen.map (fun h => (s.kernel.process h).pid), event⟩

/-- Notes the line of a tick and moves the clock. -/
def close (s : Simulation) (line : TickRecord) : Simulation :=
  { s with kernel := s.kernel.later, timeline := s.timeline.push line }

section Views

variable (s : Simulation) (h : Handle) (k : Kernel)

@[simp] theorem onto_views :
    (s.onto k).kernel = k ∧ (s.onto k).policy = s.policy ∧ (s.onto k).pending = s.pending ∧
      (s.onto k).table = s.table ∧ (∀ pid, (s.onto k).held pid = s.held pid) ∧
      (∀ pid, (s.onto k).grantedTo pid = s.grantedTo pid) :=
  ⟨rfl, rfl, rfl, rfl, fun _ => rfl, fun _ => rfl⟩

@[simp] theorem switched_views (switches : Nat) :
    (s.switched switches).kernel = s.kernel ∧ (s.switched switches).policy = s.policy ∧
      (s.switched switches).pending = s.pending ∧ (s.switched switches).table = s.table ∧
      (∀ pid, (s.switched switches).held pid = s.held pid) ∧
      (∀ pid, (s.switched switches).grantedTo pid = s.grantedTo pid) :=
  ⟨rfl, rfl, rfl, rfl, fun _ => rfl, fun _ => rfl⟩

@[simp] theorem hold_views (held : Table Int Int) :
    (s.hold h held).kernel = s.kernel ∧ (s.hold h held).policy = s.policy ∧
      (s.hold h held).pending = s.pending ∧ (s.hold h held).table = s.table ∧
      (∀ pid, (s.hold h held).held pid =
        if (s.kernel.process h).pid = pid then held else s.held pid) ∧
      (∀ pid, (s.hold h held).grantedTo pid = s.grantedTo pid) := by
  refine ⟨rfl, rfl, rfl, rfl, ?_, fun _ => rfl⟩
  intro pid
  unfold Simulation.held hold
  rw [Table.get?_put]
  split <;> rfl

@[simp] theorem countGrant_views :
    (s.countGrant h).kernel = s.kernel ∧ (s.countGrant h).policy = s.policy ∧
      (s.countGrant h).pending = s.pending ∧ (s.countGrant h).table = s.table ∧
      (∀ pid, (s.countGrant h).held pid = s.held pid) ∧
      (∀ pid, (s.countGrant h).grantedTo pid =
        if (s.kernel.process h).pid = pid then s.grantedTo pid + 1 else s.grantedTo pid) := by
  refine ⟨rfl, rfl, rfl, rfl, fun _ => rfl, ?_⟩
  intro pid
  unfold grantedTo countGrant
  rw [Table.get?_put]
  split
  · rename_i same
    subst same
    rfl
  · rfl

@[simp] theorem enter_views (pid : Int) (later : List ProcessSpec) :
    (s.enter pid later).kernel = s.kernel ∧ (s.enter pid later).policy = s.policy ∧
      (s.enter pid later).pending = later ∧
      (s.enter pid later).table = s.table.put pid s.kernel.nextHandle ∧
      (∀ i, (s.enter pid later).held i = if pid = i then {} else s.held i) ∧
      (∀ i, (s.enter pid later).grantedTo i = if pid = i then 0 else s.grantedTo i) := by
  refine ⟨rfl, rfl, rfl, rfl, ?_, ?_⟩
  · intro i
    unfold Simulation.held enter
    rw [Table.get?_put]
    split <;> rfl
  · intro i
    unfold grantedTo enter
    rw [Table.get?_put]
    split <;> rfl

@[simp] theorem close_views (line : TickRecord) :
    (s.close line).kernel = s.kernel.later ∧ (s.close line).policy = s.policy ∧
      (s.close line).pending = s.pending ∧ (s.close line).table = s.table ∧
      (∀ pid, (s.close line).held pid = s.held pid) ∧
      (∀ pid, (s.close line).grantedTo pid = s.grantedTo pid) :=
  ⟨rfl, rfl, rfl, rfl, fun _ => rfl, fun _ => rfl⟩

end Views

namespace Booked

variable {s s' : Simulation} {pid : Int}

theorem congr (booked : s.Booked pid) (holding : s'.holding = s.holding)
    (granted : s'.granted = s.granted) : s'.Booked pid where
  holding := holding ▸ booked.holding
  granted := granted ▸ booked.granted

theorem get?_holding (booked : s.Booked pid) : s.holding.get? pid = some (s.held pid) := by
  obtain ⟨held, found⟩ := Option.isSome_iff_exists.mp (Table.mem_keys_iff.mp booked.holding)
  rw [Simulation.held, found, Option.getD_some]

theorem get?_granted (booked : s.Booked pid) : s.granted.get? pid = some (s.grantedTo pid) := by
  obtain ⟨count, found⟩ := Option.isSome_iff_exists.mp (Table.mem_keys_iff.mp booked.granted)
  rw [grantedTo, found, Option.getD_some]

theorem hold (booked : s.Booked pid) (h : Handle) (held : Table Int Int) :
    (s.hold h held).Booked pid where
  holding := Table.mem_keys_put.mpr (.inr booked.holding)
  granted := booked.granted

theorem enter (s : Simulation) (pid : Int) (later : List ProcessSpec) :
    (s.enter pid later).Booked pid where
  holding := Table.mem_keys_put.mpr (.inl rfl)
  granted := Table.mem_keys_put.mpr (.inl rfl)

end Booked

end Simulation

/-- Where a tick has got to. -/
inductive Phase where
  | arriving
  | choosing
  | issuing (h : Handle)
  /-- The counts of the resources in `todo` are still to be brought up to date. -/
  | expiring (h : Handle) (todo : List Int)
  | closing (chosen : Option Handle) (event : TickEvent)

/-- A simulation and where its tick has got to. -/
structure Moment where
  phase : Phase
  sim : Simulation

open Policy in
/-- What a tick does next, at each place it can have got to. -/
inductive Move : Moment → Moment → Prop where
  | arrive {s : Simulation} {spec : ProcessSpec} {later : List ProcessSpec} {p : Process}
      {k : Kernel} (next : s.pending = spec :: later) (due : spec.arrival ≤ s.kernel.tick)
      (built : spec.build = .ok p) (same : (s.kernel.receive p).Same k) :
      Move ⟨.arriving, s⟩ ⟨.arriving, (s.enter p.pid later).onto k⟩
  | settle {s : Simulation}
      (early : ∀ spec later, s.pending = spec :: later → s.kernel.tick < spec.arrival) :
      Move ⟨.arriving, s⟩ ⟨.choosing, s⟩
  | preempt {s : Simulation} {h : Handle} {k : Kernel} (goes : continuing s.kernel = some h)
      (same : (s.kernel.sendBack h).Same k) : Move ⟨.choosing, s⟩ ⟨.choosing, s.onto k⟩
  | idle {s : Simulation} {k : Kernel} (free : continuing s.kernel = none)
      (empty : s.kernel.queue .ready = []) (same : (s.kernel.turnTo none).Same k) :
      Move ⟨.choosing, s⟩ ⟨.closing none .idle, s.onto k⟩
  | resume {s : Simulation} {h : Handle} {k : Kernel} (goes : continuing s.kernel = some h)
      (same : s.kernel.Same k) : Move ⟨.choosing, s⟩ ⟨.issuing h, s.onto k⟩
  | take {s : Simulation} {h : Handle} {k : Kernel} {switches : Nat}
      (free : continuing s.kernel = none) (mem : h ∈ s.kernel.queue .ready)
      (same : (s.kernel.dispatch h).Same k)
      (counted : switches = s.switches + if s.kernel.current = some h then 0 else 1) :
      Move ⟨.choosing, s⟩ ⟨.issuing h, (s.switched switches).onto k⟩
  | grant {s : Simulation} {h : Handle} {q : Request} {later : List Request} {k : Kernel}
      (next : s.outstanding h = q :: later) (due : q.due = (s.kernel.process h).age)
      (free : (s.kernel.resource q.resource).owner = none)
      (ran : (s.policy.protocol.acquire q.resource).run s.kernel = .ok true k)
      (alike : (s.kernel.assign q.resource (some h)).Alike k)
      (memory : k.memory = s.kernel.memory) :
      Move ⟨.issuing h, s⟩
        ⟨.issuing h, ((s.hold h ((s.heldOf h).put q.resource q.hold)).countGrant h).onto k⟩
  | refuse {s : Simulation} {h owner : Handle} {q : Request} {later : List Request} {k : Kernel}
      (next : s.outstanding h = q :: later) (due : q.due = (s.kernel.process h).age)
      (owned : (s.kernel.resource q.resource).owner = some owner)
      (ran : (s.policy.protocol.acquire q.resource).run s.kernel = .ok false k)
      (alike : (s.kernel.park q.resource h).Alike k) (tracked : k.Tracked) :
      Move ⟨.issuing h, s⟩ ⟨.closing (some h) .blocked, s.onto k⟩
  | work {s : Simulation} {h : Handle} (satisfied : ∀ r, ¬ s.Asks h r) :
      Move ⟨.issuing h, s⟩
        ⟨.expiring h (s.heldOf h).keys, s.onto (s.kernel.edit h Process.older)⟩
  | elapse {s : Simulation} {h : Handle} {r left : Int} {todo : List Int}
      (found : (s.heldOf h).get? r = some left) (more : left - 1 ≠ 0) :
      Move ⟨.expiring h (r :: todo), s⟩
        ⟨.expiring h todo, s.hold h ((s.heldOf h).put r (left - 1))⟩
  | giveBack {s : Simulation} {h : Handle} {r left : Int} {todo : List Int} {k : Kernel}
      (found : (s.heldOf h).get? r = some left) (last : left - 1 = 0)
      (ran : (s.policy.protocol.release r).run s.kernel = .ok () k)
      (alike : (s.kernel.free r).Alike k) (tracked : k.Tracked) :
      Move ⟨.expiring h (r :: todo), s⟩
        ⟨.expiring h todo, (s.hold h (((s.heldOf h).put r (left - 1)).erase r)).onto k⟩
  | yield {s : Simulation} {h : Handle}
      (unfinished : (s.kernel.process h).age < (s.kernel.process h).lifespan) :
      Move ⟨.expiring h [], s⟩ ⟨.closing (some h) .run, s⟩
  | leave {s : Simulation} {h : Handle} {k : Kernel}
      (finished : (s.kernel.process h).lifespan ≤ (s.kernel.process h).age)
      (same : (s.kernel.retire h).Same k) :
      Move ⟨.expiring h [], s⟩ ⟨.closing (some h) .exit, s.onto k⟩

/-- Moves lead from one moment of a tick to the other. -/
abbrev Moment.Reaches : Moment → Moment → Prop := Relation.ReflTransGen Move

/-- What every move keeps holds all through a tick. -/
theorem Moment.keeps {P : Moment → Prop} (step : ∀ m m', P m → Move m m' → P m') {m m' : Moment}
    (start : P m) (reaches : m.Reaches m') : P m' := by
  induction reaches with
  | refl => exact start
  | tail _ move ih => exact step _ _ ih move

/-- Moves keep everything but the kernel, the books and the count of switches. -/
theorem Move.unchanged {m m' : Moment} (move : Move m m') :
    m'.sim = { m.sim with
      kernel := m'.sim.kernel, pending := m'.sim.pending, table := m'.sim.table
      holding := m'.sim.holding, granted := m'.sim.granted, switches := m'.sim.switches } := by
  cases move <;> rfl

theorem Moment.Reaches.unchanged {m m' : Moment} (reaches : m.Reaches m') :
    m'.sim = { m.sim with
      kernel := m'.sim.kernel, pending := m'.sim.pending, table := m'.sim.table
      holding := m'.sim.holding, granted := m'.sim.granted, switches := m'.sim.switches } := by
  induction reaches with
  | refl => rfl
  | tail _ move ih => rw [move.unchanged, ih]

theorem Move.tick {m m' : Moment} (move : Move m m') : m'.sim.kernel.tick = m.sim.kernel.tick := by
  cases move with
  | arrive next due built same => simp [same.tick]
  | settle => rfl
  | preempt goes same => simp [same.tick]
  | idle free empty same => simp [same.tick]
  | resume goes same => simp [same.tick]
  | take free mem same => simp [same.tick]
  | grant next due free ran alike => simp [alike.tick]
  | refuse next due owned ran alike => simp [alike.tick]
  | work => simp
  | elapse => rfl
  | giveBack found last ran alike => simp [alike.tick]
  | yield => rfl
  | leave finished same => simp [same.tick]

theorem Moment.Reaches.tick {m m' : Moment} (reaches : m.Reaches m') :
    m'.sim.kernel.tick = m.sim.kernel.tick :=
  keeps (P := fun n => n.sim.kernel.tick = m.sim.kernel.tick)
    (fun _ _ same move => move.tick.trans same) rfl reaches

/-- The books lose no number. -/
theorem Move.booked {m m' : Moment} (move : Move m m') {pid : Int} (booked : m.sim.Booked pid) :
    m'.sim.Booked pid := by
  obtain ⟨holding, granted⟩ := booked
  cases move with
  | arrive | grant =>
      exact ⟨Table.mem_keys_put.mpr (.inr holding), Table.mem_keys_put.mpr (.inr granted)⟩
  | elapse | giveBack => exact ⟨Table.mem_keys_put.mpr (.inr holding), granted⟩
  | settle | preempt | idle | resume | take | refuse | work | yield | leave =>
      exact ⟨holding, granted⟩

/-- Ceilings are fixed. -/
theorem Move.ceiling {m m' : Moment} (move : Move m m') (r : Int) :
    (m'.sim.kernel.resource r).ceiling = (m.sim.kernel.resource r).ceiling := by
  cases move with
  | arrive _ _ _ same | preempt _ same | idle _ _ same | resume _ same | take _ _ same
  | leave _ same => simp [same.ceiling]
  | grant _ _ _ _ alike | refuse _ _ _ _ alike | giveBack _ _ _ alike => simp [alike.ceiling]
  | work => simp
  | settle | elapse | yield => rfl

/-- Nobody arrives after the others have been chosen from. -/
theorem Moment.Reaches.pending {m m' : Moment} (reaches : m.Reaches m')
    (late : m.phase ≠ .arriving) : m'.sim.pending = m.sim.pending := by
  have kept : m'.phase ≠ .arriving ∧ m'.sim.pending = m.sim.pending := by
    refine keeps (P := fun n => n.phase ≠ .arriving ∧ n.sim.pending = m.sim.pending) ?_
      ⟨late, rfl⟩ reaches
    rintro n n' ⟨late, same⟩ move
    cases move with
    | arrive | settle => exact absurd rfl late
    | preempt | idle | resume | take | grant | refuse | work | elapse | giveBack | yield | leave =>
        exact ⟨nofun, same⟩
  exact kept.2

end Uniprocessor
