import Uniprocessor.Proofs.Elevation
import Uniprocessor.Proofs.Inheritance
import Uniprocessor.Proofs.Simulation.Enlistment
import Uniprocessor.Proofs.Stall
import Uniprocessor.Proofs.Termination
import Uniprocessor.Proofs.Windows

/-!
Ordered locking excludes deadlock.

A workload locks in order if whatever falls due while a process holds something
is a resource with a greater number (`Workload.LocksInOrder`). So it is where no
process declares to hold two resources at once (`Workload.HoldsOne`). That nobody
happens to hold two in a run is not enough, since a deadlock itself sees to that.

Then everybody who waits waits for a resource with a greater number than any it
owns (`Simulation.Punctual.lt_awaited`): what it owns is within its window, so it
fell due earlier, or at the same age, where requests are issued by number. Along
a chain of waiters the numbers rise, so no chain is a circle
(`Simulation.lt_of_transGen`), nothing is ever stuck, and a run without a limit
ends because everybody has left (`ordered_locking_never_stalls`).
-/

namespace Uniprocessor

/-- Whatever falls due within the window of a request is for a greater resource. -/
def Request.InOrder (requests : List Request) : Prop :=
  ∀ q ∈ requests, ∀ i ∈ requests, q.due < i.due → i.due < q.due + q.hold →
    q.resource < i.resource

namespace Workload

/-- While a process holds something, only greater resources fall due. -/
def LocksInOrder (w : Workload) : Prop := ∀ spec ∈ w.processes, Request.InOrder spec.requests

/-- No process declares to hold two resources at once. -/
def HoldsOne (w : Workload) : Prop :=
  ∀ spec ∈ w.processes, ∀ q ∈ spec.requests, ∀ i ∈ spec.requests, ∀ age,
    q.InForce age → i.InForce age → q = i

variable {w : Workload}

/-- Whoever holds one resource at a time has nothing to keep in order. -/
theorem HoldsOne.locksInOrder (one : w.HoldsOne) (valid : w.Valid) : w.LocksInOrder := by
  intro spec declared q asked i asked' before within
  have fits := (valid.specs spec declared).fits i asked'
  have due := fits.due
  have hold := fits.hold
  -- When the second request falls due both are in force.
  have age : ((i.due.toNat : Nat) : Int) = i.due := Int.toNat_of_nonneg due
  have same : q = i := by
    refine one spec declared q asked i asked' i.due.toNat ⟨?_, ?_⟩ ⟨?_, ?_⟩ <;> omega
  rw [same] at before
  exact absurd before (Int.lt_irrefl _)

end Workload

namespace Simulation

variable {s t u : Simulation} {h x y : Handle} {r i : Int}

/-! ### Numbers rise along a chain -/

/-- Whoever waits for a resource owns only resources with smaller numbers. -/
theorem Punctual.lt_awaited (punctual : t.Punctual y) (account : Account .arriving t y)
    (ordered : Request.InOrder (t.kernel.process y).requests)
    (owned : (t.kernel.resource r).owner = some y)
    (marked : (t.kernel.process y).queue = some (.waiting i)) : r < i := by
  obtain ⟨q, granted, rfl, due, lasts⟩ := (punctual.owns r).mp owned
  obtain ⟨next, later, outstanding, rfl, now⟩ := account.asks i marked
  have waits : next ∈ t.outstanding y := by
    rw [outstanding]
    exact .head _
  have split := t.grantedOf_append_outstanding y
  have sorted : q.atMost next := by
    have sorted := account.valid.sorted
    rw [← split] at sorted
    exact (List.pairwise_append.mp sorted).2.2 q granted next waits
  have apart : q.Apart next := by
    have apart := account.valid.apart
    rw [← split] at apart
    exact (List.pairwise_append.mp apart).2.2 q granted next waits
  rcases Int.lt_or_eq_of_le due with earlier | together
  · exact ordered q (mem_requests_iff.mpr (.inl granted)) next (mem_requests_iff.mpr (.inr waits))
      (by omega) (by omega)
  · -- Requests that fall due together are issued by number, and these two overlap.
    have least : q.resource ≤ next.resource := by
      simp only [Request.atMost, Bool.or_eq_true, decide_eq_true_eq, Bool.and_eq_true,
        beq_iff_eq] at sorted
      omega
    have other : q.resource ≠ next.resource := by
      intro same
      have ended := apart same
      omega
    omega

/-- Everybody holds what its requests in force name, and locks in order. -/
structure Disciplined (t : Simulation) : Prop where
  sound : Sound ⟨.arriving, t⟩
  punctual : ∀ h ∈ t.kernel.handles, t.Punctual h
  ordered : ∀ h ∈ t.kernel.handles, Request.InOrder (t.kernel.process h).requests

namespace Disciplined

/-- Whoever waits on another one that waits too waits for a smaller resource. -/
theorem lt_of_waitsOn (disciplined : t.Disciplined) (waits : t.kernel.WaitsOn x y)
    (marked : (t.kernel.process x).queue = some (.waiting r))
    (marked' : (t.kernel.process y).queue = some (.waiting i)) : r < i := by
  obtain ⟨j, owned, mem⟩ := waits
  have order := disciplined.sound.order
  have same := (order.linked.mark x _).mpr mem
  rw [marked] at same
  cases same
  have used := (order.owners r y owned).2.1
  exact (disciplined.punctual y used).lt_awaited (disciplined.sound.accounts y used)
    (disciplined.ordered y used) owned marked'

/-- Along a chain the awaited resources rise. -/
theorem lt_of_transGen (disciplined : t.Disciplined)
    (chain : Relation.TransGen t.kernel.WaitsOn x y)
    (marked : (t.kernel.process x).queue = some (.waiting r))
    (marked' : (t.kernel.process y).queue = some (.waiting i)) : r < i := by
  induction chain generalizing i with
  | single waits => exact disciplined.lt_of_waitsOn waits marked marked'
  | tail _ waits ih =>
      obtain ⟨j, owned, mem⟩ := waits
      have between := (disciplined.sound.order.linked.mark _ _).mpr mem
      exact (ih between).trans
        (disciplined.lt_of_waitsOn ⟨j, owned, mem⟩ between marked')

/-- No chain of waiters is a circle. -/
theorem not_circles (disciplined : t.Disciplined) : ¬ t.kernel.Circles h := by
  rintro ⟨q, _, circle⟩
  obtain ⟨_, ⟨r, _, mem⟩, _⟩ := Relation.TransGen.head'_iff.mp circle
  have marked := (disciplined.sound.order.linked.mark q _).mpr mem
  exact absurd (disciplined.lt_of_transGen circle marked marked) (lt_irrefl r)

/-- Nothing is stuck. -/
theorem not_stuck (disciplined : t.Disciplined) (attended : t.Attended) : t.stuck = false := by
  apply Bool.eq_false_iff.mpr
  intro stuck
  obtain ⟨dormant, p, mem, asleep⟩ := stuck_iff.mp stuck
  rw [show t.processes = _ from disciplined.sound.roster.processes] at mem
  obtain ⟨h, used, rfl⟩ := List.mem_map.mp mem
  have present : (t.kernel.process h).state ≠ .exited := by
    intro gone
    simp [Simulation.asleep, gone] at asleep
  exact disciplined.not_circles
    (dormant.deadlocked disciplined.sound attended h used present).2.2

end Disciplined

/-! ### Runs -/

/-- A workload that locks in order is disciplined between the ticks of its run. -/
theorem Boundary.disciplined {w : Workload} (fresh : s.Fresh) (early : s.started = false)
    (pending : s.pending = inOrderOfArrival w.processes) (ordered : w.LocksInOrder)
    (reached : s.Boundary t) : t.Disciplined := by
  have nobody : ∀ u : Simulation, u.Fresh → u.policy = s.policy →
      ∀ h ∈ u.kernel.handles, u.Timely h := by
    intro u fresh' _ h used
    rw [fresh'.kernel.handles] at used
    cases used
  obtain ⟨sound, timely⟩ := lasting_timely.boundary fresh early nobody reached
  obtain ⟨arrived, admits⟩ := reached.admits fresh early pending
  refine ⟨sound, fun h used => (timely h used).punctual (sound.accounts h used), ?_⟩
  intro h used
  obtain ⟨spec, here, built⟩ := admits.declaration used
  have requests : (t.kernel.process h).requests = Request.sort spec.requests :=
    (ProcessSpec.declares_of_build built).requests
  have declared := ordered spec (admits.mem_iff.mpr (.inl here))
  intro q asked i asked'
  rw [requests] at asked asked'
  exact declared q (List.mem_mergeSort.mp asked) i (List.mem_mergeSort.mp asked')

/-- Whoever owns nothing has its base priority, whatever the protocol. -/
theorem Boundary.priority_of_nothing (fresh : s.Fresh) (early : s.started = false)
    (reached : s.Boundary t) (nothing : ∀ r, (t.kernel.resource r).owner ≠ some h) :
    (t.kernel.process h).priority = (t.kernel.process h).base := by
  by_cases inherits : s.policy.protocol = .inheritance
  · have passed := (lasting_inherits.boundary fresh early
      (fun u fresh' policy => ⟨by rw [show u.policy = s.policy from policy, inherits],
        fresh'.passedOn⟩) reached).2.passed
    rcases (t.kernel.process h).priority_eq with base | mem
    · exact base
    · obtain ⟨e, boost, _⟩ := List.mem_map.mp mem
      exact absurd (passed.owned h e.1 (List.mem_map.mpr ⟨e, boost, rfl⟩)) (nothing e.1)
  · exact (reached.elevates fresh early inherits).boosts.priority_of_nothing nothing

/-- Everybody who was declared has come and left, nothing is owned, nobody waits,
and everybody has its base priority. -/
structure Cleared (t : Simulation) (w : Workload) : Prop where
  everybody : ∀ spec ∈ w.processes, ∃ h ∈ t.table.values,
    (t.kernel.process h).pid = spec.pid ∧ (t.kernel.process h).base = spec.priority
  exited : ∀ h ∈ t.table.values, (t.kernel.process h).state = .exited
  unowned : ∀ r, (t.kernel.resource r).owner = none
  empty : ∀ q, t.kernel.queue q = []
  restored : ∀ h ∈ t.table.values, (t.kernel.process h).priority = (t.kernel.process h).base

/-- Where everybody is done everything is cleared. -/
theorem Boundary.cleared {w : Workload} (fresh : s.Fresh) (early : s.started = false)
    (pending : s.pending = inOrderOfArrival w.processes) (reached : s.Boundary t)
    (done : t.done = true) : t.Cleared w := by
  have sound := reached.sound fresh early
  have listed : t.table.values = t.kernel.handles := sound.roster.values
  obtain ⟨nobody, left⟩ := sound.roster.left_of_done done
  have unowned : ∀ r, (t.kernel.resource r).owner = none := by
    intro r
    apply Option.eq_none_iff_forall_ne_some.mpr
    intro h owned
    obtain ⟨_, used, present, _⟩ := sound.order.owners r h owned
    exact present (left h used)
  obtain ⟨arrived, admits⟩ := reached.admits fresh early pending
  refine ⟨?_, fun h mem => left h (listed ▸ mem), unowned, ?_, ?_⟩
  · intro spec declared
    obtain ⟨h, used, built⟩ := admits.everybody nobody declared
    have declares := ProcessSpec.declares_of_build built
    exact ⟨h, listed ▸ used, declares.pid, declares.base⟩
  -- Whoever is in a queue bears its mark, and whoever has left bears none.
  · intro q
    apply List.eq_nil_iff_forall_not_mem.mpr
    intro h mem
    have used := sound.order.linked.used mem
    have marked := (sound.order.linked.mark h q).mpr mem
    have gone := left h used
    cases sound.order.placed h used with
    | ready state _ | running state _ _ | waiting _ state _ _ =>
        rw [state] at gone
        cases gone
    | exited _ free =>
        rw [free] at marked
        cases marked
  · intro h _
    exact reached.priority_of_nothing fresh early (by simp [unowned])

theorem Cleared.ends {w : Workload} (cleared : t.Cleared w) (ends : t.Ends u) : u.Cleared w := by
  constructor <;> simp only [ends.table, ends.process, ends.alike.owner, ends.alike.queue]
  · exact cleared.everybody
  · exact cleared.exited
  · exact cleared.unowned
  · exact cleared.empty
  · exact cleared.restored

end Simulation

/-- On a parsed workload that locks in order, or in which no process declares to
hold two resources at once, nothing is ever stuck, whichever built-in policy and
protocol are in charge. A run without a limit is neither stalled nor truncated: it
ends because everybody has come and left, and then nothing is owned, nobody waits
and everybody has its base priority. -/
theorem ordered_locking_never_stalls {text : Text} {w : Workload} {resources : Int}
    (parsed : Workload.ofText text = .ok w) (positive : 0 < resources)
    (fits : ∀ r ∈ w.resourceIds, r < resources) (ordered : w.LocksInOrder ∨ w.HoldsOne)
    (d : Discipline) (protocol : Protocol) :
    ∃ s report t, Simulation.create w (.of d protocol) resources none = .ok s ∧
      (∀ u, s.Boundary u → u.stuck = false) ∧ s.run = .ok report t ∧
      report.stalled = false ∧ report.truncated = false ∧ t.done = true ∧ t.Cleared w := by
  have valid := Workload.valid_ofText parsed
  have ordered : w.LocksInOrder := ordered.elim id fun one => one.locksInOrder valid
  obtain ⟨k, s, created, fresh, is⟩ :=
    Simulation.create_of_valid valid positive fits d protocol none
  have early : s.started = false := by rw [is]
  have pending : s.pending = Simulation.inOrderOfArrival w.processes := by rw [is]
  have going : ∀ u, s.Boundary u → u.stuck = false := by
    intro u reached
    have attended := (lasting_attended.boundary fresh early (fun _ fresh' _ => fresh'.attended)
      reached).2.between nofun
    exact (reached.disciplined fresh early pending ordered).not_stuck attended
  obtain ⟨t, u, reached, ends, ran, ended⟩ := SimulationM.run_done (w := w) fresh early
    (by rw [is]) pending
  obtain ⟨limit, stalled, truncated⟩ := reached.flags fresh early
  have unstalled : u.stalled = false := by
    apply Bool.eq_false_iff.mpr
    intro stops
    rcases ends.stalled stops with before | stuck
    · rw [stalled, is] at before
      cases before
    · rw [going t reached] at stuck
      cases stuck
  have untruncated : u.truncated = false := by
    apply Bool.eq_false_iff.mpr
    intro stops
    rcases ends.truncated stops with before | limited
    · rw [truncated, is] at before
      cases before
    · rw [limit, is] at limited
      exact limited rfl
  have done := ended unstalled untruncated
  exact ⟨s, u.report, u, created, going, ran, unstalled, untruncated, ends.done.trans done,
    (reached.cleared fresh early pending done).ends ends⟩

/-- Two processes that each come to hold both resources, the lesser one first. -/
def Workload.nesting : Text :=
  Text.ofString ("process 1 \x7b\n lifespan 4\n prio 5\n acquire 0 0 4\n acquire 1 1 2\n\x7d\n" ++
    "process 2 \x7b\n start 1\n lifespan 3\n prio 1\n acquire 0 0 3\n acquire 1 1 1\n\x7d\n")

def Workload.nested : Workload where
  processes := [
    { pid := 1, lifespan := 4, priority := 5, requests := [⟨0, 0, 4⟩, ⟨1, 1, 2⟩] },
    { pid := 2, lifespan := 3, arrival := 1, priority := 1,
      requests := [⟨0, 0, 3⟩, ⟨1, 1, 1⟩] }]

set_option maxRecDepth 10000 in
theorem Workload.ofText_nesting : ofText nesting = .ok nested := by decide_cbv

theorem Workload.resourceIds_nested : nested.resourceIds = [0, 1] := by decide_cbv

theorem ordered_locking_never_stalls_nested :
    ∃ s report t, Simulation.create .nested (.of (.roundRobin 2) .inheritance) 2 none = .ok s ∧
      (∀ u, s.Boundary u → u.stuck = false) ∧ s.run = .ok report t ∧
      report.stalled = false ∧ report.truncated = false ∧ t.done = true ∧
      t.Cleared .nested := by
  have positive : (0 : Int) < 2 := by decide
  have fits : ∀ r ∈ Workload.nested.resourceIds, r < (2 : Int) := by
    simp [Workload.resourceIds_nested]
  have ordered : Workload.nested.LocksInOrder := by
    intro spec declared
    simp only [Workload.nested, List.mem_cons, List.not_mem_nil, or_false] at declared
    rcases declared with rfl | rfl <;> simp [Request.InOrder]
  exact ordered_locking_never_stalls Workload.ofText_nesting positive fits (.inl ordered)
    (.roundRobin 2) .inheritance

end Uniprocessor
