import Uniprocessor.Proofs.Kernel.Order
import Uniprocessor.Proofs.Simulation.Ledger
import Uniprocessor.Proofs.Simulation.Phase

/-!
The invariant of a run.

At every moment of a run the kernel is in order, the table lists who has
arrived (`Roster`), and the books of every process agree with its requests, with
what it owns and with what it waits for (`Account`). The books list whoever has
arrived, and the process at work is the current one (`Sound`). Every move keeps
this (`Sound.move`), which is why no move ever finds its precondition broken.
-/

namespace Uniprocessor

/-- The process at work, if there is one. -/
@[simp] def Phase.active : Phase → Option Handle
  | .issuing h | .expiring h _ => some h
  | _ => none

/-- The resources of a process whose counts are late. -/
@[simp] def Phase.late : Phase → Handle → List Int
  | .expiring h todo, j => if h = j then todo else []
  | _, _ => []

/-- The process has done its tick of work and may be about to leave. -/
def Phase.Expires (phase : Phase) (h : Handle) : Prop := ∃ todo, phase = .expiring h todo

theorem Phase.late_of_active_ne {phase : Phase} {h : Handle} (other : phase.active ≠ some h) :
    phase.late h = [] := by
  cases phase with
  | expiring j todo => exact if_neg fun is => other (congrArg some is)
  | _ => rfl

theorem Phase.active_of_expires {phase : Phase} {h : Handle} (expires : phase.Expires h) :
    phase.active = some h := by
  obtain ⟨_, rfl⟩ := expires
  rfl

/-- The table lists the processes in the order of their arrival, and everybody
who has arrived or is still to come has a number of their own. -/
structure Roster (s : Simulation) : Prop where
  handles : s.kernel.handles = List.range s.kernel.handles.length
  table : s.table.entries = s.kernel.handles.map (fun h => ((s.kernel.process h).pid, h))
  pids : (s.kernel.handles.map (fun h => (s.kernel.process h).pid) ++
    s.pending.map (·.pid)).Nodup
  pending : ∀ spec ∈ s.pending, spec.Valid ∧ ∀ q ∈ spec.requests, q.resource < s.kernel.size

/-- The books of a process agree with its requests, its resources and its place. -/
structure Account (phase : Phase) (s : Simulation) (h : Handle) : Prop where
  valid : (s.kernel.process h).Valid
  room : ∀ q ∈ (s.kernel.process h).requests, q.resource < s.kernel.size
  ledger : Ledger (s.kernel.process h) (s.grantedTo (s.kernel.process h).pid) (s.heldOf h)
    (phase.late h)
  owned : ∀ r, (s.kernel.resource r).owner = some h ↔ r ∈ (s.heldOf h).keys
  asks : ∀ r, (s.kernel.process h).queue = some (.waiting r) → s.Asks h r
  unfinished : (s.kernel.process h).state ≠ .exited →
    (s.kernel.process h).age < (s.kernel.process h).lifespan ∨ phase.Expires h

structure Sound (m : Moment) : Prop where
  policy : ∃ d protocol, m.sim.policy = .of d protocol
  order : m.sim.kernel.Orderly
  tracked : m.sim.kernel.Tracked
  roster : Roster m.sim
  booked : ∀ h ∈ m.sim.kernel.handles, m.sim.Booked (m.sim.kernel.process h).pid
  accounts : ∀ h ∈ m.sim.kernel.handles, Account m.phase m.sim h
  active : ∀ h, m.phase.active = some h →
    m.sim.kernel.current = some h ∧ (m.sim.kernel.process h).state = .running
  todo : ∀ h todo, m.phase = .expiring h todo →
    todo.Nodup ∧ ∀ r ∈ todo, r ∈ (m.sim.heldOf h).keys

/-! ### The roster -/

namespace Roster

variable {s s' : Simulation}

theorem nextHandle (s : Simulation) : s.kernel.nextHandle = s.kernel.handles.length := by
  simp [Kernel.nextHandle, Kernel.handles, Table.size, Table.keys]

theorem fresh (roster : Roster s) : s.kernel.nextHandle ∉ s.kernel.handles := by
  rw [nextHandle, roster.handles]
  simp

theorem congr (roster : Roster s) (handles : s'.kernel.handles = s.kernel.handles)
    (pids : ∀ h ∈ s.kernel.handles, (s'.kernel.process h).pid = (s.kernel.process h).pid)
    (table : s'.table = s.table) (pending : s'.pending = s.pending)
    (size : s'.kernel.size = s.kernel.size) : Roster s' := by
  constructor
  · rw [handles]
    exact roster.handles
  · rw [table, handles, roster.table]
    exact List.map_congr_left fun h used => by rw [pids h used]
  · rw [handles, pending, List.map_congr_left pids]
    exact roster.pids
  · rw [pending, size]
    exact roster.pending

/-- Different processes have different numbers. -/
theorem pid_ne (roster : Roster s) {h j : Handle} (used : h ∈ s.kernel.handles)
    (used' : j ∈ s.kernel.handles) (other : h ≠ j) :
    (s.kernel.process h).pid ≠ (s.kernel.process j).pid := by
  intro same
  have apart := (List.nodup_append.mp roster.pids).1
  exact other (List.inj_on_of_nodup_map apart used used' same)

/-- Nobody who is still to come shares a number with a process. -/
theorem pid_ne_pending (roster : Roster s) {h : Handle} (used : h ∈ s.kernel.handles)
    {spec : ProcessSpec} (mem : spec ∈ s.pending) : (s.kernel.process h).pid ≠ spec.pid :=
  (List.nodup_append.mp roster.pids).2.2 _ (List.mem_map.mpr ⟨h, used, rfl⟩) _
    (List.mem_map.mpr ⟨spec, mem, rfl⟩)

/-- The next to come enters the table behind everybody else. -/
theorem enter (roster : Roster s) {spec : ProcessSpec} {later : List ProcessSpec} {k : Kernel}
    (next : s.pending = spec :: later) (handles : k.handles = s.kernel.handles ++
      [s.kernel.nextHandle]) (size : k.size = s.kernel.size)
    (pids : ∀ h ∈ s.kernel.handles, (k.process h).pid = (s.kernel.process h).pid)
    (pid : (k.process s.kernel.nextHandle).pid = spec.pid) :
    Roster ((s.enter spec.pid later).onto k) := by
  have mem : spec ∈ s.pending := by
    rw [next]
    exact .head _
  have names : k.handles.map (fun h => (k.process h).pid) =
      s.kernel.handles.map (fun h => (s.kernel.process h).pid) ++ [spec.pid] := by
    rw [handles, List.map_append, List.map_congr_left pids, List.map_singleton, pid]
  -- Its number is in no entry yet, so its entry goes to the end.
  have new : spec.pid ∉ s.table.keys := by
    intro known
    simp only [Table.keys, roster.table, List.map_map, List.mem_map, Function.comp] at known
    obtain ⟨h, used, same⟩ := known
    exact roster.pid_ne_pending used mem same
  constructor
  · show k.handles = List.range k.handles.length
    rw [handles, List.length_append, List.length_singleton, List.range_succ, ← roster.handles,
      nextHandle]
  · show (s.table.put spec.pid s.kernel.nextHandle).entries = _
    rw [Table.entries_put_of_new new, roster.table]
    simp only [Simulation.onto_views]
    rw [handles, List.map_append, List.map_singleton, pid]
    congr 1
    exact List.map_congr_left fun h used => by rw [pids h used]
  · have apart := roster.pids
    rw [next] at apart
    simpa [names] using apart
  · intro i mem
    simpa [size] using roster.pending i (by
      rw [next]
      exact List.mem_cons_of_mem _ mem)

/-- The table lists whoever is in use. -/
theorem values (roster : Roster s) : s.table.values = s.kernel.handles := by
  simp [Table.values, roster.table, Function.comp_def]

theorem keys (roster : Roster s) :
    s.table.keys = s.kernel.handles.map fun h => (s.kernel.process h).pid := by
  simp [Table.keys, roster.table, Function.comp_def]

/-- The processes of the table are those of the handles in use. -/
theorem processes (roster : Roster s) : s.processes = s.kernel.handles.map s.kernel.process := by
  rw [Simulation.processes, roster.values]

/-- Where a run is done nobody is to come, and everybody has left. -/
theorem left_of_done (roster : Roster s) (done : s.done = true) :
    s.pending = [] ∧ ∀ h ∈ s.kernel.handles, (s.kernel.process h).state = .exited := by
  simpa [Simulation.done, roster.processes] using done

end Roster

/-! ### Accounts that a move leaves alone -/

/-- Nothing that the account of a process looks at has changed, but that it may
have left a queue. -/
structure Undisturbed (s s' : Simulation) (h : Handle) : Prop where
  declared : (s'.kernel.process h).declared = (s.kernel.process h).declared
  age : (s'.kernel.process h).age = (s.kernel.process h).age
  mark : ∀ r, (s'.kernel.process h).queue = some (.waiting r) →
    (s.kernel.process h).queue = some (.waiting r)
  left : (s.kernel.process h).state = .exited → (s'.kernel.process h).state = .exited
  owner : ∀ r, (s'.kernel.resource r).owner = some h ↔ (s.kernel.resource r).owner = some h
  size : s'.kernel.size = s.kernel.size
  granted : s'.grantedTo (s.kernel.process h).pid = s.grantedTo (s.kernel.process h).pid
  held : s'.held (s.kernel.process h).pid = s.held (s.kernel.process h).pid

namespace Undisturbed

variable {s s' : Simulation} {h : Handle}

theorem pid (kept : Undisturbed s s' h) : (s'.kernel.process h).pid = (s.kernel.process h).pid :=
  congrArg (·.pid) kept.declared

theorem lifespan (kept : Undisturbed s s' h) :
    (s'.kernel.process h).lifespan = (s.kernel.process h).lifespan :=
  congrArg (·.lifespan) kept.declared

theorem requests (kept : Undisturbed s s' h) :
    (s'.kernel.process h).requests = (s.kernel.process h).requests :=
  congrArg (·.requests) kept.declared

theorem outstanding (kept : Undisturbed s s' h) : s'.outstanding h = s.outstanding h := by
  unfold Simulation.outstanding
  rw [kept.requests, kept.pid, kept.granted]

theorem heldOf (kept : Undisturbed s s' h) : s'.heldOf h = s.heldOf h := by
  unfold Simulation.heldOf
  rw [kept.pid, kept.held]

theorem asks_iff (kept : Undisturbed s s' h) (r : Int) : s'.Asks h r ↔ s.Asks h r := by
  unfold Simulation.Asks
  rw [kept.outstanding, kept.age]

theorem account {phase phase' : Phase} (kept : Undisturbed s s' h) (account : Account phase s h)
    (late : phase'.late h = phase.late h)
    (expires : phase.Expires h → (s'.kernel.process h).state ≠ .exited →
      (s.kernel.process h).age < (s.kernel.process h).lifespan ∨ phase'.Expires h) :
    Account phase' s' h where
  valid := account.valid.congr kept.declared
  room := by
    rw [kept.requests, kept.size]
    exact account.room
  ledger := by
    rw [kept.heldOf, late, kept.pid, kept.granted]
    exact account.ledger.congr kept.age kept.requests
  owned r := by rw [kept.owner, kept.heldOf, account.owned]
  asks r mark := (kept.asks_iff r).mpr (account.asks r (kept.mark r mark))
  unfinished present := by
    rw [kept.age, kept.lifespan]
    rcases account.unfinished (fun gone => present (kept.left gone)) with young | busy
    · exact .inl young
    · exact expires busy present

/-- What a protocol or the log adds to a kernel disturbs nobody. -/
theorem alike {k : Kernel} (kept : Undisturbed s (s'.onto k) h) (alike : k.Alike s'.kernel) :
    Undisturbed s s' h where
  declared := (alike.declared h).trans kept.declared
  age := (alike.age h).trans kept.age
  mark r marked := kept.mark r ((alike.mark h).symm.trans marked)
  left gone := (alike.state h).trans (kept.left gone)
  owner r := by
    rw [alike.owner]
    exact kept.owner r
  size := alike.size.trans kept.size
  granted := kept.granted
  held := kept.held

theorem refl (s : Simulation) (h : Handle) : Undisturbed s s h :=
  ⟨rfl, rfl, fun _ => id, id, fun _ => Iff.rfl, rfl, rfl, rfl⟩

end Undisturbed

/-- The counts that are late are those still to be done. -/
theorem Account.ledger_of_expiring {s : Simulation} {h : Handle} {todo : List Int}
    (account : Account (.expiring h todo) s h) :
    Ledger (s.kernel.process h) (s.grantedTo (s.kernel.process h).pid) (s.heldOf h) todo := by
  simpa using account.ledger

/-- What a protocol or the log adds to a kernel is in no account. -/
theorem Account.alike {phase : Phase} {s : Simulation} {h : Handle} {k : Kernel}
    (account : Account phase (s.onto k) h) (alike : k.Alike s.kernel) : Account phase s h :=
  ((Undisturbed.refl (s.onto k) h).alike alike).account account rfl fun busy _ => .inr busy

end Uniprocessor
