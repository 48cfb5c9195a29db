import Mathlib.Algebra.BigOperators.Group.List.Basic
import Mathlib.Algebra.Ring.Int.Defs
import Uniprocessor.Proofs.Simulation.Run

/-!
Who has arrived, and when.

Processes arrive in the order of their arrival times, each at its own time: those
in the kernel are the first of the workload in that order, built as they were
declared, and the rest is still to come (`Simulation.Enlists`). Nobody arrives
early, and once a tick has let everybody in who is due nobody is late
(`Sound.enlists`). So between two ticks a process is in the table just when its
time of arrival is over (`Simulation.Admits`).
-/

namespace Uniprocessor

/-- The process is as it was declared, and nothing has become of it yet. -/
structure ProcessSpec.Declares (spec : ProcessSpec) (p : Process) : Prop where
  declared : p.declared = p
  pid : p.pid = spec.pid
  arrival : p.arrival = spec.arrival
  lifespan : p.lifespan = spec.lifespan
  base : p.base = spec.priority
  requests : p.requests = Request.sort spec.requests

theorem ProcessSpec.declares_of_build {spec : ProcessSpec} {p : Process}
    (built : spec.build = .ok p) : spec.Declares p := by
  unfold ProcessSpec.build at built
  split at built
  · cases built
  · rename_i positive
    cases built
    exact ⟨rfl, rfl, rfl, Int.toNat_of_nonneg (by omega), rfl, rfl⟩

variable {m m' : Moment} {s t u : Simulation} {w : Workload} {h : Handle}
  {arrived : List ProcessSpec}

namespace Simulation

/-- Those who have arrived are the first of the workload, as they were declared. -/
structure Enlists (s : Simulation) (w : Workload) (arrived : List ProcessSpec) : Prop where
  order : inOrderOfArrival w.processes = arrived ++ s.pending
  built : arrived.map ProcessSpec.build =
    s.kernel.handles.map fun h => .ok (s.kernel.process h).declared

/-- Between two ticks those have arrived whose time is over, and no others. -/
structure Admits (t : Simulation) (w : Workload) (arrived : List ProcessSpec) : Prop
    extends t.Enlists w arrived where
  before : ∀ spec ∈ arrived, spec.arrival < t.kernel.tick
  later : ∀ spec ∈ t.pending, t.kernel.tick ≤ spec.arrival

end Simulation

/-- Within a tick those have arrived whose time has come; once the arrivals are
over, all of them. -/
structure Moment.Admits (m : Moment) (w : Workload) (arrived : List ProcessSpec) : Prop
    extends m.sim.Enlists w arrived where
  due : ∀ spec ∈ arrived, spec.arrival ≤ m.sim.kernel.tick
  later : ∀ spec ∈ m.sim.pending, m.sim.kernel.tick ≤ spec.arrival
  settled : m.phase ≠ .arriving → ∀ spec ∈ m.sim.pending, m.sim.kernel.tick < spec.arrival

/-! ### Reading the list -/

namespace Simulation

theorem pairwise_inOrderOfArrival (specs : List ProcessSpec) :
    (inOrderOfArrival specs).Pairwise fun a b => a.arrival ≤ b.arrival := by
  have sorted : (inOrderOfArrival specs).Pairwise fun a b => decide (a.arrival ≤ b.arrival) :=
    List.pairwise_mergeSort (by simpa using fun a b c => Int.le_trans)
      (by simpa using fun a b => Int.le_total _ _) _
  exact sorted.imp of_decide_eq_true

/-- Those who arrive in the order in which they are named, be it together, keep that order. -/
theorem sublist_inOrderOfArrival {part specs : List ProcessSpec} (named : part.Sublist specs)
    (order : part.Pairwise fun a b => a.arrival ≤ b.arrival) :
    part.Sublist (inOrderOfArrival specs) :=
  List.sublist_mergeSort (by simpa using fun a b c => Int.le_trans)
    (by simpa using fun a b => Int.le_total _ _) (by simpa using order) named

end Simulation

namespace Simulation.Enlists

/-- The order of arrival leaves nobody out. -/
theorem mem_iff (enlists : s.Enlists w arrived) {spec : ProcessSpec} :
    spec ∈ w.processes ↔ spec ∈ arrived ∨ spec ∈ s.pending := by
  rw [← List.mem_append, ← enlists.order]
  exact List.mem_mergeSort.symm

/-- Those still to come are in the order of their arrival. -/
theorem sorted (enlists : s.Enlists w arrived) :
    s.pending.Pairwise fun a b => a.arrival ≤ b.arrival := by
  have whole := pairwise_inOrderOfArrival w.processes
  rw [enlists.order] at whole
  exact (List.pairwise_append.mp whole).2.1

/-- Whoever is in the kernel was declared by somebody who has arrived. -/
theorem declaration (enlists : s.Enlists w arrived) (used : h ∈ s.kernel.handles) :
    ∃ spec ∈ arrived, spec.build = .ok (s.kernel.process h).declared := by
  have mem : Except.ok (s.kernel.process h).declared ∈ arrived.map ProcessSpec.build := by
    rw [enlists.built]
    exact List.mem_map.mpr ⟨h, used, rfl⟩
  exact List.mem_map.mp mem

/-- Whoever has arrived is in the kernel. -/
theorem enrolled (enlists : s.Enlists w arrived) {spec : ProcessSpec} (mem : spec ∈ arrived) :
    ∃ h ∈ s.kernel.handles, spec.build = .ok (s.kernel.process h).declared := by
  have built : spec.build ∈ s.kernel.handles.map fun h => .ok (s.kernel.process h).declared := by
    rw [← enlists.built]
    exact List.mem_map.mpr ⟨spec, mem, rfl⟩
  obtain ⟨h, used, same⟩ := List.mem_map.mp built
  exact ⟨h, used, same.symm⟩

/-- Where nobody is still to come, everybody who was declared is in the kernel. -/
theorem everybody (enlists : s.Enlists w arrived) (nobody : s.pending = []) {spec : ProcessSpec}
    (declared : spec ∈ w.processes) :
    ∃ h ∈ s.kernel.handles, spec.build = .ok (s.kernel.process h).declared := by
  refine enlists.enrolled ((enlists.mem_iff.mp declared).resolve_right ?_)
  rw [nobody]
  exact List.not_mem_nil

/-- What is declared of the arrived is so in the kernel, one by one. -/
theorem map_eq {α : Type} {f : ProcessSpec → α} {g : Process → α} (enlists : s.Enlists w arrived)
    (same : ∀ {spec p}, spec.build = .ok (Process.declared p) → f spec = g p) :
    arrived.map f = s.kernel.handles.map fun h => g (s.kernel.process h) := by
  have built := enlists.built
  rw [← List.forall₂_eq_eq_eq, List.forall₂_map_left_iff, List.forall₂_map_right_iff] at built ⊢
  exact built.imp fun spec h built => same built

/-- Where nobody is still to come, what is declared adds up to what is in the kernel. -/
theorem sum_eq {f : ProcessSpec → Int} {g : Process → Int} (enlists : s.Enlists w arrived)
    (same : ∀ {spec p}, spec.build = .ok (Process.declared p) → f spec = g p)
    (nobody : s.pending = []) :
    (w.processes.map f).sum = (s.kernel.handles.map fun h => g (s.kernel.process h)).sum := by
  have everybody : inOrderOfArrival w.processes = arrived := by
    rw [enlists.order, nobody, List.append_nil]
  have perm : (inOrderOfArrival w.processes).Perm w.processes := List.mergeSort_perm _ _
  rw [← enlists.map_eq same, ← everybody]
  exact (perm.map _).sum_eq.symm

theorem congr (enlists : s.Enlists w arrived) (pending : t.pending = s.pending)
    (handles : t.kernel.handles = s.kernel.handles)
    (declared : ∀ h ∈ s.kernel.handles,
      (t.kernel.process h).declared = (s.kernel.process h).declared) : t.Enlists w arrived where
  order := by
    rw [pending]
    exact enlists.order
  built := by
    rw [handles, enlists.built]
    exact List.map_congr_left fun h used => by rw [declared h used]

end Simulation.Enlists

namespace Simulation.Admits

/-- Between two ticks a process is in the table just when its time of arrival is over. -/
theorem mem_table_iff (admits : t.Admits w arrived) (sound : Sound ⟨.arriving, t⟩)
    {spec : ProcessSpec} (mem : spec ∈ w.processes) :
    spec.pid ∈ t.table.keys ↔ spec.arrival < t.kernel.tick := by
  rw [show t.table.keys = _ from sound.roster.keys, List.mem_map]
  constructor
  · rintro ⟨h, used, same⟩
    rcases admits.mem_iff.mp mem with here | absent
    · exact admits.before spec here
    · exact absurd same (sound.roster.pid_ne_pending used absent)
  · intro due
    have here : spec ∈ arrived := by
      refine (admits.mem_iff.mp mem).resolve_right fun absent => ?_
      exact absurd (admits.later spec absent) (Int.not_le.mpr due)
    obtain ⟨h, used, built⟩ := admits.enrolled here
    exact ⟨h, used, (ProcessSpec.declares_of_build built).pid⟩

end Simulation.Admits

/-! ### Runs -/

/-- The first of those to come arrives. -/
theorem Simulation.Enlists.arrive {spec : ProcessSpec} {later : List ProcessSpec} {p : Process}
    {k : Kernel} (enlists : s.Enlists w arrived) (fresh : s.kernel.nextHandle ∉ s.kernel.handles)
    (next : s.pending = spec :: later) (built : spec.build = .ok p)
    (same : (s.kernel.receive p).Same k) :
    ((s.enter p.pid later).onto k).Enlists w (arrived ++ [spec]) where
  order := by
    have order := enlists.order
    rw [next] at order
    simpa using order
  built := by
    have newcomer : (k.process s.kernel.nextHandle).declared = p := by
      simpa [same.process] using (ProcessSpec.declares_of_build built).declared
    have others : ∀ h ∈ s.kernel.handles, k.process h = s.kernel.process h := by
      intro h used
      have old : s.kernel.nextHandle ≠ h := fun is => fresh (is ▸ used)
      simp [same.process, old]
    simp only [Simulation.onto_views]
    rw [same.handles, Kernel.handles_receive fresh, List.map_append, List.map_append,
      List.map_singleton, List.map_singleton, newcomer, built, enlists.built]
    congr 1
    exact List.map_congr_left fun h used => by rw [others h used]

/-- A move lets in whoever is due, and nobody else. -/
theorem Sound.admits (sound : Sound m) (admits : ∃ arrived, m.Admits w arrived)
    (move : Move m m') : ∃ arrived, m'.Admits w arrived := by
  obtain ⟨arrived, admits⟩ := admits
  have clock := move.tick
  -- Only arrivals let anybody in, so every other phase passes the claim on.
  have moved : m.phase ≠ .arriving → m'.phase ≠ .arriving → m'.Admits w arrived := by
    intro late late'
    obtain ⟨handles, pending⟩ := sound.settled move late
    refine ⟨admits.toEnlists.congr pending handles fun h used => (sound.stays move used).2,
      ?_, ?_, ?_⟩
    · rw [clock]
      exact admits.due
    · rw [clock, pending]
      exact admits.later
    · rw [clock, pending]
      exact fun _ => admits.settled late
  cases move with
  | @arrive s spec later p k next due built same =>
      refine ⟨arrived ++ [spec], admits.toEnlists.arrive sound.roster.fresh next built same,
        ?_, ?_, fun late => absurd rfl late⟩
      · rw [clock]
        intro i mem
        rcases List.mem_append.mp mem with old | new
        · exact admits.due i old
        · rw [List.mem_singleton.mp new]
          exact due
      · rw [clock]
        intro i mem
        exact admits.later i (by rw [next]; exact List.mem_cons_of_mem _ mem)
  | @settle s early =>
      refine ⟨arrived, admits.toEnlists, admits.due, admits.later, fun _ => ?_⟩
      cases next : s.pending with
      | nil => exact nofun
      | cons first rest =>
          have sorted := admits.sorted
          rw [next] at sorted
          have soon := early first rest next
          intro spec mem
          rcases List.mem_cons.mp mem with rfl | behind
          · exact soon
          · exact Int.lt_of_lt_of_le soon ((List.pairwise_cons.mp sorted).1 spec behind)
  | preempt | idle | resume | take | grant | refuse | work | elapse | giveBack | yield | leave =>
      exact ⟨arrived, moved nofun nofun⟩

/-- When a tick begins nobody is due any more who has arrived already. -/
theorem Simulation.Admits.arriving (admits : s.Admits w arrived) :
    Moment.Admits ⟨.arriving, s⟩ w arrived :=
  ⟨admits.toEnlists, fun spec mem => (admits.before spec mem).le, admits.later,
    fun late => absurd rfl late⟩

/-- Who has arrived when a tick ends has arrived before the next one. -/
theorem Simulation.Admits.tick (admits : ∃ arrived, s.Admits w arrived) {g e : Simulation}
    {chosen : Option Handle} {event : TickEvent} (sound : Sound ⟨.arriving, s⟩)
    (staged : SimulationM.Staged s g e chosen event) :
    ∃ arrived, Moment.Admits ⟨.closing chosen event, e⟩ w arrived := by
  obtain ⟨arrived, admits⟩ := admits
  exact sound.keeps Sound.admits ⟨arrived, admits.arriving⟩ staged.reaches

theorem Moment.Admits.close {chosen : Option Handle} {event : TickEvent}
    (admits : Moment.Admits ⟨.closing chosen event, s⟩ w arrived) (line : TickRecord) :
    (s.close line).Admits w arrived where
  toEnlists := admits.toEnlists.congr rfl (by simp) (by simp)
  before spec mem := by
    have due : spec.arrival ≤ s.kernel.tick := admits.due spec mem
    show spec.arrival < ((s.kernel.tick + 1 : Nat) : Int)
    omega
  later spec mem := by
    have after : s.kernel.tick < spec.arrival := admits.settled nofun spec mem
    show ((s.kernel.tick + 1 : Nat) : Int) ≤ spec.arrival
    omega

/-- At the start nobody has arrived. -/
theorem Simulation.Fresh.admits (fresh : s.Fresh)
    (pending : s.pending = inOrderOfArrival w.processes) : s.Admits w [] where
  order := pending.symm
  built := by simp [fresh.kernel.handles]
  before := nofun
  later spec mem := by
    rw [fresh.kernel.tick]
    exact (fresh.pending spec mem).1.arrival

/-- Between its ticks a run has let in those whose time of arrival is over. -/
theorem Simulation.Boundary.admits (fresh : s.Fresh) (early : s.started = false)
    (pending : s.pending = inOrderOfArrival w.processes) (reached : s.Boundary t) :
    ∃ arrived, t.Admits w arrived := by
  refine reached.along (P := fun t => ∃ arrived, t.Admits w arrived) fresh early ?_ ?_
  · intro u fresh' is
    exact ⟨[], fresh'.admits (by rw [is, pending])⟩
  · intro t g e chosen event sound admits staged
    obtain ⟨arrived, closing⟩ := Simulation.Admits.tick admits sound staged
    exact ⟨arrived, closing.close _⟩

end Uniprocessor
