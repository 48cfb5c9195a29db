import Uniprocessor.Proofs.Simulation.Tick
import Uniprocessor.Proofs.Workload.Ceilings

/-!
The start of a run.

A valid workload whose resources fit the table makes a simulation
(`Simulation.create_of_valid`). Nobody has arrived, nothing is owned and nobody
waits (`Simulation.Fresh`), so the invariant of a run holds
(`Simulation.Fresh.sound`). All this is still so when the policy has been
prepared (`SimulationM.run_startOnce`).
-/

namespace Uniprocessor

/-- Nothing has happened yet: nobody has arrived, nothing is owned, and nobody
is remembered as blocked. -/
structure Kernel.Fresh (k : Kernel) : Prop where
  handles : k.handles = []
  owner : ∀ r, (k.resource r).owner = none
  queue : ∀ q, k.queue q = []
  blockedOn : k.memory.blockedOn = {}
  tick : k.tick = 0
  current : k.current = none

namespace Kernel.Fresh

variable {k k' : Kernel}

theorem orderly (fresh : k.Fresh) : k.Orderly where
  linked := by
    constructor
    · intro h q
      rw [fresh.queue, process_of_unused (by simp [fresh.handles])]
      exact ⟨nofun, nofun⟩
    · intro q
      rw [fresh.queue]
      exact List.nodup_nil
  placed h used := by
    rw [fresh.handles] at used
    cases used
  owners r h owned := by
    rw [fresh.owner] at owned
    cases owned

theorem tracked (fresh : k.Fresh) : k.Tracked := by
  intro pid r found
  rw [fresh.blockedOn] at found
  cases found

theorem congr (fresh : k.Fresh) (alike : k.Alike k') (blockedOn : k'.memory.blockedOn = {}) :
    k'.Fresh where
  handles := alike.handles.trans fresh.handles
  owner r := (alike.owner r).trans (fresh.owner r)
  queue q := (alike.queue q).trans (fresh.queue q)
  blockedOn := blockedOn
  tick := alike.tick.trans fresh.tick
  current := alike.current.trans fresh.current

theorem bare (size : Nat) : ({ size := size } : Kernel).Fresh := by
  refine ⟨rfl, fun _ => rfl, ?_, rfl, rfl, rfl⟩
  intro q
  cases q <;> rfl

end Kernel.Fresh

namespace Simulation

/-- Nothing has happened yet, and those who are to come are valid. -/
structure Fresh (s : Simulation) : Prop where
  kernel : s.kernel.Fresh
  policy : ∃ d protocol, s.policy = .of d protocol
  table : s.table = {}
  pids : (s.pending.map (·.pid)).Nodup
  pending : ∀ spec ∈ s.pending, spec.Valid ∧ ∀ q ∈ spec.requests, q.resource < s.kernel.size

theorem Fresh.sound {s : Simulation} (fresh : s.Fresh) : Sound ⟨.arriving, s⟩ where
  policy := fresh.policy
  order := fresh.kernel.orderly
  tracked := fresh.kernel.tracked
  roster := by
    have nobody := fresh.kernel.handles
    refine ⟨?_, ?_, ?_, fresh.pending⟩
    · simp [nobody]
    · simp [nobody, fresh.table]
    · simpa [nobody] using fresh.pids
  booked h used := by
    have used : h ∈ s.kernel.handles := used
    rw [fresh.kernel.handles] at used
    cases used
  accounts h used := by
    have used : h ∈ s.kernel.handles := used
    rw [fresh.kernel.handles] at used
    cases used
  active := nofun
  todo := nofun

/-- Setting the ceilings of resources of the table touches nothing else. -/
theorem run_placeCeilings {l : List (Int × Int)} {k : Kernel} (fresh : k.Fresh)
    (inTable : ∀ c ∈ l, 0 ≤ c.1 ∧ c.1 < k.size) (nodup : (l.map (·.1)).Nodup) :
    ∃ k', (placeCeilings l).run k = .ok () k' ∧ k'.Fresh ∧ k'.size = k.size ∧
      ∀ r, (k'.resource r).ceiling = (Table.find r l).or (k.resource r).ceiling := by
  -- On the ceilings that are left to set; none of them is about a resource that has got its own.
  induction l generalizing k with
  | nil => exact ⟨k, rfl, fresh, rfl, fun _ => rfl⟩
  | cons c l ih =>
      have set : (KernelM.setCeiling c.1 (some c.2)).run k = .ok () (k.cap c.1 (some c.2)) := by
        simp [KernelM.setCeiling, KernelM.run_resource (inTable c (.head _)), Kernel.cap]
      have fresh₁ : (k.cap c.1 (some c.2)).Fresh := by
        constructor
        · simpa using fresh.handles
        · simpa using fresh.owner
        · simpa using fresh.queue
        · simpa using fresh.blockedOn
        · simpa using fresh.tick
        · simpa using fresh.current
      obtain ⟨new, nodup'⟩ := List.nodup_cons.mp nodup
      obtain ⟨k', ran, fresh', size, ceiling⟩ :=
        ih fresh₁ (fun i mem => inTable i (List.mem_cons_of_mem _ mem)) nodup'
      refine ⟨k', (EStateM.run_bind_of_ok set _).trans ran, fresh', size, ?_⟩
      intro r
      rw [ceiling]
      by_cases here : c.1 = r
      · -- A ceiling that has been set is not set again.
        subst here
        have later : Table.find c.1 l = none := by
          rw [← Option.not_isSome_iff_eq_none, Table.find_isSome_iff]
          exact new
        simp [Table.find, later]
      · simp [Table.find, here]

/-- A valid workload whose resources fit the table makes a simulation, in which
every resource has its ceiling. -/
theorem create_of_valid_capped {w : Workload} {resources : Int} (valid : w.Valid)
    (positive : 0 < resources) (fits : ∀ r ∈ w.resourceIds, r < resources) (d : Discipline)
    (protocol : Protocol) (limit : Option Int) :
    ∃ k : Kernel, ∃ s : Simulation, create w (.of d protocol) resources limit = .ok s ∧ s.Fresh ∧
      s = { policy := .of d protocol, workload := w, limit, kernel := k,
            pending := inOrderOfArrival w.processes } ∧
      ∀ r, (k.resource r).ceiling = w.ceilings.get? r := by
  have size : ((resources.toNat : Nat) : Int) = resources := Int.toNat_of_nonneg (by omega)
  have checked : Kernel.checkSize resources = .ok resources.toNat := if_neg (by omega)
  have inside : w.resourceIds.find? (fun r => resources ≤ r) = none := by
    rw [List.find?_eq_none]
    intro r mem
    simpa using fits r mem
  have inTable : ∀ c ∈ w.ceilings.entries, 0 ≤ c.1 ∧ c.1 < (resources.toNat : Int) := by
    intro c mem
    have known := w.keyed_ceilings c.1 (List.mem_map.mpr ⟨c, mem, rfl⟩)
    have below := fits _ known
    exact ⟨valid.nonneg known, by omega⟩
  obtain ⟨k, placed, fresh, same, ceiling⟩ :=
    run_placeCeilings (l := w.ceilings.entries) (.bare resources.toNat) inTable w.nodup_ceilings
  have same : k.size = resources.toNat := same
  refine ⟨k, _, ?_, ⟨fresh, ⟨d, protocol, rfl⟩, rfl, ?_, ?_⟩, rfl, ?_⟩
  · refine Except.bind_eq_ok_iff.mpr ⟨resources.toNat, by rw [checked]; rfl, ?_⟩
    rw [inside]
    dsimp only
    rw [placed]
    rfl
  · exact ((List.mergeSort_perm _ _).map _).nodup_iff.mpr valid.pids
  · intro spec mem
    have declared : spec ∈ w.processes := List.mem_mergeSort.mp mem
    refine ⟨valid.specs spec declared, ?_⟩
    intro q asked
    have below := fits q.resource
      (Workload.mem_resourceIds_iff.mpr (.inl ⟨spec, declared, q, asked, rfl⟩))
    show q.resource < (k.size : Int)
    omega
  · intro r
    rw [ceiling]
    exact Option.or_none

theorem create_of_valid {w : Workload} {resources : Int} (valid : w.Valid)
    (positive : 0 < resources) (fits : ∀ r ∈ w.resourceIds, r < resources) (d : Discipline)
    (protocol : Protocol) (limit : Option Int) :
    ∃ k : Kernel, ∃ s : Simulation, create w (.of d protocol) resources limit = .ok s ∧ s.Fresh ∧
      s = { policy := .of d protocol, workload := w, limit, kernel := k,
            pending := inOrderOfArrival w.processes } := by
  obtain ⟨k, s, created, fresh, is, _⟩ :=
    create_of_valid_capped valid positive fits d protocol limit
  exact ⟨k, s, created, fresh, is⟩

end Simulation

namespace SimulationM

open Simulation

variable {s : Simulation}

theorem run_clearSlice (d : Discipline) (k : Kernel) :
    ∃ used, d.clearSlice.run k = .ok () (Policy.withSlice k used) := by
  cases d with
  | roundRobin quantum => exact ⟨0, rfl⟩
  | _ => exact ⟨k.memory.sliceUsed, rfl⟩

theorem run_setUp (d : Discipline) (protocol : Protocol) (k : Kernel) :
    ∃ k', (Policy.of d protocol).setUp.run k = .ok true k' ∧ k.Alike k' ∧
      (k.memory.blockedOn = {} → k'.memory.blockedOn = {}) := by
  obtain ⟨used, cleared⟩ := run_clearSlice d k
  have alike : k.Alike (Policy.withSlice k used) := .remember _ _
  cases protocol with
  | fifo | ceiling =>
      refine ⟨Policy.withSlice k used, ?_, alike, fun empty => empty⟩
      exact (EStateM.run_bind_of_ok cleared _).trans (EStateM.run_bind_of_ok rfl _)
  | inheritance =>
      refine ⟨(Policy.withSlice k used).noteBlocked fun _ => {}, ?_, ?_, fun _ => rfl⟩
      · have forgot : (Protocol.reset .inheritance).run (Policy.withSlice k used) =
            .ok () ((Policy.withSlice k used).noteBlocked fun _ => {}) :=
          Protocol.run_setBlockedOn (fun _ => {})
        exact (EStateM.run_bind_of_ok cleared _).trans (EStateM.run_bind_of_ok forgot _)
      · exact alike.trans (.remember _ _)

/-- Once the policy is prepared, only the log knows more. -/
theorem run_startOnce_of_setUp {k : Kernel} (early : s.started = false)
    (prepared : s.policy.setUp.run s.kernel = .ok true k) :
    EStateM.run startOnce s =
      .ok () ({ s with started := true }.onto (k.record (.started s.policy.title))) := by
  let begun := { s with started := true }
  have prepared : EStateM.run (onKernel begun.policy.setUp) begun = .ok true (begun.onto k) :=
    run_onKernel prepared
  have started : EStateM.run start s =
      .ok () (begun.onto (k.record (.started s.policy.title))) :=
    (EStateM.run_bind_of_ok (EStateM.run_modify _ _) _).trans
      ((EStateM.run_bind_of_ok (EStateM.run_get _) _).trans
        (EStateM.run_bind_of_ok prepared _))
  simp [startOnce, early, started, begun]

/-- Preparing the policy changes nothing that matters. -/
theorem run_startOnce_alike (fresh : s.Fresh) (early : s.started = false) :
    ∃ k, EStateM.run startOnce s = .ok () ({ s with started := true }.onto k) ∧
      s.kernel.Alike k ∧ ({ s with started := true }.onto k).Fresh := by
  obtain ⟨d, protocol, policy⟩ := fresh.policy
  obtain ⟨k, prepared, alike, blockedOn⟩ := run_setUp d protocol s.kernel
  rw [← policy] at prepared
  have whole : s.kernel.Alike (k.record (.started s.policy.title)) := alike.trans (.record _ _)
  refine ⟨k.record (.started s.policy.title), run_startOnce_of_setUp early prepared, whole,
    ⟨?_, fresh.policy, fresh.table, fresh.pids, ?_⟩⟩
  · exact fresh.kernel.congr whole (blockedOn fresh.kernel.blockedOn)
  · intro spec mem
    have same : k.size = s.kernel.size := alike.size
    simpa [same] using fresh.pending spec mem

theorem run_startOnce (fresh : s.Fresh) (early : s.started = false) :
    ∃ k, EStateM.run startOnce s = .ok () ({ s with started := true }.onto k) ∧
      ({ s with started := true }.onto k).Fresh := by
  obtain ⟨k, begun, _, fresh'⟩ := run_startOnce_alike fresh early
  exact ⟨k, begun, fresh'⟩

end SimulationM

end Uniprocessor
