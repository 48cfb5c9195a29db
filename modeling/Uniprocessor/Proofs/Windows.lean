import Uniprocessor.Proofs.Simulation.Run

/-!
Resources are held for exactly the declared window.

A request that has been granted is in force from the age at which it fell due
until it has lasted for as long as it asked (`Request.InForce`). Between two ticks
a process owns just what its granted requests in force name, every request that
fell due at an earlier age has been granted and none that falls due later, and
what is left to hold is what is left of the window (`Simulation.Punctual`).

The books of a process say already which of the granted requests last
(`Ledger.entry`). What they leave open is that requests are granted on time: no
granted request is early and no outstanding one is late (`Simulation.Timely`). A
grant happens at the age at which the request falls due, and a process grows
older only when nothing is due, so every move keeps this.
-/

namespace Uniprocessor

/-- The window of the request is open at the age. -/
def Request.InForce (q : Request) (age : Nat) : Prop := q.due ≤ age ∧ age < q.due + q.hold

namespace Simulation

/-- The requests of a process that have been granted. -/
def grantedOf (s : Simulation) (h : Handle) : List Request :=
  (s.kernel.process h).requests.take (s.grantedTo (s.kernel.process h).pid)

/-- No granted request is early and no outstanding one is late. -/
structure Timely (s : Simulation) (h : Handle) : Prop where
  granted : ∀ q ∈ s.grantedOf h, q.due ≤ (s.kernel.process h).age
  outstanding : ∀ q ∈ s.outstanding h, ((s.kernel.process h).age : Int) ≤ q.due

/-- A process holds what its granted requests in force name, for what is left of
them, and just those requests are granted that have fallen due. -/
structure Punctual (s : Simulation) (h : Handle) : Prop where
  owns : ∀ r, (s.kernel.resource r).owner = some h ↔
    ∃ q ∈ s.grantedOf h, q.resource = r ∧ q.InForce (s.kernel.process h).age
  past : ∀ q ∈ (s.kernel.process h).requests, q.due < (s.kernel.process h).age →
    q ∈ s.grantedOf h ∧ q ∉ s.outstanding h
  future : ∀ q ∈ (s.kernel.process h).requests, (s.kernel.process h).age < q.due →
    q ∈ s.outstanding h ∧ q ∉ s.grantedOf h
  left : ∀ r left, (s.heldOf h).get? r = some left ↔
    ∃ q ∈ s.grantedOf h, q.resource = r ∧ q.InForce (s.kernel.process h).age ∧
      left = q.due + q.hold - (s.kernel.process h).age

/-- Two processes are never within granted windows of one resource. -/
def Apart (s : Simulation) : Prop :=
  ∀ h ∈ s.kernel.handles, ∀ j ∈ s.kernel.handles,
    ∀ q ∈ s.grantedOf h, q.InForce (s.kernel.process h).age →
      ∀ i ∈ s.grantedOf j, i.InForce (s.kernel.process j).age → q.resource = i.resource → h = j

theorem grantedOf_append_outstanding (s : Simulation) (h : Handle) :
    s.grantedOf h ++ s.outstanding h = (s.kernel.process h).requests :=
  List.take_append_drop _ _

theorem mem_requests_iff {s : Simulation} {h : Handle} {q : Request} :
    q ∈ (s.kernel.process h).requests ↔ q ∈ s.grantedOf h ∨ q ∈ s.outstanding h := by
  rw [← s.grantedOf_append_outstanding h, List.mem_append]

end Simulation

variable {m m' : Moment} {s s' : Simulation} {phase : Phase} {h : Handle}

/-! ### Requests are granted on time -/

namespace Simulation.Timely

/-- Age, requests and the count of grants decide it. -/
theorem congr (timely : s.Timely h)
    (age : (s'.kernel.process h).age = (s.kernel.process h).age)
    (requests : (s'.kernel.process h).requests = (s.kernel.process h).requests)
    (granted : s'.grantedTo (s'.kernel.process h).pid = s.grantedTo (s.kernel.process h).pid) :
    s'.Timely h := by
  constructor
  · unfold grantedOf
    rw [age, requests, granted]
    exact timely.granted
  · unfold Simulation.outstanding
    rw [age, requests, granted]
    exact timely.outstanding

/-- A process that arrives has no past. -/
theorem newcomer (young : (s.kernel.process h).age = 0)
    (valid : (s.kernel.process h).Valid) (none : s.grantedTo (s.kernel.process h).pid = 0) :
    s.Timely h := by
  constructor
  · intro q granted
    simp [grantedOf, none] at granted
  · intro q outstanding
    rw [young]
    exact (valid.fits q (List.mem_of_mem_drop outstanding)).due

/-- A grant happens when the request falls due. -/
theorem grant {q : Request} {later : List Request} {k : Kernel} (held : Table Int Int)
    (timely : s.Timely h) (next : s.outstanding h = q :: later)
    (due : q.due = (s.kernel.process h).age)
    (alike : (s.kernel.assign q.resource (some h)).Alike k) :
    (((s.hold h held).countGrant h).onto k).Timely h := by
  have requests : (k.process h).requests = (s.kernel.process h).requests := by
    simp [alike.requests]
  have pid : (k.process h).pid = (s.kernel.process h).pid := by simp [alike.pid]
  have age : (k.process h).age = (s.kernel.process h).age := by simp [alike.age]
  have taken : (((s.hold h held).countGrant h).onto k).grantedOf h = s.grantedOf h ++ [q] := by
    simpa [grantedOf, requests, pid] using Request.take_add_one next
  have rest := SimulationM.outstanding_grant held next alike
  constructor
  · rw [taken]
    intro i mem
    show i.due ≤ (k.process h).age
    rw [age]
    rcases List.mem_append.mp mem with old | new
    · exact timely.granted i old
    · rw [List.mem_singleton.mp new]
      exact Int.le_of_eq due
  · rw [rest]
    intro i mem
    show ((k.process h).age : Int) ≤ i.due
    rw [age]
    exact timely.outstanding i (by rw [next]; exact List.mem_cons_of_mem _ mem)

/-- Where nothing is due, what is outstanding falls due later. -/
theorem later_of_satisfied (timely : s.Timely h) (valid : (s.kernel.process h).Valid)
    (satisfied : ∀ r, ¬ s.Asks h r) :
    ∀ q ∈ s.outstanding h, (s.kernel.process h).age < q.due := by
  cases next : s.outstanding h with
  | nil => exact nofun
  | cons first rest =>
      have apart : first.due ≠ (s.kernel.process h).age :=
        fun now => satisfied first.resource ⟨first, rest, next, rfl, now⟩
      have early := timely.outstanding first (by rw [next]; exact .head _)
      have sorted : (first :: rest).Pairwise (fun a b => a.atMost b) := by
        rw [← next]
        exact valid.sorted.sublist (List.drop_sublist _ _)
      intro q mem
      rcases List.mem_cons.mp mem with rfl | behind
      · omega
      · have order := (List.pairwise_cons.mp sorted).1 q behind
        simp only [Request.atMost, Bool.or_eq_true, decide_eq_true_eq, Bool.and_eq_true,
          beq_iff_eq] at order
        omega

/-- A process grows older only when nothing is due. -/
theorem work (timely : s.Timely h) (valid : (s.kernel.process h).Valid)
    (satisfied : ∀ r, ¬ s.Asks h r) : (s.onto (s.kernel.edit h Process.older)).Timely h := by
  have later := timely.later_of_satisfied valid satisfied
  constructor
  · intro q granted
    have granted : q ∈ s.grantedOf h := by simpa [grantedOf] using granted
    have due := timely.granted q granted
    simp only [onto_views, Kernel.process_edit, if_true, Process.older_fields]
    omega
  · intro q outstanding
    have outstanding : q ∈ s.outstanding h := by simpa [Simulation.outstanding] using outstanding
    have due := later q outstanding
    simp only [onto_views, Kernel.process_edit, if_true, Process.older_fields]
    omega

end Simulation.Timely

/-- The move of the process at work keeps its requests on time. -/
theorem Sound.timely_of_active (sound : Sound m) (move : Move m m')
    (active : m.phase.active = some h) (timely : m.sim.Timely h) : m'.sim.Timely h := by
  have account := sound.accounts h (sound.running active).2.2.1
  cases move with
  | arrive | settle | preempt | idle | resume | take => cases active
  | grant next due free ran alike memory =>
      cases active
      exact timely.grant _ next due alike
  | refuse next due owned ran alike tracked =>
      cases active
      exact timely.congr (by simp [alike.age]) (by simp [alike.requests]) (by simp [alike.pid])
  | work satisfied =>
      cases active
      exact timely.work account.valid satisfied
  | elapse found more =>
      cases active
      exact timely.congr (by simp) (by simp) (by simp)
  | @giveBack s _ r left todo k found last ran alike tracked =>
      cases active
      have awake : (s.kernel.queue (.waiting r)).head? ≠ some h := sound.not_waiting rfl
      exact timely.congr (by simp [alike.age, awake]) (by simp [alike.requests, awake])
        (by simp [alike.pid, awake])
  | yield unfinished => exact timely
  | leave finished same =>
      cases active
      exact timely.congr (by simp [same.process]) (by simp [same.process]) (by simp [same.process])

/-- Whoever was not there before the move has just arrived. -/
theorem Sound.timely_of_new (sound : Sound m) (move : Move m m')
    (new : h ∉ m.sim.kernel.handles) (used : h ∈ m'.sim.kernel.handles) : m'.sim.Timely h := by
  have whole := move
  cases move with
  | @arrive s spec later p k next due built same =>
      obtain ⟨_, built', _, _, _, _, age, _⟩ := sound.arriving next
      rw [built] at built'
      cases built'
      have handles : k.handles = s.kernel.handles ++ [s.kernel.nextHandle] :=
        same.handles.trans (Kernel.handles_receive sound.roster.fresh p)
      have last : h = s.kernel.nextHandle := by
        have used : h ∈ k.handles := used
        rw [handles] at used
        exact List.mem_singleton.mp ((List.mem_append.mp used).resolve_left new)
      subst last
      exact .newcomer (by simp [same.process, age]) ((sound.move whole).accounts _ used).valid
        (by simp [same.process])
  | settle => exact absurd used new
  | _ => exact absurd ((sound.settled whole nofun).1 ▸ used) new

/-- A move keeps the requests of everybody on time. -/
theorem Sound.timely (sound : Sound m) (timely : ∀ h ∈ m.sim.kernel.handles, m.sim.Timely h)
    (move : Move m m') : ∀ h ∈ m'.sim.kernel.handles, m'.sim.Timely h := by
  intro h used
  by_cases old : h ∈ m.sim.kernel.handles
  · by_cases active : m.phase.active = some h
    · exact sound.timely_of_active move active (timely h old)
    · have kept := sound.undisturbed move old active
      refine (timely h old).congr kept.age kept.requests ?_
      rw [kept.pid, kept.granted]
  · exact sound.timely_of_new move old used

theorem lasting_timely :
    Lasting fun m => ∀ h ∈ m.sim.kernel.handles, m.sim.Timely h where
  move := Sound.timely
  close {s chosen event} _ timely := by
    intro h used
    exact (timely h (by simpa using used)).congr (by simp) (by simp) (by simp)

/-! ### Windows -/

namespace Simulation

/-- What the books say and when requests are granted make up the windows. -/
theorem Timely.punctual (timely : s.Timely h) (account : Account .arriving s h) :
    s.Punctual h := by
  have ledger : Ledger (s.kernel.process h) (s.grantedTo (s.kernel.process h).pid) (s.heldOf h)
      [] := account.ledger
  -- An entry counts what is left of a window, from when it opens until it is over.
  have left : ∀ r left, (s.heldOf h).get? r = some left ↔
      ∃ q ∈ s.grantedOf h, q.resource = r ∧ q.InForce (s.kernel.process h).age ∧
        left = q.due + q.hold - (s.kernel.process h).age := by
    intro r left
    rw [ledger.entry]
    simp only [lag, List.not_mem_nil, if_false]
    constructor
    · rintro ⟨q, granted, resource, count, positive⟩
      have due := timely.granted q granted
      exact ⟨q, granted, resource, ⟨due, by omega⟩, by omega⟩
    · rintro ⟨q, granted, resource, ⟨_, lasts⟩, count⟩
      exact ⟨q, granted, resource, by omega, by omega⟩
  refine ⟨?_, ?_, ?_, left⟩
  · intro r
    rw [account.owned, Table.mem_keys_iff, Option.isSome_iff_exists]
    constructor
    · rintro ⟨count, found⟩
      obtain ⟨q, granted, resource, lasts, _⟩ := (left r count).mp found
      exact ⟨q, granted, resource, lasts⟩
    · rintro ⟨q, granted, resource, lasts⟩
      exact ⟨_, (left r _).mpr ⟨q, granted, resource, lasts, rfl⟩⟩
  · intro q asked due
    have settled : q ∉ s.outstanding h := by
      intro outstanding
      have later := timely.outstanding q outstanding
      omega
    exact ⟨(mem_requests_iff.mp asked).resolve_right settled, settled⟩
  · intro q asked due
    have early : q ∉ s.grantedOf h := by
      intro granted
      have earlier := timely.granted q granted
      omega
    exact ⟨(mem_requests_iff.mp asked).resolve_left early, early⟩

/-- The clock, the log and the boosts have no part in it. -/
theorem Punctual.congr (punctual : s.Punctual h) (kept : Undisturbed s s' h) : s'.Punctual h := by
  have granted : s'.grantedOf h = s.grantedOf h := by
    unfold grantedOf
    rw [kept.requests, kept.pid, kept.granted]
  constructor
  · intro r
    rw [kept.owner, granted, kept.age]
    exact punctual.owns r
  · rw [kept.requests, kept.age, granted, kept.outstanding]
    exact punctual.past
  · rw [kept.requests, kept.age, granted, kept.outstanding]
    exact punctual.future
  · rw [kept.heldOf, kept.age, granted]
    exact punctual.left

/-- A resource has one owner, so one process at a time is within a window of it. -/
theorem apart_of_punctual (punctual : ∀ h ∈ s.kernel.handles, s.Punctual h) : s.Apart := by
  intro h used j used' q granted lasts i granted' lasts' same
  have owned := ((punctual h used).owns q.resource).mpr ⟨q, granted, rfl, lasts⟩
  have owned' := ((punctual j used').owns q.resource).mpr ⟨i, granted', same.symm, lasts'⟩
  rw [owned] at owned'
  exact Option.some.inj owned'

end Simulation

/-- Between the ticks of every run of a parsed workload, whichever built-in
policy and protocol are in charge, every process holds just what its granted
requests in force name, for what is left of their windows, and its requests are
granted at the age at which they fall due. So two processes are never within
granted windows of one resource. -/
theorem held_for_declared_window {text : Text} {w : Workload} {resources : Int}
    (parsed : Workload.ofText text = .ok w) (positive : 0 < resources)
    (fits : ∀ r ∈ w.resourceIds, r < resources) (d : Discipline) (protocol : Protocol)
    (limit : Option Int) :
    ∃ s, Simulation.create w (.of d protocol) resources limit = .ok s ∧
      (∀ t, s.Boundary t → (∀ h ∈ t.kernel.handles, t.Punctual h) ∧ t.Apart) ∧
      (∀ n, ∃ t, EStateM.run (SimulationM.steps n) s = .ok () t ∧ s.Boundary t) ∧
      ∃ report t, s.run = .ok report t ∧ (∀ h ∈ t.kernel.handles, t.Punctual h) ∧ t.Apart := by
  obtain ⟨k, s, created, fresh, is⟩ := Simulation.create_of_valid (Workload.valid_ofText parsed)
    positive fits d protocol limit
  have early : s.started = false := by rw [is]
  have nobody : ∀ u : Simulation, u.Fresh → u.policy = s.policy →
      ∀ h ∈ u.kernel.handles, u.Timely h := by
    intro u fresh' _ h used
    rw [fresh'.kernel.handles] at used
    cases used
  have always : ∀ t, s.Boundary t → ∀ h ∈ t.kernel.handles, t.Punctual h := by
    intro t reached h used
    obtain ⟨sound, timely⟩ := lasting_timely.boundary fresh early nobody reached
    exact (timely h used).punctual (sound.accounts h used)
  refine ⟨s, created, fun t reached => ⟨always t reached, Simulation.apart_of_punctual
    (always t reached)⟩, SimulationM.run_steps fresh early, ?_⟩
  obtain ⟨s₀, n, t, u, k', _, _, goes, reached, ended, alike, ran⟩ :=
    SimulationM.run_run fresh early
  -- Neither the verdict nor tearing down the policy disturbs anybody.
  have final : ∀ h ∈ (u.onto k').kernel.handles, (u.onto k').Punctual h := by
    intro h used
    have used : h ∈ u.kernel.handles := alike.handles ▸ used
    have kept : Undisturbed u (u.onto k') h := Undisturbed.alike (.refl u h) alike
    rcases ended with ⟨_, rfl⟩ | ⟨_, rfl⟩
    · have concluded : Undisturbed t t.conclude h := by
        refine Undisturbed.alike (k := t.kernel) ?_ t.alike_conclude
        constructor <;> simp
      have used : h ∈ t.kernel.handles := t.alike_conclude.handles ▸ used
      exact ((always t reached h used).congr concluded).congr kept
    · exact (always u reached h used).congr kept
  exact ⟨_, _, ran, final, Simulation.apart_of_punctual final⟩

theorem held_for_declared_window_contended :
    ∃ s, Simulation.create .contended (.of .priorityInheritance .inheritance) 1 none = .ok s ∧
      (∀ t, s.Boundary t → (∀ h ∈ t.kernel.handles, t.Punctual h) ∧ t.Apart) ∧
      (∀ n, ∃ t, EStateM.run (SimulationM.steps n) s = .ok () t ∧ s.Boundary t) ∧
      ∃ report t, s.run = .ok report t ∧ (∀ h ∈ t.kernel.handles, t.Punctual h) ∧ t.Apart :=
  held_for_declared_window Workload.ofText_contention (by decide)
    (by simp [Workload.resourceIds_contended]) .priorityInheritance .inheritance none

end Uniprocessor
