import Uniprocessor.Proofs.Policy.Guise
import Uniprocessor.Proofs.Simulation.Twin

/-!
Simulations in another guise.

A simulation stands in a guise for another one if it has the same policy, its
kernel stands for the other's, those who are to come are declared in the guise,
and what is held or granted under a number is so under the other number
(`Simulation.Guised`). Limits and logs may be different. Every part of a tick
runs on both together, and the lines that two ticks note are the same in
the guise (`SimulationM.guised_tick`).
-/

namespace Uniprocessor

open EStateM (Together Alongside reads_get)

/-- The second simulation stands for the first. -/
structure Simulation.Guised (φ : Guise) (others : List Handle) (s t : Simulation) : Prop where
  policy : ∃ d p, s.policy = .of d p ∧ t.policy = .of d p
  kernel : s.kernel.Guised φ others t.kernel
  pending : t.pending = s.pending.map φ.spec
  declared : ∀ spec ∈ s.pending, spec.pid ∈ φ.pids ∧ spec.priority ∈ φ.levels
  holding : ∀ pid ∈ φ.pids, t.holding.get? (φ.pid pid) = s.holding.get? pid
  granted : ∀ pid ∈ φ.pids, t.granted.get? (φ.pid pid) = s.granted.get? pid
  timeline : t.timeline.toList = φ.before ++ s.timeline.toList.map φ.line
  switches : t.switches = s.switches
  started : t.started = s.started
  stalled : t.stalled = s.stalled
  truncated : t.truncated = s.truncated

namespace Simulation.Guised

variable {φ : Guise} {others : List Handle} {s t : Simulation} {h : Handle}

theorem onto (guised : s.Guised φ others t) {k l : Kernel} {others' : List Handle}
    (kernel : k.Guised φ others' l) :
    Guised φ others' { s with kernel := k } { t with kernel := l } :=
  { guised with kernel }

theorem forget (guised : s.Guised φ (h :: others) t) : s.Guised φ others t :=
  guised.onto guised.kernel.forget

/-! ### What the two show -/

theorem process (guised : s.Guised φ others t) (used : h ∈ s.kernel.handles) :
    (s.kernel.process h).Guised φ (t.kernel.process h) :=
  guised.kernel.process h used

/-- The processes that have arrived stand for each other one by one. -/
theorem processes (guised : s.Guised φ others t) (roster : Roster s) (roster' : Roster t) :
    List.Forall₂ (Process.Guised φ) s.processes t.processes := by
  rw [roster.processes, roster'.processes, guised.kernel.handles, List.forall₂_map_left_iff,
    List.forall₂_map_right_iff, List.forall₂_same]
  exact guised.kernel.process

/-- What is seen alike of a process and of one that stands for it. -/
theorem map_processes {α : Type} (guised : s.Guised φ others t) (roster : Roster s)
    (roster' : Roster t) {f g : Process → α} (same : ∀ p q, p.Guised φ q → g q = f p) :
    t.processes.map g = s.processes.map f := by
  rw [roster.processes, roster'.processes, guised.kernel.handles, List.map_map, List.map_map]
  exact List.map_congr_left fun h used => same _ _ (guised.process used)

theorem done (guised : s.Guised φ others t) (roster : Roster s) (roster' : Roster t) :
    t.done = s.done := by
  have states : t.processes.map (·.state == .exited) = s.processes.map (·.state == .exited) :=
    guised.map_processes roster roster' fun p q stands => by rw [stands.state]
  have all := congrArg (·.all id) states
  simp only [List.all_map, Function.id_comp] at all
  unfold Simulation.done
  rw [guised.pending, List.isEmpty_map, all]

theorem stuck (guised : s.Guised φ others t) (roster : Roster s) (roster' : Roster t) :
    t.stuck = s.stuck := by
  have states : t.processes.map Simulation.asleep = s.processes.map Simulation.asleep :=
    guised.map_processes roster roster' fun p q stands => by
      simp only [Simulation.asleep, stands.state]
  have any := congrArg (·.any id) states
  simp only [List.any_map, Function.id_comp] at any
  unfold Simulation.stuck
  rw [guised.pending, List.isEmpty_map, any, Policy.continuing_guised guised.kernel,
    Kernel.ready_eq, Kernel.ready_eq, guised.kernel.queue]

/-! ### The same entry in both books -/

theorem hold {pid : Int} (guised : s.Guised φ others t) (used : pid ∈ φ.pids)
    (held : Table Int Int) :
    Guised φ others { s with holding := s.holding.put pid held }
      { t with holding := t.holding.put (φ.pid pid) held } := by
  refine { guised with holding := fun other used' => ?_ }
  simp only [Table.get?_put, Guise.pid_eq_iff used used', guised.holding other used']

theorem grant {pid : Int} (guised : s.Guised φ others t) (used : pid ∈ φ.pids) (count : Nat) :
    Guised φ others { s with granted := s.granted.put pid count }
      { t with granted := t.granted.put (φ.pid pid) count } := by
  refine { guised with granted := fun other used' => ?_ }
  simp only [Table.get?_put, Guise.pid_eq_iff used used', guised.granted other used']

theorem push (guised : s.Guised φ others t) (line : TickRecord) :
    Guised φ others { s with timeline := s.timeline.push line }
      { t with timeline := t.timeline.push (φ.line line) } :=
  { guised with timeline := by simp [guised.timeline] }

end Simulation.Guised

namespace SimulationM

open Simulation (Guised)
open KernelM (Chosen)

variable {α β : Type} {φ : Guise} {others : List Handle} {s t : Simulation} {h : Handle}
  {pid r : Int}

/-! ### Reading and writing -/

theorem guised_onKernel {Q : α → β → Kernel → Kernel → Prop} {x : KernelM α} {y : KernelM β}
    (ops : Alongside Q x y s.kernel t.kernel) :
    Alongside (fun a b s' t' => Q a b s'.kernel t'.kernel ∧ s' = s.onto s'.kernel ∧
      t' = t.onto t'.kernel) (onKernel x) (onKernel y) s t := by
  intro a b u v ran ran'
  simp only [EStateM.run, onKernel] at ran ran'
  cases left : x s.kernel with
  | error fault k => simp [left] at ran
  | ok c k =>
      cases right : y t.kernel with
      | error fault l => simp [right] at ran'
      | ok d l =>
          simp only [left, EStateM.Result.ok.injEq] at ran
          simp only [right, EStateM.Result.ok.injEq] at ran'
          obtain ⟨rfl, rfl⟩ := ran
          obtain ⟨rfl, rfl⟩ := ran'
          exact ⟨ops _ _ _ _ left right, rfl, rfl⟩

/-- What runs together in the kernel does so in the simulation. -/
theorem guised_kernel {x y : KernelM α} (guised : s.Guised φ others t)
    (ops : Together (Kernel.Guised φ others) x y s.kernel t.kernel) :
    Together (Guised φ others) (onKernel x) (onKernel y) s t := by
  refine Alongside.mono (fun a b u v => ?_)
    (guised_onKernel (Q := fun a b k l => a = b ∧ k.Guised φ others l) ops)
  rintro ⟨⟨same, kernel⟩, left, right⟩
  rw [left, right]
  exact ⟨same, guised.onto kernel⟩

theorem guised_record (guised : s.Guised φ others t) (e e' : Event) :
    Together (Guised φ others) (record e) (record e') s t :=
  guised_kernel guised (KernelM.guised_record guised.kernel e e')

/-- What is read under the one number is what is read under the other, or neither goes on. -/
theorem guised_entry {ν : Type} {table table' : Table Int ν} {key key' : Int}
    (same : table'.get? key' = table.get? key) (guised : s.Guised φ others t) :
    Together (Guised φ others) (entry table key) (entry table' key') s t := by
  unfold entry
  rw [same]
  split
  · exact .pure _ guised
  · exact .throw_left _ _

theorem guised_holdingOf (guised : s.Guised φ others t) (used : pid ∈ φ.pids) :
    Together (Guised φ others) (holdingOf pid) (holdingOf (φ.pid pid)) s t :=
  .read reads_get reads_get (guised_entry (guised.holding pid used) guised)

theorem guised_setHolding (guised : s.Guised φ others t) (used : pid ∈ φ.pids)
    (held : Table Int Int) :
    Together (Guised φ others) (setHolding pid held) (setHolding (φ.pid pid) held) s t :=
  .modify (guised.hold used held)

theorem guised_setGranted (guised : s.Guised φ others t) (used : pid ∈ φ.pids) (count : Nat) :
    Together (Guised φ others) (setGranted pid count) (setGranted (φ.pid pid) count) s t :=
  .modify (guised.grant used count)

/-! ### The parts of a tick -/

theorem guised_arrive {spec : ProcessSpec} (guised : s.Guised φ others t)
    (pid : spec.pid ∈ φ.pids) (priority : spec.priority ∈ φ.levels) :
    Together (Guised φ others) (arrive spec) (arrive (φ.spec spec)) s t := by
  unfold arrive
  cases built : spec.build with
  | error fault => exact .throw_left _ _
  | ok p =>
      cases built' : (φ.spec spec).build with
      | error fault => exact .throw_right _ _
      | ok q =>
          have stands := Process.guised_build pid priority built built'
          refine .read reads_get reads_get ?_
          have next := guised.kernel.nextHandle
          have named : s.kernel.nextHandle ∈ s.kernel.nextHandle :: others := List.mem_cons_self
          rw [next, stands.pid]
          -- The newcomer is named until it has been put in line; then it is one of the others.
          refine Together.mono (R := Guised φ (s.kernel.nextHandle :: others))
            (fun _ _ guised => guised.forget) ?_
          refine .bind (.modify ?_) fun _ s t guised => ?_
          · have enrolled := guised.onto (guised.kernel.enroll stands)
            exact { (enrolled.hold stands.within.pid {}).grant stands.within.pid 0 with }
          refine (guised_kernel guised (KernelM.guised_enqueue guised.kernel named)).bind
            fun _ s t guised => .read reads_get reads_get ?_
          obtain ⟨d, protocol, left, right⟩ := guised.policy
          rw [left, right]
          refine (guised_kernel guised (.pure _ guised.kernel)).bind fun _ s t guised => ?_
          exact .read reads_process reads_process (guised_record guised _ _)

theorem guised_arrivals (l : List ProcessSpec) (guised : s.Guised φ others t)
    (declared : ∀ spec ∈ l, spec.pid ∈ φ.pids ∧ spec.priority ∈ φ.levels) :
    Together (Guised φ others) (arrivals l) (arrivals (l.map φ.spec)) s t := by
  induction l generalizing s t with
  | nil => exact .pure _ guised
  | cons spec later ih =>
      obtain ⟨⟨pid, priority⟩, declared⟩ := List.forall_mem_cons.mp declared
      refine .read reads_get reads_get ?_
      have due : (φ.spec spec).arrival ≤ (t.kernel.tick : Int) ↔
          spec.arrival ≤ (s.kernel.tick : Int) := by
        simp only [Guise.spec, guised.kernel.tick]
        omega
      simp only [due]
      split
      · have waiting : Together (Guised φ others)
            (modify fun s => { s with pending := later } : SimulationM Unit)
            (modify fun s => { s with pending := later.map φ.spec }) s t :=
          .modify { guised with pending := rfl, declared }
        exact waiting.bind fun _ _ _ guised =>
          (guised_arrive guised pid priority).bind fun _ _ _ guised => ih guised declared
      · exact .pure _ guised

theorem guised_handOver (previous : Option Handle) (pid pid' : Int)
    (guised : s.Guised φ others t) (named : h ∈ others) :
    Together (Guised φ others) (handOver h previous pid) (handOver h previous pid') s t := by
  have current : ∀ {s t : Simulation}, s.Guised φ others t →
      Together (Guised φ others) (onKernel (KernelM.setCurrent (some h)))
        (onKernel (KernelM.setCurrent (some h))) s t := fun guised =>
    guised_kernel guised (KernelM.guised_setCurrent guised.kernel (by
      rintro _ ⟨⟩
      exact guised.kernel.used named))
  unfold handOver
  split
  · refine .bind (.modify { guised with switches := congrArg (· + 1) guised.switches })
      fun _ _ _ guised => ?_
    exact (guised_record guised _ _).bind fun _ _ _ guised => current guised
  · exact current guised

/-- After a violation there is nothing to compare. -/
theorem guised_violate {Q : α → β → Simulation → Simulation → Prop} {y : SimulationM β}
    {γ : Type} (v : Violation) (f : γ → SimulationM α) :
    Alongside Q (onKernel (KernelM.violate v) >>= f) y s t := by
  intro a b u w ran
  obtain ⟨_, _, violated, _⟩ := EStateM.run_bind_eq_ok ran
  cases violated

theorem guised_dispatch (previous : Option Handle) (guised : s.Guised φ others t)
    (named : h ∈ others) :
    Together (Guised φ others) (dispatch h previous) (dispatch h previous) s t := by
  have stands := guised.process (guised.kernel.used named)
  refine .read reads_process reads_process ?_
  rw [stands.queue, stands.state]
  dsimp only
  split
  · exact guised_violate _ _
  · split
    · exact (guised_kernel guised (KernelM.guised_move guised.kernel named _)).bind
        fun _ _ _ guised => guised_handOver previous _ _ guised named
    · split
      · exact guised_violate _ _
      · exact guised_handOver previous _ _ guised named

theorem guised_acquire (guised : s.Guised φ others t) :
    Together (Guised φ others) (onKernel (s.policy.protocol.acquire r))
      (onKernel (t.policy.protocol.acquire r)) s t := by
  obtain ⟨d, protocol, left, right⟩ := guised.policy
  rw [left, right]
  exact guised_kernel guised (protocol.guised_acquire guised.kernel)

theorem guised_issue (n : Nat) (l : List Request) (guised : s.Guised φ others t)
    (named : h ∈ others) : Together (Guised φ others) (issue h n l) (issue h n l) s t := by
  induction l generalizing s t n with
  | nil => exact .pure _ guised
  | cons request later ih =>
      have stands := guised.process (guised.kernel.used named)
      have used := stands.within.pid
      refine .read reads_process reads_process ?_
      rw [stands.age, stands.pid]
      split
      · refine .read reads_get reads_get ?_
        refine (guised_acquire guised).bind fun granted s t guised => ?_
        cases granted with
        | false => exact .pure _ guised
        | true =>
            refine (guised_holdingOf guised used).bind fun held _ _ guised => ?_
            refine (guised_setHolding guised used _).bind fun _ _ _ guised => ?_
            exact (guised_setGranted guised used _).bind fun _ _ _ guised => ih _ guised
      · exact .pure _ guised

theorem guised_issueRequests (guised : s.Guised φ others t) (named : h ∈ others) :
    Together (Guised φ others) (issueRequests h) (issueRequests h) s t := by
  have stands := guised.process (guised.kernel.used named)
  refine .read reads_process reads_process (.read reads_get reads_get ?_)
  rw [stands.requests, stands.pid]
  exact (guised_entry (guised.granted _ stands.within.pid) guised).bind
    fun granted _ _ guised => guised_issue granted _ guised named

theorem guised_release (guised : s.Guised φ others t) (used : pid ∈ φ.pids) :
    Together (Guised φ others) (release pid r) (release (φ.pid pid) r) s t := by
  refine (guised_holdingOf guised used).bind fun held _ _ guised => ?_
  refine (guised_entry rfl guised).bind fun _ _ _ guised => ?_
  refine (guised_setHolding guised used _).bind fun _ s t guised => .read reads_get reads_get ?_
  obtain ⟨d, protocol, left, right⟩ := guised.policy
  rw [left, right]
  exact guised_kernel guised (protocol.guised_release guised.kernel)

theorem guised_expire (todo : List Int) (guised : s.Guised φ others t) (used : pid ∈ φ.pids) :
    Together (Guised φ others) (expire pid todo) (expire (φ.pid pid) todo) s t := by
  induction todo generalizing s t with
  | nil => exact .pure _ guised
  | cons r todo ih =>
      refine (guised_holdingOf guised used).bind fun held _ _ guised => ?_
      refine (guised_entry rfl guised).bind fun count _ _ guised => ?_
      refine (guised_setHolding guised used _).bind fun _ s t guised => ?_
      split
      · exact (guised_release guised used).bind fun _ _ _ guised => ih guised
      · exact ih guised

theorem guised_forM_release (held : List Int) (guised : s.Guised φ others t)
    (used : pid ∈ φ.pids) :
    Together (Guised φ others) (held.forM (release pid)) (held.forM (release (φ.pid pid))) s t := by
  induction held generalizing s t with
  | nil => exact .pure _ guised
  | cons r held ih => exact (guised_release guised used).bind fun _ _ _ guised => ih guised

theorem guised_leave (guised : s.Guised φ others t) (named : h ∈ others) :
    Together (Guised φ others) (leave h) (leave h) s t := by
  have stands := guised.process (guised.kernel.used named)
  have used := stands.within.pid
  refine .read reads_process reads_process ?_
  rw [stands.pid]
  refine (guised_holdingOf guised used).bind fun held _ _ guised => ?_
  refine (guised_forM_release _ guised used).bind fun _ s t guised => ?_
  refine (guised_kernel guised (KernelM.guised_move guised.kernel named _)).bind
    fun _ s t guised => .read reads_get reads_get ?_
  refine (guised_kernel guised (KernelM.guised_onProcess guised.kernel named ?_)).bind
    fun _ s t guised => .read reads_get reads_get ?_
  · rintro p _ q _ stands ⟨⟩ ⟨⟩
    have left := stands.leftAt (s.kernel.tick + 1)
    rwa [Nat.add_right_comm, ← guised.kernel.tick] at left
  obtain ⟨d, protocol, left, right⟩ := guised.policy
  rw [left, right]
  exact (guised_kernel guised (.pure _ guised.kernel)).bind fun _ _ _ guised =>
    guised_record guised _ _

theorem guised_execute (guised : s.Guised φ others t) (named : h ∈ others) :
    Together (Guised φ others) (execute h) (execute h) s t := by
  refine (guised_issueRequests guised named).bind fun granted _ _ guised => ?_
  cases granted with
  | false => exact .pure _ guised
  | true =>
      refine (guised_kernel guised (KernelM.guised_runTick guised.kernel named)).bind
        fun _ s t guised => ?_
      have stands := guised.process (guised.kernel.used named)
      have used := stands.within.pid
      refine .read reads_process reads_process ?_
      rw [stands.pid]
      refine (guised_holdingOf guised used).bind fun held _ _ guised => ?_
      refine (guised_expire _ guised used).bind fun _ s t guised => ?_
      refine .read reads_process reads_process ?_
      rw [(guised.process (guised.kernel.used named)).finished]
      split
      · exact (guised_leave guised named).bind fun _ _ _ guised => .pure _ guised
      · exact .pure _ guised

/-! ### Ticks -/

/-- The lines are the same in the guise, and so are the simulations. -/
def Noted (φ : Guise) (others : List Handle) (a b : TickRecord) (s t : Simulation) : Prop :=
  b = φ.line a ∧ s.Guised φ others t

theorem guised_note (line : TickRecord) (guised : s.Guised φ others t) :
    Alongside (Noted φ others) (note line) (note (φ.line line)) s t := by
  refine .after (.modify (guised.push line)) fun _ s t guised => ?_
  refine .bind (guised_onKernel (KernelM.guised_advance guised.kernel))
    fun _ _ u v ⟨kernel, left, right⟩ => .pure ⟨rfl, ?_⟩
  rw [left, right]
  exact guised.onto kernel

theorem guised_tick (guised : s.Guised φ others t) :
    Alongside (Noted φ others) tick tick s t := by
  let now : Int := s.kernel.tick
  have line : ∀ pid event,
      (⟨(t.kernel.tick : Int), Option.map φ.pid pid, event⟩ : TickRecord) =
        φ.line ⟨now, pid, event⟩ := by
    intro pid event
    simp [Guise.line, guised.kernel.tick, now]
  refine .read reads_get reads_get (.read reads_get reads_get ?_)
  rw [guised.pending]
  refine .after (guised_arrivals _ guised guised.declared) fun _ s t guised => ?_
  refine .read reads_get reads_get (.read reads_get reads_get ?_)
  obtain ⟨d, protocol, left, right⟩ := guised.policy
  rw [left, right, guised.kernel.current]
  refine .bind (guised_onKernel (d.guised_schedule guised.kernel))
    fun chosen _ u v ⟨⟨same, kernel⟩, left, right⟩ => ?_
  subst same
  have guised := guised.onto kernel
  rw [← Simulation.onto, ← Simulation.onto, ← left, ← right] at guised
  cases chosen with
  | none =>
      refine .after (guised_kernel guised (KernelM.guised_setCurrent guised.kernel (by simp)))
        fun _ _ _ guised => ?_
      have noted := guised_note ⟨now, none, .idle⟩ guised
      rwa [← line none .idle] at noted
  | some h =>
      have named : h ∈ h :: others := List.mem_cons_self
      have forget : ∀ (a b : TickRecord) (s t : Simulation), Noted φ (h :: others) a b s t →
          Noted φ others a b s t := fun _ _ _ _ both => ⟨both.1, both.2.forget⟩
      refine .mono forget (.after (guised_dispatch _ guised named) fun _ u _ guised => ?_)
      refine .read reads_process reads_process ?_
      rw [(guised.process (guised.kernel.used named)).pid]
      refine .after (guised_execute guised named) fun event _ _ guised => ?_
      have noted := guised_note ⟨now, some (u.kernel.process h).pid, event⟩ guised
      rwa [← line (some _) event] at noted

theorem guised_start (guised : s.Guised φ others t) :
    Together (Guised φ others) start start s t := by
  refine .bind (.modify { guised with started := rfl }) fun _ s t guised => ?_
  refine .read reads_get reads_get ?_
  obtain ⟨d, protocol, left, right⟩ := guised.policy
  rw [left, right]
  have prepared : Together (Kernel.Guised φ others) (Policy.of d protocol).setUp
      (Policy.of d protocol).setUp s.kernel t.kernel :=
    (d.guised_clearSlice guised.kernel).bind fun _ _ _ guised =>
      (protocol.guised_reset guised).bind fun _ _ _ guised => .pure _ guised
  refine (guised_kernel guised prepared).bind fun ready _ _ guised => ?_
  cases ready with
  | true => exact guised_record guised _ _
  | false => exact .throw_left _ _

theorem guised_startOnce (guised : s.Guised φ others t) :
    Together (Guised φ others) startOnce startOnce s t := by
  refine .read reads_get reads_get ?_
  rw [guised.started]
  split
  · exact guised_start guised
  · exact .pure _ guised

theorem guised_steps (n : Nat) (guised : s.Guised φ others t) :
    Together (Guised φ others) (steps n) (steps n) s t := by
  induction n generalizing s t with
  | zero => exact .pure _ guised
  | succ n ih =>
      have step : Alongside (Noted φ others) step step s t :=
        .after (guised_startOnce guised) fun _ _ _ guised => guised_tick guised
      exact step.bind fun _ _ _ _ noted => ih noted.2

end SimulationM
end Uniprocessor
