import Uniprocessor.Proofs.Policy.Twin
import Uniprocessor.Proofs.Protocol.Twin
import Uniprocessor.Proofs.Simulation.Run

/-!
Two simulations side by side that only the policy tells apart.

The simulations agree in everything but the policy and what only boosts, log, notes and
the slice tell apart (`Simulation.Twin`). Every part of a tick runs on both together, and so
does a whole tick where the policies choose alike (`SimulationM.together_tick_of`). Where
that is so tick after tick, the runs end with the same report, but for the name of the policy
(`SimulationM.alongside_run`).

Twins that keep pace have the same discipline, one that ignores priorities, and are at the
same place of the slice. They always choose alike, hence make any number of steps together
(`SimulationM.together_steps`), and a run to its end (`SimulationM.together_run`).
-/

namespace Uniprocessor

open EStateM (Together Alongside reads_get)

/-- The simulations agree in everything but the policy and what comes of it. If they
keep pace they have the same discipline, which ignores priorities. -/
structure Simulation.Twin (paced : Prop) (others : List Handle) (s t : Simulation) : Prop where
  policy : ∃ d d' p q, s.policy = .of d p ∧ t.policy = .of d' q ∧
    (paced → d' = d ∧ d.ignoresPriority)
  kernel : s.kernel.Twin paced others t.kernel
  rest : t = { s with policy := t.policy, kernel := t.kernel }

namespace Simulation.Twin

variable {paced : Prop} {others : List Handle} {s t : Simulation} {h : Handle}

theorem table (twin : s.Twin paced others t) : t.table = s.table := congrArg (·.table) twin.rest

theorem pending (twin : s.Twin paced others t) : t.pending = s.pending :=
  congrArg (·.pending) twin.rest

theorem timeline (twin : s.Twin paced others t) : t.timeline = s.timeline :=
  congrArg (·.timeline) twin.rest

theorem started (twin : s.Twin paced others t) : t.started = s.started :=
  congrArg (·.started) twin.rest

theorem limit (twin : s.Twin paced others t) : t.limit = s.limit := congrArg (·.limit) twin.rest

theorem holding (twin : s.Twin paced others t) : t.holding = s.holding :=
  congrArg (·.holding) twin.rest

theorem granted (twin : s.Twin paced others t) : t.granted = s.granted :=
  congrArg (·.granted) twin.rest

theorem fuel (twin : s.Twin paced others t) : t.fuel = s.fuel := congrArg (·.fuel) twin.rest

theorem title (twin : s.Twin paced others t) (pace : paced) :
    t.policy.title = s.policy.title := by
  obtain ⟨d, d', p, q, left, right, same⟩ := twin.policy
  obtain ⟨rfl, _⟩ := same pace
  rw [left, right]
  rfl

theorem onto (twin : s.Twin paced others t) {k l : Kernel} {others' : List Handle}
    (kernel : k.Twin paced others' l) :
    Twin paced others' { s with kernel := k } { t with kernel := l } where
  policy := twin.policy
  kernel := kernel
  rest := congrArg (fun u : Simulation => { u with kernel := l }) twin.rest

theorem forget (twin : s.Twin paced (h :: others) t) : s.Twin paced others t :=
  ⟨twin.policy, twin.kernel.forget, twin.rest⟩

theorem naming (twin : s.Twin paced others t) (used : h ∈ s.kernel.handles) :
    s.Twin paced (h :: others) t :=
  ⟨twin.policy, twin.kernel.naming used, twin.rest⟩

/-! ### What the twins show -/

/-- What does not look at boosts sees the same processes. -/
theorem processes {α : Type} (twin : s.Twin paced others t) (f : Process → α)
    (blind : ∀ p : Process, f p.clearBoosts = f p) : t.processes.map f = s.processes.map f := by
  simp only [Simulation.processes, twin.table, List.map_map]
  exact List.map_congr_left fun h _ => twin.kernel.view f blind h

theorem done (twin : s.Twin paced others t) : t.done = s.done := by
  have states := congrArg (·.all id) (twin.processes (·.state == .exited) fun _ => rfl)
  simp only [List.all_map, Function.id_comp] at states
  unfold Simulation.done
  rw [twin.pending, states]

theorem stuck (twin : s.Twin paced others t) : t.stuck = s.stuck := by
  have states := congrArg (·.any id) (twin.processes Simulation.asleep fun _ => rfl)
  simp only [List.any_map, Function.id_comp] at states
  unfold Simulation.stuck
  rw [twin.pending, states, Policy.continuing_twin twin.kernel, Kernel.ready_eq, Kernel.ready_eq,
    twin.kernel.queue]

theorem sleepers (twin : s.Twin paced others t) : t.sleepers = s.sleepers := by
  have names := congrArg (fun l => (l.filter (·.1)).map (·.2))
    (twin.processes (fun p => (Simulation.asleep p, p.pid)) fun _ => rfl)
  simp only [List.filter_map, List.map_map] at names
  unfold Simulation.sleepers
  exact congrArg (List.mergeSort · _) names

theorem verdict (twin : s.Twin paced others t) : t.verdict = s.verdict := by
  unfold Simulation.verdict
  rw [twin.done, twin.limit, twin.kernel.tick, twin.stuck, twin.sleepers]

/-- The reports differ in the name of the policy only. -/
theorem report (twin : s.Twin paced others t) :
    t.report = { s.report with policy := t.policy.title } := by
  have switches : t.switches = s.switches := congrArg (·.switches) twin.rest
  have stalled : t.stalled = s.stalled := congrArg (·.stalled) twin.rest
  have truncated : t.truncated = s.truncated := congrArg (·.truncated) twin.rest
  unfold Simulation.report
  rw [twin.timeline, twin.processes _ fun _ => rfl, switches, stalled, truncated]

theorem report_of_paced (twin : s.Twin paced others t) (pace : paced) : t.report = s.report := by
  rw [twin.report, twin.title pace]
  rfl

end Simulation.Twin

namespace SimulationM

open Simulation (Twin)

variable {α β : Type} {paced : Prop} {others : List Handle} {s t : Simulation} {h : Handle}
  {pid r : Int}

/-! ### Reading and writing -/

theorem forgetting {x y : SimulationM α} (together : Together (Twin paced (h :: others)) x y s t) :
    Together (Twin paced others) x y s t :=
  together.mono fun _ _ twin => twin.forget

/-- What runs together in the kernel does so in the simulation. -/
theorem together_onKernel {others' : List Handle} {x y : KernelM α} (twin : s.Twin paced others t)
    (ops : Together (Kernel.Twin paced others') x y s.kernel t.kernel) :
    Together (Twin paced others') (onKernel x) (onKernel y) s t := by
  intro a b u v ran ran'
  simp only [EStateM.run, onKernel] at ran ran'
  cases left : x s.kernel with
  | error fault k => simp [left] at ran
  | ok c k =>
      cases right : y t.kernel with
      | error fault l => simp [right] at ran'
      | ok d l =>
          simp only [left, EStateM.Result.ok.injEq] at ran
          simp only [right, EStateM.Result.ok.injEq] at ran'
          obtain ⟨rfl, rfl⟩ := ran
          obtain ⟨rfl, rfl⟩ := ran'
          obtain ⟨same, kernel⟩ := ops _ _ _ _ left right
          exact ⟨same, twin.onto kernel⟩

/-- A change of the books that goes by what the twins agree in. -/
theorem together_modify {others' : List Handle} (twin : s.Twin paced others t)
    {f : Simulation → Simulation} (policy : ∀ s, (f s).policy = s.policy)
    (kernel : (f s).kernel.Twin paced others' (f t).kernel)
    (rest : ∀ policy kernel, f { s with policy := policy, kernel := kernel } =
      { f s with
        policy := policy
        kernel := (f { s with policy := policy, kernel := kernel }).kernel }) :
    Together (Twin paced others') (modify f : SimulationM Unit) (modify f) s t := by
  refine .modify ⟨by simpa only [policy] using twin.policy, kernel, ?_⟩
  have same := rest t.policy t.kernel
  rw [← twin.rest] at same
  rw [policy]
  exact same

theorem reads_process : (process h).Reads s (s.kernel.process h) := .of_run rfl

theorem together_record (twin : s.Twin paced others t) (e e' : Event) :
    Together (Twin paced others) (record e) (record e') s t :=
  together_onKernel twin (KernelM.together_record twin.kernel e e')

/-- After a violation there is nothing to compare. -/
theorem together_violate {x : SimulationM β} (v : Violation) (f : α → SimulationM β) :
    Together (Twin paced others) (onKernel (KernelM.violate v) >>= f) x s t := by
  intro a b u w ran
  obtain ⟨_, _, violated, _⟩ := EStateM.run_bind_eq_ok ran
  cases violated

/-- The same entry is read on both sides, or neither goes on. -/
theorem together_entry {ν : Type} (table : Table Int ν) (key : Int)
    (twin : s.Twin paced others t) :
    Together (Twin paced others) (entry table key) (entry table key) s t := by
  unfold entry
  split
  · exact .pure _ twin
  · exact .throw_left _ _

theorem together_holdingOf (twin : s.Twin paced others t) :
    Together (Twin paced others) (holdingOf pid) (holdingOf pid) s t := by
  refine .read reads_get reads_get ?_
  rw [twin.holding]
  exact together_entry _ _ twin

theorem together_setHolding (twin : s.Twin paced others t) (held : Table Int Int) :
    Together (Twin paced others) (setHolding pid held) (setHolding pid held) s t :=
  together_modify twin (fun _ => rfl) twin.kernel fun _ _ => rfl

theorem together_setGranted (twin : s.Twin paced others t) (count : Nat) :
    Together (Twin paced others) (setGranted pid count) (setGranted pid count) s t :=
  together_modify twin (fun _ => rfl) twin.kernel fun _ _ => rfl

/-- The protocol may be another one. -/
theorem together_acquire (twin : s.Twin paced others t) :
    Together (Twin paced others) (onKernel (s.policy.protocol.acquire r))
      (onKernel (t.policy.protocol.acquire r)) s t :=
  together_onKernel twin (Protocol.together_acquire _ _ twin.kernel)

/-! ### The parts of a tick -/

theorem together_arrive (spec : ProcessSpec) (twin : s.Twin paced others t) :
    Together (Twin paced others) (arrive spec) (arrive spec) s t := by
  unfold arrive
  split
  · exact .throw_left _ _
  · rename_i p built
    refine .read reads_get reads_get ?_
    have next : t.kernel.nextHandle = s.kernel.nextHandle := by
      simpa [Kernel.nextHandle, Kernel.handles, Table.keys, Table.size] using
        congrArg List.length twin.kernel.handles
    rw [next]
    refine .bind (together_modify twin (fun _ => rfl) (twin.kernel.enroll p) fun _ _ => rfl)
      fun _ s t twin => ?_
    refine (together_onKernel twin (KernelM.together_enqueue twin.kernel)).bind
      fun _ s t twin => ?_
    refine .read reads_get reads_get ?_
    obtain ⟨d, d', p, q, left, right, _⟩ := twin.policy
    rw [left, right]
    refine (together_onKernel twin (.pure _ twin.kernel)).bind fun _ s t twin => ?_
    exact .read reads_process reads_process (together_record twin _ _)

theorem together_arrivals (l : List ProcessSpec) (twin : s.Twin paced others t) :
    Together (Twin paced others) (arrivals l) (arrivals l) s t := by
  induction l generalizing s t with
  | nil => exact .pure _ twin
  | cons spec later ih =>
      refine .read reads_get reads_get ?_
      rw [twin.kernel.tick]
      split
      · refine .bind (together_modify twin (fun _ => rfl) twin.kernel fun _ _ => rfl)
          fun _ _ _ twin => ?_
        exact (together_arrive spec twin).bind fun _ _ _ twin => ih twin
      · exact .pure _ twin

/-- The end of a dispatch: a switch is counted and noted, and the process is current. -/
def handOver (h : Handle) (previous : Option Handle) (pid : Int) : SimulationM Unit := do
  if previous ≠ some h then do
    modify fun s => { s with switches := s.switches + 1 }
    record (.switched pid)
  onKernel (KernelM.setCurrent (some h))

theorem together_handOver (previous : Option Handle) (pid pid' : Int)
    (twin : s.Twin paced (h :: others) t) :
    Together (Twin paced (h :: others)) (handOver h previous pid) (handOver h previous pid')
      s t := by
  have current : ∀ {s t : Simulation}, s.Twin paced (h :: others) t →
      Together (Twin paced (h :: others)) (onKernel (KernelM.setCurrent (some h)))
        (onKernel (KernelM.setCurrent (some h))) s t := fun twin =>
    together_onKernel twin (KernelM.together_setCurrent twin.kernel (by
      rintro _ ⟨⟩
      exact twin.kernel.used))
  unfold handOver
  split
  · refine .bind (together_modify twin (fun _ => rfl) twin.kernel fun _ _ => rfl)
      fun _ _ _ twin => ?_
    exact (together_record twin _ _).bind fun _ _ _ twin => current twin
  · exact current twin

/-- Whoever gets the processor is in use by then: a move has seen to that, or it was running. -/
theorem together_dispatch (previous : Option Handle) (twin : s.Twin paced others t) :
    Together (Twin paced others) (dispatch h previous) (dispatch h previous) s t := by
  refine .read reads_process reads_process ?_
  rw [twin.kernel.mark, twin.kernel.state]
  dsimp only
  split
  · exact together_violate _ _
  · refine forgetting (h := h) ?_
    split
    · exact (together_onKernel twin (KernelM.together_move twin.kernel _)).bind
        fun _ _ _ twin => together_handOver previous _ _ twin
    · split
      · exact together_violate _ _
      · rename_i running
        have used := Policy.used_of_running (not_not.mp running)
        exact together_handOver previous _ _ (twin.naming used)

theorem together_issue (n : Nat) (l : List Request) (twin : s.Twin paced others t) :
    Together (Twin paced others) (issue h n l) (issue h n l) s t := by
  induction l generalizing s t n with
  | nil => exact .pure _ twin
  | cons request later ih =>
      refine .read reads_process reads_process ?_
      rw [twin.kernel.age, twin.kernel.pid]
      split
      · refine .read reads_get reads_get ?_
        refine (together_acquire twin).bind fun granted s t twin => ?_
        cases granted with
        | false => exact .pure _ twin
        | true =>
            refine (together_holdingOf twin).bind fun held _ _ twin => ?_
            refine (together_setHolding twin _).bind fun _ _ _ twin => ?_
            exact (together_setGranted twin _).bind fun _ _ _ twin => ih _ twin
      · exact .pure _ twin

theorem together_issueRequests (twin : s.Twin paced others t) :
    Together (Twin paced others) (issueRequests h) (issueRequests h) s t := by
  refine .read reads_process reads_process (.read reads_get reads_get ?_)
  rw [twin.kernel.requests, twin.kernel.pid, twin.granted]
  exact (together_entry _ _ twin).bind fun granted _ _ twin => together_issue granted _ twin

theorem together_release (twin : s.Twin paced others t) :
    Together (Twin paced others) (release pid r) (release pid r) s t := by
  refine (together_holdingOf twin).bind fun held _ _ twin => ?_
  refine (together_entry held r twin).bind fun _ _ _ twin => ?_
  refine (together_setHolding twin _).bind fun _ s t twin => .read reads_get reads_get ?_
  exact together_onKernel twin (Protocol.together_release _ _ twin.kernel)

theorem together_expire (todo : List Int) (twin : s.Twin paced others t) :
    Together (Twin paced others) (expire pid todo) (expire pid todo) s t := by
  induction todo generalizing s t with
  | nil => exact .pure _ twin
  | cons r todo ih =>
      refine (together_holdingOf twin).bind fun held _ _ twin => ?_
      refine (together_entry held r twin).bind fun count _ _ twin => ?_
      refine (together_setHolding twin _).bind fun _ s t twin => ?_
      split
      · exact (together_release twin).bind fun _ _ _ twin => ih twin
      · exact ih twin

theorem together_forM_release (held : List Int) (twin : s.Twin paced others t) :
    Together (Twin paced others) (held.forM (release pid)) (held.forM (release pid)) s t := by
  induction held generalizing s t with
  | nil => exact .pure _ twin
  | cons r held ih => exact (together_release twin).bind fun _ _ _ twin => ih twin

theorem together_leave (twin : s.Twin paced others t) :
    Together (Twin paced others) (leave h) (leave h) s t := by
  refine .read reads_process reads_process ?_
  rw [twin.kernel.pid]
  refine (together_holdingOf twin).bind fun held _ _ twin => ?_
  refine (together_forM_release _ twin).bind fun _ s t twin => ?_
  refine (forgetting (together_onKernel twin (KernelM.together_move twin.kernel _))).bind
    fun _ s t twin => .read reads_get reads_get ?_
  rw [twin.kernel.tick]
  refine (forgetting (h := h) (together_onKernel twin
    (KernelM.together_onProcess twin.kernel ?_))).bind fun _ s t twin => ?_
  · rintro p _ q _ same ⟨⟩ ⟨⟩
    exact congrArg (·.leftAt (s.kernel.tick + 1)) same
  refine .read reads_get reads_get ?_
  obtain ⟨d, d', p, q, left, right, _⟩ := twin.policy
  rw [left, right]
  exact (together_onKernel twin (.pure _ twin.kernel)).bind fun _ _ _ twin =>
    together_record twin _ _

theorem together_execute (twin : s.Twin paced others t) :
    Together (Twin paced others) (execute h) (execute h) s t := by
  refine (together_issueRequests twin).bind fun granted _ _ twin => ?_
  cases granted with
  | false => exact .pure _ twin
  | true =>
      refine (forgetting (together_onKernel twin (KernelM.together_runTick twin.kernel))).bind
        fun _ s t twin => ?_
      refine .read reads_process reads_process ?_
      rw [twin.kernel.pid]
      refine (together_holdingOf twin).bind fun held _ _ twin => ?_
      refine (together_expire _ twin).bind fun _ s t twin => ?_
      refine .read reads_process reads_process ?_
      rw [twin.kernel.view Process.finished (fun _ => rfl)]
      split
      · exact (together_leave twin).bind fun _ _ _ twin => .pure _ twin
      · exact .pure _ twin

/-! ### Ticks and runs -/

/-- The end of a tick: its line is noted and the clock moves on. -/
def note (line : TickRecord) : SimulationM TickRecord := do
  modify fun s => { s with timeline := s.timeline.push line }
  let _ ← onKernel KernelM.advance
  pure line

theorem together_note (line : TickRecord) (twin : s.Twin paced others t) :
    Together (Twin paced others) (note line) (note line) s t := by
  refine .bind (together_modify twin (fun _ => rfl) twin.kernel fun _ _ => rfl)
    fun _ _ _ twin => ?_
  exact (together_onKernel twin (KernelM.together_advance twin.kernel)).bind
    fun _ _ _ twin => .pure _ twin

/-- A tick runs on both together where the policies choose alike. -/
theorem together_tick_of (twin : s.Twin paced others t)
    (schedules : ∀ g g', EStateM.run (arrivals s.pending) s = .ok () g →
      EStateM.run (arrivals t.pending) t = .ok () g' → g.Twin paced others g' →
      Together (Kernel.Twin paced others) g.policy.schedule g'.policy.schedule
        g.kernel g'.kernel) :
    Together (Twin paced others) tick tick s t := by
  refine .read reads_get reads_get (.read reads_get reads_get ?_)
  rw [twin.pending, twin.kernel.tick]
  refine (together_arrivals _ twin).bind_run fun _ g g' gathered gathered' twin' => ?_
  rw [← twin.pending] at gathered'
  refine .read reads_get reads_get (.read reads_get reads_get ?_)
  rw [twin'.kernel.current]
  refine (together_onKernel twin' (schedules g g' gathered gathered' twin')).bind
    fun chosen s t twin => ?_
  cases chosen with
  | none =>
      refine (together_onKernel twin (KernelM.together_setCurrent twin.kernel (by simp))).bind
        fun _ _ _ twin => together_note _ twin
  | some h =>
      refine (together_dispatch _ twin).bind fun _ s t twin => ?_
      refine .read reads_process reads_process ?_
      rw [twin.kernel.pid]
      exact (together_execute twin).bind fun _ _ _ twin => together_note _ twin

/-- Twins that keep pace choose alike. -/
theorem together_tick (pace : paced) (twin : s.Twin paced others t) :
    Together (Twin paced others) tick tick s t := by
  refine together_tick_of twin fun g g' _ _ twin => ?_
  obtain ⟨d, d', p, q, left, right, same⟩ := twin.policy
  obtain ⟨rfl, blind⟩ := same pace
  rw [left, right]
  exact d'.together_schedule pace blind twin.kernel

/-- Resets and titles aside, two policies of one discipline prepare a run in the same way. -/
theorem together_start (twin : s.Twin paced others t) :
    Together (Twin paced others) start start s t := by
  refine .bind (together_modify twin (fun _ => rfl) twin.kernel fun _ _ => rfl)
    fun _ s t twin => .read reads_get reads_get ?_
  obtain ⟨d, d', p, q, left, right, same⟩ := twin.policy
  rw [left, right]
  have prepared : Together (Kernel.Twin paced others) (Policy.of d p).setUp (Policy.of d' q).setUp
      s.kernel t.kernel :=
    (d.together_clearSlice d' (fun pace => (same pace).1) twin.kernel).bind fun _ _ _ twin =>
      (Protocol.together_reset p q twin).bind fun _ _ _ twin => .pure _ twin
  refine (together_onKernel twin prepared).bind fun ready _ _ twin => ?_
  cases ready with
  | true => exact together_record twin _ _
  | false => exact .throw_left _ _

theorem together_startOnce (twin : s.Twin paced others t) :
    Together (Twin paced others) startOnce startOnce s t := by
  refine .read reads_get reads_get ?_
  rw [twin.started]
  split
  · exact together_start twin
  · exact .pure _ twin

theorem together_steps (pace : paced) (n : Nat) (twin : s.Twin paced others t) :
    Together (Twin paced others) (steps n) (steps n) s t := by
  induction n generalizing s t with
  | zero => exact .pure _ twin
  | succ n ih =>
      have step : Together (Twin paced others) step step s t :=
        (together_startOnce twin).bind fun _ _ _ twin => together_tick pace twin
      exact step.bind fun _ _ _ twin => ih twin

section Runs

variable {R : Simulation → Simulation → Prop}

/-- Where ticks keep a relation of twins, the verdicts on both sides are the same. -/
theorem together_untilVerdict (twins : ∀ s t, R s t → s.Twin paced others t)
    (ticks : ∀ s t, R s t → Together R tick tick s t) (fuel : Nat) (related : R s t) :
    Together (Twin paced others) (untilVerdict fuel) (untilVerdict fuel) s t := by
  induction fuel generalizing s t with
  | zero => exact .pure _ (twins s t related)
  | succ fuel ih =>
      have twin := twins s t related
      refine .read reads_get reads_get ?_
      rw [twin.verdict]
      split
      · exact .pure _ twin
      · exact .bind (together_modify twin (fun _ => rfl) twin.kernel fun _ _ => rfl)
          fun _ _ _ twin => together_record twin _ _
      · exact .bind (together_modify twin (fun _ => rfl) twin.kernel fun _ _ => rfl)
          fun _ _ _ twin => together_record twin _ _
      · exact (ticks s t related).bind_run fun _ _ _ _ _ related => ih related

/-- Where ticks keep a relation of twins, the runs leave twins and report on them. -/
theorem alongside_run (twins : ∀ s t, R s t → s.Twin paced others t)
    (ticks : ∀ s t, R s t → Together R tick tick s t)
    (begun : Together R startOnce startOnce s t) :
    Alongside (fun report report' u v => report = u.report ∧ report' = v.report ∧
      u.Twin paced others v) run run s t := by
  refine .bind (.of_together begun) ?_
  rintro _ _ s t ⟨-, related⟩
  have fuel := (twins s t related).fuel
  refine .after (R := Twin paced others) (.tryFinally ?_ fun s t twin => ?_)
    fun _ s t twin => .read reads_get reads_get (.pure ⟨rfl, rfl, twin⟩)
  · refine .read reads_get reads_get ?_
    rw [fuel]
    exact together_untilVerdict twins ticks _ related
  · refine .read reads_get reads_get ?_
    obtain ⟨d, d', p, q, left, right, _⟩ := twin.policy
    rw [left, right]
    exact together_onKernel twin (Protocol.together_reset p q twin.kernel)

end Runs

/-- The runs of twins that keep pace end with the same report. -/
theorem together_run (pace : paced) (twin : s.Twin paced others t) :
    Together (Twin paced others) run run s t := by
  intro report report' u v ran ran'
  obtain ⟨rfl, rfl, twin'⟩ := alongside_run (fun _ _ twin => twin)
    (fun _ _ twin => together_tick pace twin) (together_startOnce twin) _ _ _ _ ran ran'
  exact ⟨(twin'.report_of_paced pace).symm, twin'⟩

end SimulationM

end Uniprocessor
