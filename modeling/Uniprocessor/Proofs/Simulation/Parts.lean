import Uniprocessor.Proofs.Kernel.Traffic
import Uniprocessor.Proofs.Simulation.Tick
import Uniprocessor.Proofs.Simulation.Twin

/-!
The parts of a tick, read off its programs.

A move leaves the log and the slice of the policy open. Here the same parts are
taken from the runs of the programs themselves, which leave nothing open:
everybody who is due is received, one after another (`Simulation.Gathers`), which
disturbs nobody (`Simulation.Gathered`); the chosen process gets the processor
(`SimulationM.run_dispatch_eq_ok`) and is then at work
(`SimulationM.Staged.dispatched`). Where nobody is chosen the kernel stays as the
policy has left it (`SimulationM.Staged.idled`).
-/

namespace Uniprocessor

open EStateM (run_bind_eq_ok run_read_eq_ok)
open Policy (continuing)

/-! ### Arrivals -/

namespace Simulation

/-- The simulation once the process has arrived and is noted. -/
def joinedBy (s : Simulation) (p : Process) (later : List ProcessSpec) : Simulation :=
  (s.enter p.pid later).onto
    ((s.kernel.receive p).record (.arrived p.pid p.lifespan p.priority))

/-- Those of the list who are due are received one after another. -/
inductive Gathers : List ProcessSpec → Simulation → Simulation → Prop where
  | done {s : Simulation} {l : List ProcessSpec}
      (early : ∀ spec later, l = spec :: later → s.kernel.tick < spec.arrival) : Gathers l s s
  | receive {s g : Simulation} {spec : ProcessSpec} {later : List ProcessSpec} {p : Process}
      (due : spec.arrival ≤ s.kernel.tick) (built : spec.build = .ok p)
      (rest : Gathers later (s.joinedBy p later) g) : Gathers (spec :: later) s g

/-- Whoever arrives gets behind those who are ready, in the order of arrival, and nobody else is
disturbed. -/
structure Gathered (s g : Simulation) : Prop where
  silent : s.kernel.Silent g.kernel
  waiting : ∀ r, g.kernel.queue (.waiting r) = s.kernel.queue (.waiting r)
  ready : ∃ more, g.kernel.handles = s.kernel.handles ++ more ∧
    g.kernel.queue .ready = s.kernel.queue .ready ++ more
  process : ∀ h ∈ s.kernel.handles,
    h ∈ g.kernel.handles ∧ g.kernel.process h = s.kernel.process h
  newcomer : ∀ h ∉ s.kernel.handles, (g.kernel.process h).state = .ready
  current : g.kernel.current = s.kernel.current
  slice : g.kernel.memory.sliceUsed = s.kernel.memory.sliceUsed

variable {s g : Simulation} {l : List ProcessSpec}

namespace Gathered

theorem continuing (gathered : s.Gathered g) : continuing g.kernel = continuing s.kernel := by
  unfold Policy.continuing
  rw [gathered.current]
  cases s.kernel.current with
  | none => rfl
  | some h =>
      have same : (g.kernel.process h).canContinue = (s.kernel.process h).canContinue := by
        by_cases used : h ∈ s.kernel.handles
        · rw [(gathered.process h used).2]
        · -- Somebody unknown does not run, and does not do so on arrival either.
          have unborn := Kernel.process_of_unused used
          rw [unborn, Process.canContinue, gathered.newcomer h used]
          rfl
      simp [Option.filter, same]

theorem waiters (gathered : s.Gathered g) (linked : s.kernel.Linked) (r : Int) :
    g.kernel.waiters r = s.kernel.waiters r := by
  unfold Kernel.waiters
  rw [gathered.waiting]
  exact List.map_congr_left fun h mem => by rw [(gathered.process h (linked.used mem)).2]

end Gathered

/-- A tick gathers those who are due. -/
theorem Gathers.gathered (gathers : Gathers l s g) (sound : Sound ⟨.arriving, s⟩)
    (pending : s.pending = l) : s.Gathered g := by
  -- On who arrives: the first one makes a move, and the others arrive behind it.
  induction gathers with
  | @done s l early =>
      refine ⟨refl_of Kernel.Silent _, fun _ => rfl,
        ⟨[], (List.append_nil _).symm, (List.append_nil _).symm⟩,
        fun h used => ⟨used, rfl⟩, fun h unused => ?_, rfl, rfl⟩
      rw [Kernel.process_of_unused unused]
      rfl
  | @receive s g spec later p due built rest ih =>
      have move : Move ⟨.arriving, s⟩ ⟨.arriving, s.joinedBy p later⟩ :=
        .arrive pending due built (.record _ _)
      have after := ih (sound.move move) rfl
      obtain ⟨more, handles, ready⟩ := after.ready
      have fresh := sound.roster.fresh
      obtain ⟨_, built', _, _, _, state, _⟩ := sound.arriving pending
      obtain rfl := Except.ok.inj (built.symm.trans built')
      have admitted : (s.joinedBy p later).kernel.handles =
          s.kernel.handles ++ [s.kernel.nextHandle] := by
        simpa [joinedBy] using Kernel.handles_receive fresh p
      have silent : s.kernel.Silent (s.joinedBy p later).kernel :=
        trans_of Kernel.Silent (.of_log (by simp [Kernel.receive]; rfl)) (.record ⟨rfl, rfl⟩)
      refine ⟨trans_of Kernel.Silent silent after.silent, fun r => ?_,
        ⟨s.kernel.nextHandle :: more, ?_, ?_⟩, fun h used => ?_, fun h unused => ?_, ?_, ?_⟩
      · simp [after.waiting, joinedBy]
      · simp [handles, admitted]
      · simp [ready, joinedBy]
      · obtain ⟨used', same⟩ := after.process h (by simp [admitted, used])
        have other : s.kernel.nextHandle ≠ h := fun is => fresh (is ▸ used)
        exact ⟨used', by simp [same, joinedBy, other]⟩
      · by_cases new : s.kernel.nextHandle = h
        · obtain ⟨_, same⟩ := after.process h (by simp [admitted, new])
          simp [same, joinedBy, new, state]
        · exact after.newcomer h (by simp [admitted, unused, Ne.symm new])
      · simp [after.current, joinedBy]
      · simp [after.slice, joinedBy]

end Simulation

namespace SimulationM

open Simulation

variable {s g t : Simulation} {h : Handle} {l : List ProcessSpec}

theorem gathers_of_run (sound : Sound ⟨.arriving, s⟩) (pending : s.pending = l)
    (ran : EStateM.run (arrivals l) s = .ok () g) : Gathers l s g := by
  -- On who is still to come: whoever is due is received, up to the first one who is not.
  induction l generalizing s with
  | nil =>
      cases ran
      exact .done nofun
  | cons spec later ih =>
      by_cases due : spec.arrival ≤ s.kernel.tick
      · obtain ⟨d, protocol, policy⟩ := sound.policy
        obtain ⟨p, built, _, _, _, _, _, free, _⟩ := sound.arriving pending
        have arrived := run_arrive_noted (s := s) later built free (by
          rw [show s.policy = .of d protocol from policy]
          rfl)
        have move : Move ⟨.arriving, s⟩ ⟨.arriving, s.joinedBy p later⟩ :=
          .arrive pending due built (.record _ _)
        refine .receive due built (ih (sound.move move) rfl ?_)
        rw [← ran]
        simp [arrivals, due, arrived, joinedBy]
      · have stays : EStateM.run (arrivals (spec :: later)) s = .ok () s := by
          simp [arrivals, due]
        rw [stays] at ran
        cases ran
        refine .done fun i rest next => ?_
        cases next
        exact Int.not_le.mp due

/-- Where the arrivals have come to an end everything is in order for a choice. -/
theorem gathered_of_run (sound : Sound ⟨.arriving, s⟩)
    (ran : EStateM.run (arrivals s.pending) s = .ok () g) :
    Sound ⟨.choosing, g⟩ ∧ g.policy = s.policy := by
  obtain ⟨g', ran', reaches⟩ := run_arrivals sound rfl
  rw [ran] at ran'
  cases ran'
  exact ⟨sound.reaches reaches, congrArg (·.policy) reaches.unchanged⟩

/-! ### The choice -/

theorem run_onKernel_eq_ok {α : Type} {op : KernelM α} {a : α}
    (ran : EStateM.run (onKernel op) s = .ok a t) :
    ∃ k, op.run s.kernel = .ok a k ∧ t = s.onto k := by
  simp only [EStateM.run, onKernel] at ran ⊢
  cases made : op s.kernel with
  | error fault k => simp [made] at ran
  | ok b k =>
      simp only [made, EStateM.Result.ok.injEq] at ran
      obtain ⟨rfl, rfl⟩ := ran
      exact ⟨k, rfl, rfl⟩

/-- Looking something up in the books changes nothing. -/
theorem entry_eq_ok {ν : Type} {table : Table Int ν} {key : Int} {v : ν}
    (ran : EStateM.run (entry table key) s = .ok v t) : s = t := by
  unfold entry at ran
  split at ran
  · cases ran
    rfl
  · cases ran

theorem holdingOf_eq_ok {pid : Int} {held : Table Int Int}
    (ran : EStateM.run (holdingOf pid) s = .ok held t) : s = t := by
  have looked : EStateM.run (entry s.holding pid) s = .ok held t := ran
  exact entry_eq_ok looked

/-- The processor passes on, and only the log knows more about it. -/
theorem run_handOver (previous : Option Handle) (pid : Int) :
    ∃ k, EStateM.run (handOver h previous pid) s =
        .ok () ((s.switched (s.switches + if previous = some h then 0 else 1)).onto k) ∧
      (s.kernel.turnTo (some h)).Same k ∧ s.kernel.Silent k ∧
      k.memory.sliceUsed = s.kernel.memory.sliceUsed := by
  by_cases same : previous = some h
  · refine ⟨s.kernel.turnTo (some h), ?_, .refl _, .of_log rfl, rfl⟩
    simp [handOver, same]
    rfl
  · refine ⟨(s.kernel.record (.switched pid)).turnTo (some h), ?_, ?_, ?_, rfl⟩
    · simp [handOver, same]
      rfl
    · constructor <;> simp
    · have noted : s.kernel.Silent (s.kernel.record (.switched pid)) := .record ⟨rfl, rfl⟩
      exact ⟨noted.refusals, noted.wakings⟩

/-- Whoever gets the processor runs then, and nothing else has changed. -/
theorem run_dispatch_eq_ok {previous : Option Handle}
    (ran : EStateM.run (dispatch h previous) s = .ok () t) :
    ∃ k, t = (s.switched (s.switches + if previous = some h then 0 else 1)).onto k ∧
      ((s.kernel.edit h (·.inState .running)).turnTo (some h)).Same k ∧ s.kernel.Silent k ∧
      k.memory.sliceUsed = s.kernel.memory.sliceUsed := by
  have known := run_read_eq_ok reads_process ran
  dsimp only at known
  split at known
  · obtain ⟨_, _, violated, _⟩ := run_bind_eq_ok known
    cases violated
  · split at known
    · obtain ⟨_, u, moved, last⟩ := run_bind_eq_ok known
      obtain ⟨m, gone, rfl⟩ := run_onKernel_eq_ok moved
      obtain rfl := KernelM.run_move_eq_ok gone
      obtain ⟨k, ran', same, silent, slice⟩ := run_handOver (h := h)
        (s := s.onto (s.kernel.edit h (·.inState .running))) previous (s.kernel.process h).pid
      have last := ran'.symm.trans last
      cases last
      exact ⟨k, rfl, same, ⟨silent.refusals, silent.wakings⟩, slice⟩
    · split at known
      · obtain ⟨_, _, violated, _⟩ := run_bind_eq_ok known
        cases violated
      · rename_i running
        have running := not_not.mp running
        have used := Policy.used_of_running running
        obtain ⟨k, ran', same, rest⟩ := run_handOver (h := h) (s := s) previous
          (s.kernel.process h).pid
        have last := ran'.symm.trans known
        cases last
        refine ⟨k, rfl, Kernel.Same.trans ?_ same, rest⟩
        -- It runs already, so that its state is set again changes nothing.
        have unchanged : (s.kernel.process h).inState .running = s.kernel.process h := by
          rw [Process.inState, ← running]
        constructor
        case process =>
          intro j
          by_cases own : h = j
          · subst own
            simp [unchanged]
          · simp [own]
        all_goals simp [used]

/-! ### The rest of the tick -/

theorem close_injective {e e' : Simulation} {line line' : TickRecord}
    (same : e.close line = e'.close line') : e = e' ∧ line = line' := by
  obtain ⟨policy, w, limit, k, _, _, _, _, timeline, _, _, _, _⟩ := e
  obtain ⟨policy', w', limit', k', _, _, _, _, timeline', _, _, _, _⟩ := e'
  cases k
  cases k'
  simp only [close, Kernel.later, Simulation.mk.injEq, Kernel.mk.injEq, Array.push_eq_push,
    Nat.add_right_cancel_iff] at same ⊢
  tauto

variable {d e : Simulation} {event : TickEvent} {k : Kernel}

theorem run_tick_idle (gathered : EStateM.run (arrivals s.pending) s = .ok () g)
    (chose : g.policy.schedule.run g.kernel = .ok none k) :
    EStateM.run tick s = .ok ⟨s.kernel.tick, none, .idle⟩
      ((g.onto (k.turnTo none)).close ⟨s.kernel.tick, none, .idle⟩) := by
  have chose : EStateM.run (onKernel g.policy.schedule) g = .ok none (g.onto k) :=
    run_onKernel chose
  simp [tick, gathered, chose]
  rfl

theorem run_tick_chosen (gathered : EStateM.run (arrivals s.pending) s = .ok () g)
    (chose : g.policy.schedule.run g.kernel = .ok (some h) k)
    (dispatched : EStateM.run (dispatch h g.kernel.current) (g.onto k) = .ok () d)
    (executed : EStateM.run (execute h) d = .ok event e) :
    EStateM.run tick s = .ok ⟨s.kernel.tick, some (d.kernel.process h).pid, event⟩
      (e.close ⟨s.kernel.tick, some (d.kernel.process h).pid, event⟩) := by
  have chose : EStateM.run (onKernel g.policy.schedule) g = .ok (some h) (g.onto k) :=
    run_onKernel chose
  simp [tick, gathered, chose, dispatched, executed]
  rfl

namespace Staged

/-- Where nobody is chosen the kernel stays as the policy has left it. -/
theorem idled (staged : Staged s g e none event)
    (chose : g.policy.schedule.run g.kernel = .ok none k) : e = g.onto (k.turnTo none) := by
  have ran := run_tick_idle staged.gathered chose
  rw [staged.ended] at ran
  injection ran with _ left
  exact (close_injective left).1

/-- Whoever is chosen gets the processor, and then its tick. -/
theorem dispatched (sound : Sound ⟨.arriving, s⟩) (staged : Staged s g e (some h) event)
    (chose : g.policy.schedule.run g.kernel = .ok (some h) k) :
    ∃ d, EStateM.run (dispatch h g.kernel.current) (g.onto k) = .ok () d ∧
      EStateM.run (execute h) d = .ok event e ∧ Sound ⟨.issuing h, d⟩ ∧
      Moment.Reaches ⟨.issuing h, d⟩ ⟨.closing (some h) event, e⟩ := by
  obtain ⟨k', chose', choice⟩ := staged.chose
  obtain rfl : k' = k := by
    rw [chose] at chose'
    cases chose'
    rfl
  have gathered : Sound ⟨.choosing, g⟩ := sound.reaches staged.arrived
  obtain ⟨d, dispatched, turn, _⟩ := run_chosen gathered choice rfl rfl
  have busy := gathered.reaches turn
  obtain ⟨event', e', executed, works⟩ := run_execute busy
  have ran := run_tick_chosen staged.gathered chose dispatched executed
  rw [staged.ended] at ran
  injection ran with line left
  obtain ⟨rfl, _⟩ := close_injective left
  obtain rfl : event = event' := congrArg (·.event) line
  exact ⟨d, dispatched, executed, busy, works⟩

end Staged

end SimulationM

end Uniprocessor
