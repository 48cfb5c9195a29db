import Uniprocessor.Proofs.Outcome
import Uniprocessor.Proofs.Protocol.Access
import Uniprocessor.Proofs.Simulation.Moves

/-!
A tick is a run of moves.

From a sound state at the start of a tick, every part of the tick ends without
a fault, and what it does is a run of moves: the arrivals, the choice, the
requests, the counts and the end. Together they give `SimulationM.run_tick`;
`SimulationM.run_staged` also says where the parts meet.
-/

namespace Uniprocessor.SimulationM

open Simulation

variable {s : Simulation} {h : Handle}

@[simp] theorem run_process : EStateM.run (process h) s = .ok (s.kernel.process h) s := rfl

@[simp] theorem run_record (e : Event) :
    EStateM.run (record e) s = .ok () (s.onto (s.kernel.record e)) := rfl

/-- An entry that is there is read. -/
theorem run_entry {ν : Type} {t : Table Int ν} {key : Int} {v : ν} (found : t.get? key = some v) :
    EStateM.run (entry t key) s = .ok v s := by
  unfold entry
  rw [found]
  rfl

theorem run_holdingOf {pid : Int} (booked : s.Booked pid) :
    EStateM.run (holdingOf pid) s = .ok (s.held pid) s :=
  (EStateM.run_bind_of_ok (EStateM.run_get _) _).trans (run_entry booked.get?_holding)

@[simp] theorem run_advance : EStateM.run (onKernel KernelM.advance) s =
    .ok (s.kernel.tick + 1) { s with kernel := s.kernel.later } := rfl

/-! ### Arrivals -/

/-- Whoever arrives is received and noted. -/
theorem run_arrive_noted {spec : ProcessSpec} {p : Process} (later : List ProcessSpec)
    (built : spec.build = .ok p) (free : p.queue = none)
    (silent : s.policy.arrived = fun _ => pure ()) :
    EStateM.run (arrive spec) { s with pending := later } =
      .ok () ((s.enter p.pid later).onto
        ((s.kernel.receive p).record (.arrived p.pid p.lifespan p.priority))) := by
  let entered := s.enter p.pid later
  have linked : EStateM.run (onKernel (KernelM.enqueue .ready s.kernel.nextHandle))
      (entered.onto (s.kernel.enroll p)) = .ok () (entered.onto (s.kernel.receive p)) :=
    run_onKernel (KernelM.run_enqueue (by simp [Kernel.process_enroll, free]))
  have told : EStateM.run (onKernel (s.policy.arrived s.kernel.nextHandle))
      (entered.onto (s.kernel.receive p)) = .ok () (entered.onto (s.kernel.receive p)) := by
    rw [silent]
    exact run_onKernel rfl
  have newcomer : EStateM.run (process s.kernel.nextHandle) (entered.onto (s.kernel.receive p)) =
      .ok (p.marked (some .ready)) (entered.onto (s.kernel.receive p)) := by simp
  unfold arrive
  rw [built]
  exact (EStateM.run_bind_of_ok (EStateM.run_get _) _).trans
    ((EStateM.run_bind_of_ok (EStateM.run_modify _ _) _).trans
      ((EStateM.run_bind_of_ok linked _).trans
        ((EStateM.run_bind_of_ok (EStateM.run_get _) _).trans
          ((EStateM.run_bind_of_ok told _).trans (EStateM.run_bind_of_ok newcomer _)))))

theorem run_arrive {spec : ProcessSpec} {p : Process} (later : List ProcessSpec)
    (built : spec.build = .ok p) (free : p.queue = none)
    (silent : s.policy.arrived = fun _ => pure ()) :
    ∃ k, EStateM.run (arrive spec) { s with pending := later } =
      .ok () ((s.enter p.pid later).onto k) ∧ (s.kernel.receive p).Same k :=
  ⟨_, run_arrive_noted later built free silent, .record _ _⟩

theorem run_arrivals {l : List ProcessSpec} (sound : Sound ⟨.arriving, s⟩)
    (pending : s.pending = l) :
    ∃ s', EStateM.run (arrivals l) s = .ok () s' ∧
      Moment.Reaches ⟨.arriving, s⟩ ⟨.choosing, s'⟩ := by
  -- On the arrivals that are left: each is a move, and the first that is not due ends them.
  induction l generalizing s with
  | nil =>
      refine ⟨s, rfl, .single (.settle ?_)⟩
      intro spec later next
      rw [pending] at next
      cases next
  | cons spec later ih =>
      by_cases due : spec.arrival ≤ s.kernel.tick
      · obtain ⟨d, protocol, policy⟩ := sound.policy
        obtain ⟨p, built, _, _, _, _, _, free, _⟩ := sound.arriving pending
        obtain ⟨k, arrived, same⟩ := run_arrive (s := s) later built free (by
          rw [show s.policy = .of d protocol from policy]
          rfl)
        have move := Move.arrive pending due built same
        obtain ⟨s', ran, reaches⟩ := ih (sound.move move) rfl
        refine ⟨s', ?_, .head move reaches⟩
        rw [← ran]
        simp [arrivals, due, arrived]
      · refine ⟨s, by simp [arrivals, due], .single (.settle ?_)⟩
        intro i rest next
        rw [pending] at next
        cases next
        exact Int.not_le.mp due

/-! ### The choice -/

@[simp] theorem run_setCurrent (current : Option Handle) :
    EStateM.run (onKernel (KernelM.setCurrent current)) s =
      .ok () (s.onto (s.kernel.turnTo current)) := rfl

/-- A process that is ready and in no queue gets the processor. -/
theorem run_dispatch_ready {k : Kernel} (free : (k.process h).queue = none)
    (ready : (k.process h).state = .ready) (previous : Option Handle) :
    ∃ k' switches, EStateM.run (dispatch h previous) (s.onto k) =
      .ok () ((s.switched switches).onto k') ∧
      ((k.edit h (·.inState .running)).turnTo (some h)).Same k' ∧
      switches = s.switches + if previous = some h then 0 else 1 := by
  have moved : EStateM.run (onKernel (KernelM.move h .dispatch)) (s.onto k) =
      .ok () (s.onto (k.edit h (·.inState .running))) :=
    run_onKernel (KernelM.run_move (by simp [ready, Transition.sources]))
  by_cases same : previous = some h
  · refine ⟨_, s.switches, ?_, .refl _, by simp [same]⟩
    simp [dispatch, free, ready, moved, same]
    rfl
  · refine ⟨((k.edit h (·.inState .running)).record (.switched (k.process h).pid)).turnTo (some h),
      s.switches + 1, ?_, ?_, by simp [same]⟩
    · simp [dispatch, free, ready, moved, same]
      rfl
    · constructor <;> simp

/-- A process that goes on keeps the processor. -/
theorem run_dispatch_running {k : Kernel} (free : (k.process h).queue = none)
    (running : (k.process h).state = .running) :
    EStateM.run (dispatch h (some h)) (s.onto k) = .ok () (s.onto (k.turnTo (some h))) := by
  simp [dispatch, free, running]
  rfl

/-- Where nobody is named the tick is idle. -/
theorem move_idle {k' : Kernel} (choice : Policy.Choice s.kernel none k') :
    Move ⟨.choosing, s⟩ ⟨.closing none .idle, s.onto (k'.turnTo none)⟩ := by
  obtain ⟨free, empty, used, rfl⟩ := choice.of_none
  refine .idle free empty ?_
  constructor <;> simp [Policy.withSlice]

/-- Whoever is named gets the processor, and nothing else changes but places. -/
theorem run_chosen {k k' : Kernel} {chosen : Option Handle} (sound : Sound ⟨.choosing, s⟩)
    (choice : Policy.Choice k chosen k') (somebody : chosen = some h) (kernel : s.kernel = k) :
    ∃ s', EStateM.run (dispatch h k.current) (s.onto k') = .ok () s' ∧
      Moment.Reaches ⟨.choosing, s⟩ ⟨.issuing h, s'⟩ ∧ s.kernel.Shuffled s'.kernel := by
  -- On how the choice came about: whoever is sent back makes a move of its own, before the choice
  -- is made again without it.
  induction choice generalizing s with
  | nobody => cases somebody
  | resume used goes =>
      cases somebody
      subst kernel
      have current := (Policy.continuing_eq_some_iff.mp goes).1
      have running := Policy.running_of_continuing goes
      have free := (sound.order.placed h (Policy.used_of_running running)).queue_of_running running
      have went := run_dispatch_running (s := s) (k := Policy.withSlice s.kernel used) free running
      have move : Move ⟨.choosing, s⟩
          ⟨.issuing h, s.onto ((Policy.withSlice s.kernel used).turnTo (some h))⟩ := by
        refine .resume goes ?_
        constructor <;> simp [Policy.withSlice, current]
      refine ⟨_, ?_, .single move, sound.shuffled move⟩
      rw [current]
      exact went
  | take used free mem =>
      cases somebody
      subst kernel
      have inUse := sound.order.linked.used mem
      have ready := sound.state_of_mem_ready mem
      obtain ⟨k', switches, ran, same, counted⟩ := run_dispatch_ready (s := s) (h := h)
        (k := Policy.withSlice (s.kernel.unlink .ready h) used) (by simp [Policy.withSlice])
        (by simpa [Policy.withSlice] using ready) s.kernel.current
      have move : Move ⟨.choosing, s⟩ ⟨.issuing h, (s.switched switches).onto k'⟩ := by
        refine .take free mem (Kernel.Same.trans ?_ same) counted
        constructor <;> simp [Policy.withSlice, Kernel.dispatch, inUse]
      exact ⟨_, ran, .single move, sound.shuffled move⟩
  | @preempt _ k' j _ goes next ih =>
      subst kernel
      let back := (s.kernel.sendBack j).record (.preempted (s.kernel.process j).pid)
      have move : Move ⟨.choosing, s⟩ ⟨.choosing, s.onto back⟩ := .preempt goes (.record _ _)
      obtain ⟨s', ran, reaches, shuffled⟩ := ih (sound.move move) somebody rfl
      refine ⟨s', ?_, .head move reaches, (sound.shuffled move).trans shuffled⟩
      have current : back.current = s.kernel.current := by simp [back]
      rw [← current]
      exact ran

/-! ### Requests -/

theorem outstanding_grant {q : Request} {later : List Request} {k : Kernel}
    (held : Table Int Int) (next : s.outstanding h = q :: later)
    (alike : (s.kernel.assign q.resource (some h)).Alike k) :
    (((s.hold h held).countGrant h).onto k).outstanding h = later := by
  have pid : (k.process h).pid = (s.kernel.process h).pid := by simp [alike.pid]
  have requests : (k.process h).requests = (s.kernel.process h).requests := by
    simp [alike.requests]
  have tail := congrArg List.tail next
  rw [Simulation.outstanding, List.tail_drop] at tail
  simpa [Simulation.outstanding, pid, requests] using tail

theorem grantedTo_grant {r : Int} {k : Kernel} (held : Table Int Int)
    (alike : (s.kernel.assign r (some h)).Alike k) :
    (((s.hold h held).countGrant h).onto k).grantedTo (k.process h).pid =
      s.grantedTo (s.kernel.process h).pid + 1 := by
  simp [alike.pid]

/-- The requests that are due are issued one by one, up to the first refusal. -/
theorem run_issue {l : List Request} {n : Nat} (sound : Sound ⟨.issuing h, s⟩)
    (next : s.outstanding h = l) (count : s.grantedTo (s.kernel.process h).pid = n) :
    ∃ granted s', EStateM.run (issue h n l) s = .ok granted s' ∧
      if granted then
        Moment.Reaches ⟨.issuing h, s⟩ ⟨.issuing h, s'⟩ ∧ ∀ r, ¬ s'.Asks h r
      else Moment.Reaches ⟨.issuing h, s⟩ ⟨.closing (some h) .blocked, s'⟩ := by
  -- On the requests that are left: a grant is a move, after which the others are left.
  induction l generalizing s n with
  | nil =>
      refine ⟨true, s, rfl, .refl, ?_⟩
      rintro r ⟨q, later, asks, _⟩
      rw [next] at asks
      cases asks
  | cons q later ih =>
      obtain ⟨current, running, used, _⟩ := sound.running rfl
      by_cases due : q.due = (s.kernel.process h).age
      · have inTable := sound.inTable_of_outstanding used next
        cases owned : (s.kernel.resource q.resource).owner with
        | none =>
            obtain ⟨k, ran, alike, memory⟩ :=
              Protocol.run_acquire_granted s.policy.protocol used current inTable owned
            have acquired : EStateM.run (onKernel (s.policy.protocol.acquire q.resource)) s =
                .ok true (s.onto k) := run_onKernel ran
            have found : EStateM.run (holdingOf (s.kernel.process h).pid) (s.onto k) =
                .ok (s.heldOf h) (s.onto k) := run_holdingOf ((sound.booked h used).congr rfl rfl)
            have move := Move.grant next due owned ran alike memory
            obtain ⟨granted, s', rest, reaches⟩ := ih (sound.move move)
              (outstanding_grant _ next alike) ((grantedTo_grant _ alike).trans (by rw [count]))
            refine ⟨granted, s', ?_, ?_⟩
            · rw [← rest]
              simp [issue, due, acquired, found, Simulation.countGrant, count]
              rfl
            · cases granted with
              | true => exact ⟨.head move reaches.1, reaches.2⟩
              | false => exact .head move reaches
        | some owner =>
            obtain ⟨k, ran, alike, tracked⟩ :=
              Protocol.run_acquire_refused s.policy.protocol sound.order sound.tracked used current
                running inTable owned (sound.owner_ne next due owned)
            have refused : EStateM.run (onKernel (s.policy.protocol.acquire q.resource)) s =
                .ok false (s.onto k) := run_onKernel ran
            refine ⟨false, s.onto k, ?_, .single (.refuse next due owned ran alike tracked)⟩
            simp [issue, due, refused]
      · refine ⟨true, s, by simp [issue, due], .refl, ?_⟩
        rintro r ⟨i, rest, asks, _, now⟩
        rw [next] at asks
        cases asks
        exact due now

/-! ### Counting down -/

/-- Giving back erases the entry, which is there, and runs the protocol. -/
theorem run_release {r : Int} {k : Kernel} (h : Handle) (left : Int)
    (booked : s.Booked (s.kernel.process h).pid)
    (ran : (s.policy.protocol.release r).run s.kernel = .ok () k) :
    EStateM.run (release (s.kernel.process h).pid r) (s.hold h ((s.heldOf h).put r left)) =
      .ok () ((s.hold h (((s.heldOf h).put r left).erase r)).onto k) := by
  let before := s.hold h ((s.heldOf h).put r left)
  let after := s.hold h (((s.heldOf h).put r left).erase r)
  have found : EStateM.run (holdingOf (s.kernel.process h).pid) before =
      .ok ((s.heldOf h).put r left) before := by
    simpa [before] using run_holdingOf (booked.hold h ((s.heldOf h).put r left))
  have counted : EStateM.run (entry ((s.heldOf h).put r left) r) before = .ok left before :=
    run_entry (by simp)
  have erased : EStateM.run
      (setHolding (s.kernel.process h).pid (((s.heldOf h).put r left).erase r)) before =
        .ok () after := by
    simp [setHolding, Simulation.hold, before, after]
  have released : EStateM.run (onKernel (after.policy.protocol.release r)) after =
      .ok () (after.onto k) := run_onKernel ran
  exact (EStateM.run_bind_of_ok found _).trans ((EStateM.run_bind_of_ok counted _).trans
    ((EStateM.run_bind_of_ok erased _).trans
      ((EStateM.run_bind_of_ok (EStateM.run_get _) _).trans released)))

/-- All counts are brought down by one, and what is due is given back. -/
theorem run_expire {todo : List Int} (sound : Sound ⟨.expiring h todo, s⟩) :
    ∃ s', EStateM.run (expire (s.kernel.process h).pid todo) s = .ok () s' ∧
      Moment.Reaches ⟨.expiring h todo, s⟩ ⟨.expiring h [], s'⟩ := by
  -- On the resources still to be counted: each is a move, which gives it back or keeps it.
  induction todo generalizing s with
  | nil => exact ⟨s, rfl, .refl⟩
  | cons r todo ih =>
      obtain ⟨current, _, used, _⟩ := sound.running rfl
      have owned := sound.owned_of_todo
      obtain ⟨left, found, _⟩ := (sound.accounts h used).ledger_of_expiring.held_of_todo
        ((sound.todo h _ rfl).2 r (.head _))
      have booked := sound.booked h used
      have read : EStateM.run (holdingOf (s.kernel.process h).pid) s = .ok (s.heldOf h) s :=
        run_holdingOf booked
      have counted : EStateM.run (entry (s.heldOf h) r) s = .ok left s := run_entry found
      by_cases last : left - 1 = 0
      · obtain ⟨k, ran, alike, tracked⟩ :=
          Protocol.run_release s.policy.protocol sound.order sound.tracked used current owned
        have move : Move ⟨.expiring h (r :: todo), s⟩ ⟨.expiring h todo, _⟩ :=
          .giveBack found last ran alike tracked
        obtain ⟨s', rest, reaches⟩ := ih (sound.move move)
        refine ⟨s', ?_, .head move reaches⟩
        have awake : (s.kernel.queue (.waiting r)).head? ≠ some h := sound.not_waiting rfl
        have pid : (k.process h).pid = (s.kernel.process h).pid := by simp [alike.pid, awake]
        have released := run_release h (left - 1) booked ran
        have expires : EStateM.run (expire (s.kernel.process h).pid (r :: todo)) s =
            EStateM.run (release (s.kernel.process h).pid r >>= fun _ =>
              expire (s.kernel.process h).pid todo)
              (s.hold h ((s.heldOf h).put r (left - 1))) := by
          simp [expire, read, counted, last]
          rfl
        rw [expires, EStateM.run_bind_of_ok released, ← pid]
        exact rest
      · have move : Move ⟨.expiring h (r :: todo), s⟩ ⟨.expiring h todo, _⟩ := .elapse found last
        obtain ⟨s', rest, reaches⟩ := ih (sound.move move)
        refine ⟨s', ?_, .head move reaches⟩
        rw [← rest]
        simp [expire, read, counted, last]
        rfl

/-! ### The end of a tick -/

/-- Whoever has used up its lifespan has given everything back already. -/
theorem run_leave (sound : Sound ⟨.expiring h [], s⟩)
    (finished : (s.kernel.process h).lifespan ≤ (s.kernel.process h).age) :
    ∃ k, EStateM.run (leave h) s = .ok () (s.onto k) ∧ (s.kernel.retire h).Same k := by
  obtain ⟨_, running, used, _⟩ := sound.running rfl
  have account := sound.accounts h used
  -- All its windows lie within its lifespan, so its ledger is empty by now.
  have nothing : (s.held (s.kernel.process h).pid).keys = [] :=
    account.ledger_of_expiring.empty_of_finished account.valid finished
  obtain ⟨d, protocol, policy⟩ := sound.policy
  have policy : s.policy = .of d protocol := policy
  have moved : EStateM.run (onKernel (KernelM.move h .exit)) s =
      .ok () (s.onto (s.kernel.edit h (·.inState .exited))) :=
    run_onKernel (KernelM.run_move (by simp [running, Transition.sources]))
  have noted : EStateM.run (onKernel (KernelM.onProcess h fun p =>
      .ok { p with exitTick := some (s.kernel.tick + 1) }))
        (s.onto (s.kernel.edit h (·.inState .exited))) = .ok () (s.onto (s.kernel.retire h)) := rfl
  have told : EStateM.run (onKernel (s.policy.leaving h)) (s.onto (s.kernel.retire h)) =
      .ok () (s.onto (s.kernel.retire h)) := by
    rw [policy]
    exact run_onKernel rfl
  refine ⟨(s.kernel.retire h).record (.exited (s.kernel.process h).pid), ?_, .record _ _⟩
  unfold leave
  refine (EStateM.run_bind_of_ok run_process _).trans
    ((EStateM.run_bind_of_ok (run_holdingOf (sound.booked h used)) _).trans ?_)
  rw [nothing]
  exact (EStateM.run_bind_of_ok rfl _).trans ((EStateM.run_bind_of_ok moved _).trans
    ((EStateM.run_bind_of_ok (EStateM.run_get _) _).trans ((EStateM.run_bind_of_ok noted _).trans
      ((EStateM.run_bind_of_ok (EStateM.run_get _) _).trans (EStateM.run_bind_of_ok told _)))))

/-- A tick of the chosen process is a run of moves to the end of the tick. -/
theorem run_execute (sound : Sound ⟨.issuing h, s⟩) :
    ∃ event s', EStateM.run (execute h) s = .ok event s' ∧
      Moment.Reaches ⟨.issuing h, s⟩ ⟨.closing (some h) event, s'⟩ := by
  obtain ⟨granted, s₁, issued, reaches⟩ := run_issue sound rfl rfl
  have booked := sound.booked h (sound.running rfl).2.2.1
  have issued : EStateM.run (issueRequests h) s = .ok granted s₁ :=
    (EStateM.run_bind_of_ok run_process _).trans ((EStateM.run_bind_of_ok (EStateM.run_get _) _).trans
      ((EStateM.run_bind_of_ok (run_entry booked.get?_granted) _).trans issued))
  -- A refusal ends the tick. Otherwise it works, and what it holds is counted down; then it leaves
  -- if that was its last tick.
  cases granted with
  | false => exact ⟨.blocked, s₁, by simp [execute, issued], reaches⟩
  | true =>
      obtain ⟨reaches, satisfied⟩ := reaches
      have sound₁ : Sound ⟨.issuing h, s₁⟩ := sound.reaches reaches
      have running := (sound₁.running rfl).2.1
      have work := Move.work satisfied
      have ticked : EStateM.run (onKernel (KernelM.runTick h)) s₁ =
          .ok () (s₁.onto (s₁.kernel.edit h Process.older)) :=
        run_onKernel (KernelM.run_runTick running sound₁.young)
      obtain ⟨s₂, expired, counts⟩ := run_expire (sound₁.move work)
      have sound₂ : Sound ⟨.expiring h [], s₂⟩ :=
        (sound₁.move work).reaches counts
      have reaches₂ := reaches.trans (.head work counts)
      have read : EStateM.run (holdingOf (s₁.kernel.process h).pid)
          (s₁.onto (s₁.kernel.edit h Process.older)) =
            .ok (s₁.heldOf h) (s₁.onto (s₁.kernel.edit h Process.older)) :=
        run_holdingOf ((sound₁.booked h (sound₁.running rfl).2.2.1).congr rfl rfl)
      have expired : EStateM.run (expire (s₁.kernel.process h).pid (s₁.heldOf h).keys)
          (s₁.onto (s₁.kernel.edit h Process.older)) = .ok () s₂ := by
        simpa using expired
      by_cases finished : (s₂.kernel.process h).lifespan ≤ (s₂.kernel.process h).age
      · obtain ⟨k, left, same⟩ := run_leave sound₂ finished
        refine ⟨.exit, s₂.onto k, ?_, reaches₂.tail (.leave finished same)⟩
        simp [execute, issued, ticked, read, expired, Process.finished, finished, left]
      · refine ⟨.run, s₂, ?_, reaches₂.tail (.yield (Nat.not_le.mp finished))⟩
        simp [execute, issued, ticked, read, expired, Process.finished, finished]

/-- The parts of a tick: who was there to choose from, who was named, and what
came of it. -/
structure Staged (s g e : Simulation) (chosen : Option Handle) (event : TickEvent) : Prop where
  gathered : EStateM.run (arrivals s.pending) s = .ok () g
  arrived : Moment.Reaches ⟨.arriving, s⟩ ⟨.choosing, g⟩
  chose : ∃ k, g.policy.schedule.run g.kernel = .ok chosen k ∧
    Policy.Choice g.kernel chosen k
  rests : chosen = none → event = .idle ∧ Move ⟨.choosing, g⟩ ⟨.closing none .idle, e⟩
  turns : ∀ h, chosen = some h → ∃ d, g.kernel.Shuffled d.kernel ∧
    Moment.Reaches ⟨.choosing, g⟩ ⟨.issuing h, d⟩ ∧
    Moment.Reaches ⟨.issuing h, d⟩ ⟨.closing (some h) event, e⟩
  ended : EStateM.run tick s = .ok (e.line chosen event) (e.close (e.line chosen event))

namespace Staged

variable {g e : Simulation} {chosen : Option Handle} {event : TickEvent}

theorem acts (staged : Staged s g e chosen event) :
    Moment.Reaches ⟨.choosing, g⟩ ⟨.closing chosen event, e⟩ := by
  cases chosen with
  | none =>
      obtain ⟨rfl, move⟩ := staged.rests rfl
      exact .single move
  | some h =>
      obtain ⟨d, _, turn, works⟩ := staged.turns h rfl
      exact turn.trans works

theorem reaches (staged : Staged s g e chosen event) :
    Moment.Reaches ⟨.arriving, s⟩ ⟨.closing chosen event, e⟩ :=
  staged.arrived.trans staged.acts

end Staged

/-- Every tick of a sound simulation has these parts. -/
theorem run_staged (sound : Sound ⟨.arriving, s⟩) :
    ∃ g e chosen event, Staged s g e chosen event := by
  obtain ⟨g, arrived, arrivals⟩ := run_arrivals sound rfl
  have sound₁ : Sound ⟨.choosing, g⟩ := sound.reaches arrivals
  obtain ⟨d, protocol, policy⟩ := sound₁.policy
  have policy : g.policy = .of d protocol := policy
  obtain ⟨chosen, k, scheduled, choice⟩ := d.run_schedule sound₁.order
  have scheduled : g.policy.schedule.run g.kernel = .ok chosen k := by
    rw [policy]
    exact scheduled
  have chose : EStateM.run (onKernel g.policy.schedule) g = .ok chosen (g.onto k) :=
    run_onKernel scheduled
  -- Without a choice the tick is idle; whoever is chosen is put on the processor and has its tick.
  cases chosen with
  | none =>
      have idles := move_idle choice
      refine ⟨g, g.onto (k.turnTo none), none, .idle, arrived, arrivals, ⟨k, scheduled, choice⟩,
        fun _ => ⟨rfl, idles⟩, nofun, ?_⟩
      have clock : k.tick = s.kernel.tick := Moment.Reaches.tick (arrivals.tail idles)
      simp [tick, arrived, chose, Simulation.line, Simulation.close, Simulation.onto, clock]
  | some h =>
      obtain ⟨s₂, dispatched, turn, shuffled⟩ := run_chosen sound₁ choice rfl rfl
      have sound₂ := sound₁.reaches turn
      obtain ⟨event, e, executed, works⟩ := run_execute sound₂
      refine ⟨g, e, some h, event, arrived, arrivals, ⟨k, scheduled, choice⟩, nofun, ?_, ?_⟩
      · rintro _ ⟨⟩
        exact ⟨s₂, shuffled, turn, works⟩
      · have clock : e.kernel.tick = s.kernel.tick :=
          Moment.Reaches.tick (arrivals.trans (turn.trans works))
        have pid : (e.kernel.process h).pid = (s₂.kernel.process h).pid :=
          congrArg (·.pid) (sound₂.stays_of_reaches works (sound₂.running rfl).2.2.1).2
        simp [tick, arrived, chose, dispatched, executed, Simulation.line, Simulation.close, clock,
          pid]

/-- A tick ends without a fault, and what it does is a run of moves. -/
theorem run_tick (sound : Sound ⟨.arriving, s⟩) :
    ∃ chosen event s',
      EStateM.run tick s = .ok (s'.line chosen event) (s'.close (s'.line chosen event)) ∧
      Moment.Reaches ⟨.arriving, s⟩ ⟨.closing chosen event, s'⟩ := by
  obtain ⟨g, e, chosen, event, staged⟩ := run_staged sound
  exact ⟨chosen, event, e, staged.ended, staged.reaches⟩

end Uniprocessor.SimulationM
