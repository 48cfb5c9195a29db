import Uniprocessor.Proofs.Kernel.Alike
import Uniprocessor.Proofs.Kernel.Operations

/-!
What asking for a resource and giving one back do, under each protocol.

In an orderly kernel the running process is granted a free resource
(`run_acquire_granted`), waits for one that another process owns
(`run_acquire_refused`), and gives back what it owns, which wakes the head of
the queue (`run_release`). None of these faults, and every protocol leaves what
first come, first served leaves, but for boosts, log and memory.
-/

namespace Uniprocessor

/-- Boosts a process by the most urgent waiter of a resource, if that helps. -/
def Kernel.inherit (k : Kernel) (h : Handle) (r : Int) : Kernel :=
  match Protocol.urgentWaiter k r with
  | some priority =>
      if priority < (k.process h).base then k.edit h (·.boost r priority) else k
  | none => k

/-- Raises a process to the ceiling of a resource, if that helps. -/
def Kernel.raise (k : Kernel) (h : Handle) (r : Int) : Kernel :=
  match (k.resource r).ceiling with
  | some level =>
      if level < (k.process h).base then
        (k.edit h (·.boost r level)).record (.raised (k.process h).pid level r)
      else k
  | none => k

/-- Notes on what a process number is blocked, or forgets it. -/
def Kernel.noteBlocked (k : Kernel) (change : Table Int Int → Table Int Int) : Kernel :=
  k.remember { k.memory with blockedOn := change k.memory.blockedOn }

/-- The running process waits in the queue of the resource, and is noted as
blocked on it. -/
def Kernel.block (k : Kernel) (r : Int) (h owner : Handle) : Kernel :=
  ((k.park r h).record (.waits (k.process h).pid r (k.process owner).pid)).noteBlocked
    (·.put (k.process h).pid r)

/-- What a release leaves: the resource is free, the head of its queue is awake,
and the log tells both. -/
def Kernel.freed (k : Kernel) (r : Int) (h : Handle) : Kernel :=
  let freed := (k.assign r none).record (.released (k.process h).pid r)
  match k.queue (.waiting r) with
  | [] => freed
  | w :: _ => (freed.wake r w).record (.woken (k.process w).pid r)

/-- What a release leaves where the releaser loses what the resource gave it. -/
def Kernel.lower (k : Kernel) (h : Handle) (r : Int) : Kernel :=
  let lowered := (k.freed r h).edit h (·.unboost r)
  lowered.record (.backTo (lowered.process h).pid (lowered.process h).priority)

/-- What a release leaves where it is noted that the woken process is blocked no
longer. -/
def Kernel.handBack (k : Kernel) (r : Int) (h : Handle) : Kernel :=
  match (k.queue (.waiting r)).head? with
  | none => k.freed r h
  | some w => (k.freed r h).noteBlocked (·.erase (k.process w).pid)

/-- Rebuilds the boosts of a process from the waiters on what it owns. -/
def Kernel.rebuild (k : Kernel) (h : Handle) : Kernel :=
  let cleared := k.edit h Process.clearBoosts
  let rebuilt := (cleared.heldBy h).foldl (fun k r => k.inherit h r) cleared
  rebuilt.record (.recomputed (rebuilt.process h).pid (rebuilt.process h).priority)

namespace Protocol

open KernelM

variable {k : Kernel} {h w : Handle} {r : Int}

/-! ### First come, first served -/

theorem run_caller {access : Access} (current : k.current = some h) :
    (caller access r).run k = .ok h k := by
  simp [caller, current]

theorem run_acquireFifo_granted (current : k.current = some h) (inTable : 0 ≤ r ∧ r < k.size)
    (free : (k.resource r).owner = none) :
    (acquireFifo r).run k =
      .ok true ((k.assign r (some h)).record (.acquired (k.process h).pid r)) := by
  simp [acquireFifo, run_caller, current, run_resource inTable, free]

theorem run_acquireFifo_refused {owner : Handle} (current : k.current = some h)
    (inTable : 0 ≤ r ∧ r < k.size) (owned : (k.resource r).owner = some owner)
    (other : owner ≠ h) (running : (k.process h).state = .running)
    (unlinked : (k.process h).queue = none) :
    (acquireFifo r).run k =
      .ok false ((k.park r h).record (.waits (k.process h).pid r (k.process owner).pid)) := by
  have moved := run_move (k := k) (h := h) (t := .wait) (by simp [running, Transition.sources])
  have linked := run_enqueue (k := k.edit h (·.inState .waiting)) (h := h) (q := .waiting r)
    (by simp [unlinked])
  simp [acquireFifo, run_caller, current, run_resource inTable, owned, other, moved, linked,
    Transition.target, Kernel.park]

/-- Where whoever stands in the queue waits, the one at its head is woken, and the release
says who it is. -/
theorem run_releaseFifo_of_asleep (current : k.current = some h) (inTable : 0 ≤ r ∧ r < k.size)
    (owned : (k.resource r).owner = some h)
    (asleep : ∀ w ∈ k.queue (.waiting r), (k.process w).state = .waiting) :
    (releaseFifo r).run k = .ok (k.queue (.waiting r)).head? (k.freed r h) := by
  let freed := (k.assign r none).record (.released (k.process h).pid r)
  -- From an empty queue nobody is woken; otherwise the first one gets ready.
  cases waiters : k.queue (.waiting r) with
  | nil =>
      have head : (takeHead (.waiting r)).run freed = .ok none freed :=
        run_takeHead_nil (by simp [freed, waiters])
      simp [releaseFifo, run_caller current, run_resource inTable, owned, head, freed,
        Kernel.freed, waiters]
  | cons w rest =>
      have waiting := asleep w (by rw [waiters]; exact .head _)
      have head : (takeHead (.waiting r)).run freed =
          .ok (some w) (freed.unlink (.waiting r) w) :=
        run_takeHead_cons (show freed.queue (.waiting r) = w :: rest by simp [freed, waiters])
      have moved : (move w .wake).run (freed.unlink (.waiting r) w) =
          .ok () ((freed.unlink (.waiting r) w).edit w (·.inState .ready)) :=
        run_move (by simp [freed, waiting, Transition.sources])
      have linked : (enqueue .ready w).run
          ((freed.unlink (.waiting r) w).edit w (·.inState .ready)) = .ok () (freed.wake r w) :=
        run_enqueue (by simp)
      simp [releaseFifo, run_caller current, run_resource inTable, owned, head, moved, linked,
        freed, Kernel.freed, waiters]

theorem run_releaseFifo (order : k.Orderly) (current : k.current = some h)
    (owned : (k.resource r).owner = some h) :
    (releaseFifo r).run k = .ok (k.queue (.waiting r)).head? (k.freed r h) :=
  run_releaseFifo_of_asleep current (order.owners r h owned).1 owned fun w mem =>
    (order.placed w (order.linked.used mem)).state_of_waiting ((order.linked.mark w _).mpr mem)

theorem alike_freed (order : k.Orderly) : (k.free r).Alike (k.freed r h) := by
  unfold Kernel.free Kernel.freed
  cases waiters : k.queue (.waiting r) with
  | nil => exact .record _ _
  | cons w rest =>
      have used : w ∈ k.handles := order.linked.used (by rw [waiters]; exact .head _)
      refine Kernel.Alike.trans ?_ (.record _ _)
      constructor <;> simp [used]

@[simp] theorem memory_freed : (k.freed r h).memory = k.memory := by
  unfold Kernel.freed
  cases k.queue (.waiting r) <;> simp

/-- A release wakes the head of the queue and boosts nobody. -/
@[simp] theorem boosts_freed (k : Kernel) (r : Int) (h j : Handle) :
    ((k.freed r h).process j).boosts = (k.process j).boosts := by
  unfold Kernel.freed
  cases k.queue (.waiting r) <;> simp

@[simp] theorem size_freed : (k.freed r h).size = k.size := by
  unfold Kernel.freed
  cases k.queue (.waiting r) <;> simp

/-! ### Elevations -/

theorem run_raiseToCeiling (inTable : 0 ≤ r ∧ r < k.size) :
    (raiseToCeiling h r).run k = .ok () (k.raise h r) := by
  unfold Kernel.raise
  cases level : (k.resource r).ceiling with
  | none => simp [raiseToCeiling, run_resource inTable, level]
  | some c =>
      by_cases helps : c < (k.process h).base <;>
        simp [raiseToCeiling, run_resource inTable, level, helps]

theorem alike_raise (used : h ∈ k.handles) (r : Int) : k.Alike (k.raise h r) := by
  unfold Kernel.raise
  split
  · split
    · exact (Kernel.Alike.edit used (Kernel.clearBoosts_boost r _)).trans (.record _ _)
    · exact .refl k
  · exact .refl k

@[simp] theorem memory_raise : (k.raise h r).memory = k.memory := by
  unfold Kernel.raise
  split
  · split <;> simp
  · rfl

theorem run_inheritFromWaiters :
    (inheritFromWaiters h r).run k = .ok () (k.inherit h r) := by
  unfold Kernel.inherit
  cases found : urgentWaiter k r with
  | none => simp [inheritFromWaiters, found]
  | some priority =>
      by_cases helps : priority < (k.process h).base <;>
        simp [inheritFromWaiters, found, helps]

theorem alike_inherit (used : h ∈ k.handles) (r : Int) : k.Alike (k.inherit h r) := by
  unfold Kernel.inherit
  split
  · split
    · exact .edit used (Kernel.clearBoosts_boost r _)
    · exact .refl k
  · exact .refl k

@[simp] theorem memory_inherit : (k.inherit h r).memory = k.memory := by
  unfold Kernel.inherit
  split
  · split <;> simp
  · rfl

/-- The walk of a donation ends well where all that is noted is in the table. It changes
boosts and the log. -/
theorem run_donate (priority : Int) (fuel : Nat) (met : List Int) (inTable : 0 ≤ r ∧ r < k.size)
    (tracked : k.Tracked) :
    ∃ k', (donate priority fuel met r).run k = .ok () k' ∧ (k.Orderly → k.Alike k') ∧
      k'.memory = k.memory := by
  -- On the fuel. The notes lead to resources of the table, so every step can be made.
  induction fuel generalizing k r met with
  | zero => exact ⟨k, rfl, fun _ => .refl k, rfl⟩
  | succ fuel ih =>
      cases owned : (k.resource r).owner with
      | none =>
          exact ⟨k, by simp [donate, run_resource inTable, owned], fun _ => .refl k, rfl⟩
      | some owner =>
          by_cases stop : (k.process owner).pid ∈ met ∨ (k.process owner).priority ≤ priority
          · exact ⟨k, by simp [donate, run_resource inTable, owned, stop], fun _ => .refl k, rfl⟩
          · let raised := (k.edit owner (·.boost r priority)).record
              (.inherits (k.process owner).pid priority r)
            have alike (order : k.Orderly) : k.Alike raised :=
              (Kernel.Alike.edit (order.owners r owner owned).2.1
                (Kernel.clearBoosts_boost r priority)).trans (.record _ _)
            have memory : raised.memory = k.memory := by simp [raised]
            have size : raised.size = k.size := by simp [raised]
            cases next : k.memory.blockedOn.get? (k.process owner).pid with
            | none =>
                refine ⟨raised, ?_, alike, memory⟩
                simp [donate, run_resource inTable, owned, stop, raised, next]
            | some i =>
                obtain ⟨k', ran, alike', memory'⟩ :=
                  ih ((k.process owner).pid :: met) (by rw [size]; exact tracked _ _ next)
                    (tracked.congr memory size)
                refine ⟨k', ?_, fun order => ?_, memory'.trans memory⟩
                · rw [← ran]
                  simp [donate, run_resource inTable, owned, stop, raised, next]
                · exact (alike order).trans (alike' (order.congr (alike order).samePlaces))

theorem run_forM_inherit (held : List Int) :
    (held.forM (inheritFromWaiters h)).run k =
      .ok () (held.foldl (fun k r => k.inherit h r) k) := by
  induction held generalizing k with
  | nil => rfl
  | cons r held ih => exact (EStateM.run_bind_of_ok run_inheritFromWaiters _).trans ih

theorem alike_foldl_inherit (used : h ∈ k.handles) (held : List Int) :
    k.Alike (held.foldl (fun k r => k.inherit h r) k) := by
  induction held generalizing k with
  | nil => exact .refl k
  | cons r held ih =>
      have first := alike_inherit used r
      exact first.trans (ih (by rw [first.handles]; exact used))

theorem memory_foldl_inherit (held : List Int) :
    (held.foldl (fun k r => k.inherit h r) k).memory = k.memory := by
  induction held generalizing k with
  | nil => rfl
  | cons r held ih => exact ih.trans memory_inherit

theorem run_recompute : (recompute h).run k = .ok () (k.rebuild h) :=
  EStateM.run_bind_of_ok run_clearBoosts _ |>.trans
    (EStateM.run_bind_of_ok (run_forM_inherit _) _)

theorem alike_rebuild (used : h ∈ k.handles) : k.Alike (k.rebuild h) := by
  have cleared : k.Alike (k.edit h Process.clearBoosts) := .edit used (fun _ => rfl)
  have rebuilt := alike_foldl_inherit (k := k.edit h Process.clearBoosts) (h := h)
    (by rw [cleared.handles]; exact used) ((k.edit h Process.clearBoosts).heldBy h)
  exact (cleared.trans rebuilt).trans (.record _ _)

@[simp] theorem memory_rebuild : (k.rebuild h).memory = k.memory := by
  simp [Kernel.rebuild, memory_foldl_inherit]

/-! ### The protocols -/

theorem run_setBlockedOn (change : Table Int Int → Table Int Int) :
    (setBlockedOn change).run k = .ok () (k.noteBlocked change) := rfl

/-- Resets touch nothing that a run starts with, and no process. -/
theorem run_reset (protocol : Protocol) :
    ∃ k', protocol.reset.run k = .ok () k' ∧ k.Alike k' ∧ ∀ h, k'.process h = k.process h := by
  cases protocol with
  | fifo | ceiling => exact ⟨k, rfl, .refl k, fun _ => rfl⟩
  | inheritance => exact ⟨_, run_setBlockedOn (fun _ => {}), .remember k _, fun _ => rfl⟩

/-- Under inheritance a new owner inherits from the waiters at once. -/
theorem run_acquire_inheriting (current : k.current = some h) (inTable : 0 ≤ r ∧ r < k.size)
    (free : (k.resource r).owner = none) :
    (acquire .inheritance r).run k =
      .ok true (((k.assign r (some h)).record (.acquired (k.process h).pid r)).inherit h r) := by
  simp [acquire, run_caller current, run_acquireFifo_granted current inTable free,
    run_inheritFromWaiters]

/-- Under ceilings a new owner is raised at once. -/
theorem run_acquire_raising (current : k.current = some h) (inTable : 0 ≤ r ∧ r < k.size)
    (free : (k.resource r).owner = none) :
    (acquire .ceiling r).run k =
      .ok true (((k.assign r (some h)).record (.acquired (k.process h).pid r)).raise h r) := by
  simp [acquire, run_caller current, run_acquireFifo_granted current inTable free,
    run_raiseToCeiling, inTable]

/-- A free resource is granted to the running process. -/
theorem run_acquire_granted (protocol : Protocol) (used : h ∈ k.handles)
    (current : k.current = some h) (inTable : 0 ≤ r ∧ r < k.size)
    (free : (k.resource r).owner = none) :
    ∃ k', (protocol.acquire r).run k = .ok true k' ∧ (k.assign r (some h)).Alike k' ∧
      k'.memory = k.memory := by
  let taken := (k.assign r (some h)).record (.acquired (k.process h).pid r)
  have ran : (acquireFifo r).run k = .ok true taken :=
    run_acquireFifo_granted current inTable free
  have alike : (k.assign r (some h)).Alike taken := .record _ _
  have memory : taken.memory = k.memory := by simp [taken]
  have used' : h ∈ taken.handles := by simpa [taken] using used
  cases protocol with
  | fifo => exact ⟨taken, by simp [acquire, run_caller current, ran], alike, memory⟩
  | ceiling =>
      exact ⟨taken.raise h r, run_acquire_raising current inTable free,
        alike.trans (alike_raise used' r), by simp [memory]⟩
  | inheritance =>
      exact ⟨taken.inherit h r, run_acquire_inheriting current inTable free,
        alike.trans (alike_inherit used' r), by simp [memory]⟩

/-- Under inheritance a new waiter passes its priority on. -/
theorem run_acquire_donating {owner : Handle} {k' : Kernel} (current : k.current = some h)
    (inTable : 0 ≤ r ∧ r < k.size) (owned : (k.resource r).owner = some owner)
    (other : owner ≠ h) (running : (k.process h).state = .running)
    (unlinked : (k.process h).queue = none)
    (donated : (donate ((k.block r h owner).process h).priority
      ((k.block r h owner).resources.size + 1) [(k.process h).pid] r).run (k.block r h owner) =
        .ok () k') :
    (acquire .inheritance r).run k = .ok false k' := by
  have ran := run_acquireFifo_refused current inTable owned other running unlinked
  let parked := (k.park r h).record (.waits (k.process h).pid r (k.process owner).pid)
  have same : (parked.process h).pid = (k.process h).pid := by simp [parked]
  have noted : (setBlockedOn (·.put (parked.process h).pid r)).run parked =
      .ok () (k.block r h owner) := by
    rw [same]
    rfl
  have kept : (k.block r h owner).process h = parked.process h := rfl
  rw [← same, kept] at donated
  exact (EStateM.run_bind_of_ok (run_caller current) _).trans
    ((EStateM.run_bind_of_ok ran _).trans ((EStateM.run_bind_of_ok run_process _).trans
      ((EStateM.run_bind_of_ok noted _).trans ((EStateM.run_bind_of_ok (EStateM.run_get _) _).trans
        (EStateM.run_bind_of_ok donated _)))))

theorem block_views (k : Kernel) (r : Int) (h owner : Handle) :
    (∀ i, ((k.block r h owner).resource i).owner = (k.resource i).owner) ∧
      (∀ i, (k.block r h owner).queue (.waiting i) =
        if r = i then k.queue (.waiting r) ++ [h] else k.queue (.waiting i)) ∧
      (∀ p, ((k.block r h owner).process p).boosts = (k.process p).boosts ∧
        ((k.block r h owner).process p).base = (k.process p).base ∧
        ((k.block r h owner).process p).pid = (k.process p).pid) ∧
      (k.block r h owner).memory.blockedOn = k.memory.blockedOn.put (k.process h).pid r := by
  simp [Kernel.block, Kernel.noteBlocked]

theorem alike_block {owner : Handle} : (k.park r h).Alike (k.block r h owner) :=
  (Kernel.Alike.record _ _).trans (.remember _ _)

/-- To note that somebody is blocked on a resource of the table keeps the notes in the table. -/
theorem tracked_noteBlocked (tracked : k.Tracked) (inTable : 0 ≤ r ∧ r < k.size) (pid : Int) :
    (k.noteBlocked (·.put pid r)).Tracked := by
  intro other i found
  by_cases same : pid = other
  · have here : r = i := by simpa [Kernel.noteBlocked, same] using found
    subst here
    simpa [Kernel.noteBlocked] using inTable
  · simpa [Kernel.noteBlocked] using
      tracked other i (by simpa [Kernel.noteBlocked, same] using found)

theorem tracked_block {owner : Handle} (tracked : k.Tracked) (inTable : 0 ≤ r ∧ r < k.size) :
    (k.block r h owner).Tracked :=
  tracked_noteBlocked (tracked.congr (by simp) (by simp)) (by simpa using inTable) _

/-- The running process waits for a resource that another process owns. -/
theorem run_acquire_refused (protocol : Protocol) {owner : Handle} (order : k.Orderly)
    (tracked : k.Tracked) (used : h ∈ k.handles) (current : k.current = some h)
    (running : (k.process h).state = .running) (inTable : 0 ≤ r ∧ r < k.size)
    (owned : (k.resource r).owner = some owner) (other : owner ≠ h) :
    ∃ k', (protocol.acquire r).run k = .ok false k' ∧ (k.park r h).Alike k' ∧ k'.Tracked := by
  have unlinked := (order.placed h used).queue_of_running running
  have ran := run_acquireFifo_refused current inTable owned other running unlinked
  cases protocol with
  | fifo | ceiling =>
      exact ⟨(k.park r h).record (.waits (k.process h).pid r (k.process owner).pid),
        (EStateM.run_bind_of_ok (run_caller current) _).trans (EStateM.run_bind_of_ok ran _),
        .record _ _, tracked.congr (by simp) (by simp)⟩
  | inheritance =>
      have alike : (k.park r h).Alike (k.block r h owner) := alike_block
      have order' : (k.block r h owner).Orderly :=
        (order.park used running inTable (by simp [owned, other])).congr alike.samePlaces
      have size : (k.block r h owner).size = k.size := by simp [alike.size]
      obtain ⟨k', donated, alike', memory⟩ :=
        run_donate (r := r) ((k.block r h owner).process h).priority
          ((k.block r h owner).resources.size + 1) [(k.process h).pid]
          (by rw [size]; exact inTable) (tracked_block tracked inTable)
      have alike' := alike' order'
      exact ⟨k', run_acquire_donating current inTable owned other running unlinked donated,
        alike.trans alike', (tracked_block tracked inTable).congr memory alike'.size⟩

theorem alike_handBack (order : k.Orderly) : (k.free r).Alike (k.handBack r h) := by
  unfold Kernel.handBack
  cases (k.queue (.waiting r)).head? with
  | none => exact alike_freed order
  | some w => exact (alike_freed order).trans (.remember _ _)

theorem tracked_handBack (tracked : k.Tracked) : (k.handBack r h).Tracked := by
  unfold Kernel.handBack
  cases (k.queue (.waiting r)).head? with
  | none => exact tracked.congr memory_freed size_freed
  | some w =>
      intro pid i found
      simp only [Kernel.noteBlocked, Kernel.remember_frame, memory_freed, size_freed,
        Table.get?_erase] at found ⊢
      split at found
      · cases found
      · exact tracked pid i found

/-- Under ceilings the releaser loses what the resource gave it. -/
theorem run_release_lowering (order : k.Orderly) (current : k.current = some h)
    (owned : (k.resource r).owner = some h) :
    (release .ceiling r).run k = .ok () (k.lower h r) :=
  (EStateM.run_bind_of_ok (run_caller current) _).trans
    ((EStateM.run_bind_of_ok (run_releaseFifo order current owned) _).trans
      (EStateM.run_bind_of_ok run_unboost _))

theorem alike_lower (order : k.Orderly) (used : h ∈ k.handles) :
    (k.free r).Alike (k.lower h r) := by
  have alike := alike_freed (r := r) (h := h) order
  have unboosted : (k.freed r h).Alike ((k.freed r h).edit h (·.unboost r)) :=
    .edit (by rw [alike.handles, order.handles_free]; exact used) (fun _ => rfl)
  exact (alike.trans unboosted).trans (.record _ _)

/-- Under inheritance the releaser keeps what its other waiters pass on. -/
theorem run_release_rebuilding (order : k.Orderly) (current : k.current = some h)
    (owned : (k.resource r).owner = some h) :
    (release .inheritance r).run k = .ok () ((k.handBack r h).rebuild h) := by
  have ran := run_releaseFifo order current owned
  refine (EStateM.run_bind_of_ok (run_caller current) _).trans
    ((EStateM.run_bind_of_ok ran _).trans ?_)
  unfold Kernel.handBack
  cases (k.queue (.waiting r)).head? with
  | none => exact run_recompute
  | some w =>
      have noted : (setBlockedOn (·.erase ((k.freed r h).process w).pid)).run (k.freed r h) =
          .ok () ((k.freed r h).noteBlocked (·.erase (k.process w).pid)) := by
        have same : ((k.freed r h).process w).pid = (k.process w).pid := by
          rw [(alike_freed order).pid, Kernel.process_free]
          split <;> simp
        rw [same]
        rfl
      exact (EStateM.run_bind_of_ok run_process _).trans
        ((EStateM.run_bind_of_ok noted _).trans run_recompute)

/-- The running process gives back a resource that it owns. -/
theorem run_release (protocol : Protocol) (order : k.Orderly) (tracked : k.Tracked)
    (used : h ∈ k.handles) (current : k.current = some h)
    (owned : (k.resource r).owner = some h) :
    ∃ k', (protocol.release r).run k = .ok () k' ∧ (k.free r).Alike k' ∧ k'.Tracked := by
  have ran := run_releaseFifo order current owned
  have alike := alike_freed (r := r) (h := h) order
  cases protocol with
  | fifo =>
      exact ⟨k.freed r h,
        (EStateM.run_bind_of_ok (run_caller current) _).trans (EStateM.run_bind_of_ok ran _),
        alike, tracked.congr memory_freed size_freed⟩
  | ceiling =>
      exact ⟨k.lower h r, run_release_lowering order current owned, alike_lower order used,
        tracked.congr (by simp [Kernel.lower]) (by simp [Kernel.lower])⟩
  | inheritance =>
      have alike' := alike_handBack (r := r) (h := h) order
      have used' : h ∈ (k.handBack r h).handles := by
        rw [alike'.handles, order.handles_free]
        exact used
      have rebuilt := alike_rebuild used'
      exact ⟨(k.handBack r h).rebuild h, run_release_rebuilding order current owned,
        alike'.trans rebuilt, (tracked_handBack tracked).congr memory_rebuild rebuilt.size⟩

end Protocol

end Uniprocessor
