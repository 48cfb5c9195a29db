import Uniprocessor.Proofs.Kernel.Order
import Uniprocessor.Proofs.Protocol.Twin
import Uniprocessor.Workbench

/-!
Marks and queues are kept in step, whatever is done and however it ends.

Order in a kernel takes for granted that operations come in the order in which a
simulation makes them. Marks and queues agree without that: no state and no
order of calls is asked for, only that whoever is named is in use
(`Kernel.Kept`). An operation keeps this if it does so where it ends well and
where it faults halfway (`EStateM.Keeps`). Every operation of the kernel, the
protocols and the disciplines does.
-/

namespace EStateM

variable {ε σ α β : Type} {I : σ → Prop} {P Q : α → Prop} {s : σ}

/-- However the program ends, it leaves a state of the kind `I`. If it ends well, its
answer is of the kind `Q`. -/
def Keeps (I : σ → Prop) (Q : α → Prop) (x : EStateM ε σ α) (s : σ) : Prop :=
  match x.run s with
  | .ok a t => Q a ∧ I t
  | .error _ t => I t

/-- The state that the program leaves, however it ends. -/
def after (x : EStateM ε σ α) (s : σ) : σ :=
  match x.run s with
  | .ok _ t | .error _ t => t

namespace Keeps

theorem after {x : EStateM ε σ α} (keeps : Keeps I Q x s) : I (x.after s) := by
  unfold Keeps at keeps
  unfold EStateM.after
  split at keeps
  · exact keeps.2
  · exact keeps

theorem pure {a : α} (answer : Q a) (kept : I s) : Keeps I Q (Pure.pure a : EStateM ε σ α) s :=
  ⟨answer, kept⟩

theorem throw (e : ε) (kept : I s) : Keeps I Q (throw e : EStateM ε σ α) s := kept

theorem modify {f : σ → σ} (kept : I (f s)) :
    Keeps I (fun _ => True) (modify f : EStateM ε σ Unit) s :=
  ⟨trivial, kept⟩

theorem bind {x : EStateM ε σ β} {f : β → EStateM ε σ α} {P : β → Prop} (first : Keeps I P x s)
    (rest : ∀ b t, P b → I t → Keeps I Q (f b) t) : Keeps I Q (x >>= f) s := by
  unfold Keeps at first ⊢
  rw [run_bind]
  cases ran : x.run s with
  | error e t =>
      rw [ran] at first
      exact first
  | ok b t =>
      rw [ran] at first
      exact rest b t first.1 first.2

/-- What only reads leaves the state as it is. -/
theorem read {x : EStateM ε σ β} {f : β → EStateM ε σ α} {b : β} (ran : x.run s = .ok b s)
    (rest : Keeps I Q (f b) s) : Keeps I Q (x >>= f) s := by
  unfold Keeps
  rw [run_bind_of_ok ran]
  exact rest

theorem forM {γ : Type} {l : List γ} {f : γ → EStateM ε σ Unit} (kept : I s)
    (each : ∀ c t, I t → Keeps I (fun _ => True) (f c) t) :
    Keeps I (fun _ => True) (l.forM f) s := by
  induction l generalizing s with
  | nil => exact .pure trivial kept
  | cons c l ih => exact (each c s kept).bind fun _ _ _ kept => ih kept

end Keeps

end EStateM

namespace Uniprocessor

open EStateM (Keeps)

namespace Kernel

variable {k k' : Kernel} {hs : List Handle} {h : Handle} {r : Int} {q : QueueId}

/-- Marks and queues agree, the handles in use are these, and the current process and
every owner are among them. -/
structure Kept (hs : List Handle) (k : Kernel) : Prop where
  linked : k.Linked
  handles : k.handles = hs
  current : ∀ h, k.current = some h → h ∈ hs
  owner : ∀ r h, (k.resource r).owner = some h → h ∈ hs

namespace Kept

/-- What touches neither marks, queues, owners nor the current process. -/
theorem congr (kept : k.Kept hs) (marks : ∀ h, (k'.process h).queue = (k.process h).queue)
    (queues : ∀ q, k'.queue q = k.queue q) (handles : k'.handles = k.handles)
    (current : k'.current = k.current)
    (owner : ∀ r, (k'.resource r).owner = (k.resource r).owner) : k'.Kept hs where
  linked := kept.linked.congr marks queues
  handles := handles.trans kept.handles
  current h is := kept.current h (current ▸ is)
  owner r h owned := kept.owner r h (owner r ▸ owned)

theorem setProcess (kept : k.Kept hs) (used : h ∈ hs) {p : Process}
    (mark : p.queue = (k.process h).queue) : (k.setProcess h p).Kept hs := by
  have inUse : h ∈ k.handles := kept.handles ▸ used
  refine kept.congr (fun j => ?_) (fun q => by cases q <;> rfl) (handles_setProcess inUse p) rfl
    fun _ => rfl
  rw [process_setProcess]
  split
  · rename_i same
    rw [mark, same]
  · rfl

theorem link (kept : k.Kept hs) (used : h ∈ hs) (free : (k.process h).queue = none) :
    (k.link q h).Kept hs where
  linked := kept.linked.link free
  handles := (handles_link q (kept.handles ▸ used)).trans kept.handles
  current := by simpa using kept.current
  owner := by simpa using kept.owner

theorem unlink (kept : k.Kept hs) (mem : h ∈ k.queue q) : (k.unlink q h).Kept hs where
  linked := kept.linked.unlink mem
  handles := (handles_unlink q (kept.linked.used mem)).trans kept.handles
  current := by simpa using kept.current
  owner := by simpa using kept.owner

theorem used_of_mem (kept : k.Kept hs) (mem : h ∈ k.queue q) : h ∈ hs :=
  kept.handles ▸ kept.linked.used mem

theorem assign (kept : k.Kept hs) {owner : Option Handle} (used : ∀ h, owner = some h → h ∈ hs) :
    (k.assign r owner).Kept hs where
  linked := kept.linked.congr (by simp) (by simp)
  handles := by simpa using kept.handles
  current := by simpa using kept.current
  owner i h owned := by
    rw [owner_assign] at owned
    split at owned
    · exact used h owned
    · exact kept.owner i h owned

theorem cap (kept : k.Kept hs) (ceiling : Option Int) : (k.cap r ceiling).Kept hs :=
  kept.congr (by simp) (by simp) (by simp) (by simp) (by simp)

theorem turnTo (kept : k.Kept hs) {current : Option Handle}
    (used : ∀ h, current = some h → h ∈ hs) : (k.turnTo current).Kept hs where
  linked := kept.linked.congr (by simp) (by simp)
  handles := by simpa using kept.handles
  current := by simpa using used
  owner := by simpa using kept.owner

theorem remember (kept : k.Kept hs) (memory : Memory) : (k.remember memory).Kept hs :=
  kept.congr (by simp) (by simp) (by simp) (by simp) (by simp)

theorem record (kept : k.Kept hs) (e : Event) : (k.record e).Kept hs :=
  kept.congr (by simp) (by simp) (by simp) (by simp) (by simp)

theorem later (kept : k.Kept hs) : k.later.Kept hs :=
  kept.congr (by simp) (by simp) (by simp) (by simp) (by simp)

/-- A queue that is made is empty like one that is not there. -/
theorem setQueue_self (kept : k.Kept hs) (q : QueueId) : (k.setQueue q (k.queue q)).Kept hs := by
  refine kept.congr (fun j => ?_) (fun p => ?_) (by simp) (by simp) (by simp)
  · cases q <;> rfl
  · rw [queue_setQueue]
    split
    · rename_i same
      rw [same]
    · rfl

/-- A process that is new has no mark, and neither has a handle not in use. -/
theorem enroll (kept : k.Kept hs) (fresh : k.nextHandle ∉ hs) {p : Process}
    (free : p.queue = none) : (k.enroll p).Kept (hs ++ [k.nextHandle]) where
  linked := by
    refine kept.linked.congr (fun j => ?_) (k.enroll_frame p).2.1
    rw [process_enroll]
    split
    · rename_i same
      rw [free, ← same, process_of_unused (kept.handles ▸ fresh)]
      rfl
    · rfl
  handles := by rw [handles_enroll (kept.handles ▸ fresh), kept.handles]
  current h is := List.mem_append_left _ (kept.current h is)
  owner r h owned := List.mem_append_left _ (kept.owner r h owned)

end Kept

end Kernel

open Kernel (Kept)

/-- Whoever is named is among these. -/
def Names (hs : List Handle) (chosen : Option Handle) : Prop := ∀ h, chosen = some h → h ∈ hs

theorem Names.none (hs : List Handle) : Names hs none := nofun

theorem Names.some {hs : List Handle} {h : Handle} (used : h ∈ hs) : Names hs (some h) := by
  rintro _ ⟨⟩
  exact used

/-- Nothing is asked of the answer. -/
abbrev Whatever {α : Type} (_ : α) : Prop := True

namespace KernelM

variable {hs : List Handle} {k : Kernel} {h : Handle} {r : Int} {q : QueueId} {α : Type}

theorem keeps_onProcess (kept : k.Kept hs) (used : h ∈ hs)
    {change : Process → Except Fault Process}
    (marks : ∀ p p', change p = .ok p' → p'.queue = p.queue) :
    Keeps (Kept hs) Whatever (onProcess h change) k := by
  refine .read (EStateM.run_get k) ?_
  cases changed : change (k.process h) with
  | error fault => exact .throw fault kept
  | ok p => exact .modify (kept.setProcess used (marks _ _ changed))

theorem keeps_move (kept : k.Kept hs) (used : h ∈ hs) (t : Transition) :
    Keeps (Kept hs) Whatever (move h t) k := by
  refine keeps_onProcess kept used fun p p' moved => ?_
  unfold Process.move at moved
  split at moved <;> cases moved
  rfl

theorem keeps_runTick (kept : k.Kept hs) (used : h ∈ hs) :
    Keeps (Kept hs) Whatever (runTick h) k := by
  refine keeps_onProcess kept used fun p p' ran => ?_
  unfold Process.runTick at ran
  split at ran <;> try cases ran
  split at ran <;> cases ran
  rfl

theorem keeps_boost (kept : k.Kept hs) (used : h ∈ hs) (priority : Int) :
    Keeps (Kept hs) Whatever (boost h r priority) k := by
  refine keeps_onProcess kept used fun p p' boosted => ?_
  cases boosted
  unfold Process.boost
  split
  · split <;> rfl
  · rfl

theorem keeps_unboost (kept : k.Kept hs) (used : h ∈ hs) :
    Keeps (Kept hs) Whatever (unboost h r) k := by
  refine keeps_onProcess kept used fun p p' unboosted => ?_
  cases unboosted
  rfl

theorem keeps_clearBoosts (kept : k.Kept hs) (used : h ∈ hs) :
    Keeps (Kept hs) Whatever (clearBoosts h) k := by
  refine keeps_onProcess kept used fun p p' cleared => ?_
  cases cleared
  rfl

theorem keeps_record (kept : k.Kept hs) (e : Event) : Keeps (Kept hs) Whatever (record e) k :=
  .modify (kept.record e)

/-- The owner of a resource is in use. -/
theorem keeps_resource (kept : k.Kept hs) :
    Keeps (Kept hs) (fun s => Names hs s.owner) (resource r) k := by
  refine .read (EStateM.run_get k) ?_
  split
  · exact .pure (kept.owner r) kept
  · exact .throw _ kept

theorem keeps_setOwner (kept : k.Kept hs) {owner : Option Handle} (used : Names hs owner) :
    Keeps (Kept hs) Whatever (setOwner r owner) k :=
  .modify (kept.assign used)

theorem keeps_setCeiling (kept : k.Kept hs) (ceiling : Option Int) :
    Keeps (Kept hs) Whatever (setCeiling r ceiling) k :=
  (keeps_resource kept).bind fun _ _ _ kept => .modify (kept.cap ceiling)

theorem keeps_setCurrent (kept : k.Kept hs) {current : Option Handle} (used : Names hs current) :
    Keeps (Kept hs) Whatever (setCurrent current) k :=
  .modify (kept.turnTo used)

theorem keeps_advance (kept : k.Kept hs) : Keeps (Kept hs) Whatever advance k :=
  (Keeps.modify kept.later).bind fun _ s _ kept => .read (EStateM.run_get s) (.pure trivial kept)

/-! ### Queues -/

theorem keeps_enqueue (kept : k.Kept hs) (used : h ∈ hs) :
    Keeps (Kept hs) Whatever (enqueue q h) k := by
  refine .read run_process ?_
  split
  · exact .throw _ kept
  · rename_i free
    exact .modify (kept.link used free)

theorem keeps_remove (kept : k.Kept hs) : Keeps (Kept hs) Whatever (remove q h) k := by
  refine .read run_process ?_
  split
  · rename_i marked
    exact .modify (kept.unlink ((kept.linked.mark h q).mp marked))
  · exact .throw _ kept

theorem keeps_takeHead (kept : k.Kept hs) : Keeps (Kept hs) (Names hs) (takeHead q) k := by
  refine .read (EStateM.run_get k) ?_
  split
  · exact .pure (.none hs) kept
  · rename_i h rest members
    have mem : h ∈ k.queue q := members ▸ List.mem_cons_self
    exact (Keeps.modify (kept.unlink mem)).bind fun _ _ _ left =>
      .pure (.some (kept.used_of_mem mem)) left

theorem keeps_takeLeast (kept : k.Kept hs) (key : Process → Int) :
    Keeps (Kept hs) (Names hs) (takeLeast key q) k := by
  refine .read (EStateM.run_get k) ?_
  split
  · exact .pure (.none hs) kept
  · rename_i h least
    have mem : h ∈ k.queue q := List.minOn?_mem least
    exact (keeps_remove kept).bind fun _ _ _ left => .pure (.some (kept.used_of_mem mem)) left

theorem keeps_openQueue (kept : k.Kept hs) (q : QueueId) :
    Keeps (Kept hs) Whatever (openQueue q) k := by
  cases q with
  | ready => exact .pure trivial kept
  | waiting r => exact (keeps_resource kept).bind fun _ _ _ kept => .pure trivial kept
  | named name => exact .modify (kept.setQueue_self _)

/-! ### What faults on a queue changes nothing -/

/-- The operations on a queue. -/
inductive OnQueue : {α : Type} → KernelM α → Prop where
  | enqueue (q : QueueId) (h : Handle) : OnQueue (enqueue q h)
  | remove (q : QueueId) (h : Handle) : OnQueue (remove q h)
  | takeHead (q : QueueId) : OnQueue (takeHead q)
  | takeLeast (key : Process → Int) (q : QueueId) : OnQueue (takeLeast key q)

theorem enqueue_fault {fault : Fault} {k' : Kernel}
    (ran : (enqueue q h).run k = .error fault k') : k' = k := by
  unfold enqueue at ran
  rw [EStateM.run_bind_of_ok run_process] at ran
  split at ran
  · cases ran
    rfl
  · cases ran

theorem remove_fault {fault : Fault} {k' : Kernel}
    (ran : (remove q h).run k = .error fault k') : k' = k := by
  unfold remove at ran
  rw [EStateM.run_bind_of_ok run_process] at ran
  split at ran
  · cases ran
  · cases ran
    rfl

theorem takeHead_fault {fault : Fault} {k' : Kernel}
    (ran : (takeHead q).run k = .error fault k') : k' = k := by
  cases members : k.queue q with
  | nil =>
      rw [run_takeHead_nil members] at ran
      cases ran
  | cons h rest =>
      rw [run_takeHead_cons members] at ran
      cases ran

theorem takeLeast_fault {key : Process → Int} {fault : Fault} {k' : Kernel}
    (ran : (takeLeast key q).run k = .error fault k') : k' = k := by
  cases least : k.least? key q with
  | none =>
      rw [run_takeLeast_none least] at ran
      cases ran
  | some h =>
      unfold takeLeast at ran
      rw [EStateM.run_bind_of_ok (EStateM.run_get k), least, EStateM.run_bind] at ran
      cases taken : (remove q h).run k with
      | ok _ _ =>
          rw [taken] at ran
          cases ran
      | error _ _ =>
          rw [taken] at ran
          cases ran
          exact remove_fault taken

theorem OnQueue.fault {op : KernelM α} (onQueue : OnQueue op) {fault : Fault} {k' : Kernel}
    (ran : op.run k = .error fault k') : k' = k := by
  cases onQueue with
  | enqueue q h => exact enqueue_fault ran
  | remove q h => exact remove_fault ran
  | takeHead q => exact takeHead_fault ran
  | takeLeast key q => exact takeLeast_fault ran

end KernelM

/-! ### Protocols -/

namespace Protocol

open KernelM

variable {hs : List Handle} {k : Kernel} {h : Handle} {r : Int}

theorem keeps_caller (kept : k.Kept hs) (access : Access) :
    Keeps (Kept hs) (· ∈ hs) (caller access r) k := by
  refine .read (EStateM.run_get k) ?_
  split
  · rename_i h current
    exact .pure (kept.current h current) kept
  · exact .throw _ kept

theorem keeps_acquireFifo (kept : k.Kept hs) :
    Keeps (Kept hs) Whatever (acquireFifo r) k := by
  refine (keeps_caller kept _).bind fun h _ used kept => ?_
  refine (keeps_resource kept).bind fun s _ _ kept => .read run_process ?_
  split
  · split
    · exact .throw _ kept
    · refine (keeps_move kept used _).bind fun _ _ _ kept => ?_
      refine (keeps_enqueue kept used).bind fun _ k _ kept => .read (EStateM.run_get k) ?_
      exact (keeps_record kept _).bind fun _ _ _ kept => .pure trivial kept
  · refine (keeps_setOwner kept (.some used)).bind fun _ _ _ kept => ?_
    exact (keeps_record kept _).bind fun _ _ _ kept => .pure trivial kept

/-- A waiter that cannot be woken is in no queue afterwards, and has no mark. -/
theorem keeps_releaseFifo (kept : k.Kept hs) :
    Keeps (Kept hs) (Names hs) (releaseFifo r) k := by
  refine (keeps_caller kept _).bind fun h _ _ kept => ?_
  refine (keeps_resource kept).bind fun s k _ kept => .read run_process ?_
  split
  · exact .throw _ kept
  · split
    · exact .read (EStateM.run_get k) (.throw _ kept)
    · refine (keeps_setOwner kept (.none hs)).bind fun _ _ _ kept => ?_
      refine (keeps_record kept _).bind fun _ _ _ kept => ?_
      refine (keeps_takeHead kept).bind fun woken _ names kept => ?_
      cases woken with
      | none => exact .pure (.none hs) kept
      | some waiter =>
          have used := names waiter rfl
          refine (keeps_move kept used _).bind fun _ _ _ kept => ?_
          refine (keeps_enqueue kept used).bind fun _ k _ kept => .read (EStateM.run_get k) ?_
          exact (keeps_record kept _).bind fun _ _ _ kept => .pure (.some used) kept

theorem keeps_raiseToCeiling (kept : k.Kept hs) (used : h ∈ hs) :
    Keeps (Kept hs) Whatever (raiseToCeiling h r) k := by
  refine .read run_process ((keeps_resource kept).bind fun s _ _ kept => ?_)
  split
  · split
    · exact (keeps_boost kept used _).bind fun _ _ _ kept => keeps_record kept _
    · exact .pure trivial kept
  · exact .pure trivial kept

theorem keeps_inheritFromWaiters (kept : k.Kept hs) (used : h ∈ hs) :
    Keeps (Kept hs) Whatever (inheritFromWaiters h r) k := by
  refine .read (EStateM.run_get k) ?_
  split
  · split
    · exact keeps_boost kept used _
    · exact .pure trivial kept
  · exact .pure trivial kept

theorem keeps_donate (kept : k.Kept hs) (priority : Int) (fuel : Nat) (met : List Int) (r : Int) :
    Keeps (Kept hs) Whatever (donate priority fuel met r) k := by
  induction fuel generalizing met r k with
  | zero => exact .pure trivial kept
  | succ fuel ih =>
      refine (keeps_resource kept).bind fun s _ names kept => ?_
      split
      · exact .pure trivial kept
      · rename_i owner owned
        refine .read run_process ?_
        split
        · exact .pure trivial kept
        · refine (keeps_boost kept (names owner owned) _).bind fun _ _ _ kept => ?_
          refine (keeps_record kept _).bind fun _ k _ kept => .read (EStateM.run_get k) ?_
          split
          · exact ih kept _ _
          · exact .pure trivial kept

theorem keeps_recompute (kept : k.Kept hs) (used : h ∈ hs) :
    Keeps (Kept hs) Whatever (recompute h) k := by
  refine (keeps_clearBoosts kept used).bind fun _ k _ kept => .read (EStateM.run_get k) ?_
  refine (Keeps.forM kept fun r _ kept => keeps_inheritFromWaiters kept used).bind
    fun _ _ _ kept => ?_
  exact .read run_process (keeps_record kept _)

theorem keeps_setBlockedOn (kept : k.Kept hs) (change : Table Int Int → Table Int Int) :
    Keeps (Kept hs) Whatever (setBlockedOn change) k :=
  .modify (kept.remember _)

theorem keeps_reset (protocol : Protocol) (kept : k.Kept hs) :
    Keeps (Kept hs) Whatever protocol.reset k := by
  cases protocol with
  | fifo | ceiling => exact .pure trivial kept
  | inheritance => exact keeps_setBlockedOn kept fun _ => {}

theorem keeps_answered (protocol : Protocol) (kept : k.Kept hs) (used : h ∈ hs) (granted : Bool) :
    Keeps (Kept hs) Whatever (protocol.answered h r granted) k := by
  cases protocol with
  | fifo => exact .pure trivial kept
  | ceiling =>
      cases granted with
      | false => exact .pure trivial kept
      | true => exact (keeps_raiseToCeiling kept used).bind fun _ _ _ kept => .pure trivial kept
  | inheritance =>
      cases granted with
      | true => exact (keeps_inheritFromWaiters kept used).bind fun _ _ _ kept => .pure trivial kept
      | false =>
          refine .read run_process ?_
          refine (keeps_setBlockedOn kept _).bind fun _ k _ kept => .read (EStateM.run_get k) ?_
          exact (keeps_donate kept _ _ _ _).bind fun _ _ _ kept => .pure trivial kept

theorem keeps_acquire (protocol : Protocol) (kept : k.Kept hs) :
    Keeps (Kept hs) Whatever (protocol.acquire r) k := by
  rw [acquire_eq]
  refine (keeps_caller kept _).bind fun h _ used kept => ?_
  exact (keeps_acquireFifo kept).bind fun granted _ _ kept =>
    keeps_answered protocol kept used granted

theorem keeps_released (protocol : Protocol) (kept : k.Kept hs) (used : h ∈ hs)
    (woken : Option Handle) : Keeps (Kept hs) Whatever (protocol.released h r woken) k := by
  cases protocol with
  | fifo => exact .pure trivial kept
  | ceiling =>
      exact (keeps_unboost kept used).bind fun _ _ _ kept =>
        .read run_process (keeps_record kept _)
  | inheritance =>
      cases woken with
      | none => exact keeps_recompute kept used
      | some waiter =>
          refine .read run_process ?_
          exact (keeps_setBlockedOn kept _).bind fun _ _ _ kept => keeps_recompute kept used

theorem keeps_release (protocol : Protocol) (kept : k.Kept hs) :
    Keeps (Kept hs) Whatever (protocol.release r) k := by
  rw [release_eq]
  refine (keeps_caller kept _).bind fun h _ used kept => ?_
  exact (keeps_releaseFifo kept).bind fun woken _ _ kept =>
    keeps_released protocol kept used woken

end Protocol

/-! ### Disciplines -/

namespace Policy

open KernelM

variable {hs : List Handle} {k : Kernel} {h : Handle}

theorem names_continuing (kept : k.Kept hs) : Names hs (continuing k) := by
  intro h goes
  exact kept.current h (Option.filter_eq_some_iff.mp goes).1

theorem keeps_preempt (kept : k.Kept hs) (used : h ∈ hs) :
    Keeps (Kept hs) Whatever (preempt h) k := by
  refine (keeps_move kept used _).bind fun _ _ _ kept => ?_
  refine (keeps_enqueue kept used).bind fun _ _ _ kept => ?_
  exact .read run_process (keeps_record kept _)

theorem keeps_keepOr {next : KernelM (Option Handle)} (kept : k.Kept hs)
    (otherwise : Keeps (Kept hs) (Names hs) next k) :
    Keeps (Kept hs) (Names hs) (keepOr next) k := by
  refine .read (EStateM.run_get k) ?_
  split
  · rename_i h goes
    exact .pure (.some (names_continuing kept h goes)) kept
  · exact otherwise

theorem keeps_takePreemptively (kept : k.Kept hs) (key : Process → Int) :
    Keeps (Kept hs) (Names hs) (takePreemptively key) k := by
  refine .read (EStateM.run_get k) ?_
  split
  · exact keeps_takeLeast kept key
  · rename_i h goes
    have used := names_continuing kept h goes
    split
    · exact .pure (.some used) kept
    · split
      · exact .pure (.some used) kept
      · exact (keeps_preempt kept used).bind fun _ _ _ kept => keeps_takeLeast kept key

theorem keeps_setSlice (kept : k.Kept hs) (used : Nat) :
    Keeps (Kept hs) Whatever (setSlice used) k :=
  .modify (kept.remember _)

theorem keeps_turn (kept : k.Kept hs) :
    Keeps (Kept hs) (Names hs)
      (do
        let next ← takeHead .ready
        setSlice (if next.isSome then 1 else 0)
        pure next) k :=
  (keeps_takeHead kept).bind fun _ _ names kept =>
    (keeps_setSlice kept _).bind fun _ _ _ kept => .pure names kept

theorem keeps_rotate (kept : k.Kept hs) (quantum : Nat) :
    Keeps (Kept hs) (Names hs) (rotate quantum) k := by
  refine .read (EStateM.run_get k) ?_
  dsimp only
  split
  · exact keeps_turn kept
  · rename_i h goes
    have used := names_continuing kept h goes
    split
    · exact (keeps_setSlice kept _).bind fun _ _ _ kept => .pure (.some used) kept
    · exact (keeps_preempt kept used).bind fun _ _ _ kept => keeps_turn kept

end Policy

namespace Discipline

variable {hs : List Handle} {k : Kernel}

theorem keeps_schedule (d : Discipline) (kept : k.Kept hs) :
    Keeps (Kept hs) (Names hs) d.schedule k := by
  cases d with
  | firstCome => exact Policy.keeps_keepOr kept (KernelM.keeps_takeHead kept)
  | shortestJob => exact Policy.keeps_keepOr kept (KernelM.keeps_takeLeast kept _)
  | roundRobin quantum => exact Policy.keeps_rotate kept quantum
  | shortestRemaining | priority | priorityCeiling | priorityInheritance =>
      exact Policy.keeps_takePreemptively kept _

theorem keeps_clearSlice (d : Discipline) (kept : k.Kept hs) :
    Keeps (Kept hs) Whatever d.clearSlice k := by
  cases d with
  | roundRobin quantum => exact Policy.keeps_setSlice kept 0
  | _ => exact .pure trivial kept

end Discipline

end Uniprocessor
