import Uniprocessor.Proofs.Kernel.Upkeep

/-!
Marks and queues agree under any use.

A session at a workbench is any sequence of commands, each under any built-in
discipline and protocol with any memory, and of searches by any key
(`Workbench.Reached`). Commands come in any order, and one that faults leaves
what it did and lets the session go on. The only condition is that a command
names processes that have been made. Throughout, a process is marked with a
queue if and only if it stands there; it stands there once and in no other queue;
and an operation on a queue that faults leaves everything as it was
(`marks_agree`).
-/

namespace Uniprocessor

open EStateM (Keeps)
open Kernel (Kept)

/-! ### Sessions -/

/-- The processes that a command names. -/
def Command.handles : Command → List Handle
  | .move h _ | .runTick h | .boost h _ _ | .unboost h _ | .clearBoosts h | .info h | .switch h
  | .arrived h | .leaving h | .heldBy h | .blockedOn h | .enqueue _ h | .remove _ h
  | .contains _ h => [h]
  | .current h => h.toList
  | _ => []

namespace Workbench

/-- One step of a session. -/
inductive Action where
  /-- A command, with this policy in charge and this in its memory. -/
  | perform (d : Discipline) (protocol : Protocol) (memory : Memory) (c : Command)
  /-- Taking the least member of a queue by a key that no command knows. -/
  | takeLeast (key : Process → Int) (q : QueueId)

def Action.handles : Action → List Handle
  | .perform _ _ _ c => c.handles
  | .takeLeast _ _ => []

/-- The workbench under another policy. -/
def withPolicy (w : Workbench) (d : Discipline) (protocol : Protocol) (memory : Memory) :
    Workbench :=
  { w with policy := .of d protocol, kernel := w.kernel.remember memory }

/-- What an action leaves, whether it ends well or faults. -/
def act (w : Workbench) : Action → Workbench
  | .perform d protocol memory c =>
      EStateM.after (WorkbenchM.perform c) (w.withPolicy d protocol memory)
  | .takeLeast key q => EStateM.after (WorkbenchM.onKernel (KernelM.takeLeast key q)) w

/-- A session leaves what its actions leave, one after the other. -/
def session (w : Workbench) (actions : List Action) : Workbench := actions.foldl act w

/-- Every action names processes that have been made by then. -/
def Proper : Workbench → List Action → Prop
  | _, [] => True
  | w, action :: later =>
      (∀ h ∈ action.handles, h ∈ w.kernel.handles) ∧ Proper (w.act action) later

instance decidableProper : (w : Workbench) → (actions : List Action) → Decidable (Proper w actions)
  | _, [] => .isTrue trivial
  | w, action :: later =>
      haveI := decidableProper (w.act action) later
      inferInstanceAs (Decidable (_ ∧ _))

/-- No process has been made, and there are `size` resources. -/
def empty (size : Nat) (policy : Policy) (nextPid : Int) : Workbench :=
  { kernel := { size := size }, policy, nextPid }

end Workbench

/-! ### What a command keeps -/

namespace KernelM

variable {hs : List Handle} {k : Kernel} {h : Handle}

theorem keeps_switchTo (kept : k.Kept hs) (used : h ∈ hs) :
    Keeps (Kept hs) Whatever (switchTo h) k := by
  refine .read (EStateM.run_get k) ?_
  split
  case' h_1 old current =>
    refine .read run_process ?_
    split
    case' isTrue =>
      refine (keeps_move kept (kept.current old current) _).bind fun _ k _ kept => ?_
  -- What follows is the same, whoever had the processor.
  all_goals
    refine .read run_process ?_
    split
    · split
      · refine (keeps_remove kept).bind fun _ _ _ kept => ?_
        exact (keeps_move kept used _).bind fun _ _ _ kept => keeps_setCurrent kept (.some used)
      · exact (keeps_move kept used _).bind fun _ _ _ kept => keeps_setCurrent kept (.some used)
    · exact keeps_setCurrent kept (.some used)

theorem keeps_bareTick (d : Discipline) (protocol : Protocol) (kept : k.Kept hs) :
    Keeps (Kept hs) Whatever (bareTick (.of d protocol)) k := by
  refine (d.keeps_schedule kept).bind fun chosen _ names kept => ?_
  refine (keeps_setCurrent kept names).bind fun _ k _ kept => ?_
  have finish : ∀ k : Kernel, k.Kept hs → Keeps (Kept hs) Whatever
      (do
        let _ ← advance
        pure chosen) k :=
    fun k kept => (keeps_advance kept).bind fun _ _ _ kept => .pure trivial kept
  cases chosen with
  | none => exact finish k kept
  | some h =>
      have used := names h rfl
      have work : ∀ k : Kernel, k.Kept hs → Keeps (Kept hs) Whatever
          (do
            runTick h
            if (← process h).finished then move h .exit
            let _ ← advance
            pure (some h)) k := by
        intro k kept
        refine (keeps_runTick kept used).bind fun _ k _ kept => .read run_process ?_
        split
        · exact (keeps_move kept used _).bind fun _ k _ kept => finish k kept
        · exact finish k kept
      refine .read run_process ?_
      split
      · exact (keeps_move kept used _).bind fun _ k _ kept => work k kept
      · exact work k kept

end KernelM

namespace Policy

variable {hs : List Handle} {k : Kernel}

theorem keeps_setUp (d : Discipline) (protocol : Protocol) (kept : k.Kept hs) :
    Keeps (Kept hs) Whatever (of d protocol).setUp k :=
  (d.keeps_clearSlice kept).bind fun _ _ _ kept =>
    (protocol.keeps_reset kept).bind fun _ _ _ kept => .pure trivial kept

end Policy

namespace WorkbenchM

/-- The processes in use are the first `n`, and marks and queues agree. -/
def Tidy (n : Nat) (w : Workbench) : Prop := w.kernel.Kept (List.range n)

variable {n : Nat} {w : Workbench} {h : Handle} {α : Type} {Q : α → Prop}

theorem keeps_onKernel {op : KernelM α} (keeps : Keeps (Kept (List.range n)) Q op w.kernel) :
    Keeps (Tidy n) Q (onKernel op) w := by
  unfold Keeps EStateM.run at keeps ⊢
  unfold onKernel EStateM.run
  cases ran : op w.kernel with
  | error fault k =>
      rw [ran] at keeps
      exact keeps
  | ok a k =>
      rw [ran] at keeps
      exact keeps

theorem keeps_silently {op : KernelM Unit}
    (keeps : Keeps (Kept (List.range n)) Whatever op w.kernel) :
    Keeps (Tidy n) Whatever (silently op) w :=
  (keeps_onKernel keeps).bind fun _ _ _ tidy => .pure trivial tidy

theorem keeps_number {op : KernelM (Option Handle)} {Q : Option Handle → Prop}
    (keeps : Keeps (Kept (List.range n)) Q op w.kernel) :
    Keeps (Tidy n) Whatever (number op) w :=
  (keeps_onKernel keeps).bind fun _ w _ tidy =>
    .read (EStateM.run_get w) (.pure trivial tidy)

theorem keeps_onQueue {op : KernelM Reply} (tidy : Tidy n w) (q : QueueId)
    (keeps : ∀ k : Kernel, k.Kept (List.range n) →
      Keeps (Kept (List.range n)) Whatever op k) :
    Keeps (Tidy n) Whatever (onQueue q op) w :=
  keeps_onKernel ((KernelM.keeps_openQueue tidy q).bind fun _ k _ kept => keeps k kept)

theorem mem_range_of_used (tidy : Tidy n w) (used : h ∈ w.kernel.handles) : h ∈ List.range n :=
  tidy.handles ▸ used

/-- Every command that makes no process keeps the processes in use and the marks. -/
theorem keeps_perform {d : Discipline} {protocol : Protocol} {c : Command} (tidy : Tidy n w)
    (policy : w.policy = .of d protocol) (made : ∀ h ∈ c.handles, h ∈ w.kernel.handles)
    (noNew : ∀ pid spec, c ≠ .new pid spec) : Keeps (Tidy n) Whatever (perform c) w := by
  have used : ∀ h ∈ c.handles, h ∈ List.range n := fun h mem => mem_range_of_used tidy (made h mem)
  have here {f : Workbench → WorkbenchM Reply} (rest : Keeps (Tidy n) Whatever (f w) w) :
      Keeps (Tidy n) Whatever (get >>= f) w := .read (EStateM.run_get w) rest
  refine here ?_
  rw [policy]
  -- Every command is an operation of the kernel, and what that keeps is known.
  cases c with
  | new pid spec => exact absurd rfl (noNew pid spec)
  | move h t => exact keeps_silently (KernelM.keeps_move tidy (used h (.head _)) t)
  | runTick h => exact keeps_silently (KernelM.keeps_runTick tidy (used h (.head _)))
  | boost h r priority =>
      exact keeps_silently (KernelM.keeps_boost tidy (used h (.head _)) priority)
  | unboost h r => exact keeps_silently (KernelM.keeps_unboost tidy (used h (.head _)))
  | clearBoosts h => exact keeps_silently (KernelM.keeps_clearBoosts tidy (used h (.head _)))
  | info h =>
      exact (keeps_onKernel (.read (b := w.kernel.process h) KernelM.run_process
        (.pure (Q := Whatever) trivial tidy))).bind fun _ _ _ tidy => .pure trivial tidy
  | current h =>
      have names : Names (List.range n) h := fun j is => used j (by simp [Command.handles, is])
      exact (keeps_onKernel (KernelM.keeps_setCurrent tidy names)).bind fun _ w _ tidy =>
        .read (EStateM.run_get w) (.pure trivial tidy)
  | switch h => exact keeps_silently (KernelM.keeps_switchTo tidy (used h (.head _)))
  | acquire r =>
      exact (keeps_onKernel (protocol.keeps_acquire tidy)).bind fun _ _ _ tidy =>
        .pure trivial tidy
  | release r => exact keeps_silently (protocol.keeps_release tidy)
  | schedule => exact keeps_number (d.keeps_schedule tidy)
  | tick => exact keeps_number (KernelM.keeps_bareTick d protocol tidy)
  | setUp =>
      exact (keeps_onKernel (Policy.keeps_setUp d protocol tidy)).bind fun _ _ _ tidy =>
        .pure trivial tidy
  | tearDown => exact keeps_silently (protocol.keeps_reset tidy)
  | arrived h | leaving h => exact keeps_silently (.pure trivial tidy)
  | policy => exact .pure trivial tidy
  | setCeiling r ceiling => exact keeps_silently (KernelM.keeps_setCeiling tidy ceiling)
  | resource r =>
      exact (keeps_onKernel (KernelM.keeps_resource tidy)).bind fun _ w _ tidy =>
        .read (EStateM.run_get w) (.pure trivial tidy)
  | trackedFor _ | table | heldBy h | blockedOn h => exact here (.pure trivial tidy)
  | advance =>
      exact (keeps_onKernel (KernelM.keeps_advance tidy)).bind fun _ _ _ tidy =>
        .pure trivial tidy
  | enqueue q h =>
      exact keeps_onQueue tidy q fun k kept =>
        (KernelM.keeps_enqueue kept (used h (.head _))).bind fun _ _ _ kept => .pure trivial kept
  | remove q h =>
      exact keeps_onQueue tidy q fun k kept =>
        (KernelM.keeps_remove kept).bind fun _ _ _ kept => .pure trivial kept
  | takeHead q =>
      exact keeps_onQueue tidy q fun k kept =>
        (KernelM.keeps_takeHead kept).bind fun _ k _ kept =>
          .read (EStateM.run_get k) (.pure trivial kept)
  | takeLeast q m =>
      exact keeps_onQueue tidy q fun k kept =>
        (KernelM.keeps_takeLeast kept m.of).bind fun _ k _ kept =>
          .read (EStateM.run_get k) (.pure trivial kept)
  | head q | least q m | contains q h | queue q =>
      exact keeps_onQueue tidy q fun k kept => .read (EStateM.run_get k) (.pure trivial kept)

/-- A new process gets the next place, unless it is refused. -/
theorem keeps_new (tidy : Tidy n w) (pid : Option Int) (spec : ProcessSpec) :
    Keeps (fun w' => Tidy n w' ∨ Tidy (n + 1) w') Whatever (perform (.new pid spec)) w := by
  refine .read (EStateM.run_get w) ?_
  refine Keeps.bind (P := Whatever) (.read (EStateM.run_get w) ?_) fun _ _ _ tidy =>
    .pure trivial tidy
  split
  · exact .throw _ (.inl tidy)
  · rename_i p built
    have next : w.kernel.nextHandle = n := by
      have count := congrArg List.length tidy.handles
      simpa [Kernel.handles, Table.keys, Kernel.nextHandle, Table.size] using count
    have free : p.queue = none := by
      unfold ProcessSpec.build at built
      split at built <;> cases built
      rfl
    have enrolled : (w.kernel.enroll p).Kept (List.range (n + 1)) := by
      have grown := tidy.enroll (by simp [next]) free
      rwa [next, ← List.range_succ] at grown
    exact (Keeps.modify (.inr enrolled)).bind fun _ _ _ tidy => .pure trivial tidy

end WorkbenchM

namespace Workbench

open WorkbenchM (Tidy)

variable {n : Nat} {w : Workbench}

theorem tidy_act (tidy : Tidy n w) (action : Action)
    (made : ∀ h ∈ action.handles, h ∈ w.kernel.handles) : ∃ m, Tidy m (w.act action) := by
  cases action with
  | takeLeast key q =>
      exact ⟨n, (WorkbenchM.keeps_onKernel (KernelM.keeps_takeLeast tidy key)).after⟩
  | perform d protocol memory c =>
      have ready : Tidy n (w.withPolicy d protocol memory) := tidy.remember memory
      have made : ∀ h ∈ c.handles, h ∈ (w.withPolicy d protocol memory).kernel.handles := made
      by_cases new : ∃ pid spec, c = .new pid spec
      · obtain ⟨pid, spec, rfl⟩ := new
        rcases (WorkbenchM.keeps_new ready pid spec).after with same | grown
        · exact ⟨n, same⟩
        · exact ⟨n + 1, grown⟩
      · exact ⟨n, (WorkbenchM.keeps_perform ready rfl made fun pid spec is =>
          new ⟨pid, spec, is⟩).after⟩

theorem tidy_session {actions : List Action} (tidy : Tidy n w) (proper : w.Proper actions) :
    ∃ m, Tidy m (w.session actions) := by
  induction actions generalizing n w with
  | nil => exact ⟨n, tidy⟩
  | cons action later ih =>
      obtain ⟨made, proper⟩ := proper
      obtain ⟨m, tidy⟩ := tidy_act tidy action made
      exact ih tidy proper

theorem tidy_empty (size : Nat) (policy : Policy) (nextPid : Int) :
    Tidy 0 (empty size policy nextPid) := by
  have linked : Kernel.Linked { size := size } := by
    refine ⟨fun h q => ⟨nofun, ?_⟩, ?_⟩
    · cases q <;> nofun
    · intro q
      cases q <;> exact List.nodup_nil
  exact ⟨linked, rfl, nofun, nofun⟩

end Workbench

/-- After any session, a process is marked with a queue if and only if it is in it, it
is there once and in no other queue, and an operation on a queue that faults leaves
everything as it was. -/
theorem marks_agree {size : Nat} {policy : Policy} {nextPid : Int}
    {actions : List Workbench.Action}
    (proper : (Workbench.empty size policy nextPid).Proper actions) :
    let k := ((Workbench.empty size policy nextPid).session actions).kernel
    (∀ h q, (k.process h).queue = some q ↔ h ∈ k.queue q) ∧
      (∀ h q, h ∈ k.queue q → (k.queue q).count h = 1 ∧ ∀ p, h ∈ k.queue p → p = q) ∧
      ∀ {α : Type} (op : KernelM α), KernelM.OnQueue op → ∀ fault k',
        op.run k = .error fault k' → k' = k := by
  obtain ⟨n, tidy⟩ := Workbench.tidy_session (Workbench.tidy_empty size policy nextPid) proper
  have linked := tidy.linked
  refine ⟨linked.mark, fun h q mem => ⟨?_, fun p mem' => ?_⟩, fun op onQueue fault k' ran => ?_⟩
  · exact List.count_eq_one_of_mem (linked.nodup q) mem
  · have here := (linked.mark h q).mpr mem
    rw [(linked.mark h p).mpr mem'] at here
    exact Option.some.inj here
  · exact onQueue.fault ran

/-- The second process is dispatched where it stands in the ready queue, and then has to
wait for the resource of the first: it changes its state and fails to join the queue. -/
def Workbench.misuse : List Workbench.Action :=
  let act := Workbench.Action.perform .priority .ceiling {}
  [act (.new none ⟨0, 3, 0, 5, none, []⟩), act (.new none ⟨0, 3, 0, 5, none, []⟩),
    act (.enqueue .ready 0), act (.enqueue .ready 1), act (.current (some 0)), act (.acquire 0),
    act (.move 1 .dispatch), act (.current (some 1)), act (.acquire 0)]

def Workbench.misused : Workbench := (empty 1 (.of .priority .ceiling) 1).session misuse

theorem marks_agree_misused :
    (∀ h q, (Workbench.misused.kernel.process h).queue = some q ↔
        h ∈ Workbench.misused.kernel.queue q) ∧
      (∀ h q, h ∈ Workbench.misused.kernel.queue q →
        (Workbench.misused.kernel.queue q).count h = 1 ∧
          ∀ p, h ∈ Workbench.misused.kernel.queue p → p = q) ∧
      ∀ {α : Type} (op : KernelM α), KernelM.OnQueue op → ∀ fault k',
        op.run Workbench.misused.kernel = .error fault k' → k' = Workbench.misused.kernel :=
  marks_agree (by decide)

example : (Workbench.misused.kernel.process 1).state = .waiting ∧
  Workbench.misused.kernel.queue .ready = [0, 1] := by decide

end Uniprocessor
