import Mathlib.Order.Defs.Unbundled
import Uniprocessor.Proofs.Kernel.Twin

/-!
What passes through the wait queues.

The log tells who was refused a resource and who was woken from one
(`Kernel.refusals`, `Kernel.wakings`). From one kernel to the next the two are in
step with the wait queues if those who waited, and then those who were refused,
are those who were woken, and then those who wait now (`Kernel.Passes`). This adds
up along a run of operations. Most of them do not touch any of it, nor the slice
of a policy (`Kernel.Calm`). Most of those have nothing to do with the resources at
all (`Kernel.Aside`).

What a program does is said of the runs that end well (`EStateM.Leads`), so nothing
has to be known of the state in which it begins.
-/

namespace EStateM

variable {ε σ α β : Type} {R : σ → σ → Prop} {s : σ}

/-- A program that ends well goes on with what it has read. -/
theorem run_read_eq_ok {x : EStateM ε σ α} {f : α → EStateM ε σ β} {a : α} {b : β} {t : σ}
    (reads : x.Reads s a) (ran : (x >>= f).run s = .ok b t) : (f a).run s = .ok b t := by
  obtain ⟨a, m, first, last⟩ := run_bind_eq_ok ran
  obtain ⟨rfl, rfl⟩ := reads a m first
  exact last

/-- Where the program ends well, `R` leads from the state before to the one after. -/
def Leads (R : σ → σ → Prop) (x : EStateM ε σ α) (s : σ) : Prop :=
  ∀ a t, x.run s = .ok a t → R s t

namespace Leads

theorem throw (e : ε) : Leads R (throw e : EStateM ε σ α) s := nofun

theorem modify {f : σ → σ} (leads : R s (f s)) : Leads R (modify f : EStateM ε σ Unit) s := by
  rintro _ _ ⟨⟩
  exact leads

/-- What only reads leaves the state as it is. -/
theorem read {x : EStateM ε σ α} {f : α → EStateM ε σ β} {a : α} (reads : x.Reads s a)
    (rest : Leads R (f a) s) : Leads R (x >>= f) s :=
  fun b t ran => rest b t (run_read_eq_ok reads ran)

variable [IsPreorder σ R]

theorem pure (a : α) : Leads R (Pure.pure a : EStateM ε σ α) s := by
  rintro _ _ ⟨⟩
  exact refl_of R s

theorem bind {x : EStateM ε σ α} {f : α → EStateM ε σ β} (first : Leads R x s)
    (rest : ∀ a t, R s t → Leads R (f a) t) : Leads R (x >>= f) s := by
  intro b u ran
  obtain ⟨a, t, ran, last⟩ := run_bind_eq_ok ran
  have before := first a t ran
  exact trans_of R before (rest a t before b u last)

theorem forM {γ : Type} {l : List γ} {f : γ → EStateM ε σ Unit}
    (each : ∀ c t, Leads R (f c) t) : Leads R (l.forM f) s := by
  induction l generalizing s with
  | nil => exact .pure ()
  | cons c l ih => exact (each c s).bind fun _ _ _ => ih

end Leads

end EStateM

namespace Uniprocessor

open EStateM (Leads reads_get)

/-! ### Who was refused and who was woken -/

namespace Event

/-- The resource that was refused, and to which number. -/
def refusal? : Event → Option (Int × Int)
  | .waits pid resource _ => some (resource, pid)
  | _ => none

/-- The resource from whose queue somebody was woken, and their number. -/
def waking? : Event → Option (Int × Int)
  | .woken pid resource => some (resource, pid)
  | _ => none

/-- The event tells who owns a resource or who waits for one. -/
def transfers : Event → Bool
  | .acquired .. | .waits .. | .released .. | .woken .. => true
  | _ => false

theorem calm_of_aside {e : Event} (aside : e.transfers = false) :
    e.refusal? = none ∧ e.waking? = none := by
  cases e <;> first | exact ⟨rfl, rfl⟩ | cases aside

end Event

/-- The numbers that belong to a resource, in order. -/
def numbersOf (r : Int) (l : List (Int × Int)) : List Int :=
  l.filterMap fun e => if e.1 = r then some e.2 else none

@[simp] theorem numbersOf_nil (r : Int) : numbersOf r [] = [] := rfl

@[simp] theorem numbersOf_append (r : Int) (l l' : List (Int × Int)) :
    numbersOf r (l ++ l') = numbersOf r l ++ numbersOf r l' :=
  List.filterMap_append

@[simp] theorem numbersOf_singleton (r i pid : Int) :
    numbersOf r [(i, pid)] = if i = r then [pid] else [] := by
  by_cases same : i = r <;> simp [numbersOf, same]

namespace Kernel

variable {k k' k'' : Kernel} {h : Handle} {r : Int} {q : QueueId} {l l' : List (Int × Int)}

/-- All refusals so far, each with the resource and the number of the process. -/
def refusals (k : Kernel) : List (Int × Int) := k.log.toList.filterMap (·.event.refusal?)

/-- All wakings so far, each with the resource and the number of the process. -/
def wakings (k : Kernel) : List (Int × Int) := k.log.toList.filterMap (·.event.waking?)

/-- The numbers of those who wait for a resource, the head of the queue first. -/
def waiters (k : Kernel) (r : Int) : List Int :=
  (k.queue (.waiting r)).map fun h => (k.process h).pid

@[simp] theorem refusals_record (k : Kernel) (e : Event) :
    (k.record e).refusals = k.refusals ++ e.refusal?.toList := by
  cases refused : e.refusal? <;> simp [refusals, record, refused]

@[simp] theorem wakings_record (k : Kernel) (e : Event) :
    (k.record e).wakings = k.wakings ++ e.waking?.toList := by
  cases woken : e.waking? <;> simp [wakings, record, woken]

@[simp] theorem log_link (k : Kernel) (q : QueueId) (h : Handle) : (k.link q h).log = k.log := by
  cases q <;> rfl

@[simp] theorem log_unlink (k : Kernel) (q : QueueId) (h : Handle) :
    (k.unlink q h).log = k.log := by
  cases q <;> rfl

/-! ### Operations that leave the wait queues alone -/

/-- The log tells of nobody else who was refused or woken. -/
structure Silent (k k' : Kernel) : Prop where
  refusals : k'.refusals = k.refusals
  wakings : k'.wakings = k.wakings

instance : IsPreorder Kernel Silent where
  refl _ := ⟨rfl, rfl⟩
  trans _ _ _ first second :=
    ⟨second.refusals.trans first.refusals, second.wakings.trans first.wakings⟩

theorem Silent.of_log (same : k'.log = k.log) : k.Silent k' := by
  constructor
  · unfold Kernel.refusals
    rw [same]
  · unfold Kernel.wakings
    rw [same]

theorem Silent.record {e : Event} (calm : e.refusal? = none ∧ e.waking? = none) :
    k.Silent (k.record e) :=
  ⟨by simp [calm.1], by simp [calm.2]⟩

/-- Nobody was refused or woken, and who is current, who has which number, who waits and
the slice are as before. -/
structure Calm (k k' : Kernel) : Prop extends Silent k k' where
  pid : ∀ h, (k'.process h).pid = (k.process h).pid
  waiting : ∀ r, k'.queue (.waiting r) = k.queue (.waiting r)
  current : k'.current = k.current
  slice : k'.memory.sliceUsed = k.memory.sliceUsed

instance : IsPreorder Kernel Calm where
  refl _ := ⟨refl_of Silent _, fun _ => rfl, fun _ => rfl, rfl, rfl⟩
  trans _ _ _ first second :=
    ⟨trans_of Silent first.toSilent second.toSilent,
      fun h => (second.pid h).trans (first.pid h),
      fun r => (second.waiting r).trans (first.waiting r), second.current.trans first.current,
      second.slice.trans first.slice⟩

namespace Calm

theorem waiters (calm : k.Calm k') (r : Int) : k'.waiters r = k.waiters r := by
  unfold Kernel.waiters
  rw [calm.waiting]
  exact List.map_congr_left fun h _ => calm.pid h

theorem assign (owner : Option Handle) : k.Calm (k.assign r owner) :=
  ⟨.of_log rfl, by simp, by simp, rfl, rfl⟩

theorem record {e : Event} (calm : e.refusal? = none ∧ e.waking? = none) : k.Calm (k.record e) :=
  ⟨.record calm, by simp, by simp, rfl, rfl⟩

end Calm

/-- The resources, the queues for them, the clock, who is current, who has which number and
the slice are as before, and what was logged tells of other things. -/
structure Aside (k k' : Kernel) : Prop where
  log : ∃ events : List Event, k'.log.toList = k.log.toList ++ events.map (Entry.mk · k.tick) ∧
    ∀ e ∈ events, e.transfers = false
  pid : ∀ h, (k'.process h).pid = (k.process h).pid
  owner : ∀ r, (k'.resource r).owner = (k.resource r).owner
  waiting : ∀ r, k'.queue (.waiting r) = k.queue (.waiting r)
  tick : k'.tick = k.tick
  current : k'.current = k.current
  slice : k'.memory.sliceUsed = k.memory.sliceUsed

instance : IsPreorder Kernel Aside where
  refl _ := ⟨⟨[], by simp⟩, fun _ => rfl, fun _ => rfl, fun _ => rfl, rfl, rfl, rfl⟩
  trans k _ _ first second := by
    obtain ⟨events, log, others⟩ := first.log
    obtain ⟨events', log', others'⟩ := second.log
    refine ⟨⟨events ++ events', ?_, List.forall_mem_append.mpr ⟨others, others'⟩⟩,
      fun h => (second.pid h).trans (first.pid h),
      fun r => (second.owner r).trans (first.owner r),
      fun r => (second.waiting r).trans (first.waiting r), second.tick.trans first.tick,
      second.current.trans first.current, second.slice.trans first.slice⟩
    rw [log', log, first.tick, List.map_append, List.append_assoc]

namespace Aside

theorem of_log (same : k'.log = k.log) :
    ∃ events : List Event, k'.log.toList = k.log.toList ++ events.map (Entry.mk · k.tick) ∧
      ∀ e ∈ events, e.transfers = false :=
  ⟨[], by simp [same]⟩

theorem record {e : Event} (aside : e.transfers = false) : k.Aside (k.record e) :=
  ⟨⟨[e], by simp [Kernel.record], by simpa using aside⟩, by simp, by simp, by simp, rfl, rfl, rfl⟩

theorem remember {memory : Memory} (slice : memory.sliceUsed = k.memory.sliceUsed) :
    k.Aside (k.remember memory) :=
  ⟨of_log rfl, by simp, by simp, by simp, rfl, rfl, slice⟩

theorem calm (aside : k.Aside k') : k.Calm k' := by
  obtain ⟨events, log, others⟩ := aside.log
  have unrefused : events.filterMap (·.refusal?) = [] :=
    List.filterMap_eq_nil_iff.mpr fun e mem => (Event.calm_of_aside (others e mem)).1
  have unwoken : events.filterMap (·.waking?) = [] :=
    List.filterMap_eq_nil_iff.mpr fun e mem => (Event.calm_of_aside (others e mem)).2
  refine ⟨⟨?_, ?_⟩, aside.pid, aside.waiting, aside.current, aside.slice⟩
  · rw [refusals, refusals, log, List.filterMap_append, List.filterMap_map]
    exact (congrArg _ unrefused).trans (List.append_nil _)
  · rw [wakings, wakings, log, List.filterMap_append, List.filterMap_map]
    exact (congrArg _ unwoken).trans (List.append_nil _)

end Aside

/-! ### Operations that change who waits -/

/-- From the one kernel to the other these were refused, and every wait queue has passed
them on in the order in which they came. -/
structure Passes (l : List (Int × Int)) (k k' : Kernel) : Prop where
  refusals : k'.refusals = k.refusals ++ l
  turn : ∀ r, ∃ woken, numbersOf r k'.wakings = numbersOf r k.wakings ++ woken ∧
    k.waiters r ++ numbersOf r l = woken ++ k'.waiters r

theorem Passes.trans (first : k.Passes l k') (second : k'.Passes l' k'') :
    k.Passes (l ++ l') k'' where
  refusals := by rw [second.refusals, first.refusals, List.append_assoc]
  turn r := by
    obtain ⟨early, woken, order⟩ := first.turn r
    obtain ⟨late, woken', order'⟩ := second.turn r
    refine ⟨early ++ late, by rw [woken', woken, List.append_assoc], ?_⟩
    rw [numbersOf_append, ← List.append_assoc, order, List.append_assoc, order', List.append_assoc]

theorem Silent.passes (silent : k.Silent k') (waiters : ∀ r, k'.waiters r = k.waiters r) :
    k.Passes [] k' where
  refusals := by rw [silent.refusals, List.append_nil]
  turn r := ⟨[], by rw [silent.wakings, List.append_nil], by simp [waiters]⟩

theorem Calm.passes (calm : k.Calm k') : k.Passes [] k' := calm.toSilent.passes calm.waiters

/-- The process at work goes on under its number within its slice, and these were refused. -/
structure Works (l : List (Int × Int)) (k k' : Kernel) : Prop extends Passes l k k' where
  pid : ∀ h, (k'.process h).pid = (k.process h).pid
  current : k'.current = k.current
  slice : k'.memory.sliceUsed = k.memory.sliceUsed

theorem Works.trans (first : k.Works l k') (second : k'.Works l' k'') :
    k.Works (l ++ l') k'' where
  toPasses := first.toPasses.trans second.toPasses
  pid h := (second.pid h).trans (first.pid h)
  current := second.current.trans first.current
  slice := second.slice.trans first.slice

theorem Calm.works (calm : k.Calm k') : k.Works [] k' :=
  ⟨calm.passes, calm.pid, calm.current, calm.slice⟩

instance : IsPreorder Kernel (Works []) where
  refl k := (refl_of Calm k).works
  trans _ _ _ first second := first.trans second

end Kernel

namespace KernelM

open Kernel (Aside)

variable {k k' : Kernel} {h : Handle} {r : Int}

theorem run_move_eq_ok {t : Transition} (ran : (move h t).run k = .ok () k') :
    k' = k.edit h (·.inState t.target) := by
  by_cases allowed : (k.process h).state ∈ t.sources
  · rw [run_move allowed] at ran
    cases ran
    rfl
  · simp [move, onProcess, Process.move, allowed] at ran

theorem run_enqueue_eq_ok {q : QueueId} (ran : (enqueue q h).run k = .ok () k') :
    k' = k.link q h := by
  cases mark : (k.process h).queue with
  | none =>
      rw [run_enqueue mark] at ran
      cases ran
      rfl
  | some holder => simp [enqueue, mark, violate] at ran

/-! ### Programs that have nothing to do with the resources -/

theorem aside_onProcess {change : Process → Except Fault Process}
    (pid : ∀ p p', change p = .ok p' → p'.pid = p.pid) :
    Leads Aside (onProcess h change) k := by
  refine .read reads_get ?_
  cases changed : change (k.process h) with
  | error fault => exact .throw fault
  | ok p =>
      refine .modify ⟨Aside.of_log rfl, fun j => ?_, fun _ => rfl, fun _ => rfl, rfl, rfl, rfl⟩
      rw [Kernel.process_setProcess]
      split
      · rename_i same
        rw [pid _ _ changed, same]
      · rfl

theorem aside_move (t : Transition) : Leads Aside (move h t) k := by
  refine aside_onProcess fun p p' moved => ?_
  unfold Process.move at moved
  split at moved <;> cases moved
  rfl

theorem aside_runTick : Leads Aside (runTick h) k := by
  refine aside_onProcess fun p p' ran => ?_
  unfold Process.runTick at ran
  split at ran <;> try cases ran
  split at ran <;> cases ran
  rfl

theorem aside_boost (priority : Int) : Leads Aside (boost h r priority) k := by
  refine aside_onProcess fun p p' boosted => ?_
  cases boosted
  exact congrArg (·.pid) (Kernel.clearBoosts_boost r priority p)

theorem aside_unboost : Leads Aside (unboost h r) k := by
  refine aside_onProcess fun p p' unboosted => ?_
  cases unboosted
  rfl

theorem aside_clearBoosts : Leads Aside (clearBoosts h) k := by
  refine aside_onProcess fun p p' cleared => ?_
  cases cleared
  rfl

theorem aside_record {e : Event} (aside : e.transfers = false) : Leads Aside (record e) k :=
  .modify (.record aside)

end KernelM

end Uniprocessor
