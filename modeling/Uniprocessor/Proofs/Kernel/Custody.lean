import Mathlib.Algebra.Order.Ring.Int
import Uniprocessor.Proofs.Kernel.Traffic

/-!
Who owns what, as the log tells it.

The log hands the resources on from one process to another: what is free is
acquired, whoever has to wait names the owner, the owner releases, and the head of
the queue is woken from what was released right before (`Custody.follow`). From one
kernel to a later one the entries in between are told in full (`Kernel.Tells`) if
they can be followed from the owners and the waiters of the one and lead to those of
the other, and their ticks lie in between, in order. This adds up along a run, and
whatever is done besides the resources adds to it (`Kernel.Aside.told`).
-/

namespace Uniprocessor

/-- Who owns every resource and who waits for it, the head of the queue first. All go by
number. -/
structure Custody where
  owner : Int → Option Int := fun _ => none
  waiters : Int → List Int := fun _ => []
  /-- What has been released right before. -/
  freed : Option Int := none

namespace Custody

/-- What an event does to the custody of the resources. There is none if it cannot have
happened. -/
def follow (c : Custody) : Event → Option Custody
  | .acquired pid r =>
      if c.owner r = none then
        some { c with owner := Function.update c.owner r (some pid), freed := none }
      else none
  | .waits pid r owner =>
      if c.owner r = some owner then
        some { c with waiters := Function.update c.waiters r (c.waiters r ++ [pid]), freed := none }
      else none
  | .released pid r =>
      if c.owner r = some pid then
        some { c with owner := Function.update c.owner r none, freed := some r }
      else none
  | .woken pid r =>
      if c.freed = some r ∧ (c.waiters r).head? = some pid then
        some { c with waiters := Function.update c.waiters r (c.waiters r).tail, freed := none }
      else none
  | _ => some { c with freed := none }

/-- Follows events one after another. -/
def replay (c : Custody) (events : List Event) : Option Custody := events.foldlM follow c

/-- Nobody is woken from what has not been released. -/
example : (({} : Custody).replay [.acquired 1 0, .waits 2 0 1, .released 1 0, .woken 2 0]).isSome ∧
    (({} : Custody).replay [.acquired 1 0, .waits 2 0 1, .woken 2 0]).isNone := by
  decide

variable {c : Custody}

theorem replay_append (c : Custody) (l l' : List Event) :
    c.replay (l ++ l') = (c.replay l).bind (·.replay l') :=
  List.foldlM_append

theorem replay_cons (c : Custody) (e : Event) (l : List Event) :
    c.replay (e :: l) = (c.follow e).bind (·.replay l) :=
  List.foldlM_cons

theorem follow_aside {e : Event} (aside : e.transfers = false) :
    c.follow e = some { c with freed := none } := by
  cases e <;> first | rfl | cases aside

/-- What does not concern the resources leaves the custody as it is. -/
theorem replay_aside {l : List Event} (aside : ∀ e ∈ l, e.transfers = false) :
    ∃ freed, c.replay l = some { c with freed } := by
  induction l generalizing c with
  | nil => exact ⟨c.freed, rfl⟩
  | cons e l ih =>
      obtain ⟨freed, replayed⟩ := ih (c := { c with freed := none })
        fun e mem => aside e (List.mem_cons_of_mem _ mem)
      refine ⟨freed, ?_⟩
      rw [replay_cons, follow_aside (aside e List.mem_cons_self)]
      exact replayed

end Custody

namespace Kernel

variable {k k' k'' : Kernel} {l l' : List Entry} {h w : Handle} {r : Int}

/-- The number of the owner of a resource. -/
def holder (k : Kernel) (r : Int) : Option Int :=
  (k.resource r).owner.map fun h => (k.process h).pid

/-- Who owns every resource and who waits for it now. -/
def custody (k : Kernel) (freed : Option Int) : Custody := ⟨k.holder, k.waiters, freed⟩

/-- These are the entries from the one kernel to the other, and they tell in full what
has become of the resources meanwhile. -/
structure Tells (l : List Entry) (k k' : Kernel) : Prop where
  log : k'.log.toList = k.log.toList ++ l
  clock : k.tick ≤ k'.tick
  stamped : ∀ e ∈ l, (k.tick : Int) ≤ e.tick ∧ e.tick ≤ k'.tick
  ordered : l.Pairwise fun e e' => e.tick ≤ e'.tick
  replay : ∀ freed, ∃ freed',
    (k.custody freed).replay (l.map (·.event)) = some (k'.custody freed')

/-- The log tells in full what has become of the resources since. -/
def Told (k k' : Kernel) : Prop := ∃ l, k.Tells l k'

theorem Tells.trans (first : k.Tells l k') (second : k'.Tells l' k'') :
    k.Tells (l ++ l') k'' where
  log := by rw [second.log, first.log, List.append_assoc]
  clock := first.clock.trans second.clock
  stamped e mem := by
    have early := first.clock
    have late := second.clock
    rcases List.mem_append.mp mem with mem | mem
    · have stamp := first.stamped e mem
      omega
    · have stamp := second.stamped e mem
      omega
  ordered := by
    refine List.pairwise_append.mpr ⟨first.ordered, second.ordered, fun e mem e' mem' => ?_⟩
    exact (first.stamped e mem).2.trans (second.stamped e' mem').1
  replay freed := by
    obtain ⟨between, replayed⟩ := first.replay freed
    obtain ⟨last, replayed'⟩ := second.replay between
    refine ⟨last, ?_⟩
    rw [List.map_append, Custody.replay_append, replayed]
    exact replayed'

/-- What was logged at once is told in full if it can be followed. -/
theorem Told.of_replay (events : List Event)
    (log : k'.log.toList = k.log.toList ++ events.map (Entry.mk · k.tick))
    (clock : k'.tick = k.tick)
    (replay : ∀ freed, ∃ freed',
      (k.custody freed).replay events = some (k'.custody freed')) : k.Told k' := by
  have stamped : ∀ e ∈ events.map (Entry.mk · k.tick), e.tick = k.tick := by
    intro e mem
    obtain ⟨_, _, rfl⟩ := List.mem_map.mp mem
    rfl
  refine ⟨_, log, clock.ge, fun e mem => ?_, ?_, fun freed => ?_⟩
  · rw [stamped e mem, clock]
    exact ⟨le_rfl, le_rfl⟩
  · exact List.pairwise_of_forall_mem_list fun e mem e' mem' =>
      ((stamped e mem).trans (stamped e' mem').symm).le
  · rw [List.map_map]
    simpa [Function.comp_def] using replay freed

/-- Where nothing was logged the custody has to be as it was. -/
theorem Told.of_same (log : k'.log = k.log) (clock : k.tick ≤ k'.tick)
    (owner : k'.holder = k.holder) (waiters : k'.waiters = k.waiters) : k.Told k' := by
  refine ⟨[], by rw [log, List.append_nil], clock, fun e mem => ?_, .nil, fun freed => ⟨freed, ?_⟩⟩
  · cases mem
  · rw [custody, custody, owner, waiters]
    rfl

/-- What is noted in the end is told in full if it can be followed. -/
theorem Told.of_follow {e : Event} (log : k'.log = k.log) (clock : k'.tick = k.tick)
    (follow : ∀ freed, ∃ freed', (k.custody freed).follow e = some (k'.custody freed')) :
    k.Told (k'.record e) := by
  refine .of_replay [e] (by simp [record, log, clock]) clock fun freed => ?_
  obtain ⟨freed', followed⟩ := follow freed
  refine ⟨freed', ?_⟩
  rw [Custody.replay_cons, followed]
  rfl

instance : IsPreorder Kernel Told where
  refl _ := .of_same rfl le_rfl rfl rfl
  trans _ _ _ := fun ⟨_, first⟩ ⟨_, second⟩ => ⟨_, first.trans second⟩

/-- What has nothing to do with the resources is told in full. -/
theorem Aside.told (aside : k.Aside k') : k.Told k' := by
  obtain ⟨events, log, others⟩ := aside.log
  have owner : k'.holder = k.holder := by
    funext r
    rw [holder, holder, aside.owner]
    exact Option.map_congr fun h _ => aside.pid h
  refine .of_replay events log aside.tick fun freed => ?_
  obtain ⟨freed', replayed⟩ := Custody.replay_aside (c := k.custody freed) others
  refine ⟨freed', ?_⟩
  rw [replayed, custody, custody, owner, funext aside.calm.waiters]

/-! ### What is done to the resources -/

@[simp] theorem custody_assign (owner : Option Handle) :
    (k.assign r owner).holder =
        Function.update k.holder r (owner.map fun h => (k.process h).pid) ∧
      (k.assign r owner).waiters = k.waiters := by
  constructor
  · funext i
    by_cases here : i = r
    · subst here
      simp [holder]
    · simp [holder, here, Ne.symm here]
  · funext i
    simp [Kernel.waiters]

@[simp] theorem custody_park :
    (k.park r h).holder = k.holder ∧
      (k.park r h).waiters =
        Function.update k.waiters r (k.waiters r ++ [(k.process h).pid]) := by
  constructor
  · funext i
    simp [holder]
  · funext i
    by_cases here : i = r
    · subst here
      simp [Kernel.waiters]
    · simp [Kernel.waiters, here, Ne.symm here]

theorem custody_wake {rest : List Handle} (members : k.queue (.waiting r) = w :: rest) :
    (k.wake r w).holder = k.holder ∧
      (k.wake r w).waiters = Function.update k.waiters r (k.waiters r).tail := by
  constructor
  · funext i
    simp [holder]
  · funext i
    by_cases here : i = r
    · subst here
      simp [Kernel.waiters, members]
    · simp [Kernel.waiters, here, Ne.symm here]

/-- What is free is acquired. -/
theorem follow_acquired (free : (k.resource r).owner = none) (freed : Option Int) :
    (k.custody freed).follow (.acquired (k.process h).pid r) =
      some ((k.assign r (some h)).custody none) := by
  have legal : k.holder r = none := by simp [holder, free]
  simp [Custody.follow, custody, legal]

/-- Whoever waits names the owner. -/
theorem follow_waits {owner : Handle} (owned : (k.resource r).owner = some owner)
    (freed : Option Int) :
    (k.custody freed).follow (.waits (k.process h).pid r (k.process owner).pid) =
      some ((k.park r h).custody none) := by
  have legal : k.holder r = some (k.process owner).pid := by simp [holder, owned]
  simp [Custody.follow, custody, legal]

/-- The owner releases. -/
theorem follow_released (owned : (k.resource r).owner = some h) (freed : Option Int) :
    (k.custody freed).follow (.released (k.process h).pid r) =
      some ((k.assign r none).custody (some r)) := by
  have legal : k.holder r = some (k.process h).pid := by simp [holder, owned]
  simp [Custody.follow, custody, legal]

/-- The head of the queue is woken from what has been released right before. -/
theorem follow_woken {rest : List Handle} (members : k.queue (.waiting r) = w :: rest) :
    (k.custody (some r)).follow (.woken (k.process w).pid r) =
      some ((k.wake r w).custody none) := by
  have head : (k.waiters r).head? = some (k.process w).pid := by simp [Kernel.waiters, members]
  obtain ⟨owner, waiters⟩ := custody_wake members
  simp [Custody.follow, custody, head, owner, waiters]

end Kernel

end Uniprocessor
