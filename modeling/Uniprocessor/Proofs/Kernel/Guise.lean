import Uniprocessor.Proofs.Kernel.Twin
import Uniprocessor.Proofs.Process.Guise

/-!
Kernels in another guise.

A kernel stands in a guise for another one if its processes stand for the other's
under the same handles, and everything that goes by handle is the same
(`Kernel.Guised`). Ceilings are graded like priorities, the clock is late by the
delay, and what is noted under a process number is noted under its other number.

No kernel operation looks at numbers but to call a process by it, nor at
priorities but to compare them. So every operation makes of a kernel in a guise
one in the same guise, with the same answer.
-/

namespace Uniprocessor

open EStateM (Together Alongside reads_get)

/-- The key orders processes like those that stand for them. -/
def Guise.Orders (φ : Guise) (key : Process → Int) : Prop :=
  ∀ {p q p' q' : Process}, p.Guised φ p' → q.Guised φ q' → (key p' ≤ key q' ↔ key p ≤ key q)

namespace Kernel

variable {φ : Guise} {others : List Handle} {k l : Kernel} {h : Handle} {r : Int} {q : QueueId}

/-- The second kernel stands for the first. The current process, every owner, every
member of a queue and the others named are in use. -/
structure Guised (φ : Guise) (others : List Handle) (k l : Kernel) : Prop where
  process : ∀ h ∈ k.handles, (k.process h).Guised φ (l.process h)
  owner : ∀ r, (l.resource r).owner = (k.resource r).owner
  ceiling : ∀ r, (l.resource r).ceiling = (k.resource r).ceiling.map φ.level
  levels : ∀ r v, (k.resource r).ceiling = some v → v ∈ φ.levels
  queue : ∀ q, l.queue q = k.queue q
  member : ∀ q, ∀ h ∈ k.queue q, h ∈ k.handles
  handles : l.handles = k.handles
  current : l.current = k.current
  size : l.size = k.size
  tick : l.tick = k.tick + φ.delay
  slice : l.memory.sliceUsed = k.memory.sliceUsed
  blockedOn : ∀ pid ∈ φ.pids, l.memory.blockedOn.get? (φ.pid pid) = k.memory.blockedOn.get? pid
  /-- A donation goes on for as many steps as resources have been written to. -/
  resources : l.resources.keys = k.resources.keys
  known : k.Known others

/-- The kernels agree in everything but the current process, the clock, the log and the
memory. -/
structure Still (k k' : Kernel) : Prop where
  process : ∀ h, k'.process h = k.process h
  owner : ∀ r, (k'.resource r).owner = (k.resource r).owner
  ceiling : ∀ r, (k'.resource r).ceiling = (k.resource r).ceiling
  queue : ∀ q, k'.queue q = k.queue q
  handles : k'.handles = k.handles
  size : k'.size = k.size
  resources : k'.resources.keys = k.resources.keys

namespace Still

theorem turnTo (k : Kernel) (current : Option Handle) : k.Still (k.turnTo current) :=
  ⟨by simp, by simp, by simp, by simp, by simp, by simp, rfl⟩

theorem later (k : Kernel) : k.Still k.later :=
  ⟨by simp, by simp, by simp, by simp, by simp, by simp, rfl⟩

theorem remember (k : Kernel) (memory : Memory) : k.Still (k.remember memory) :=
  ⟨by simp, by simp, by simp, by simp, by simp, by simp, rfl⟩

theorem record (k : Kernel) (e : Event) : k.Still (k.record e) :=
  ⟨by simp, by simp, by simp, by simp, by simp, by simp, rfl⟩

end Still

namespace Guised

/-! ### Who is in use -/

theorem used (guised : k.Guised φ others l) (named : h ∈ others) : h ∈ k.handles :=
  guised.known.others h named

theorem named (guised : k.Guised φ others l) (named : h ∈ others) :
    (k.process h).Guised φ (l.process h) :=
  guised.process h (guised.used named)

theorem knowing {others' : List Handle} (guised : k.Guised φ others l)
    (used : ∀ h ∈ others', h ∈ k.handles) : k.Guised φ others' l :=
  { guised with known := ⟨guised.known.current, guised.known.owner, used⟩ }

/-- Somebody else is named who is in use. -/
theorem naming (guised : k.Guised φ others l) (used : h ∈ k.handles) :
    k.Guised φ (h :: others) l :=
  guised.knowing (List.forall_mem_cons.mpr ⟨used, guised.known.others⟩)

theorem forget (guised : k.Guised φ (h :: others) l) : k.Guised φ others l :=
  guised.knowing (List.forall_mem_cons.mp guised.known.others).2

theorem least? (guised : k.Guised φ others l) {key : Process → Int} (orders : φ.Orders key) :
    l.least? key q = k.least? key q := by
  unfold Kernel.least?
  rw [guised.queue]
  exact List.minOn?_congr fun h mem j mem' =>
    orders (guised.process h (guised.member q h mem)) (guised.process j (guised.member q j mem'))

theorem heldBy (guised : k.Guised φ others l) : l.heldBy h = k.heldBy h := by
  unfold Kernel.heldBy Kernel.resourceIds
  rw [guised.size]
  simp only [guised.owner]

/-! ### The same change on both sides -/

theorem setProcess (guised : k.Guised φ others l) (named : h ∈ others) {p q : Process}
    (stands : p.Guised φ q) : (k.setProcess h p).Guised φ others (l.setProcess h q) := by
  have used := guised.used named
  have left : (k.setProcess h p).handles = k.handles := handles_setProcess used p
  have right : (l.setProcess h q).handles = l.handles :=
    handles_setProcess (guised.handles ▸ used) q
  have queue : ∀ i, (k.setProcess h p).queue i = k.queue i := fun i => by cases i <;> rfl
  have queue' : ∀ i, (l.setProcess h q).queue i = l.queue i := fun i => by cases i <;> rfl
  constructor
  case process =>
    intro j mem
    rw [process_setProcess, process_setProcess]
    split
    · exact stands
    · exact guised.process j (left ▸ mem)
  case queue => exact fun i => by rw [queue', queue, guised.queue]
  case member =>
    intro i j mem
    rw [queue] at mem
    rw [left]
    exact guised.member i j mem
  case handles => rw [left, right, guised.handles]
  case known => exact guised.known.grow (fun j mem => left ▸ mem) rfl fun _ => rfl
  case owner => exact guised.owner
  case ceiling => exact guised.ceiling
  case levels => exact guised.levels
  case current => exact guised.current
  case size => exact guised.size
  case tick => exact guised.tick
  case slice => exact guised.slice
  case blockedOn => exact guised.blockedOn
  case resources => exact guised.resources

theorem keys_setQueue (k : Kernel) (q : QueueId) (members : List Handle) :
    (k.setQueue q members).resources.keys =
      match q with
      | .waiting r => if r ∈ k.resources.keys then k.resources.keys else k.resources.keys ++ [r]
      | _ => k.resources.keys := by
  cases q with
  | waiting r => exact k.resources.keys_put r _
  | ready | named name => rfl

theorem setQueue (guised : k.Guised φ others l) {members : List Handle}
    (used : ∀ h ∈ members, h ∈ k.handles) :
    (k.setQueue q members).Guised φ others (l.setQueue q members) := by
  have process : ∀ (m : Kernel) j, (m.setQueue q members).process j = m.process j := by
    intro m j
    cases q <;> rfl
  constructor
  case process =>
    intro j mem
    rw [process, process]
    exact guised.process j (by simpa using mem)
  case queue => exact fun i => by rw [queue_setQueue, queue_setQueue, guised.queue]
  case member =>
    intro i j mem
    rw [queue_setQueue] at mem
    split at mem
    · simpa using used j mem
    · simpa using guised.member i j mem
  case known => exact guised.known.grow (by simp) (by simp) (by simp)
  case resources => rw [keys_setQueue, keys_setQueue, guised.resources]
  case owner => simpa using guised.owner
  case ceiling => simpa using guised.ceiling
  case levels => simpa using guised.levels
  case handles => simpa using guised.handles
  case current => simpa using guised.current
  case size => simpa using guised.size
  case tick => simpa using guised.tick
  case slice => simpa using guised.slice
  case blockedOn => simpa using guised.blockedOn

theorem link (guised : k.Guised φ others l) (named : h ∈ others) :
    (k.link q h).Guised φ others (l.link q h) := by
  have members : ∀ j ∈ k.queue q ++ [h], j ∈ k.handles := by
    intro j mem
    rcases List.mem_append.mp mem with here | last
    · exact guised.member q j here
    · exact List.mem_singleton.mp last ▸ guised.used named
  unfold Kernel.link
  rw [guised.queue]
  exact (guised.setQueue members).setProcess named ((guised.named named).marked (some q))

theorem unlink (guised : k.Guised φ others l) (named : h ∈ others) :
    (k.unlink q h).Guised φ others (l.unlink q h) := by
  have members : ∀ j ∈ (k.queue q).erase h, j ∈ k.handles :=
    fun j mem => guised.member q j (List.mem_of_mem_erase mem)
  unfold Kernel.unlink
  rw [guised.queue]
  exact (guised.setQueue members).setProcess named ((guised.named named).marked none)

theorem assign (guised : k.Guised φ others l) {owner : Option Handle}
    (used : ∀ h, owner = some h → h ∈ k.handles) :
    (k.assign r owner).Guised φ others (l.assign r owner) := by
  have keys : ∀ m : Kernel, (m.assign r owner).resources.keys =
      if r ∈ m.resources.keys then m.resources.keys else m.resources.keys ++ [r] :=
    fun m => m.resources.keys_put r _
  constructor
  case known =>
    refine ⟨by simpa using guised.known.current, fun i h owned => ?_,
      by simpa using guised.known.others⟩
    rw [owner_assign] at owned
    split at owned
    · simpa using used h owned
    · simpa using guised.known.owner i h owned
  case resources => rw [keys, keys, guised.resources]
  case owner => exact fun i => by rw [owner_assign, owner_assign, guised.owner]
  case process => simpa using guised.process
  case ceiling => simpa using guised.ceiling
  case levels => simpa using guised.levels
  case queue => simpa using guised.queue
  case member => simpa using guised.member
  case handles => simpa using guised.handles
  case current => simpa using guised.current
  case size => simpa using guised.size
  case tick => simpa using guised.tick
  case slice => simpa using guised.slice
  case blockedOn => simpa using guised.blockedOn

theorem cap (guised : k.Guised φ others l) {v : Int} (used : v ∈ φ.levels) :
    (k.cap r (some v)).Guised φ others (l.cap r (some (φ.level v))) := by
  have keys : ∀ (m : Kernel) (ceiling : Option Int), (m.cap r ceiling).resources.keys =
      if r ∈ m.resources.keys then m.resources.keys else m.resources.keys ++ [r] :=
    fun m ceiling => m.resources.keys_put r _
  constructor
  case ceiling =>
    intro i
    rw [ceiling_cap, ceiling_cap, guised.ceiling]
    split <;> rfl
  case levels =>
    intro i v' is
    rw [ceiling_cap] at is
    split at is
    · cases is
      exact used
    · exact guised.levels i v' is
  case resources => rw [keys, keys, guised.resources]
  case known => exact guised.known.grow (by simp) (by simp) (by simp)
  case owner => simpa using guised.owner
  case process => simpa using guised.process
  case queue => simpa using guised.queue
  case member => simpa using guised.member
  case handles => simpa using guised.handles
  case current => simpa using guised.current
  case size => simpa using guised.size
  case tick => simpa using guised.tick
  case slice => simpa using guised.slice
  case blockedOn => simpa using guised.blockedOn

/-- Where nothing else happens, only these four have to be looked at. -/
theorem still {k' l' : Kernel} (guised : k.Guised φ others l) (left : k.Still k')
    (right : l.Still l')
    (current : l'.current = k'.current ∧ ∀ h, k'.current = some h → h ∈ k.handles)
    (tick : l'.tick = k'.tick + φ.delay) (slice : l'.memory.sliceUsed = k'.memory.sliceUsed)
    (blockedOn : ∀ pid ∈ φ.pids,
      l'.memory.blockedOn.get? (φ.pid pid) = k'.memory.blockedOn.get? pid) :
    k'.Guised φ others l' where
  process h mem := by
    rw [left.process, right.process]
    exact guised.process h (left.handles ▸ mem)
  owner r := by rw [left.owner, right.owner, guised.owner]
  ceiling r := by rw [left.ceiling, right.ceiling, guised.ceiling]
  levels r := by simpa only [left.ceiling] using guised.levels r
  queue q := by rw [left.queue, right.queue, guised.queue]
  member q := by simpa only [left.queue, left.handles] using guised.member q
  handles := by rw [left.handles, right.handles, guised.handles]
  current := current.1
  size := by rw [left.size, right.size, guised.size]
  tick := tick
  slice := slice
  blockedOn := blockedOn
  resources := by rw [left.resources, right.resources, guised.resources]
  known := by
    refine ⟨fun h is => left.handles ▸ current.2 h is, fun r h owned => ?_, fun h mem => ?_⟩
    · exact left.handles ▸ guised.known.owner r h (left.owner r ▸ owned)
    · exact left.handles ▸ guised.known.others h mem

theorem turnTo (guised : k.Guised φ others l) {current : Option Handle}
    (used : ∀ h, current = some h → h ∈ k.handles) :
    (k.turnTo current).Guised φ others (l.turnTo current) :=
  guised.still (.turnTo k current) (.turnTo l current) ⟨rfl, used⟩ guised.tick guised.slice
    guised.blockedOn

theorem later (guised : k.Guised φ others l) : k.later.Guised φ others l.later :=
  guised.still (.later k) (.later l) ⟨guised.current, guised.known.current⟩
    (by simp [guised.tick, Nat.add_right_comm]) guised.slice guised.blockedOn

/-- What is remembered must agree in the slice and in the notes. -/
theorem remember (guised : k.Guised φ others l) {memory memory' : Memory}
    (slice : memory'.sliceUsed = memory.sliceUsed)
    (blockedOn : ∀ pid ∈ φ.pids, memory'.blockedOn.get? (φ.pid pid) = memory.blockedOn.get? pid) :
    (k.remember memory).Guised φ others (l.remember memory') :=
  guised.still (.remember k memory) (.remember l memory') ⟨guised.current, guised.known.current⟩
    guised.tick slice blockedOn

/-- Entries of the log may differ in anything. -/
theorem record (guised : k.Guised φ others l) (e e' : Event) :
    (k.record e).Guised φ others (l.record e') :=
  guised.still (.record k e) (.record l e') ⟨guised.current, guised.known.current⟩ guised.tick
    guised.slice guised.blockedOn

theorem nextHandle (guised : k.Guised φ others l) : l.nextHandle = k.nextHandle := by
  simpa [Kernel.nextHandle, Kernel.handles, Table.keys, Table.size] using
    congrArg List.length guised.handles

/-- A process that is enrolled is in use from then on. -/
theorem enroll (guised : k.Guised φ others l) {p q : Process} (stands : p.Guised φ q) :
    (k.enroll p).Guised φ (k.nextHandle :: others) (l.enroll q) := by
  have left : (k.enroll p).handles = _ := k.processes.keys_put k.nextHandle p
  have right : (l.enroll q).handles = _ := l.processes.keys_put l.nextHandle q
  have next := guised.nextHandle
  have same : l.processes.keys = k.processes.keys := guised.handles
  have grown : ∀ j ∈ k.handles, j ∈ (k.enroll p).handles :=
    fun j used => Table.mem_keys_put.mpr (.inr used)
  have new : k.nextHandle ∈ (k.enroll p).handles := Table.mem_keys_put.mpr (.inl rfl)
  have known : (k.enroll p).Known others := guised.known.grow grown rfl fun _ => rfl
  constructor
  case process =>
    intro j mem
    rw [process_enroll, process_enroll, next]
    split
    · exact stands
    · rename_i other
      rcases Table.mem_keys_put.mp mem with is | old
      · exact absurd is.symm other
      · exact guised.process j old
  case queue => exact fun i => by rw [(k.enroll_frame p).2.1, (l.enroll_frame q).2.1, guised.queue]
  case member =>
    intro i j mem
    rw [(k.enroll_frame p).2.1] at mem
    exact grown j (guised.member i j mem)
  case handles => rw [left, right, next, same]
  case known =>
    exact ⟨known.current, known.owner, List.forall_mem_cons.mpr ⟨new, known.others⟩⟩
  case owner => exact guised.owner
  case ceiling => exact guised.ceiling
  case levels => exact guised.levels
  case current => exact guised.current
  case size => exact guised.size
  case tick => exact guised.tick
  case slice => exact guised.slice
  case blockedOn => exact guised.blockedOn
  case resources => exact guised.resources

end Guised

end Kernel

namespace KernelM

open Kernel (Guised)

variable {φ : Guise} {others : List Handle} {k l : Kernel} {h : Handle} {r : Int} {q : QueueId}

/-- The same answer, which is in use if it names somebody. -/
def Chosen (φ : Guise) (others : List Handle) (a b : Option Handle) (k l : Kernel) : Prop :=
  a = b ∧ k.Guised φ (a.toList ++ others) l

theorem guised_onProcess (guised : k.Guised φ others l) (named : h ∈ others)
    {change change' : Process → Except Fault Process}
    (stands : ∀ p p' q q', p.Guised φ q → change p = .ok p' → change' q = .ok q' →
      p'.Guised φ q') :
    Together (Guised φ others) (onProcess h change) (onProcess h change') k l := by
  refine .read reads_get reads_get ?_
  cases left : change (k.process h) with
  | error fault => exact .throw_left _ _
  | ok p =>
      cases right : change' (l.process h) with
      | error fault => exact .throw_right _ _
      | ok q =>
          exact .modify (guised.setProcess named (stands _ _ _ _ (guised.named named) left right))

theorem guised_move (guised : k.Guised φ others l) (named : h ∈ others) (t : Transition) :
    Together (Guised φ others) (move h t) (move h t) k l := by
  refine guised_onProcess guised named fun p p' q q' stands left right => ?_
  unfold Process.move at left right
  split at left <;> cases left
  split at right <;> cases right
  exact stands.inState t.target

theorem guised_runTick (guised : k.Guised φ others l) (named : h ∈ others) :
    Together (Guised φ others) (runTick h) (runTick h) k l := by
  refine guised_onProcess guised named fun p p' q q' stands left right => ?_
  unfold Process.runTick at left right
  split at left <;> try cases left
  split at left <;> cases left
  split at right <;> try cases right
  split at right <;> cases right
  exact stands.older

theorem guised_boost (guised : k.Guised φ others l) (named : h ∈ others) {v : Int}
    (used : v ∈ φ.levels) :
    Together (Guised φ others) (boost h r v) (boost h r (φ.level v)) k l := by
  refine guised_onProcess guised named ?_
  rintro p _ q _ stands ⟨⟩ ⟨⟩
  exact stands.boost used

theorem guised_unboost (guised : k.Guised φ others l) (named : h ∈ others) :
    Together (Guised φ others) (unboost h r) (unboost h r) k l := by
  refine guised_onProcess guised named ?_
  rintro p _ q _ stands ⟨⟩ ⟨⟩
  exact stands.unboost

theorem guised_clearBoosts (guised : k.Guised φ others l) (named : h ∈ others) :
    Together (Guised φ others) (clearBoosts h) (clearBoosts h) k l := by
  refine guised_onProcess guised named ?_
  rintro p _ q _ stands ⟨⟩ ⟨⟩
  exact stands.clearBoosts

theorem guised_record (guised : k.Guised φ others l) (e e' : Event) :
    Together (Guised φ others) (record e) (record e') k l :=
  .modify (guised.record e e')

theorem guised_setOwner (guised : k.Guised φ others l) {owner : Option Handle}
    (used : ∀ h, owner = some h → h ∈ k.handles) :
    Together (Guised φ others) (setOwner r owner) (setOwner r owner) k l :=
  .modify (guised.assign used)

theorem guised_setCeiling (guised : k.Guised φ others l) {v : Int} (used : v ∈ φ.levels) :
    Together (Guised φ others) (setCeiling r (some v)) (setCeiling r (some (φ.level v))) k l :=
  .read reads_resource reads_resource (.modify (guised.cap used))

theorem guised_setCurrent (guised : k.Guised φ others l) {current : Option Handle}
    (used : ∀ h, current = some h → h ∈ k.handles) :
    Together (Guised φ others) (setCurrent current) (setCurrent current) k l :=
  .modify (guised.turnTo used)

theorem guised_advance (guised : k.Guised φ others l) :
    Alongside (fun _ _ => Guised φ others) advance advance k l := by
  rintro _ _ _ _ ⟨⟩ ⟨⟩
  exact guised.later

theorem guised_enqueue (guised : k.Guised φ others l) (named : h ∈ others) :
    Together (Guised φ others) (enqueue q h) (enqueue q h) k l := by
  refine .read reads_process reads_process ?_
  rw [(guised.named named).queue]
  split
  · exact .throw_left _ _
  · exact .modify (guised.link named)

theorem guised_remove (guised : k.Guised φ others l) (named : h ∈ others) :
    Together (Guised φ others) (remove q h) (remove q h) k l := by
  refine .read reads_process reads_process ?_
  rw [(guised.named named).queue]
  split
  · exact .modify (guised.unlink named)
  · exact .throw_left _ _

theorem guised_takeHead (guised : k.Guised φ others l) :
    Alongside (Chosen φ others) (takeHead q) (takeHead q) k l := by
  refine .read reads_get reads_get ?_
  rw [guised.queue]
  split
  · exact .pure ⟨rfl, guised⟩
  · rename_i h rest members
    have named := guised.naming (guised.member q h (members ▸ List.mem_cons_self))
    exact .after (.modify (named.unlink List.mem_cons_self)) fun _ _ _ left => .pure ⟨rfl, left⟩

theorem guised_takeLeast (guised : k.Guised φ others l) {key : Process → Int}
    (orders : φ.Orders key) :
    Alongside (Chosen φ others) (takeLeast key q) (takeLeast key q) k l := by
  refine .read reads_get reads_get ?_
  rw [guised.least? orders]
  split
  · exact .pure ⟨rfl, guised⟩
  · rename_i h least
    have named := guised.naming (guised.member q h (List.minOn?_mem least))
    exact .after (guised_remove named List.mem_cons_self) fun _ _ _ left => .pure ⟨rfl, left⟩

end KernelM

end Uniprocessor
