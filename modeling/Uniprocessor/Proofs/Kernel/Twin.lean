import Uniprocessor.Proofs.Kernel.Alike
import Uniprocessor.Proofs.Kernel.Operations
import Uniprocessor.Proofs.Lockstep

/-!
Kernels that only boosts, log and notes tell apart.

Twins are alike, and if they keep pace also at the same place of the slice
(`Kernel.Twin`). An operation that does not look at boosts runs on both together: it
gives the same answer and leaves twins. A change of boosts, of the log or of who is
noted as blocked may be made on one side alone.

A boost of somebody who is not in use would enrol them, on that side only. Of
those who may be boosted it is therefore known that they are in use: the current
process, every owner, and whoever else is named (`Kernel.Known`).
-/

namespace Uniprocessor

open EStateM (Together reads_get)

namespace Kernel

variable {paced : Prop} {others : List Handle} {k k' l m : Kernel} {h : Handle}

/-- The current process, every owner and the others named are in use. -/
structure Known (others : List Handle) (k : Kernel) : Prop where
  current : ∀ h, k.current = some h → h ∈ k.handles
  owner : ∀ r h, (k.resource r).owner = some h → h ∈ k.handles
  others : ∀ h ∈ others, h ∈ k.handles

theorem Known.grow (known : k.Known others) (handles : ∀ h ∈ k.handles, h ∈ k'.handles)
    (current : k'.current = k.current)
    (owner : ∀ r, (k'.resource r).owner = (k.resource r).owner) : k'.Known others where
  current h is := handles h (known.current h (current ▸ is))
  owner r h is := handles h (known.owner r h (owner r ▸ is))
  others h mem := handles h (known.others h mem)

/-- The kernels are alike, and at the same place of the slice if they keep pace. -/
structure Twin (paced : Prop) (others : List Handle) (k l : Kernel) : Prop extends Alike k l where
  slice : paced → l.memory.sliceUsed = k.memory.sliceUsed
  known : k.Known others

namespace Twin

theorem refl (known : k.Known others) : k.Twin paced others k := ⟨.refl k, fun _ => rfl, known⟩

theorem known_right (twin : k.Twin paced others l) : l.Known others :=
  twin.known.grow (by simp [twin.handles]) twin.current twin.owner

theorem symm (twin : k.Twin paced others l) : l.Twin paced others k where
  process h := (twin.process h).symm
  owner r := (twin.owner r).symm
  ceiling r := (twin.ceiling r).symm
  queue q := (twin.queue q).symm
  handles := twin.handles.symm
  current := twin.current.symm
  size := twin.size.symm
  tick := twin.tick.symm
  slice pace := (twin.slice pace).symm
  known := twin.known_right

theorem trans (first : k.Twin paced others l) (second : l.Twin paced others m) :
    k.Twin paced others m :=
  ⟨first.toAlike.trans second.toAlike, fun pace => (second.slice pace).trans (first.slice pace),
    first.known⟩

/-- Somebody else is named who is in use. -/
theorem naming (twin : k.Twin paced others l) (used : h ∈ k.handles) :
    k.Twin paced (h :: others) l where
  toAlike := twin.toAlike
  slice := twin.slice
  known :=
    ⟨twin.known.current, twin.known.owner, List.forall_mem_cons.mpr ⟨used, twin.known.others⟩⟩

theorem forget (twin : k.Twin paced (h :: others) l) : k.Twin paced others l where
  toAlike := twin.toAlike
  slice := twin.slice
  known := ⟨twin.known.current, twin.known.owner, (List.forall_mem_cons.mp twin.known.others).2⟩

theorem used (twin : k.Twin paced (h :: others) l) : h ∈ k.handles :=
  (List.forall_mem_cons.mp twin.known.others).1

/-! ### The same change on both sides -/

/-- Whoever is written to is in use from then on. -/
theorem setProcess (twin : k.Twin paced others l) (h : Handle) {p q : Process}
    (same : q.clearBoosts = p.clearBoosts) :
    (k.setProcess h p).Twin paced (h :: others) (l.setProcess h q) where
  process j := by
    rw [process_setProcess, process_setProcess]
    split
    · exact same
    · exact twin.process j
  owner := twin.owner
  ceiling := twin.ceiling
  queue q := by
    have kept := twin.queue q
    cases q <;> exact kept
  handles := by
    have left : (k.setProcess h p).handles = _ := k.processes.keys_put h p
    have right : (l.setProcess h q).handles = _ := l.processes.keys_put h q
    have same : l.processes.keys = k.processes.keys := twin.handles
    rw [left, right, same]
  current := twin.current
  size := twin.size
  tick := twin.tick
  slice := twin.slice
  known := by
    have grown : (k.setProcess h p).Known others :=
      twin.known.grow (fun j used => Table.mem_keys_put.mpr (.inr used)) rfl fun _ => rfl
    exact ⟨grown.current, grown.owner,
      List.forall_mem_cons.mpr ⟨Table.mem_keys_put.mpr (.inl rfl), grown.others⟩⟩

theorem setQueue (twin : k.Twin paced others l) (q : QueueId) (members : List Handle) :
    (k.setQueue q members).Twin paced others (l.setQueue q members) where
  process j := by
    have kept := twin.process j
    cases q <;> exact kept
  owner := by simpa using twin.owner
  ceiling := by simpa using twin.ceiling
  queue p := by
    rw [queue_setQueue, queue_setQueue, twin.queue]
  handles := by simpa using twin.handles
  current := by simpa using twin.current
  size := by simpa using twin.size
  tick := by simpa using twin.tick
  slice := by simpa using twin.slice
  known := twin.known.grow (by simp) (by simp) (by simp)

theorem link (twin : k.Twin paced others l) (q : QueueId) (h : Handle) :
    (k.link q h).Twin paced others (l.link q h) := by
  unfold Kernel.link
  rw [twin.queue]
  exact ((twin.setQueue q _).setProcess h (congrArg (·.marked (some q)) (twin.process h))).forget

theorem unlink (twin : k.Twin paced others l) (q : QueueId) (h : Handle) :
    (k.unlink q h).Twin paced others (l.unlink q h) := by
  unfold Kernel.unlink
  rw [twin.queue]
  exact ((twin.setQueue q _).setProcess h (congrArg (·.marked none) (twin.process h))).forget

theorem assign (twin : k.Twin paced others l) (r : Int) {owner : Option Handle}
    (used : ∀ h, owner = some h → h ∈ k.handles) :
    (k.assign r owner).Twin paced others (l.assign r owner) where
  process := by simpa using twin.process
  owner i := by rw [owner_assign, owner_assign, twin.owner]
  ceiling := by simpa using twin.ceiling
  queue := by simpa using twin.queue
  handles := by simpa using twin.handles
  current := by simpa using twin.current
  size := by simpa using twin.size
  tick := by simpa using twin.tick
  slice := by simpa using twin.slice
  known := by
    refine ⟨by simpa using twin.known.current, fun i h owned => ?_,
      by simpa using twin.known.others⟩
    rw [owner_assign] at owned
    split at owned
    · simpa using used h owned
    · simpa using twin.known.owner i h owned

theorem turnTo (twin : k.Twin paced others l) {current : Option Handle}
    (used : ∀ h, current = some h → h ∈ k.handles) :
    (k.turnTo current).Twin paced others (l.turnTo current) where
  process := by simpa using twin.process
  owner := by simpa using twin.owner
  ceiling := by simpa using twin.ceiling
  queue := by simpa using twin.queue
  handles := by simpa using twin.handles
  current := rfl
  size := by simpa using twin.size
  tick := by simpa using twin.tick
  slice := by simpa using twin.slice
  known := ⟨by simpa using used, by simpa using twin.known.owner, by simpa using twin.known.others⟩

theorem later (twin : k.Twin paced others l) : k.later.Twin paced others l.later where
  process := by simpa using twin.process
  owner := by simpa using twin.owner
  ceiling := by simpa using twin.ceiling
  queue := by simpa using twin.queue
  handles := by simpa using twin.handles
  current := by simpa using twin.current
  size := by simpa using twin.size
  tick := by simp [twin.tick]
  slice := by simpa using twin.slice
  known := twin.known.grow (by simp) (by simp) (by simp)

theorem enroll (twin : k.Twin paced others l) (p : Process) :
    (k.enroll p).Twin paced others (l.enroll p) := by
  have next : l.nextHandle = k.nextHandle := by
    simpa [nextHandle, Kernel.handles, Table.keys, Table.size] using
      congrArg List.length twin.handles
  unfold Kernel.enroll
  rw [next]
  exact (twin.setProcess _ rfl).forget

/-! ### Changes that twins need not share -/

theorem remember (twin : k.Twin paced others l) {memory memory' : Memory}
    (slice : paced → memory'.sliceUsed = memory.sliceUsed) :
    (k.remember memory).Twin paced others (l.remember memory') where
  toAlike :=
    ⟨twin.process, twin.owner, twin.ceiling, by simpa using twin.queue, twin.handles, twin.current,
      twin.size, twin.tick⟩
  slice := slice
  known := twin.known.grow (by simp) (by simp) (by simp)

theorem record (twin : k.Twin paced others l) (e e' : Event) :
    (k.record e).Twin paced others (l.record e') where
  toAlike :=
    ⟨twin.process, twin.owner, twin.ceiling, by simpa using twin.queue, twin.handles, twin.current,
      twin.size, twin.tick⟩
  slice := twin.slice
  known := twin.known.grow (by simp) (by simp) (by simp)

/-- What is only added to the log need not be added on the other side. -/
theorem recorded (twin : k.Twin paced others l) (e : Event) : k.Twin paced others (l.record e) :=
  ⟨twin.toAlike.trans (.record l e), twin.slice, twin.known⟩

/-- Nor need boosts be changed. -/
theorem elevated (twin : k.Twin paced others l) (used : h ∈ l.handles) {change : Process → Process}
    (boosts : ∀ p, (change p).clearBoosts = p.clearBoosts) :
    k.Twin paced others (l.edit h change) :=
  ⟨twin.toAlike.trans (.edit used boosts), twin.slice, twin.known⟩

/-- Nor need it be noted who is blocked. -/
theorem remembered (twin : k.Twin paced others l) {memory : Memory}
    (slice : paced → memory.sliceUsed = l.memory.sliceUsed) :
    k.Twin paced others (l.remember memory) :=
  ⟨twin.toAlike.trans (.remember l memory), fun pace => (slice pace).trans (twin.slice pace),
    twin.known⟩

end Twin

end Kernel

namespace KernelM

open Kernel (Twin)

variable {α : Type} {paced : Prop} {others : List Handle} {k l : Kernel} {h : Handle} {r : Int}
  {q : QueueId}

/-! ### What is read -/

theorem reads_process : (process h).Reads k (k.process h) := .of_run run_process

theorem reads_resource : (resource r).Reads k (k.resource r) := by
  intro s u ran
  by_cases inTable : 0 ≤ r ∧ r < k.size
  · exact EStateM.Reads.of_run (run_resource inTable) s u ran
  · simp only [resource, EStateM.run_bind, EStateM.run_get, if_neg inTable] at ran
    cases ran

/-! ### Operations -/

theorem forgetting {x y : KernelM α} (together : Together (Twin paced (h :: others)) x y k l) :
    Together (Twin paced others) x y k l :=
  together.mono fun _ _ twin => twin.forget

theorem together_onProcess (twin : k.Twin paced others l) {change : Process → Except Fault Process}
    (blind : ∀ p p' q q', q.clearBoosts = p.clearBoosts → change p = .ok p' → change q = .ok q' →
      q'.clearBoosts = p'.clearBoosts) :
    Together (Twin paced (h :: others)) (onProcess h change) (onProcess h change) k l := by
  refine .read reads_get reads_get ?_
  cases left : change (k.process h) with
  | error fault => exact .throw_left _ _
  | ok p =>
      cases right : change (l.process h) with
      | error fault => exact .throw_right _ _
      | ok q => exact .modify (twin.setProcess h (blind _ _ _ _ (twin.process h) left right))

theorem together_move (twin : k.Twin paced others l) (t : Transition) :
    Together (Twin paced (h :: others)) (move h t) (move h t) k l := by
  refine together_onProcess twin fun p p' q q' same left right => ?_
  unfold Process.move at left right
  split at left <;> cases left
  split at right <;> cases right
  exact congrArg (·.inState t.target) same

theorem together_runTick (twin : k.Twin paced others l) :
    Together (Twin paced (h :: others)) (runTick h) (runTick h) k l := by
  refine together_onProcess twin fun p p' q q' same left right => ?_
  unfold Process.runTick at left right
  split at left <;> try cases left
  split at left <;> cases left
  split at right <;> try cases right
  split at right <;> cases right
  exact congrArg Process.older same

theorem together_record (twin : k.Twin paced others l) (e e' : Event) :
    Together (Twin paced others) (record e) (record e') k l :=
  .modify (twin.record e e')

theorem together_setOwner (twin : k.Twin paced others l) {owner : Option Handle}
    (used : ∀ h, owner = some h → h ∈ k.handles) :
    Together (Twin paced others) (setOwner r owner) (setOwner r owner) k l :=
  .modify (twin.assign r used)

theorem together_setCurrent (twin : k.Twin paced others l) {current : Option Handle}
    (used : ∀ h, current = some h → h ∈ k.handles) :
    Together (Twin paced others) (setCurrent current) (setCurrent current) k l :=
  .modify (twin.turnTo used)

theorem together_advance (twin : k.Twin paced others l) :
    Together (Twin paced others) advance advance k l := by
  rintro _ _ _ _ ⟨⟩ ⟨⟩
  exact ⟨congrArg (· + 1) twin.tick.symm, twin.later⟩

theorem together_enqueue (twin : k.Twin paced others l) :
    Together (Twin paced others) (enqueue q h) (enqueue q h) k l := by
  refine .read reads_process reads_process ?_
  rw [twin.mark]
  split
  · exact .throw_left _ _
  · exact .modify (twin.link q h)

theorem together_remove (twin : k.Twin paced others l) :
    Together (Twin paced others) (remove q h) (remove q h) k l := by
  refine .read reads_process reads_process ?_
  rw [twin.mark]
  split
  · exact .modify (twin.unlink q h)
  · exact .throw_left _ _

theorem together_takeHead (twin : k.Twin paced others l) :
    Together (Twin paced others) (takeHead q) (takeHead q) k l := by
  refine .read reads_get reads_get ?_
  rw [twin.queue]
  split
  · exact .pure _ twin
  · exact (Together.modify (twin.unlink q _)).bind fun _ _ _ twin => .pure _ twin

/-- Keys that do not look at boosts find the same least member. -/
theorem least?_twin (twin : k.Twin paced others l) {key : Process → Int}
    (blind : ∀ p : Process, key p.clearBoosts = key p) : l.least? key q = k.least? key q := by
  unfold Kernel.least?
  rw [twin.queue]
  congr 1
  funext h
  exact twin.view key blind h

theorem together_takeLeast (twin : k.Twin paced others l) {key : Process → Int}
    (blind : ∀ p : Process, key p.clearBoosts = key p) :
    Together (Twin paced others) (takeLeast key q) (takeLeast key q) k l := by
  refine .read reads_get reads_get ?_
  rw [least?_twin twin blind]
  split
  · exact .pure _ twin
  · exact (together_remove twin).bind fun _ _ _ twin => .pure _ twin

end KernelM

end Uniprocessor
