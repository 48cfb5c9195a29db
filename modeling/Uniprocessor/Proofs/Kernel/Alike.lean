import Uniprocessor.Proofs.Kernel.Order

/-!
Kernels that differ in little.

A protocol grants, parks and wakes as first come, first served does, and
besides that raises priorities, writes the log and remembers who is blocked.
`Kernel.Alike` says that two kernels agree in everything but that, so a fact
about places, ages or owners passes from one to the other. `Kernel.Same` leaves
out only the log and the slice of a policy, which no rule looks at.
`Kernel.Shuffled` leaves out what a choice may change besides: who of those who
can run is where.
-/

namespace Uniprocessor.Kernel

variable {k k' k'' : Kernel} {h : Handle} {r : Int}

/-- The kernels agree in everything but boosts, log and memory. -/
structure Alike (k k' : Kernel) : Prop where
  process : ∀ h, (k'.process h).clearBoosts = (k.process h).clearBoosts
  owner : ∀ r, (k'.resource r).owner = (k.resource r).owner
  ceiling : ∀ r, (k'.resource r).ceiling = (k.resource r).ceiling
  queue : ∀ q, k'.queue q = k.queue q
  handles : k'.handles = k.handles
  current : k'.current = k.current
  size : k'.size = k.size
  tick : k'.tick = k.tick

namespace Alike

theorem refl (k : Kernel) : k.Alike k :=
  ⟨fun _ => rfl, fun _ => rfl, fun _ => rfl, fun _ => rfl, rfl, rfl, rfl, rfl⟩

theorem trans (first : k.Alike k') (second : k'.Alike k'') : k.Alike k'' where
  process h := (second.process h).trans (first.process h)
  owner r := (second.owner r).trans (first.owner r)
  ceiling r := (second.ceiling r).trans (first.ceiling r)
  queue q := (second.queue q).trans (first.queue q)
  handles := second.handles.trans first.handles
  current := second.current.trans first.current
  size := second.size.trans first.size
  tick := second.tick.trans first.tick

/-- What does not look at the boosts sees no difference. -/
theorem view {α : Type} (alike : k.Alike k') (f : Process → α)
    (blind : ∀ p : Process, f p.clearBoosts = f p) (h : Handle) :
    f (k'.process h) = f (k.process h) := by
  rw [← blind, alike.process, blind]

theorem declared (alike : k.Alike k') (h : Handle) :
    (k'.process h).declared = (k.process h).declared :=
  alike.view Process.declared (fun _ => rfl) h

theorem pid (alike : k.Alike k') (h : Handle) : (k'.process h).pid = (k.process h).pid :=
  alike.view Process.pid (fun _ => rfl) h

theorem base (alike : k.Alike k') (h : Handle) : (k'.process h).base = (k.process h).base :=
  alike.view Process.base (fun _ => rfl) h

theorem lifespan (alike : k.Alike k') (h : Handle) :
    (k'.process h).lifespan = (k.process h).lifespan :=
  alike.view Process.lifespan (fun _ => rfl) h

theorem requests (alike : k.Alike k') (h : Handle) :
    (k'.process h).requests = (k.process h).requests :=
  alike.view Process.requests (fun _ => rfl) h

theorem age (alike : k.Alike k') (h : Handle) : (k'.process h).age = (k.process h).age :=
  alike.view Process.age (fun _ => rfl) h

theorem state (alike : k.Alike k') (h : Handle) : (k'.process h).state = (k.process h).state :=
  alike.view Process.state (fun _ => rfl) h

theorem mark (alike : k.Alike k') (h : Handle) : (k'.process h).queue = (k.process h).queue :=
  alike.view Process.queue (fun _ => rfl) h

theorem samePlaces (alike : k.Alike k') : k.SamePlaces k' :=
  ⟨alike.state, alike.mark, alike.owner, alike.queue, alike.handles, alike.current, alike.size⟩

/-! ### Changes that leave kernels alike -/

theorem record (k : Kernel) (e : Event) : k.Alike (k.record e) := by
  constructor <;> simp

theorem remember (k : Kernel) (memory : Memory) : k.Alike (k.remember memory) := by
  constructor <;> simp

/-- A change of boosts only. -/
theorem edit {change : Process → Process} (used : h ∈ k.handles)
    (boosts : ∀ p, (change p).clearBoosts = p.clearBoosts) : k.Alike (k.edit h change) where
  process j := by
    rw [process_edit]
    split
    · exact boosts _
    · rfl
  owner := by simp
  ceiling := by simp
  queue := by simp
  handles := by simp [used]
  current := by simp
  size := by simp
  tick := by simp

end Alike

/-- The kernels agree in everything but the log and the slice of the policy. -/
structure Same (k k' : Kernel) : Prop where
  process : ∀ h, k'.process h = k.process h
  owner : ∀ r, (k'.resource r).owner = (k.resource r).owner
  ceiling : ∀ r, (k'.resource r).ceiling = (k.resource r).ceiling
  queue : ∀ q, k'.queue q = k.queue q
  handles : k'.handles = k.handles
  current : k'.current = k.current
  size : k'.size = k.size
  tick : k'.tick = k.tick
  blockedOn : k'.memory.blockedOn = k.memory.blockedOn

namespace Same

theorem refl (k : Kernel) : k.Same k :=
  ⟨fun _ => rfl, fun _ => rfl, fun _ => rfl, fun _ => rfl, rfl, rfl, rfl, rfl, rfl⟩

theorem trans (first : k.Same k') (second : k'.Same k'') : k.Same k'' where
  process h := (second.process h).trans (first.process h)
  owner r := (second.owner r).trans (first.owner r)
  ceiling r := (second.ceiling r).trans (first.ceiling r)
  queue q := (second.queue q).trans (first.queue q)
  handles := second.handles.trans first.handles
  current := second.current.trans first.current
  size := second.size.trans first.size
  tick := second.tick.trans first.tick
  blockedOn := second.blockedOn.trans first.blockedOn

theorem alike (same : k.Same k') : k.Alike k' :=
  ⟨fun h => by rw [same.process], same.owner, same.ceiling, same.queue, same.handles,
    same.current, same.size, same.tick⟩

theorem record (k : Kernel) (e : Event) : k.Same (k.record e) := by
  constructor <;> simp

end Same

/-- The kernels agree in everything but the places of those who can run, the log
and the slice of the policy. -/
structure Shuffled (k k' : Kernel) : Prop where
  process : ∀ h, (k'.process h).unplaced = (k.process h).unplaced
  exited : ∀ h, (k'.process h).state = .exited ↔ (k.process h).state = .exited
  owner : ∀ r, (k'.resource r).owner = (k.resource r).owner
  ceiling : ∀ r, (k'.resource r).ceiling = (k.resource r).ceiling
  waiting : ∀ r, k'.queue (.waiting r) = k.queue (.waiting r)
  handles : k'.handles = k.handles

/-- What does not look at the places sees no difference. -/
theorem Shuffled.view {α : Type} (shuffled : k.Shuffled k') (f : Process → α)
    (blind : ∀ p : Process, f p.unplaced = f p) (h : Handle) :
    f (k'.process h) = f (k.process h) := by
  rw [← blind, shuffled.process, blind]

theorem Shuffled.trans (first : k.Shuffled k') (second : k'.Shuffled k'') : k.Shuffled k'' where
  process h := (second.process h).trans (first.process h)
  exited h := (second.exited h).trans (first.exited h)
  owner r := (second.owner r).trans (first.owner r)
  ceiling r := (second.ceiling r).trans (first.ceiling r)
  waiting r := (second.waiting r).trans (first.waiting r)
  handles := second.handles.trans first.handles

theorem Same.shuffled (same : k.Same k') : k.Shuffled k' :=
  ⟨fun h => by rw [same.process], fun h => by rw [same.process], same.owner, same.ceiling,
    fun _ => same.queue _, same.handles⟩

theorem clearBoosts_boost (r priority : Int) (p : Process) :
    (p.boost r priority).clearBoosts = p.clearBoosts := by
  unfold Process.boost
  split
  · split <;> rfl
  · rfl

/-! ### What a kernel remembers -/

/-- Everybody remembered as blocked is so on a resource of the table. -/
def Tracked (k : Kernel) : Prop :=
  ∀ pid r, k.memory.blockedOn.get? pid = some r → 0 ≤ r ∧ r < k.size

theorem Tracked.congr {k k' : Kernel} (tracked : k.Tracked)
    (memory : k'.memory = k.memory) (size : k'.size = k.size) : k'.Tracked := by
  unfold Tracked
  rw [memory, size]
  exact tracked

theorem Tracked.same (tracked : k.Tracked) (same : k.Same k') : k'.Tracked := by
  unfold Tracked
  rw [same.blockedOn, same.size]
  exact tracked

end Uniprocessor.Kernel
