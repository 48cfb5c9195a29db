import Mathlib.Order.Bounds.Basic
import Uniprocessor.Proofs.Process.Priority
import Uniprocessor.Proofs.Protocol.Access

/-!
Boosts by what is owned.

Every resource has a level to which its owner is raised: under ceilings the
ceiling, and nothing where the protocol raises nobody (`Protocol.level`). Everybody
is boosted just by the levels of what it owns, as far as these are below its base
priority (`Kernel.Elevated`). So its priority is the most urgent of its base
priority and those levels, and the base priority itself where it owns nothing
(`Elevated.isLeast`, `Elevated.priority_of_nothing`).

To take what is free adds the boost of that resource, if there is one, and to
give something back removes it, whatever else is owned meanwhile
(`Elevated.take`, `Elevated.yield`). Whoever has to wait, and whoever is woken, is
boosted as before.
-/

namespace Uniprocessor

namespace Kernel

variable {k k' : Kernel} {h p : Handle} {r v : Int} {level : Int → Option Int}

/-- Everybody is boosted just by the levels of what it owns that are below its
base priority. -/
def Elevated (k : Kernel) (level : Int → Option Int) : Prop :=
  ∀ p r v, (r, v) ∈ (k.process p).boosts.entries ↔
    (k.resource r).owner = some p ∧ level r = some v ∧ v < (k.process p).base

/-- Nobody has two boosts on account of one resource. -/
def BoostedOnce (k : Kernel) : Prop := ∀ p, (k.process p).boosts.keys.Nodup

namespace Elevated

/-! ### What the levels give -/

/-- An owner is at least as urgent as the level of what it owns. -/
theorem priority_le_level (elevated : k.Elevated level) (owned : (k.resource r).owner = some p)
    (is : level r = some v) : (k.process p).priority ≤ v := by
  by_cases helps : v < (k.process p).base
  · have boost := (elevated p r v).mpr ⟨owned, is, helps⟩
    exact Process.priority_le_of_mem (List.mem_map.mpr ⟨(r, v), boost, rfl⟩)
  · exact (Process.priority_le_base _).trans (not_lt.mp helps)

/-- The priority is the most urgent of the base priority and the levels of what is owned. -/
theorem isLeast (elevated : k.Elevated level) (p : Handle) :
    IsLeast {b | b = (k.process p).base ∨ ∃ r, (k.resource r).owner = some p ∧ level r = some b}
      (k.process p).priority := by
  constructor
  · rcases (k.process p).priority_eq with is | mem
    · exact .inl is
    · obtain ⟨⟨r, v⟩, boost, is⟩ := List.mem_map.mp mem
      obtain ⟨owned, atLevel, _⟩ := (elevated p r v).mp boost
      exact .inr ⟨r, owned, is ▸ atLevel⟩
  · rintro b (rfl | ⟨r, owned, is⟩)
    · exact Process.priority_le_base _
    · exact elevated.priority_le_level owned is

/-- Whoever owns nothing has its base priority. -/
theorem priority_of_nothing (elevated : k.Elevated level)
    (nothing : ∀ r, (k.resource r).owner ≠ some p) :
    (k.process p).priority = (k.process p).base := by
  rcases (elevated.isLeast p).1 with is | ⟨r, owned, _⟩
  · exact is
  · exact absurd owned (nothing r)

/-- The boosts, looked up by resource. -/
theorem get?_iff (elevated : k.Elevated level) (once : k.BoostedOnce) :
    (k.process p).boosts.get? r = some v ↔
      (k.resource r).owner = some p ∧ level r = some v ∧ v < (k.process p).base := by
  rw [← elevated]
  exact Table.get?_eq_some_iff (once p)

/-- Nothing free gives a boost. -/
theorem not_mem_keys_of_free (elevated : k.Elevated level) (free : (k.resource r).owner = none)
    (p : Handle) : r ∉ (k.process p).boosts.keys := by
  intro mem
  obtain ⟨⟨i, v⟩, boost, rfl⟩ := List.mem_map.mp mem
  have owned := ((elevated p i v).mp boost).1
  rw [free] at owned
  cases owned

/-! ### Changes -/

/-- Boosts, owners and the base priorities of owners decide it. -/
theorem congr (elevated : k.Elevated level)
    (boosts : ∀ p, (k'.process p).boosts = (k.process p).boosts)
    (owner : ∀ r, (k'.resource r).owner = (k.resource r).owner)
    (base : ∀ r p, (k.resource r).owner = some p → (k'.process p).base = (k.process p).base) :
    k'.Elevated level := by
  intro p r v
  rw [boosts, owner, elevated]
  constructor <;>
  · rintro ⟨owned, is, helps⟩
    rw [base r p owned] at *
    exact ⟨owned, is, helps⟩

/-- To take what is free adds its level, if that helps. -/
theorem take (elevated : k.Elevated level) (free : (k.resource r).owner = none)
    (base : ∀ p, (k'.process p).base = (k.process p).base)
    (owner : ∀ i, (k'.resource i).owner = if r = i then some h else (k.resource i).owner)
    (entries : ∀ p e, e ∈ (k'.process p).boosts.entries ↔ e ∈ (k.process p).boosts.entries ∨
      p = h ∧ e.1 = r ∧ level r = some e.2 ∧ e.2 < (k.process h).base) : k'.Elevated level := by
  intro p i v
  rw [entries, elevated, owner, base]
  by_cases same : r = i
  · subst same
    simp only [free, if_true, Option.some.injEq]
    constructor
    · rintro (⟨⟨⟩, _⟩ | ⟨rfl, _, is, helps⟩)
      exact ⟨rfl, is, helps⟩
    · rintro ⟨rfl, is, helps⟩
      exact .inr ⟨rfl, trivial, is, helps⟩
  · simp [same, Ne.symm same]

/-- To give something back removes its level and nothing else. -/
theorem yield (elevated : k.Elevated level) (owns : (k.resource r).owner = some h)
    (base : ∀ p, (k'.process p).base = (k.process p).base)
    (owner : ∀ i, (k'.resource i).owner = if r = i then none else (k.resource i).owner)
    (entries : ∀ p e, e ∈ (k'.process p).boosts.entries ↔
      e ∈ (k.process p).boosts.entries ∧ (p = h → e.1 ≠ r)) : k'.Elevated level := by
  intro p i v
  rw [entries, elevated, owner, base]
  by_cases same : r = i
  · subst same
    simp only [owns, if_true, Option.some.injEq]
    constructor
    · rintro ⟨⟨own, _⟩, other⟩
      exact absurd rfl (other own.symm)
    · rintro ⟨⟨⟩, _⟩
  · simp [same, Ne.symm same]

end Elevated

/-! ### Raising and lowering -/

/-- Where nothing gives a boost on account of the resource, to be raised to its
ceiling adds one, if that helps. -/
theorem mem_entries_raise (new : r ∉ (k.process h).boosts.keys) (p : Handle) (e : Int × Int) :
    e ∈ ((k.raise h r).process p).boosts.entries ↔ e ∈ (k.process p).boosts.entries ∨
      p = h ∧ e.1 = r ∧ (k.resource r).ceiling = some e.2 ∧ e.2 < (k.process h).base := by
  unfold raise
  cases level : (k.resource r).ceiling with
  | none => simp
  | some c =>
      by_cases helps : c < (k.process h).base
      · by_cases own : h = p
        · subst own
          obtain ⟨i, v⟩ := e
          simp only [helps, if_true, record_frame, process_edit, Process.entries_boost_of_new new,
            List.mem_append, List.mem_singleton, Prod.mk.injEq, true_and, Option.some.injEq]
          constructor
          · rintro (old | ⟨rfl, rfl⟩)
            · exact .inl old
            · exact .inr ⟨rfl, rfl, helps⟩
          · rintro (old | ⟨rfl, rfl, _⟩)
            · exact .inl old
            · exact .inr ⟨rfl, rfl⟩
        · simp [helps, own, Ne.symm own]
      · simp only [helps, if_false, Option.some.injEq]
        constructor
        · exact .inl
        · rintro (old | ⟨_, _, rfl, helps'⟩)
          · exact old
          · exact absurd helps' helps

theorem BoostedOnce.raise (once : k.BoostedOnce) (h : Handle) (r : Int) :
    (k.raise h r).BoostedOnce := by
  unfold Kernel.raise
  split
  · split
    · intro p
      by_cases own : h = p
      · simpa [own] using Process.nodup_keys_boost (once p) r _
      · simpa [own] using once p
    · exact once
  · exact once

/-- The releaser loses what the resource gave it, and nobody else loses anything. -/
theorem boosts_lower : ((k.lower h r).process p).boosts =
    if h = p then (k.process p).boosts.erase r else (k.process p).boosts := by
  by_cases own : h = p <;> simp [lower, own, Process.unboost]

theorem mem_entries_lower (p : Handle) (e : Int × Int) :
    e ∈ ((k.lower h r).process p).boosts.entries ↔
      e ∈ (k.process p).boosts.entries ∧ (p = h → e.1 ≠ r) := by
  rw [boosts_lower]
  by_cases own : h = p
  · simp [own, Table.erase]
  · simp [own, Ne.symm own]

end Kernel

/-! ### The protocols -/

/-- What a protocol raises the owner of a resource to. -/
def Protocol.level (protocol : Protocol) (k : Kernel) (r : Int) : Option Int :=
  match protocol with
  | .ceiling => (k.resource r).ceiling
  | .fifo | .inheritance => none

namespace Protocol

variable {protocol : Protocol} {k k' : Kernel} {h : Handle} {r : Int}

/-- Whoever gets a resource is boosted by its level. -/
theorem elevated_of_granted (plain : protocol ≠ .inheritance)
    (elevated : k.Elevated (protocol.level k)) (once : k.BoostedOnce) (used : h ∈ k.handles)
    (current : k.current = some h) (inTable : 0 ≤ r ∧ r < k.size)
    (free : (k.resource r).owner = none) (ran : (protocol.acquire r).run k = .ok true k') :
    k'.Elevated (protocol.level k) ∧ k'.BoostedOnce := by
  let taken := (k.assign r (some h)).record (.acquired (k.process h).pid r)
  have once' : taken.BoostedOnce := by simpa [taken, Kernel.BoostedOnce] using once
  cases protocol with
  | inheritance => exact absurd rfl plain
  | fifo =>
      have granted : (acquire .fifo r).run k = .ok true taken := by
        simp [acquire, run_caller current, run_acquireFifo_granted current inTable free, taken]
      rw [granted] at ran
      injection ran with _ is
      subst is
      have owner : ∀ i, (taken.resource i).owner =
          if r = i then some h else (k.resource i).owner := by simp [taken]
      exact ⟨elevated.take free (by simp [taken]) owner (by simp [taken, level]), once'⟩
  | ceiling =>
      rw [run_acquire_raising current inTable free] at ran
      cases ran
      have alike : taken.Alike (taken.raise h r) := alike_raise (by simpa [taken] using used) r
      have entries := Kernel.mem_entries_raise (k := taken) (h := h) (r := r)
        (by simpa [taken] using elevated.not_mem_keys_of_free free h)
      have owner : ∀ i, ((taken.raise h r).resource i).owner =
          if r = i then some h else (k.resource i).owner := by simp [taken, alike.owner]
      exact ⟨elevated.take free (by simp [taken, alike.base]) owner
        (by simpa [taken, level] using entries), once'.raise h r⟩

/-- Whoever has to wait is boosted as before. -/
theorem boosts_of_refused {owner : Handle} (plain : protocol ≠ .inheritance)
    (current : k.current = some h) (inTable : 0 ≤ r ∧ r < k.size)
    (owned : (k.resource r).owner = some owner) (other : owner ≠ h)
    (running : (k.process h).state = .running) (unlinked : (k.process h).queue = none)
    (ran : (protocol.acquire r).run k = .ok false k') (p : Handle) :
    (k'.process p).boosts = (k.process p).boosts := by
  have refused : (protocol.acquire r).run k =
      .ok false ((k.park r h).record (.waits (k.process h).pid r (k.process owner).pid)) := by
    have parked := run_acquireFifo_refused current inTable owned other running unlinked
    cases protocol with
    | inheritance => exact absurd rfl plain
    | fifo | ceiling =>
        exact (EStateM.run_bind_of_ok (run_caller current) _).trans
          (EStateM.run_bind_of_ok parked _)
  rw [refused] at ran
  cases ran
  by_cases own : h = p <;> simp [own]

/-- Whoever gives a resource back is boosted by it no longer. -/
theorem elevated_of_released (plain : protocol ≠ .inheritance)
    (elevated : k.Elevated (protocol.level k)) (once : k.BoostedOnce) (order : k.Orderly)
    (used : h ∈ k.handles) (current : k.current = some h)
    (owned : (k.resource r).owner = some h) (ran : (protocol.release r).run k = .ok () k') :
    k'.Elevated (protocol.level k) ∧ k'.BoostedOnce := by
  -- Without ceilings nobody is boosted; with them the resource takes its own boost away.
  cases protocol with
  | inheritance => exact absurd rfl plain
  | fifo =>
      have released : (release .fifo r).run k = .ok () (k.freed r h) :=
        (EStateM.run_bind_of_ok (run_caller current) _).trans
          (EStateM.run_bind_of_ok (run_releaseFifo order current owned) _)
      rw [released] at ran
      cases ran
      have alike := alike_freed (r := r) (h := h) order
      have bare : ∀ p e, e ∉ (k.process p).boosts.entries := by
        rintro p ⟨i, v⟩ boost
        cases ((elevated p i v).mp boost).2.1
      refine ⟨elevated.yield owned (by simp [alike.base, apply_ite]) (by simp [alike.owner]) ?_, ?_⟩
      · simp [bare]
      · simpa [Kernel.BoostedOnce] using once
  | ceiling =>
      rw [run_release_lowering order current owned] at ran
      cases ran
      have alike := alike_lower (r := r) order used
      refine ⟨elevated.yield owned (by simp [alike.base, apply_ite]) (by simp [alike.owner])
        Kernel.mem_entries_lower, fun p => ?_⟩
      rw [Kernel.boosts_lower]
      split
      · exact Table.nodup_keys_erase (once p) r
      · exact once p

end Protocol

end Uniprocessor
