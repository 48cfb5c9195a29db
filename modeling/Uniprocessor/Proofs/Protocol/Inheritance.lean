import Mathlib.Order.Bounds.Basic
import Mathlib.Logic.Relation
import Uniprocessor.Proofs.Process.Priority
import Uniprocessor.Proofs.Policy.Choice
import Uniprocessor.Proofs.Protocol.Access

/-!
Priorities under inheritance.

A process waits on another if it is in the queue of a resource that the other
owns. Under inheritance the effective priority of a process is the most urgent
base priority among itself and those who wait on it, directly or through others
(`Kernel.PassedOn.isLeast`), also where they wait in a circle. Three facts carry
this: a boost is on account of a resource that the process owns, it is the base
priority of somebody behind the process, and an owner is at least as urgent as
its waiters (`Kernel.PassedOn`). The last of them fails for a while where
resources change hands; `late` says for which waiters. A new owner inherits from
all waiters of its resource (`PassedOn.grant`), and one that has given something
back keeps what its other waiters pass on (`PassedOn.release`). Whoever begins to
wait is late until its priority has been donated (`PassedOn.block`).
-/

namespace Uniprocessor

/-! ### The most urgent waiter -/

namespace Protocol

variable {k : Kernel} {r least : Int}

theorem urgentWaiter_eq_none_iff : urgentWaiter k r = none ↔ k.queue (.waiting r) = [] := by
  simp [urgentWaiter, Policy.least?_eq_none_iff]

theorem urgentWaiter_eq_some (urgent : urgentWaiter k r = some least) :
    ∃ w ∈ k.queue (.waiting r), (k.process w).priority = least ∧
      ∀ q ∈ k.queue (.waiting r), least ≤ (k.process q).priority := by
  obtain ⟨w, found, is⟩ := Option.map_eq_some_iff.mp urgent
  refine ⟨w, Policy.least?_mem found, is, fun q mem => ?_⟩
  rw [← is]
  exact Policy.key_le_of_least? found mem

end Protocol

namespace Kernel

variable {k k' : Kernel} {h p q : Handle} {r v : Int} {late late' : Handle → Int → Prop}

theorem mem_resourceIds_iff : r ∈ k.resourceIds ↔ 0 ≤ r ∧ r < k.size := by
  constructor
  · intro mem
    obtain ⟨i, small, rfl⟩ := List.mem_map.mp mem
    have := List.mem_range.mp small
    omega
  · rintro ⟨low, high⟩
    exact List.mem_map.mpr ⟨r.toNat, List.mem_range.mpr (by omega), Int.toNat_of_nonneg low⟩

/-- A process holds what it owns. -/
theorem Orderly.mem_heldBy_iff (order : k.Orderly) :
    r ∈ k.heldBy h ↔ (k.resource r).owner = some h := by
  constructor
  · intro held
    simpa using (List.mem_filter.mp held).2
  · intro owned
    have inTable : r ∈ k.resourceIds := mem_resourceIds_iff.mpr (order.owners r h owned).1
    exact List.mem_filter.mpr ⟨inTable, by simpa using owned⟩

/-! ### Who waits on whom -/

/-- Different processes have different numbers. -/
def Distinct (k : Kernel) : Prop :=
  ∀ a ∈ k.handles, ∀ b ∈ k.handles, (k.process a).pid = (k.process b).pid → a = b

/-- The first is in the queue of a resource that the second owns. -/
def WaitsOn (k : Kernel) (q p : Handle) : Prop :=
  ∃ r, (k.resource r).owner = some p ∧ q ∈ k.queue (.waiting r)

/-- The first waits on the second, directly or through others, or is the second. -/
abbrev Behind (k : Kernel) : Handle → Handle → Prop := Relation.ReflTransGen k.WaitsOn

/-- Priorities have been passed on, but to the owners of what late waiters wait for. -/
structure PassedOn (k : Kernel) (late : Handle → Int → Prop) : Prop where
  owned : ∀ p, ∀ r ∈ (k.process p).boosts.keys, (k.resource r).owner = some p
  earned : ∀ p, ∀ v ∈ (k.process p).boosts.values, ∃ q, k.Behind q p ∧ (k.process q).base = v
  passed : ∀ r p, (k.resource r).owner = some p → ∀ q ∈ k.queue (.waiting r), ¬ late q r →
    (k.process p).priority ≤ (k.process q).priority
  noted : ∀ pid r, k.memory.blockedOn.get? pid = some r ↔
    ∃ h ∈ k.queue (.waiting r), (k.process h).pid = pid

namespace PassedOn

/-- The priority of a process is the base priority of somebody behind it. -/
theorem attained (passed : k.PassedOn late) (p : Handle) :
    ∃ q, k.Behind q p ∧ (k.process q).base = (k.process p).priority := by
  rcases (k.process p).priority_eq with own | boosted
  · exact ⟨p, .refl, own.symm⟩
  · exact passed.earned p _ boosted

/-- Whoever has somebody behind it is at least as urgent. -/
theorem priority_le (passed : k.PassedOn fun _ _ => False) (behind : k.Behind q p) :
    (k.process p).priority ≤ (k.process q).priority := by
  induction behind with
  | refl => exact le_rfl
  | tail _ waits ih =>
      obtain ⟨r, owned, mem⟩ := waits
      exact (passed.passed r _ owned _ mem id).trans ih

/-- The effective priority is the most urgent base priority among a process and
those behind it. -/
theorem isLeast (passed : k.PassedOn fun _ _ => False) (p : Handle) :
    IsLeast {b | ∃ q, k.Behind q p ∧ (k.process q).base = b} (k.process p).priority := by
  refine ⟨passed.attained p, ?_⟩
  rintro _ ⟨q, behind, rfl⟩
  exact (passed.priority_le behind).trans (k.process q).priority_le_base

/-! ### Changes that concern no priority -/

/-- More may be late. -/
theorem mono (passed : k.PassedOn late)
    (settled : ∀ r p, (k.resource r).owner = some p → ∀ q ∈ k.queue (.waiting r), ¬ late' q r →
      ¬ late q r ∨ (k.process p).priority ≤ (k.process q).priority) : k.PassedOn late' where
  owned := passed.owned
  earned := passed.earned
  passed r p owned q mem punctual :=
    (settled r p owned q mem punctual).elim (passed.passed r p owned q mem) id
  noted := passed.noted

theorem waitsOn_congr (owner : ∀ r, (k'.resource r).owner = (k.resource r).owner)
    (queue : ∀ r, k'.queue (.waiting r) = k.queue (.waiting r)) : k'.WaitsOn = k.WaitsOn := by
  funext q p
  simp only [WaitsOn, owner, queue]

/-- Changes of processes that are not in use, or of anything else about those
that are, concern no priority. -/
theorem congr (passed : k.PassedOn late) (order : k.Orderly)
    (owner : ∀ r, (k'.resource r).owner = (k.resource r).owner)
    (queue : ∀ r, k'.queue (.waiting r) = k.queue (.waiting r))
    (blockedOn : k'.memory.blockedOn = k.memory.blockedOn)
    (process : ∀ h ∈ k.handles, (k'.process h).boosts = (k.process h).boosts ∧
      (k'.process h).base = (k.process h).base ∧ (k'.process h).pid = (k.process h).pid)
    (unused : ∀ h ∉ k.handles, (k'.process h).boosts = {}) : k'.PassedOn late := by
  have waits := waitsOn_congr owner queue
  have priority : ∀ h ∈ k.handles, (k'.process h).priority = (k.process h).priority := by
    intro h used
    obtain ⟨boosts, base, _⟩ := process h used
    exact Process.priority_congr boosts base
  have waiting : ∀ {h r}, h ∈ k.queue (.waiting r) → h ∈ k.handles := order.linked.used
  -- Whoever waits or owns is in use, so the others have no part in it.
  constructor
  · intro p r mem
    by_cases used : p ∈ k.handles
    · rw [(process p used).1] at mem
      rw [owner]
      exact passed.owned p r mem
    · rw [unused p used] at mem
      cases mem
  · intro p v mem
    by_cases used : p ∈ k.handles
    · rw [(process p used).1] at mem
      obtain ⟨q, behind, base⟩ := passed.earned p v mem
      have used' : q ∈ k.handles := by
        rcases Relation.ReflTransGen.cases_head behind with rfl | ⟨_, ⟨_, _, mem⟩, _⟩
        · exact used
        · exact waiting mem
      refine ⟨q, ?_, (process q used').2.1.trans base⟩
      rw [Behind, waits]
      exact behind
    · rw [unused p used] at mem
      cases mem
  · intro r p owned q mem punctual
    rw [owner] at owned
    rw [queue] at mem
    rw [priority p (order.owners r p owned).2.1, priority q (waiting mem)]
    exact passed.passed r p owned q mem punctual
  · intro pid r
    rw [blockedOn, passed.noted, queue]
    constructor <;> rintro ⟨h, mem, same⟩ <;> refine ⟨h, mem, ?_⟩
    · rw [(process h (waiting mem)).2.2, same]
    · rw [← (process h (waiting mem)).2.2, same]

/-- What leaves boosts, base priorities and numbers concerns no priority. -/
theorem same (passed : k.PassedOn late) (order : k.Orderly)
    (owner : ∀ r, (k'.resource r).owner = (k.resource r).owner)
    (queue : ∀ r, k'.queue (.waiting r) = k.queue (.waiting r))
    (blockedOn : k'.memory.blockedOn = k.memory.blockedOn)
    (process : ∀ h, (k'.process h).boosts = (k.process h).boosts ∧
      (k'.process h).base = (k.process h).base ∧ (k'.process h).pid = (k.process h).pid) :
    k'.PassedOn late := by
  apply passed.congr order owner queue blockedOn (fun h _ => process h)
  intro h unused
  rw [(process h).1, process_of_unused unused]
  rfl

/-- A log entry concerns no priority. -/
theorem record (passed : k.PassedOn late) (e : Event) : (k.record e).PassedOn late :=
  ⟨passed.owned, passed.earned, passed.passed, passed.noted⟩

/-! ### Boosts -/

/-- An owner is boosted by what somebody behind it has. Of those who are late,
only its own waiters may be settled by that. -/
theorem boost (passed : k.PassedOn late) (owned : (k.resource r).owner = some h)
    (earned : ∃ q, k.Behind q h ∧ (k.process q).base = v)
    (settled : ∀ i p, (k.resource i).owner = some p → ∀ q ∈ k.queue (.waiting i), ¬ late' q i →
      q ≠ h ∧ (¬ late q i ∨ p = h ∧ v ≤ (k.process q).priority)) :
    (k.edit h (·.boost r v)).PassedOn late' := by
  have waits : (k.edit h (·.boost r v)).WaitsOn = k.WaitsOn :=
    waitsOn_congr (by simp) (by simp)
  have base : ∀ q, ((k.edit h (·.boost r v)).process q).base = (k.process q).base := by
    intro q
    by_cases here : h = q <;> simp [here]
  constructor
  · intro p i mem
    by_cases here : h = p
    · subst here
      simp only [process_edit, if_true] at mem
      rcases Process.mem_keys_boost mem with rfl | old
      · simpa using owned
      · simpa using passed.owned h i old
    · simp only [process_edit, here, if_false] at mem
      simpa using passed.owned p i mem
  · intro p w mem
    have old : ∃ q, k.Behind q p ∧ (k.process q).base = w := by
      by_cases here : h = p
      · subst here
        simp only [process_edit, if_true] at mem
        rcases Process.mem_values_boost mem with rfl | old
        · exact earned
        · exact passed.earned h w old
      · simp only [process_edit, here, if_false] at mem
        exact passed.earned p w mem
    obtain ⟨q, behind, is⟩ := old
    refine ⟨q, ?_, (base q).trans is⟩
    rw [Behind, waits]
    exact behind
  -- Whoever waits keeps its priority, and that of the owner only becomes more urgent.
  · intro i p owned' q mem punctual
    obtain ⟨other, before⟩ := settled i p (by simpa using owned') q (by simpa using mem) punctual
    have same : (k.edit h (·.boost r v)).process q = k.process q := by simp [Ne.symm other]
    have lower : ((k.edit h (·.boost r v)).process p).priority ≤ (k.process p).priority := by
      by_cases here : h = p
      · simpa [here] using Process.priority_boost_le_priority _ r v
      · simp [here]
    rw [same]
    rcases before with early | ⟨rfl, enough⟩
    · exact lower.trans (passed.passed i p (by simpa using owned') q (by simpa using mem) early)
    · refine le_trans ?_ enough
      simpa using Process.priority_boost_le _ r v
  · intro i j
    simp [passed.noted]

/-- A new owner inherits from the waiters of its resource. -/
theorem inherit {others : Int → Prop} (passed : k.PassedOn fun _ i => i = r ∨ others i)
    (owned : (k.resource r).owner = some h) (awake : ∀ i, h ∉ k.queue (.waiting i)) :
    (k.inherit h r).PassedOn fun _ i => others i := by
  -- Without waiters nobody is late. Otherwise the most urgent one decides; where it does not help,
  -- the owner is as urgent already.
  cases urgent : Protocol.urgentWaiter k r with
  | none =>
      have same : k.inherit h r = k := by simp [Kernel.inherit, urgent]
      rw [same]
      refine passed.mono fun i p _ q mem punctual => .inl ?_
      rintro (rfl | late)
      · rw [Protocol.urgentWaiter_eq_none_iff.mp urgent] at mem
        cases mem
      · exact punctual late
  | some least =>
      obtain ⟨w, waits, is, bound⟩ := Protocol.urgentWaiter_eq_some urgent
      have opened : k.inherit h r =
          if least < (k.process h).base then k.edit h (·.boost r least) else k := by
        simp [Kernel.inherit, urgent]
      by_cases helps : least < (k.process h).base
      · rw [opened, if_pos helps]
        obtain ⟨q, behind, base⟩ := passed.attained w
        refine passed.boost owned ⟨q, behind.tail ⟨r, owned, waits⟩, base.trans is⟩ ?_
        intro i p owned' q mem punctual
        refine ⟨fun own => awake i (own ▸ mem), ?_⟩
        by_cases here : i = r
        · subst here
          rw [owned] at owned'
          cases owned'
          exact .inr ⟨rfl, bound q mem⟩
        · exact .inl (by simpa [here] using punctual)
      · rw [opened, if_neg helps]
        apply passed.mono
        intro i p owned' q mem punctual
        by_cases here : i = r
        · subst here
          rw [owned] at owned'
          cases owned'
          exact .inr ((k.process h).priority_le_base.trans ((not_lt.mp helps).trans (bound q mem)))
        · exact .inl (by simpa [here] using punctual)

/-! ### Granting -/

/-- The waiters of a free resource are late when it finds an owner. -/
theorem assign (passed : k.PassedOn fun _ _ => False) (free : (k.resource r).owner = none)
    (h : Handle) : (k.assign r (some h)).PassedOn fun _ i => i = r := by
  have kept : ∀ i p, (k.resource i).owner = some p →
      ((k.assign r (some h)).resource i).owner = some p := by
    intro i p owned
    have other : r ≠ i := by
      rintro rfl
      rw [free] at owned
      cases owned
    simpa [other] using owned
  constructor
  · intro p i mem
    exact kept i p (passed.owned p i (by simpa using mem))
  · intro p v mem
    obtain ⟨q, behind, base⟩ := passed.earned p v (by simpa using mem)
    have waits : ∀ a b, k.WaitsOn a b → (k.assign r (some h)).WaitsOn a b := by
      rintro a b ⟨i, owned, mem⟩
      exact ⟨i, kept i b owned, by simpa using mem⟩
    exact ⟨q, Relation.ReflTransGen.mono waits _ _ behind, by simpa using base⟩
  · intro i p owned q mem punctual
    have owned : (k.resource i).owner = some p := by simpa [Ne.symm punctual] using owned
    simpa using passed.passed i p owned q (by simpa using mem) id
  · intro pid i
    simpa using passed.noted pid i

/-- A new owner is as urgent as its waiters. -/
theorem grant (passed : k.PassedOn fun _ _ => False) (free : (k.resource r).owner = none)
    (awake : ∀ i, h ∉ k.queue (.waiting i)) (e : Event) :
    (((k.assign r (some h)).record e).inherit h r).PassedOn fun _ _ => False := by
  have waiters : ((k.assign r (some h)).record e).PassedOn fun _ i => i = r ∨ False := by
    refine ((passed.assign free h).record e).mono fun i p _ q _ punctual => .inl ?_
    simpa using punctual
  exact waiters.inherit (by simp) (by simpa using awake)

/-! ### Giving back -/

/-- If a process that does not wait itself loses waiters, the others keep who is
behind them. -/
theorem behind_of_kept (awake : ∀ i, h ∉ k.queue (.waiting i))
    (kept : ∀ a b, b ≠ h → k.WaitsOn a b → k'.WaitsOn a b) (other : p ≠ h)
    (behind : k.Behind q p) : k'.Behind q p := by
  -- From the end of the chain: whoever stands before the last one waits, so it is not `h`.
  induction behind with
  | refl => exact .refl
  | tail _ waits ih =>
      rename_i b c _
      have moving : b ≠ h := by
        rintro rfl
        obtain ⟨i, _, mem⟩ := waits
        exact awake i mem
      exact (ih moving).tail (kept _ _ other waits)

end PassedOn

theorem inherit_frame (k : Kernel) (h : Handle) (r : Int) :
    (∀ i, ((k.inherit h r).resource i).owner = (k.resource i).owner) ∧
      ∀ i, (k.inherit h r).queue i = k.queue i := by
  unfold inherit
  split
  · split <;> simp
  · simp

/-- A release changes no boost. -/
theorem boosts_handBack (k : Kernel) (r : Int) (h j : Handle) :
    ((k.handBack r h).process j).boosts = (k.process j).boosts := by
  unfold handBack
  cases (k.queue (.waiting r)).head? <;> simp [noteBlocked]

/-- What a release leaves where the releaser has lost its boosts, before it inherits
again. -/
def stripped (k : Kernel) (r : Int) (h : Handle) : Kernel :=
  (k.handBack r h).edit h Process.clearBoosts

theorem boosts_stripped (k : Kernel) (r : Int) (h p : Handle) :
    ((k.stripped r h).process p).boosts = if h = p then {} else (k.process p).boosts := by
  by_cases own : h = p
  · simp [stripped, own, Process.clearBoosts]
  · simpa [stripped, own] using k.boosts_handBack r h p

section Stripped

variable (order : k.Orderly) (owned : (k.resource r).owner = some h)
include order owned

theorem alike_stripped : (k.free r).Alike (k.stripped r h) := by
  have alike := Protocol.alike_handBack (r := r) (h := h) order
  refine alike.trans (.edit ?_ fun _ => rfl)
  rw [alike.handles, order.handles_free]
  exact (order.owners r h owned).2.1

theorem base_stripped (p : Handle) :
    ((k.stripped r h).process p).base = (k.process p).base := by
  rw [(alike_stripped order owned).base]
  simp

/-- A release leaves everybody else as urgent as before. -/
theorem priority_stripped (other : p ≠ h) :
    ((k.stripped r h).process p).priority = (k.process p).priority :=
  Process.priority_congr (by rw [boosts_stripped, if_neg (Ne.symm other)])
    (base_stripped order owned p)

/-- A release leaves everybody else what it owns. -/
theorem owner_stripped_iff (other : p ≠ h) (i : Int) :
    ((k.stripped r h).resource i).owner = some p ↔ (k.resource i).owner = some p := by
  rw [(alike_stripped order owned).owner, (k.free_views r).2.1]
  by_cases here : r = i
  · subst here
    simp [owned, Ne.symm other]
  · simp [here]

/-- A release leaves the waiters for what somebody else owns. -/
theorem queue_stripped {i : Int} (other : p ≠ h) (owned' : (k.resource i).owner = some p) :
    (k.stripped r h).queue (.waiting i) = k.queue (.waiting i) := by
  have apart : r ≠ i := by
    rintro rfl
    rw [owned] at owned'
    exact other (Option.some.inj owned').symm
  simp [(alike_stripped order owned).queue, apart]

end Stripped

/-- The woken process is noted no longer. -/
theorem blockedOn_handBack (k : Kernel) (r : Int) (h : Handle) (pid : Int) :
    (k.handBack r h).memory.blockedOn.get? pid =
      if (k.queue (.waiting r)).head?.map (fun w => (k.process w).pid) = some pid then none
      else k.memory.blockedOn.get? pid := by
  unfold handBack
  cases (k.queue (.waiting r)).head? with
  | none => simp
  | some w => simp [noteBlocked, Table.get?_erase]

namespace PassedOn

/-- The notes agree with the queues after a release. -/
theorem noted_handBack (passed : k.PassedOn late) (order : k.Orderly)
    (distinct : k.Distinct) (r : Int) (h : Handle) (pid i : Int) :
    (k.handBack r h).memory.blockedOn.get? pid = some i ↔
      ∃ j ∈ (k.handBack r h).queue (.waiting i), (k.process j).pid = pid := by
  have queue : (k.handBack r h).queue (.waiting i) =
      if r = i then (k.queue (.waiting r)).tail else k.queue (.waiting i) := by
    simp [(Protocol.alike_handBack order).queue]
  rw [blockedOn_handBack, queue]
  cases members : k.queue (.waiting r) with
  | nil =>
      rw [List.head?_nil, Option.map_none, if_neg nofun, passed.noted]
      by_cases here : r = i
      · subst here
        simp [members]
      · simp [here]
  | cons w rest =>
      have mem : w ∈ k.queue (.waiting r) := by
        rw [members]
        exact .head _
      have once : w ∉ rest := (List.nodup_cons.mp (members ▸ order.linked.nodup (.waiting r))).1
      have awake : ∀ j ∈ (if r = i then rest else k.queue (.waiting i)), j ≠ w := by
        rintro j mem' rfl
        split at mem'
        · exact once mem'
        · rename_i apart
          have marked := (order.linked.mark j _).mpr mem
          rw [(order.linked.mark j _).mpr mem'] at marked
          cases marked
          exact apart rfl
      have others : ∀ j, j ≠ w →
          (j ∈ (if r = i then rest else k.queue (.waiting i)) ↔ j ∈ k.queue (.waiting i)) := by
        intro j other
        by_cases here : r = i
        · subst here
          simp [members, other]
        · simp [here]
      rw [List.head?_cons, Option.map_some, List.tail_cons]
      -- The number of `w` is noted no longer, and nobody else has it.
      by_cases woken : (k.process w).pid = pid
      · subst woken
        rw [if_pos rfl]
        refine ⟨nofun, ?_⟩
        rintro ⟨j, mem', same⟩
        have away := awake j mem'
        have used := order.linked.used ((others j away).mp mem')
        exact absurd (distinct j used w (order.linked.used mem) same) away
      · rw [if_neg (by simpa using woken), passed.noted]
        constructor
        · rintro ⟨j, mem', rfl⟩
          have other : j ≠ w := by
            rintro rfl
            exact woken rfl
          exact ⟨j, (others j other).mpr mem', rfl⟩
        · rintro ⟨j, mem', same⟩
          exact ⟨j, (others j (awake j mem')).mp mem', same⟩

/-- When a process has given back a resource and lost its boosts, its waiters
are late. -/
theorem stripped (passed : k.PassedOn fun _ _ => False) (order : k.Orderly)
    (distinct : k.Distinct) (owned : (k.resource r).owner = some h)
    (awake : ∀ i, h ∉ k.queue (.waiting i)) :
    (k.stripped r h).PassedOn fun _ i => i ∈ (k.handBack r h).heldBy h := by
  have boosted : ∀ {p} {e : Int × Int}, e ∈ ((k.stripped r h).process p).boosts.entries →
      p ≠ h ∧ e ∈ (k.process p).boosts.entries := by
    intro p e mem
    rw [boosts_stripped] at mem
    split at mem
    · cases mem
    · rename_i other
      exact ⟨Ne.symm other, mem⟩
  constructor
  · intro p i mem
    obtain ⟨e, boost, rfl⟩ := List.mem_map.mp mem
    obtain ⟨other, boost⟩ := boosted boost
    exact (owner_stripped_iff order owned other _).mpr
      (passed.owned p e.1 (List.mem_map.mpr ⟨e, boost, rfl⟩))
  · intro p v mem
    obtain ⟨e, boost, rfl⟩ := List.mem_map.mp mem
    obtain ⟨other, boost⟩ := boosted boost
    obtain ⟨q, behind, is⟩ := passed.earned p e.2 (List.mem_map.mpr ⟨e, boost, rfl⟩)
    refine ⟨q, behind_of_kept awake ?_ other behind, (base_stripped order owned q).trans is⟩
    rintro a b other' ⟨i, owned', waits⟩
    exact ⟨i, (owner_stripped_iff order owned other' i).mpr owned',
      by rwa [queue_stripped order owned other' owned']⟩
  -- The waiters of what `h` still holds are late, so this owner is somebody else.
  · intro i p owned' q mem punctual
    have other : p ≠ h := by
      rintro rfl
      have order' : (k.handBack r p).Orderly :=
        order.free.congr (Protocol.alike_handBack order).samePlaces
      exact punctual (order'.mem_heldBy_iff.mpr (by simpa [Kernel.stripped] using owned'))
    have before := (owner_stripped_iff order owned other i).mp owned'
    rw [queue_stripped order owned other before] at mem
    have away : q ≠ h := by
      rintro rfl
      exact awake i mem
    rw [priority_stripped order owned other, priority_stripped order owned away]
    exact passed.passed i p before q mem id
  · intro pid i
    have pids : ∀ j, ((k.stripped r h).process j).pid = (k.process j).pid := by
      intro j
      rw [(alike_stripped order owned).pid]
      simp
    simp only [pids]
    exact passed.noted_handBack order distinct r h pid i

/-- A process is as urgent as the waiters that it has inherited from. -/
theorem foldl_inherit {held : List Int} (passed : k.PassedOn fun _ i => i ∈ held)
    (owned : ∀ i ∈ held, (k.resource i).owner = some h) (awake : ∀ i, h ∉ k.queue (.waiting i)) :
    (held.foldl (fun k i => k.inherit h i) k).PassedOn fun _ _ => False := by
  induction held generalizing k with
  | nil => exact passed.mono fun _ _ _ _ _ _ => .inl nofun
  | cons i held ih =>
      have passed' : k.PassedOn fun _ j => j = i ∨ j ∈ held :=
        passed.mono fun _ _ _ _ _ punctual => .inl (by simpa using punctual)
      have frame := k.inherit_frame h i
      refine ih (passed'.inherit (owned i (.head _)) awake) ?_ ?_
      · intro j mem
        rw [frame.1]
        exact owned j (.tail _ mem)
      · intro j
        rw [frame.2]
        exact awake j

/-- A process that has given back a resource is as urgent as the waiters that it keeps. -/
theorem release (passed : k.PassedOn fun _ _ => False) (order : k.Orderly)
    (distinct : k.Distinct) (owned : (k.resource r).owner = some h)
    (awake : ∀ i, h ∉ k.queue (.waiting i)) :
    ((k.handBack r h).rebuild h).PassedOn fun _ _ => False := by
  have order' : (k.handBack r h).Orderly :=
    order.free.congr (Protocol.alike_handBack order).samePlaces
  refine (foldl_inherit (passed.stripped order distinct owned awake) ?_ ?_).record _
  · intro i mem
    simpa [Kernel.stripped] using order'.mem_heldBy_iff.mp mem
  · intro i mem
    rw [(alike_stripped order owned).queue, (k.free_views r).1, if_neg nofun] at mem
    split at mem
    · exact awake r (List.mem_of_mem_tail mem)
    · exact awake i mem

/-! ### Waiting -/

/-- The notes agree with the queues when a process begins to wait. -/
theorem noted_block (passed : k.PassedOn late) (order : k.Orderly)
    (distinct : k.Distinct) (used : h ∈ k.handles) (free : (k.process h).queue = none)
    (r pid i : Int) :
    (k.memory.blockedOn.put (k.process h).pid r).get? pid = some i ↔
      ∃ j ∈ (if r = i then k.queue (.waiting r) ++ [h] else k.queue (.waiting i)),
        (k.process j).pid = pid := by
  rw [Table.get?_put]
  by_cases own : (k.process h).pid = pid
  · subst own
    rw [if_pos rfl]
    constructor
    · rintro ⟨⟩
      exact ⟨h, by simp, rfl⟩
    · rintro ⟨j, mem, same⟩
      by_cases here : r = i
      · rw [here]
      · rw [if_neg here] at mem
        cases distinct j (order.linked.used mem) h used same
        exact absurd mem (order.linked.not_mem free _)
  · rw [if_neg own, passed.noted]
    by_cases here : r = i
    · subst here
      simp [own]
    · simp [here]

/-- A process that begins to wait is late. -/
theorem block {owner : Handle} (passed : k.PassedOn fun _ _ => False) (order : k.Orderly)
    (distinct : k.Distinct) (used : h ∈ k.handles) (free : (k.process h).queue = none) :
    (k.block r h owner).PassedOn fun q i => q = h ∧ i = r := by
  obtain ⟨owners, queue, process, memory⟩ := Protocol.block_views k r h owner
  have priority : ∀ p, ((k.block r h owner).process p).priority = (k.process p).priority := by
    intro p
    obtain ⟨boosts, base, _⟩ := process p
    exact Process.priority_congr boosts base
  constructor
  · intro p i mem
    rw [owners]
    exact passed.owned p i ((process p).1 ▸ mem)
  · intro p v mem
    obtain ⟨q, behind, base⟩ := passed.earned p v ((process p).1 ▸ mem)
    have waits : ∀ a b, k.WaitsOn a b → (k.block r h owner).WaitsOn a b := by
      rintro a b ⟨i, owned, mem⟩
      refine ⟨i, (owners i).trans owned, ?_⟩
      rw [queue]
      split
      · rename_i here
        exact List.mem_append_left _ (here ▸ mem)
      · exact mem
    exact ⟨q, Relation.ReflTransGen.mono waits _ _ behind, (process q).2.1.trans base⟩
  -- Whoever is not late has been in the queue before.
  · intro i p owned q mem punctual
    have mem : q ∈ k.queue (.waiting i) := by
      rw [queue] at mem
      split at mem
      · rename_i here
        subst here
        exact (List.mem_append.mp mem).resolve_right fun own =>
          punctual ⟨List.mem_singleton.mp own, rfl⟩
      · exact mem
    rw [priority, priority]
    exact passed.passed i p ((owners i).symm.trans owned) q mem id
  · intro pid i
    have noted := passed.noted_block order distinct used free r pid i
    simpa [queue, memory, (process _).2.2] using noted

end PassedOn

end Kernel

end Uniprocessor
