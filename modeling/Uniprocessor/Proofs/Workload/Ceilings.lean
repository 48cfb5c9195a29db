import Mathlib.Order.Bounds.Basic
import Mathlib.Data.List.Nodup
import Uniprocessor.Proofs.Process.Priority
import Uniprocessor.Proofs.Workload.Validity

/-!
The ceilings of a workload.

Only resources that the workload mentions have a ceiling, and each has one. Where
no ceiling is stated, the ceiling of a resource is the most urgent priority among
the processes that request it (`Workload.isLeast_ceiling`).
-/

namespace Uniprocessor

namespace Table

variable {κ ν : Type} [DecidableEq κ] {P : κ → Prop} {t u : Table κ ν}

/-- Every key of the table has the property. -/
def Keyed (P : κ → Prop) (t : Table κ ν) : Prop := ∀ k ∈ t.keys, P k

theorem Keyed.put {k : κ} {v : ν} (keyed : t.Keyed P) (key : P k) : (t.put k v).Keyed P := by
  intro j mem
  rcases mem_keys_put.mp mem with rfl | old
  · exact key
  · exact keyed j old

theorem Keyed.update (keyed : t.Keyed P) (keyed' : u.Keyed P) : (t.update u).Keyed P := by
  obtain ⟨l⟩ := u
  unfold Table.update
  induction l generalizing t with
  | nil => exact keyed
  | cons e l ih =>
      refine ih (keyed.put (keyed' e.1 (List.mem_map.mpr ⟨e, .head _, rfl⟩))) ?_
      intro k mem
      exact keyed' k (List.mem_cons_of_mem _ mem)

end Table

namespace Workload

variable {w : Workload} {r v : Int}

/-! ### Which resources have one -/

theorem mem_resourceIds_iff : r ∈ w.resourceIds ↔
    (∃ spec ∈ w.processes, ∃ q ∈ spec.requests, q.resource = r) ∨ r ∈ w.explicitCeilings.keys := by
  simp [resourceIds]

/-- Only resources that the workload mentions have a ceiling. -/
theorem keyed_ceilings : w.ceilings.Keyed (· ∈ w.resourceIds) := by
  refine Table.Keyed.update ?_ fun r mem => mem_resourceIds_iff.mpr (.inr mem)
  refine List.foldlRecOn w.processes _ nofun ?_
  intro t keyed spec declared
  refine List.foldlRecOn spec.requests _ keyed fun t keyed q asked => keyed.put ?_
  exact mem_resourceIds_iff.mpr (.inl ⟨spec, declared, q, asked, rfl⟩)

/-- A resource has one ceiling. -/
theorem nodup_ceilings : w.ceilings.keys.Nodup := by
  have implied : w.impliedCeilings.keys.Nodup := by
    have start : ({} : Table Int Int).keys.Nodup := List.nodup_nil
    apply List.foldlRecOn (motive := fun t : Table Int Int => t.keys.Nodup) w.processes _ start
    intro t nodup spec _
    apply List.foldlRecOn (motive := fun t : Table Int Int => t.keys.Nodup) spec.requests _ nodup
    intro t nodup q _
    exact Table.nodup_keys_put nodup _ _
  apply List.foldlRecOn (motive := fun t : Table Int Int => t.keys.Nodup)
    w.explicitCeilings.entries _ implied
  intro t nodup e _
  exact Table.nodup_keys_put nodup _ _

theorem Valid.nonneg (valid : w.Valid) (mem : r ∈ w.resourceIds) : 0 ≤ r := by
  rcases mem_resourceIds_iff.mp mem with ⟨spec, declared, q, asked, rfl⟩ | stated
  · exact ((valid.specs spec declared).fits q asked).resource
  · exact valid.ceilings r stated

/-! ### What they are -/

/-- What is requested, each time with the priority of the requester. -/
def demands (w : Workload) : List (Int × Int) :=
  w.processes.flatMap fun spec => spec.requests.map fun q => (q.resource, spec.priority)

theorem mem_demands_iff : (r, v) ∈ w.demands ↔
    ∃ spec ∈ w.processes, spec.priority = v ∧ ∃ q ∈ spec.requests, q.resource = r := by
  simp only [demands, List.mem_flatMap, List.mem_map, Prod.mk.injEq]
  constructor
  · rintro ⟨spec, declared, q, asked, resource, priority⟩
    exact ⟨spec, declared, priority, q, asked, resource⟩
  · rintro ⟨spec, declared, priority, q, asked, resource⟩
    exact ⟨spec, declared, q, asked, resource, priority⟩

theorem impliedCeilings_eq :
    w.impliedCeilings = w.demands.foldl (fun t e => lowerCeiling t e.1 e.2) {} := by
  simp only [impliedCeilings, demands, List.foldl_flatMap, List.foldl_map]

theorem get?_lowerCeiling (t : Table Int Int) (i p r : Int) :
    (lowerCeiling t i p).get? r =
      if i = r then some (min ((t.get? i).getD p) p) else t.get? r := by
  unfold lowerCeiling
  rw [Table.get?_put]

/-- The least of two is the least of all where it is so instead of both. -/
theorem isLeast_min_iff {P : Int → Prop} {b p : Int} :
    IsLeast {x | min b p = x ∨ P x} v ↔ IsLeast {x | b = x ∨ p = x ∨ P x} v := by
  constructor
  · rintro ⟨mem, least⟩
    have below : v ≤ min b p := least (.inl rfl)
    refine ⟨?_, ?_⟩
    · rcases mem with is | other
      · rcases min_choice b p with first | second
        · exact .inl (first.symm.trans is)
        · exact .inr (.inl (second.symm.trans is))
      · exact .inr (.inr other)
    · rintro x (rfl | rfl | other)
      · exact below.trans (min_le_left _ _)
      · exact below.trans (min_le_right _ _)
      · exact least (.inr other)
  · rintro ⟨mem, least⟩
    have first : v ≤ b := least (.inl rfl)
    have second : v ≤ p := least (.inr (.inl rfl))
    refine ⟨?_, ?_⟩
    · rcases mem with rfl | rfl | other
      · exact .inl (min_eq_left second)
      · exact .inl (min_eq_right first)
      · exact .inr other
    · rintro x (rfl | other)
      · exact le_min first second
      · exact least (.inr (.inr other))

/-- The ceiling of a resource is the least of what it was and of the demands for it. -/
theorem get?_foldl_lowerCeiling_iff {l : List (Int × Int)} {t : Table Int Int} :
    (l.foldl (fun t e => lowerCeiling t e.1 e.2) t).get? r = some v ↔
      IsLeast {b | t.get? r = some b ∨ (r, b) ∈ l} v := by
  induction l generalizing t with
  | nil =>
      simp only [List.foldl_nil, List.not_mem_nil, or_false]
      constructor
      · intro found
        exact ⟨found, fun b known => (Option.some.inj (found.symm.trans known)).le⟩
      · exact fun least => least.1
  | cons e l ih =>
      obtain ⟨i, p⟩ := e
      rw [List.foldl_cons, ih]
      simp only [get?_lowerCeiling, List.mem_cons, Prod.mk.injEq]
      by_cases here : i = r
      · subst here
        simp only [if_true, true_and, Option.some.injEq]
        cases known : t.get? i with
        | none => simp [eq_comm]
        | some b => simpa [eq_comm] using isLeast_min_iff (v := v) (b := b) (p := p)
      · simp [here, Ne.symm here]

/-- A resource has no ceiling where it had none and nobody requests it. -/
theorem get?_foldl_lowerCeiling_eq_none {l : List (Int × Int)} {t : Table Int Int}
    (nothing : (l.foldl (fun t e => lowerCeiling t e.1 e.2) t).get? r = none) (b : Int) :
    t.get? r = none ∧ (r, b) ∉ l := by
  induction l generalizing t with
  | nil => exact ⟨nothing, List.not_mem_nil⟩
  | cons e l ih =>
      obtain ⟨i, p⟩ := e
      obtain ⟨before, others⟩ := ih nothing
      rw [get?_lowerCeiling] at before
      split at before
      · cases before
      · rename_i apart
        exact ⟨before, by simp [others, Ne.symm apart]⟩

variable (implied : w.explicitCeilings = {})

include implied

theorem ceilings_eq : w.ceilings = w.impliedCeilings := by
  rw [ceilings, implied]
  rfl

/-- The ceiling of a resource is the most urgent priority among the processes that
request it. -/
theorem isLeast_ceiling : w.ceilings.get? r = some v ↔
    IsLeast {b | ∃ spec ∈ w.processes, spec.priority = b ∧
      ∃ q ∈ spec.requests, q.resource = r} v := by
  rw [ceilings_eq implied, impliedCeilings_eq, get?_foldl_lowerCeiling_iff]
  simp [mem_demands_iff]

/-- What is requested has a ceiling no less urgent than the requester. -/
theorem exists_ceiling {spec : ProcessSpec} {q : Request} (declared : spec ∈ w.processes)
    (asked : q ∈ spec.requests) : ∃ v, w.ceilings.get? q.resource = some v ∧ v ≤ spec.priority := by
  cases found : w.ceilings.get? q.resource with
  | none =>
      rw [ceilings_eq implied, impliedCeilings_eq] at found
      have nobody := (get?_foldl_lowerCeiling_eq_none found spec.priority).2
      exact absurd (mem_demands_iff.mpr ⟨spec, declared, rfl, q, asked, rfl⟩) nobody
  | some v =>
      exact ⟨v, rfl, ((isLeast_ceiling implied).mp found).2 ⟨spec, declared, rfl, q, asked, rfl⟩⟩

end Workload

end Uniprocessor
