import Mathlib.Algebra.Order.Group.Int
import Uniprocessor.Process

/-!
The effective priority of a process.

It is the most urgent of the base priority and the boosts: at least as urgent
as each of them (`Process.le_priority_iff`), and equal to one of them
(`Process.priority_eq`). A boost makes a process as urgent as it says and no
more urgent than that. What a resource gives is only ever made more urgent, and
what the others give stays as it is (`Process.get?_boost`).
-/

namespace Uniprocessor

namespace Process

variable {p : Process} {r i v w : Int}

theorem le_foldl_min_iff {l : List Int} {b : Int} :
    v ≤ l.foldl min b ↔ v ≤ b ∧ ∀ w ∈ l, v ≤ w := by
  induction l generalizing b with
  | nil => simp
  | cons w l ih =>
      rw [List.foldl_cons, ih, le_min_iff, List.forall_mem_cons, and_assoc]

theorem foldl_min_eq {l : List Int} {b : Int} : l.foldl min b = b ∨ l.foldl min b ∈ l := by
  induction l generalizing b with
  | nil => exact .inl rfl
  | cons w l ih =>
      rw [List.foldl_cons]
      rcases ih (b := min b w) with least | mem
      · rcases min_choice b w with is | is
        · exact .inl (least.trans is)
        · exact .inr (by rw [least, is]; exact .head _)
      · exact .inr (.tail _ mem)

/-- What is less urgent than the base priority and every boost. -/
theorem le_priority_iff : v ≤ p.priority ↔ v ≤ p.base ∧ ∀ w ∈ p.boosts.values, v ≤ w :=
  le_foldl_min_iff

theorem priority_le_base (p : Process) : p.priority ≤ p.base := (le_priority_iff.mp le_rfl).1

theorem priority_le_of_mem (mem : v ∈ p.boosts.values) : p.priority ≤ v :=
  (le_priority_iff.mp le_rfl).2 v mem

/-- The effective priority is the base priority or a boost. -/
theorem priority_eq (p : Process) : p.priority = p.base ∨ p.priority ∈ p.boosts.values :=
  foldl_min_eq

theorem priority_congr {p' : Process} (boosts : p'.boosts = p.boosts) (base : p'.base = p.base) :
    p'.priority = p.priority := by
  unfold priority
  rw [boosts, base]

@[simp] theorem boost_fields (p : Process) (r v : Int) :
    (p.boost r v).base = p.base ∧ (p.boost r v).pid = p.pid := by
  unfold boost
  split
  · split <;> exact ⟨rfl, rfl⟩
  · exact ⟨rfl, rfl⟩

theorem mem_keys_boost (mem : i ∈ (p.boost r v).boosts.keys) : i = r ∨ i ∈ p.boosts.keys := by
  unfold boost at mem
  split at mem
  · split at mem
    · exact Table.mem_keys_put.mp mem
    · exact .inr mem
  · exact Table.mem_keys_put.mp mem

theorem mem_values_boost (mem : w ∈ (p.boost r v).boosts.values) :
    w = v ∨ w ∈ p.boosts.values := by
  unfold boost at mem
  split at mem
  · split at mem
    · exact Table.mem_values_put mem
    · exact .inr mem
  · exact Table.mem_values_put mem

/-- A boost makes a process as urgent as it says. -/
theorem priority_boost_le (p : Process) (r v : Int) : (p.boost r v).priority ≤ v := by
  unfold boost
  split
  · rename_i given found
    split
    · exact priority_le_of_mem (Table.value_mem_put _ _ _)
    · rename_i urgent
      exact (priority_le_of_mem (Table.mem_values_of_get? found)).trans (not_lt.mp urgent)
  · exact priority_le_of_mem (Table.value_mem_put _ _ _)

/-- A boost makes no process less urgent. -/
theorem priority_boost_le_priority (p : Process) (r v : Int) :
    (p.boost r v).priority ≤ p.priority := by
  refine le_priority_iff.mpr ⟨?_, ?_⟩
  · exact (priority_le_base _).trans (boost_fields p r v).1.le
  · intro w mem
    have least := priority_boost_le p r v
    unfold boost at least ⊢
    -- A boost is replaced only by one that is more urgent.
    cases found : p.boosts.get? r with
    | none =>
        simp only [found] at least ⊢
        have kept := (Table.mem_values_put_of_mem mem r v).resolve_right (by simp [found])
        exact priority_le_of_mem kept
    | some given =>
        simp only [found] at least ⊢
        split
        · rename_i urgent
          rw [if_pos urgent] at least
          rcases Table.mem_values_put_of_mem mem r v with kept | replaced
          · exact priority_le_of_mem kept
          · rw [found] at replaced
            cases replaced
            exact least.trans urgent.le
        · exact priority_le_of_mem mem

/-- A boost makes no process more urgent than it says. -/
theorem le_priority_boost (less : v ≤ p.priority) : v ≤ (p.boost r v).priority := by
  refine le_priority_iff.mpr ⟨?_, ?_⟩
  · exact (boost_fields p r v).1 ▸ less.trans p.priority_le_base
  · intro w mem
    rcases mem_values_boost mem with rfl | old
    · exact le_rfl
    · exact less.trans (priority_le_of_mem old)

/-- A boost that makes a process more urgent makes it as urgent as it says. -/
theorem priority_boost_eq (urgent : (p.boost r v).priority < p.priority) :
    (p.boost r v).priority = v := by
  rcases (p.boost r v).priority_eq with is | mem
  · rw [is, (boost_fields p r v).1] at urgent
    exact absurd p.priority_le_base urgent.not_ge
  · exact (mem_values_boost mem).resolve_right fun old => urgent.not_ge (priority_le_of_mem old)

/-- To lose a boost makes no process more urgent. -/
theorem priority_le_priority_unboost (p : Process) (r : Int) :
    p.priority ≤ (p.unboost r).priority := by
  refine le_priority_iff.mpr ⟨p.priority_le_base, fun w mem => ?_⟩
  obtain ⟨e, kept, rfl⟩ := List.mem_map.mp mem
  exact priority_le_of_mem (List.mem_map.mpr ⟨e, (List.mem_filter.mp kept).1, rfl⟩)

/-! ### The boosts -/

/-- A boost on account of another resource comes last. -/
theorem entries_boost_of_new (new : r ∉ p.boosts.keys) (v : Int) :
    (p.boost r v).boosts.entries = p.boosts.entries ++ [(r, v)] := by
  have unknown : p.boosts.get? r = none := by
    rw [← Option.not_isSome_iff_eq_none, ← Table.mem_keys_iff]
    exact new
  simp only [boost, unknown]
  exact Table.entries_put_of_new new v

theorem nodup_keys_boost (once : p.boosts.keys.Nodup) (r v : Int) :
    (p.boost r v).boosts.keys.Nodup := by
  unfold boost
  split
  · split
    · exact Table.nodup_keys_put once r v
    · exact once
  · exact Table.nodup_keys_put once r v

/-- A resource gives the more urgent of what it gave and of what is said, and the others give
what they gave. -/
theorem get?_boost (p : Process) (r v i : Int) :
    (p.boost r v).boosts.get? i =
      if r = i then some (min v ((p.boosts.get? r).getD v)) else p.boosts.get? i := by
  unfold boost
  cases found : p.boosts.get? r with
  | none => simp
  | some given =>
      by_cases urgent : v < given
      · simp [urgent, min_eq_left urgent.le]
      · have keeps : min v given = given := min_eq_right (not_lt.mp urgent)
        simp only [if_neg urgent, Option.getD_some, keeps]
        split
        next same => rw [← same, found]
        · rfl

end Process

end Uniprocessor
