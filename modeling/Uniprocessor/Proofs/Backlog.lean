import Mathlib.Algebra.BigOperators.Group.Finset.Basic
import Mathlib.Algebra.Order.BigOperators.Group.Finset

/-!
Work that is left, and who is ahead with it.

A backlog says how much work is left of each job. One backlog is ahead of
another if any jobs of the other can be matched by as many of its own that have
no more work left together (`Backlog.Ahead`). New jobs that are the same on both
sides keep it so (`Backlog.Ahead.join`), and so does a tick in which the one
side works on a job with the least work left, whatever the other side works on
(`Backlog.Ahead.serve`). Whoever is ahead has finished at least as many jobs
(`Backlog.Ahead.card_finished_le`).

Where no tick is wasted, each takes one off all the work that is left
(`Backlog.Served.sum`).
-/

namespace Uniprocessor

/-- How much work is left of each job, the jobs in the order of their arrival. -/
abbrev Backlog := Nat → Nat

namespace Backlog

open Finset

variable {a b : Backlog} {n m : Nat} {j j' : Option Nat}

/-- What a tick of work on a job leaves. -/
def serve (a : Backlog) (j : Option Nat) : Backlog :=
  fun i => if j = some i then a i - 1 else a i

/-- Among the first `n` jobs, any of `b` are matched by as many of `a` with no more
work left together. -/
def Ahead (n : Nat) (a b : Backlog) : Prop :=
  ∀ jobs : Finset Nat, jobs ⊆ range n →
    ∃ own : Finset Nat, own ⊆ range n ∧ own.card = jobs.card ∧
      ∑ i ∈ own, a i ≤ ∑ i ∈ jobs, b i

/-- Where work is left, the job is one with the least work left. -/
def Shortest (n : Nat) (a : Backlog) (j : Option Nat) : Prop :=
  ∀ i < n, 0 < a i → ∃ s < n, j = some s ∧ 0 < a s ∧ a s ≤ a i

/-- The jobs that are finished. -/
def finished (n : Nat) (a : Backlog) : Finset Nat := {i ∈ range n | a i = 0}

/-! ### One tick -/

theorem serve_le (a : Backlog) (j : Option Nat) (i : Nat) : a.serve j i ≤ a i := by
  unfold serve
  split <;> omega

/-- Work on a job takes one from what is left of any jobs that it is among. -/
theorem sum_serve_of_mem {jobs : Finset Nat} {s : Nat} (mem : s ∈ jobs) (left : 0 < a s) :
    ∑ i ∈ jobs, a.serve (some s) i + 1 = ∑ i ∈ jobs, a i := by
  have others : ∑ i ∈ jobs.erase s, a.serve (some s) i = ∑ i ∈ jobs.erase s, a i := by
    refine sum_congr rfl fun i other => ?_
    have apart : s ≠ i := (ne_of_mem_erase other).symm
    simp [serve, apart]
  rw [← add_sum_erase jobs a mem, ← add_sum_erase jobs (a.serve (some s)) mem, others]
  have own : a.serve (some s) s + 1 = a s := by
    simp only [serve, if_true]
    omega
  omega

/-- Work on none of the jobs, or on one that is finished, leaves them as they are. -/
theorem sum_serve_of_idle {jobs : Finset Nat}
    (idle : ∀ s ∈ jobs, j = some s → a s = 0) : ∑ i ∈ jobs, a.serve j i = ∑ i ∈ jobs, a i := by
  refine sum_congr rfl fun i mem => ?_
  unfold serve
  split
  · rename_i own
    rw [idle i mem own]
  · rfl

/-- The job that is worked on has work left, and where none is worked on no work is left. -/
structure Served (n : Nat) (a : Backlog) (j : Option Nat) : Prop where
  worked : ∀ s, j = some s → s < n ∧ 0 < a s
  rested : j = none → ∀ i < n, a i = 0

namespace Served

theorem eq_none_iff (served : Served n a j) : j = none ↔ ∑ i ∈ range n, a i = 0 := by
  constructor
  · intro rests
    exact sum_eq_zero fun i mem => served.rested rests i (mem_range.mp mem)
  · intro nothing
    cases is : j with
    | none => rfl
    | some s =>
        obtain ⟨bound, left⟩ := served.worked s is
        have done := sum_eq_zero_iff.mp nothing s (mem_range.mpr bound)
        omega

/-- A tick takes one off all the work that is left, if there is any. -/
theorem sum (served : Served n a j) :
    ∑ i ∈ range n, a.serve j i = ∑ i ∈ range n, a i - 1 := by
  cases is : j with
  | none =>
      have nothing := served.eq_none_iff.mp is
      rw [sum_serve_of_idle (by simp), nothing]
  | some s =>
      obtain ⟨bound, left⟩ := served.worked s is
      rw [← sum_serve_of_mem (mem_range.mpr bound) left, Nat.add_sub_cancel]

end Served

namespace Ahead

theorem refl (n : Nat) (a : Backlog) : Ahead n a a := fun jobs inside => ⟨jobs, inside, rfl, le_rfl⟩

/-- A new job that is the same on both sides is matched by itself. -/
theorem join (ahead : Ahead n a b) (same : a n = b n) : Ahead (n + 1) a b := by
  intro jobs inside
  -- If the new job is in the set it stands for itself, and the others are matched as before.
  by_cases new : n ∈ jobs
  · have old : jobs.erase n ⊆ range n := by
      intro i mem
      have bound := mem_range.mp (inside (mem_of_mem_erase mem))
      have apart := ne_of_mem_erase mem
      exact mem_range.mpr (by omega)
    obtain ⟨own, inside', card, less⟩ := ahead _ old
    have fresh : n ∉ own := fun mem => absurd (mem_range.mp (inside' mem)) (lt_irrefl n)
    refine ⟨insert n own, ?_, ?_, ?_⟩
    · rw [range_add_one]
      exact insert_subset_insert n inside'
    · rw [card_insert_of_notMem fresh, card, card_erase_add_one new]
    · rw [sum_insert fresh, ← add_sum_erase jobs b new, same]
      exact Nat.add_le_add_left less _
  · have old : jobs ⊆ range n := by
      intro i mem
      have bound := mem_range.mp (inside mem)
      have apart : i ≠ n := fun is => new (is ▸ mem)
      exact mem_range.mpr (by omega)
    obtain ⟨own, inside', card, less⟩ := ahead jobs old
    exact ⟨own, inside'.trans (range_subset_range.mpr (Nat.le_succ n)), card, less⟩

theorem join_all (ahead : Ahead n a b) (more : n ≤ m) (same : ∀ i, n ≤ i → i < m → a i = b i) :
    Ahead m a b := by
  induction m, more using Nat.le_induction with
  | base => exact ahead
  | succ m more ih =>
      exact (ih fun i old new => same i old (by omega)).join (same m more (by omega))

/-- Jobs with work left are matched with one unit less by those who work on the shortest. -/
theorem match_less {own : Finset Nat} (shortest : Shortest n a j) (inside : own ⊆ range n)
    (left : ∃ i ∈ own, 0 < a i) :
    ∃ own' : Finset Nat, own' ⊆ range n ∧ own'.card = own.card ∧
      ∑ i ∈ own', a.serve j i + 1 ≤ ∑ i ∈ own, a i := by
  obtain ⟨i, mem, positive⟩ := left
  obtain ⟨s, bound, rfl, work, least⟩ := shortest i (mem_range.mp (inside mem)) positive
  by_cases here : s ∈ own
  · exact ⟨own, inside, rfl, (sum_serve_of_mem here work).le⟩
  · -- The job worked on takes the place of one that has no less work left.
    have fresh : s ∉ own.erase i := fun mem => here (mem_of_mem_erase mem)
    refine ⟨insert s (own.erase i), ?_, ?_, ?_⟩
    · exact insert_subset (mem_range.mpr bound) ((erase_subset i own).trans inside)
    · rw [card_insert_of_notMem fresh, card_erase_add_one mem]
    · rw [sum_serve_of_mem (mem_insert_self s _) work, sum_insert fresh,
        ← add_sum_erase own a mem]
      exact Nat.add_le_add_right least _

/-- Who works on the shortest job stays ahead, whatever the other side works on. -/
theorem serve (ahead : Ahead n a b) (shortest : Shortest n a j) :
    Ahead n (a.serve j) (b.serve j') := by
  intro jobs inside
  obtain ⟨own, inside', card, less⟩ := ahead jobs inside
  have kept : ∑ i ∈ own, a.serve j i ≤ ∑ i ∈ own, a i := sum_le_sum fun i _ => a.serve_le j i
  by_cases hit : ∃ p ∈ jobs, j' = some p ∧ 0 < b p
  · obtain ⟨p, mem, rfl, work⟩ := hit
    have taken := sum_serve_of_mem mem work
    by_cases left : ∃ i ∈ own, 0 < a i
    · obtain ⟨own', inside'', card', less'⟩ := match_less shortest inside' left
      exact ⟨own', inside'', card'.trans card, by omega⟩
    · have nothing : ∑ i ∈ own, a i = 0 := sum_eq_zero fun i mem => by
        have none : ¬ 0 < a i := fun positive => left ⟨i, mem, positive⟩
        omega
      exact ⟨own, inside', card, by omega⟩
  · have same : ∑ i ∈ jobs, b.serve j' i = ∑ i ∈ jobs, b i := by
      refine sum_serve_of_idle fun s mem own => ?_
      have none : ¬ 0 < b s := fun positive => hit ⟨s, mem, own, positive⟩
      omega
    exact ⟨own, inside', card, by omega⟩

/-- Whoever is ahead has finished at least as many jobs. -/
theorem card_finished_le (ahead : Ahead n a b) : (finished n b).card ≤ (finished n a).card := by
  obtain ⟨own, inside, card, less⟩ := ahead (finished n b) (filter_subset _ _)
  have nothing : ∑ i ∈ finished n b, b i = 0 := sum_eq_zero fun i mem => (mem_filter.mp mem).2
  rw [nothing, Nat.le_zero, sum_eq_zero_iff] at less
  rw [← card]
  exact card_le_card fun i mem => mem_filter.mpr ⟨inside mem, less i mem⟩

end Ahead

end Backlog

end Uniprocessor
