import Mathlib.Data.List.Sort

/-!
Selecting the least, again and again.

A queue is searched for the first member with the least key (`List.exists_split_of_minOn?`).
Whoever takes that one out, and goes on so with what is left, takes the members in the order
of a stable sort (`List.mergeSort_eq_cons_of_minOn?`).
-/

namespace List

variable {α : Type} {f : α → Int} {l : List α} {a : α}

/-- The first least element stands behind greater ones and before ones that are no less. -/
theorem exists_split_of_minOn? (least : l.minOn? f = some a) :
    ∃ before after, l = before ++ a :: after ∧ (∀ b ∈ before, f a < f b) ∧
      ∀ b ∈ after, f a ≤ f b := by
  induction l generalizing a with
  | nil => cases least
  | cons b l ih =>
      rw [List.minOn?_cons] at least
      cases rest : l.minOn? f with
      | none =>
          have empty : l = [] := by
            cases l with
            | nil => rfl
            | cons c l => simp [List.minOn?_cons] at rest
          subst empty
          have same : b = a := by simpa [rest] using least
          exact ⟨[], [], by rw [same]; rfl, nofun, nofun⟩
      | some c =>
          obtain ⟨before, after, is, greater, noLess⟩ := ih rest
          -- If the head wins it is the first least one; if not, it is a greater one in front.
          by_cases wins : f b ≤ f c
          · have same : b = a := by simpa [rest, minOn, wins] using least
            subst same
            have all : ∀ d ∈ l, f c ≤ f d := fun d mem => by
              simpa [rest] using List.apply_get_minOn?_le_of_mem (f := f) mem
            exact ⟨[], l, rfl, nofun, fun d mem => Int.le_trans wins (all d mem)⟩
          · have same : c = a := by simpa [rest, minOn, wins] using least
            subst same
            refine ⟨b :: before, after, by rw [is]; rfl, ?_, noLess⟩
            exact forall_mem_cons.mpr ⟨Int.not_le.mp wins, greater⟩

/-- A stable sort puts an element in front of the first one that is no less. -/
theorem mergeSort_cons_eq (f : α → Int) (a : α) (l : List α) :
    (a :: l).mergeSort (fun a b => f a ≤ f b) =
      (l.mergeSort fun a b => f a ≤ f b).orderedInsert (fun a b => f a ≤ f b) a := by
  have trans : ∀ a b c : α, decide (f a ≤ f b) = true → decide (f b ≤ f c) = true →
      decide (f a ≤ f c) = true := by
    simpa using fun a b c => Int.le_trans
  have total : ∀ a b : α, (decide (f a ≤ f b) || decide (f b ≤ f a)) = true := by
    simpa using fun a b => Int.le_total _ _
  obtain ⟨before, after, whole, rest, less⟩ := mergeSort_cons trans total a l
  have sorted := pairwise_mergeSort trans total (a :: l)
  rw [whole] at sorted ⊢
  rw [rest]
  have behind := (pairwise_cons.mp (pairwise_append.mp sorted).2.1).1
  clear sorted whole rest
  induction before with
  | nil =>
      cases after with
      | nil => rfl
      | cons b after =>
          have next : f a ≤ f b := of_decide_eq_true (behind b mem_cons_self)
          simp [next]
  | cons b before ih =>
      have first : ¬ f a ≤ f b := by simpa using less b mem_cons_self
      have later := ih fun c mem => less c (mem_cons_of_mem _ mem)
      simp [first, later]

/-- Taking out the first least element, and sorting what is left, is sorting stably. -/
theorem mergeSort_eq_cons_of_minOn? [BEq α] [LawfulBEq α] (least : l.minOn? f = some a) :
    l.mergeSort (fun a b => f a ≤ f b) = a :: (l.erase a).mergeSort (fun a b => f a ≤ f b) := by
  induction l generalizing a with
  | nil => cases least
  | cons b l ih =>
      rw [List.minOn?_cons] at least
      rw [mergeSort_cons_eq]
      cases rest : l.minOn? f with
      | none =>
          have empty : l = [] := by
            cases l with
            | nil => rfl
            | cons c l => simp [List.minOn?_cons] at rest
          subst empty
          simp_all
      | some c =>
          have sorted := ih rest
          -- If the head wins it comes first; if not, it is sorted in behind the least one.
          by_cases wins : f b ≤ f c
          · have same : b = a := by simpa [rest, minOn, wins] using least
            subst same
            rw [erase_cons_head, sorted]
            simp [wins]
          · have same : c = a := by simpa [rest, minOn, wins] using least
            subst same
            have apart : b ≠ c := fun same => wins (by rw [same])
            rw [erase_cons_tail (by simpa using apart), mergeSort_cons_eq, sorted]
            simp [wins]

end List
