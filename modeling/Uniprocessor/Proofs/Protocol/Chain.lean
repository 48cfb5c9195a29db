import Mathlib.Data.Set.Finite.Basic
import Mathlib.Order.WellFounded
import Uniprocessor.Proofs.Protocol.Inheritance

/-!
Chains of owners.

Following owners from a process (`Kernel.Behind`) either leads into a circle
(`Kernel.Circles`) or ends at somebody who waits on nobody, since there are only
so many processes (`Kernel.Orderly.chain_ends`). The one at the end waits for a
free resource, or it is ready or running (`Kernel.Orderly.chain_ends_able`).
-/

namespace Uniprocessor.Kernel

variable {k : Kernel} {h p q w : Handle} {r : Int}

/-- Following owners from the process leads into a circle. -/
def Circles (k : Kernel) (h : Handle) : Prop :=
  ∃ q, k.Behind h q ∧ Relation.TransGen k.WaitsOn q q

/-- Whoever waits on somebody is in use, and so is the other, which has not left. -/
theorem Orderly.used_of_waitsOn (order : k.Orderly) (waits : k.WaitsOn q p) :
    q ∈ k.handles ∧ p ∈ k.handles ∧ (k.process p).state ≠ .exited := by
  obtain ⟨r, owned, mem⟩ := waits
  obtain ⟨_, used, present, _⟩ := order.owners r p owned
  exact ⟨order.linked.used mem, used, present⟩

/-- Whoever is in the queue of a free resource waits on nobody. -/
theorem Orderly.not_waitsOn_of_free (order : k.Orderly) (mem : q ∈ k.queue (.waiting r))
    (free : (k.resource r).owner = none) : ¬ k.WaitsOn q p := by
  rintro ⟨i, owned, mem'⟩
  have marked := (order.linked.mark q _).mpr mem
  rw [(order.linked.mark q _).mpr mem'] at marked
  cases marked
  rw [free] at owned
  cases owned

theorem Orderly.not_circles_of_free (order : k.Orderly) (mem : q ∈ k.queue (.waiting r))
    (free : (k.resource r).owner = none) : ¬ k.Circles q := by
  rintro ⟨p, behind, circle⟩
  have last : ∀ {p}, ¬ k.WaitsOn q p := order.not_waitsOn_of_free mem free
  have same : q = p := by
    rcases Relation.ReflTransGen.cases_head behind with same | ⟨_, waits, _⟩
    · exact same
    · exact absurd waits last
  subst same
  obtain ⟨_, waits, _⟩ := Relation.TransGen.head'_iff.mp circle
  exact last waits

/-- Whoever is behind another is in use with it and stays so along the chain. -/
theorem Orderly.used_of_behind (order : k.Orderly) (used : h ∈ k.handles)
    (behind : k.Behind h q) : q ∈ k.handles := by
  induction behind with
  | refl => exact used
  | tail _ waits _ => exact (order.used_of_waitsOn waits).2.1

/-- A chain that does not lead into a circle ends at somebody who waits on nobody. -/
theorem Orderly.chain_ends (order : k.Orderly) (used : h ∈ k.handles)
    (straight : ¬ k.Circles h) : ∃ e, k.Behind h e ∧ ∀ p, ¬ k.WaitsOn e p := by
  -- Order the members of the chain, the later ones first: without a circle one comes before all.
  let Member := { q : Handle // k.Behind h q }
  let later : Member → Member → Prop := fun a b => Relation.TransGen k.WaitsOn b.1 a.1
  have finite : Finite Member := Set.Finite.to_subtype
    ((List.finite_toSet k.handles).subset fun _ behind => order.used_of_behind used behind)
  have transitive : IsTrans Member later := ⟨fun _ _ _ ab bc => bc.trans ab⟩
  have irreflexive : Std.Irrefl later := ⟨fun a circle => straight ⟨a.1, a.2, circle⟩⟩
  have founded : WellFounded later := Finite.wellFounded_of_trans_of_irrefl later
  obtain ⟨e, _, least⟩ := founded.has_min Set.univ ⟨⟨h, .refl⟩, Set.mem_univ _⟩
  refine ⟨e.1, e.2, ?_⟩
  intro p waits
  exact least ⟨p, e.2.tail waits⟩ (Set.mem_univ _) (.single waits)

/-- Where everything that the chain waits for is owned, somebody at its end is
ready or running. -/
theorem Orderly.chain_ends_able (order : k.Orderly) (used : h ∈ k.handles)
    (present : (k.process h).state ≠ .exited) (straight : ¬ k.Circles h)
    (owned : ∀ q r, k.Behind h q → q ∈ k.queue (.waiting r) → (k.resource r).owner ≠ none) :
    ∃ e ∈ k.handles, k.Behind h e ∧
      (e ∈ k.queue .ready ∨ (k.process e).state = .running) := by
  obtain ⟨e, behind, last⟩ := order.chain_ends used straight
  have used' := order.used_of_behind used behind
  refine ⟨e, used', behind, ?_⟩
  cases order.placed e used' with
  | ready _ marked => exact .inl ((order.linked.mark e _).mp marked)
  | running running => exact .inr running
  | waiting r _ marked _ =>
      have mem := (order.linked.mark e _).mp marked
      obtain ⟨o, owner⟩ := Option.ne_none_iff_exists'.mp (owned e r behind mem)
      exact absurd ⟨r, owner, mem⟩ (last o)
  | exited gone _ =>
      rcases Relation.ReflTransGen.cases_tail behind with rfl | ⟨_, _, waits⟩
      · exact absurd gone present
      · exact absurd gone (order.used_of_waitsOn waits).2.2

end Uniprocessor.Kernel
