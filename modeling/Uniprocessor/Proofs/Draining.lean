import Mathlib
import Uniprocessor.Proofs.Kernel.Selection
import Uniprocessor.Proofs.Kernel.Traffic
import Uniprocessor.Proofs.Policy.Choice

/-!
Taking the least from a queue until nobody is left sorts the queue.

Whoever takes the least takes the first of those with the least key, and leaves the others in
their order (`Kernel.TakesFirst`); only the one that is taken loses its mark
(`Kernel.Quits`). The queue is marked as before, so the next one can be taken, and taking the
first least again and again is a stable sort (`takeLeast_sorts`).
-/

namespace Uniprocessor

open KernelM (takeLeast run_takeLeast_none run_takeLeast_some)

namespace Kernel

variable {k k' k'' : Kernel} {h : Handle} {q : QueueId} {key : Process → Int}
  {gone gone' rest rest' : List Handle}

/-- The members of the queue bear its mark, and stand in it once. -/
structure Stamped (k : Kernel) (q : QueueId) : Prop where
  mark : ∀ h ∈ k.queue q, (k.process h).queue = some q
  once : (k.queue q).Nodup

/-- So it is with every queue of an orderly kernel. -/
theorem Linked.stamped (linked : k.Linked) (q : QueueId) : k.Stamped q :=
  ⟨fun h mem => (linked.mark h q).mpr mem, linked.nodup q⟩

theorem Stamped.used (stamped : k.Stamped q) (mem : h ∈ k.queue q) : h ∈ k.handles := by
  by_contra unused
  have marked := stamped.mark h mem
  rw [process_of_unused unused] at marked
  cases marked

/-- These have left the queue, where the rest stands, and have no mark. All else is as it
was. -/
structure Quits (k k' : Kernel) (q : QueueId) (gone rest : List Handle) : Prop where
  queue : ∀ p, k'.queue p = if q = p then rest else k.queue p
  process : ∀ j, k'.process j = if j ∈ gone then (k.process j).marked none else k.process j
  owner : ∀ r, (k'.resource r).owner = (k.resource r).owner
  ceiling : ∀ r, (k'.resource r).ceiling = (k.resource r).ceiling
  handles : k'.handles = k.handles
  current : k'.current = k.current
  size : k'.size = k.size
  tick : k'.tick = k.tick
  memory : k'.memory = k.memory
  log : k'.log = k.log

namespace Quits

theorem refl (k : Kernel) (q : QueueId) : k.Quits k q [] (k.queue q) := by
  constructor <;> simp

theorem unlink (used : h ∈ k.handles) : k.Quits (k.unlink q h) q [h] ((k.queue q).erase h) := by
  constructor <;> simp [used, eq_comm]

/-- Whoever leaves later has left with those before. -/
theorem trans (first : k.Quits k' q gone rest) (second : k'.Quits k'' q gone' rest') :
    k.Quits k'' q (gone ++ gone') rest' where
  queue p := by
    rw [second.queue, first.queue]
    split <;> rfl
  process j := by
    rw [second.process, first.process]
    by_cases early : j ∈ gone <;> by_cases late : j ∈ gone' <;> simp [early, late, Process.marked]
  owner r := (second.owner r).trans (first.owner r)
  ceiling r := (second.ceiling r).trans (first.ceiling r)
  handles := second.handles.trans first.handles
  current := second.current.trans first.current
  size := second.size.trans first.size
  tick := second.tick.trans first.tick
  memory := second.memory.trans first.memory
  log := second.log.trans first.log

/-- Who has left counts, and not in which order. -/
theorem perm (quits : k.Quits k' q gone rest) (perm : gone.Perm gone') :
    k.Quits k' q gone' rest :=
  { quits with process := by simpa only [perm.mem_iff] using quits.process }

/-- Those who stay keep their marks. -/
theorem stamped (quits : k.Quits k' q gone rest) (stamped : k.Stamped q)
    (parts : (gone ++ rest).Perm (k.queue q)) : k'.Stamped q := by
  have once : (gone ++ rest).Nodup := parts.nodup_iff.mpr stamped.once
  have here : k'.queue q = rest := by rw [quits.queue, if_pos rfl]
  constructor
  · intro h mem
    rw [here] at mem
    have stays : h ∉ gone := fun left => (List.nodup_append.mp once).2.2 h left h mem rfl
    rw [quits.process, if_neg stays]
    exact stamped.mark h (parts.mem_iff.mp (List.mem_append_right _ mem))
  · rw [here]
    exact (List.nodup_append.mp once).2.1

end Quits

/-- Whoever leaves a marked queue leaves a marked queue behind. -/
theorem Stamped.unlink (stamped : k.Stamped q) (mem : h ∈ k.queue q) :
    (k.unlink q h).Stamped q :=
  (Quits.unlink (stamped.used mem)).stamped stamped (List.perm_cons_erase mem).symm

/-- Nobody is in the queue, or the first of those with the least key is taken and leaves the
others in their order. -/
inductive TakesFirst (k : Kernel) (key : Process → Int) (q : QueueId) :
    Option Handle → Kernel → Prop
  | nobody (empty : k.queue q = []) : k.TakesFirst key q none k
  | first {k' : Kernel} {before after : List Handle} {h : Handle}
      (members : k.queue q = before ++ h :: after)
      (greater : ∀ j ∈ before, key (k.process h) < key (k.process j))
      (noLess : ∀ j ∈ after, key (k.process h) ≤ key (k.process j))
      (quits : k.Quits k' q [h] (before ++ after)) : k.TakesFirst key q (some h) k'

theorem Stamped.takesFirst_unlink (stamped : k.Stamped q) (least : k.least? key q = some h) :
    k.TakesFirst key q (some h) (k.unlink q h) := by
  obtain ⟨before, after, members, greater, noLess⟩ := List.exists_split_of_minOn? least
  have once := stamped.once
  rw [members] at once
  have new : h ∉ before := fun mem =>
    (List.nodup_append.mp once).2.2 h mem h (.head _) rfl
  have others : (k.queue q).erase h = before ++ after := by
    rw [members, List.erase_append_right _ new, List.erase_cons_head]
  have used : h ∈ k.handles := stamped.used (Policy.least?_mem least)
  exact .first members greater noLess (others ▸ Quits.unlink used)

/-- To take the least from a marked queue never fails, and leaves a marked queue. -/
theorem Stamped.takes (stamped : k.Stamped q) (key : Process → Int) :
    ∃ answer k', (takeLeast key q).run k = .ok answer k' ∧ k.TakesFirst key q answer k' ∧
      k'.Stamped q := by
  cases least : k.least? key q with
  | none =>
      exact ⟨none, k, run_takeLeast_none least, .nobody (Policy.least?_eq_none_iff.mp least),
        stamped⟩
  | some h =>
      have mem := Policy.least?_mem least
      exact ⟨some h, k.unlink q h, run_takeLeast_some least (stamped.mark h mem),
        stamped.takesFirst_unlink least, stamped.unlink mem⟩

/-- The least is taken again and again until nobody is left: these are taken, in this order. -/
inductive Drains (key : Process → Int) (q : QueueId) : Kernel → List Handle → Kernel → Prop
  | done {k k' : Kernel} (ran : (takeLeast key q).run k = .ok none k') : Drains key q k [] k'
  | take {k k' k'' : Kernel} {h : Handle} {l : List Handle}
      (ran : (takeLeast key q).run k = .ok (some h) k') (more : Drains key q k' l k'') :
      Drains key q k (h :: l) k''

/-- The answers of the calls decide what is taken and what is left. -/
theorem Drains.unique {l l' : List Handle} (drains : Drains key q k l k')
    (drains' : Drains key q k l' k'') : l' = l ∧ k'' = k' := by
  -- On one of the two; every answer says how the other one goes on.
  induction drains generalizing l' with
  | done ran =>
      cases drains' with
      | done ran' =>
          rw [ran] at ran'
          cases ran'
          exact ⟨rfl, rfl⟩
      | take ran' =>
          rw [ran] at ran'
          cases ran'
  | take ran _ ih =>
      cases drains' with
      | done ran' =>
          rw [ran] at ran'
          cases ran'
      | take ran' more' =>
          rw [ran] at ran'
          cases ran'
          obtain ⟨rfl, rfl⟩ := ih more'
          exact ⟨rfl, rfl⟩

/-- The members of the queue, by their keys, those with the same key as they stand. -/
def sortedBy (k : Kernel) (key : Process → Int) (q : QueueId) : List Handle :=
  (k.queue q).mergeSort fun i j => key (k.process i) ≤ key (k.process j)

theorem perm_sortedBy : (k.sortedBy key q).Perm (k.queue q) := List.mergeSort_perm _ _

/-- The one that is taken is the first in the order of the keys, and the others keep theirs. -/
theorem sortedBy_eq_cons (once : (k.queue q).Nodup) (least : k.least? key q = some h) :
    k.sortedBy key q = h :: (k.unlink q h).sortedBy key q := by
  have same : ∀ i ∈ (k.queue q).erase h, (k.unlink q h).process i = k.process i := by
    intro i mem
    have other : h ≠ i := (once.mem_erase_iff.mp mem).1.symm
    rw [process_unlink, if_neg other]
  have others : (k.unlink q h).sortedBy key q =
      ((k.queue q).erase h).mergeSort fun i j => key (k.process i) ≤ key (k.process j) := by
    rw [sortedBy, queue_unlink, if_pos rfl]
    have alike : ∀ i ∈ (k.queue q).erase h, ∀ j ∈ (k.queue q).erase h,
        decide (key ((k.unlink q h).process i) ≤ key ((k.unlink q h).process j)) =
          decide (key (k.process i) ≤ key (k.process j)) :=
      fun i mem j mem' => by rw [same i mem, same j mem']
    exact (List.map_id _).symm.trans ((List.map_mergeSort alike).trans (by rw [List.map_id]))
  rw [others]
  exact List.mergeSort_eq_cons_of_minOn? least

/-- A marked queue can be drained, in the order of the keys. -/
theorem Stamped.drains (stamped : k.Stamped q) (key : Process → Int) :
    ∃ k', Drains key q k (k.sortedBy key q) k' ∧ k.Quits k' q (k.sortedBy key q) [] := by
  -- Whoever is taken leaves a shorter queue.
  induction length : (k.queue q).length generalizing k with
  | zero =>
      have empty := List.eq_nil_of_length_eq_zero length
      have nobody : k.sortedBy key q = [] := by rw [sortedBy, empty, List.mergeSort_nil]
      rw [nobody]
      exact ⟨k, .done (run_takeLeast_none (Policy.least?_eq_none_iff.mpr empty)),
        empty ▸ Quits.refl k q⟩
  | succ n ih =>
      cases least : k.least? key q with
      | none =>
          rw [Policy.least?_eq_none_iff.mp least] at length
          cases length
      | some h =>
          have mem := Policy.least?_mem least
          have quits : k.Quits (k.unlink q h) q [h] ((k.queue q).erase h) :=
            .unlink (stamped.used mem)
          have shorter : ((k.unlink q h).queue q).length = n := by
            rw [queue_unlink, if_pos rfl, List.length_erase_of_mem mem]
            omega
          obtain ⟨k', drains, others⟩ := ih (stamped.unlink mem) shorter
          rw [sortedBy_eq_cons stamped.once least]
          exact ⟨k', .take (run_takeLeast_some least (stamped.mark h mem)) drains,
            quits.trans others⟩

end Kernel

open Kernel

/-- Whatever the key and the queue, if its members bear its mark: a call takes the first of
those with the least key, if anybody is there, and clears its mark; the others stay as they
stand, and the queue is as before one whose members bear its mark. Calls until nobody is left
take every member once, in the order of a stable sort by the key, and leave the queue empty
and none of them with a mark. -/
theorem takeLeast_sorts {k : Kernel} {q : QueueId} (stamped : k.Stamped q)
    (key : Process → Int) :
    (∃ answer k', (takeLeast key q).run k = .ok answer k' ∧ k.TakesFirst key q answer k' ∧
      k'.Stamped q) ∧
    ∃ k', k.Quits k' q (k.queue q) [] ∧ ∀ taken left, Drains key q k taken left ↔
      taken = (k.queue q).mergeSort (fun i j => key (k.process i) ≤ key (k.process j)) ∧
        left = k' := by
  refine ⟨stamped.takes key, ?_⟩
  obtain ⟨k', drains, quits⟩ := stamped.drains key
  refine ⟨k', quits.perm perm_sortedBy, fun taken left => ⟨drains.unique, ?_⟩⟩
  rintro ⟨rfl, rfl⟩
  exact drains

/-- Three processes in the ready queue. -/
def Kernel.lineup : Kernel :=
  [5, 3, 3].foldl (fun k base => k.receive { (default : Process) with base }) { size := 1 }

/-- Of the two most urgent ones the earlier is taken first. -/
theorem takeLeast_sorts_lineup :
    ∃ k', Drains Process.priority .ready Kernel.lineup [1, 2, 0] k' ∧ k'.queue .ready = [] ∧
      ∀ h ∈ [0, 1, 2], (k'.process h).queue = none := by
  have stamped : Kernel.lineup.Stamped .ready := ⟨by decide, by decide⟩
  obtain ⟨-, k', quits, drains⟩ := takeLeast_sorts stamped Process.priority
  refine ⟨k', (drains _ _).mpr ⟨by decide_cbv, rfl⟩, by simp [quits.queue], fun h mem => ?_⟩
  have member : h ∈ Kernel.lineup.queue .ready := mem
  rw [quits.process, if_pos member]
  rfl

end Uniprocessor
