import Mathlib.Data.List.Dedup
import Uniprocessor.Proofs.Protocol.Donation

/-!
How far a donation goes.

A donation follows a chain of resources and their owners (`Kernel.Chained`). The stretch that
it walks is said without the walk: its owners are new, differ, and are less urgent than what
is donated (`Kernel.Stretch`). Round by round (`Protocol.Rounds`) the walk meets an owner that
it has not met, so it ends (`Protocol.exists_rounds`) and its fuel does not matter
(`Protocol.Rounds.run_donate`). Where it ends the stretch cannot be made longer, and whoever
owns a resource of it has been favoured (`Protocol.Rounds.stretch`). Nothing is asked of the
queues, and the notes may lead in a circle.
-/

namespace Uniprocessor

namespace Process

variable {p : Process} {r v : Int}

/-- A boost that is more urgent than the process takes the place of whatever the resource gave
before. -/
theorem boost_eq_put (slow : v < p.priority) :
    p.boost r v = { p with boosts := p.boosts.put r v } := by
  unfold boost
  cases found : p.boosts.get? r with
  | none => rfl
  | some given =>
      have less : v < given := slow.trans_le (priority_le_of_mem (Table.mem_values_of_get? found))
      simp only [if_pos less]

/-- It makes the process as urgent as it says. -/
theorem priority_boost_of_slow (slow : v < p.priority) : (p.boost r v).priority = v :=
  le_antisymm (priority_boost_le p r v) (le_priority_boost slow.le)

end Process

namespace Kernel

variable {k k' : Kernel} {o h : Handle} {r v : Int} {next : Option Int} {seen : List Handle}

/-! ### The chain -/

/-- A resource with its owner. -/
structure Link where
  resource : Int
  owner : Handle
  deriving DecidableEq

/-- The links lead on from a resource: the owner of each is noted as blocked on the resource
of the next. -/
inductive Chained (k : Kernel) : Option Int → List Link → Prop
  | nil {next : Option Int} : k.Chained next []
  | cons {r : Int} {h : Handle} {links : List Link} (owned : (k.resource r).owner = some h)
      (more : k.Chained (k.memory.blockedOn.get? (k.process h).pid) links) :
      k.Chained (some r) (⟨r, h⟩ :: links)

/-- The links lead on from a resource, and their owners are nobody seen, differ from each
other and are less urgent than `v`. -/
structure Stretch (k : Kernel) (v : Int) (seen : List Handle) (next : Option Int)
    (links : List Link) : Prop where
  chained : k.Chained next links
  new : ∀ link ∈ links, link.owner ∉ seen
  apart : (links.map (·.owner)).Nodup
  slow : ∀ link ∈ links, v < (k.process link.owner).priority

/-- No stretch goes further. -/
def Longest (k : Kernel) (v : Int) (seen : List Handle) (next : Option Int) (links : List Link) :
    Prop :=
  k.Stretch v seen next links ∧ ∀ others, k.Stretch v seen next others → others <+: links

theorem Stretch.nil : k.Stretch v seen next [] := ⟨.nil, nofun, .nil, nofun⟩

/-- A stretch begins with an owner that is new and slow, and goes on from there. -/
theorem stretch_cons_iff {link : Link} {links : List Link} :
    k.Stretch v seen next (link :: links) ↔
      next = some link.resource ∧ (k.resource link.resource).owner = some link.owner ∧
        link.owner ∉ seen ∧ v < (k.process link.owner).priority ∧
        k.Stretch v (link.owner :: seen)
          (k.memory.blockedOn.get? (k.process link.owner).pid) links := by
  constructor
  · rintro ⟨_ | ⟨owned, more⟩, new, apart, slow⟩
    obtain ⟨first, apart⟩ := List.nodup_cons.mp apart
    obtain ⟨unseen, new⟩ := List.forall_mem_cons.mp new
    obtain ⟨slower, slow⟩ := List.forall_mem_cons.mp slow
    refine ⟨rfl, owned, unseen, slower, more, fun link mem => ?_, apart, slow⟩
    refine List.not_mem_cons_of_ne_of_not_mem ?_ (new link mem)
    exact fun same => first (List.mem_map.mpr ⟨link, mem, same⟩)
  · rintro ⟨rfl, owned, unseen, slower, more⟩
    refine ⟨.cons owned more.chained, List.forall_mem_cons.mpr ⟨unseen, ?_⟩,
      List.nodup_cons.mpr ⟨?_, more.apart⟩, List.forall_mem_cons.mpr ⟨slower, more.slow⟩⟩
    · exact fun link mem known => more.new link mem (.tail _ known)
    · intro mem
      obtain ⟨other, mem, same⟩ := List.mem_map.mp mem
      exact more.new other mem (same ▸ .head _)

/-! ### One round -/

/-- Boosts the owner of a resource on account of it, and notes so. -/
def favour (k : Kernel) (o : Handle) (r v : Int) : Kernel :=
  (k.edit o (·.boost r v)).record (.inherits (k.process o).pid v r)

@[simp] theorem process_favour (k : Kernel) (o : Handle) (r v : Int) (j : Handle) :
    (k.favour o r v).process j = if o = j then (k.process j).boost r v else k.process j := by
  simp [favour]

@[simp] theorem favour_frame (k : Kernel) (o : Handle) (r v : Int) :
    (∀ i, (k.favour o r v).resource i = k.resource i) ∧ (k.favour o r v).size = k.size ∧
      (k.favour o r v).tick = k.tick ∧ (k.favour o r v).memory = k.memory := by
  simp [favour]

@[simp] theorem pid_favour (k : Kernel) (o : Handle) (r v : Int) (j : Handle) :
    ((k.favour o r v).process j).pid = (k.process j).pid := by
  rw [process_favour]
  split <;> simp

@[simp] theorem handles_favour (used : o ∈ k.handles) :
    (k.favour o r v).handles = k.handles := by
  simp [favour, used]

/-- Owners are in use, what is noted is in the table, and numbers tell processes apart. -/
structure Traceable (k : Kernel) : Prop where
  used : ∀ r h, (k.resource r).owner = some h → h ∈ k.handles
  tracked : k.Tracked
  distinct : k.Distinct

theorem Traceable.favour (traceable : k.Traceable) (used : o ∈ k.handles) :
    (k.favour o r v).Traceable where
  used i h owned := by
    rw [handles_favour used]
    exact traceable.used i h (by simpa using owned)
  tracked := traceable.tracked.congr (by simp) (by simp)
  distinct := by simpa [Distinct, used] using traceable.distinct

/-- Boosts change no chain. -/
theorem chained_favour {links : List Link} :
    (k.favour o r v).Chained next links ↔ k.Chained next links := by
  induction links generalizing next with
  | nil => exact ⟨fun _ => .nil, fun _ => .nil⟩
  | cons link links ih =>
      constructor
      · rintro (_ | ⟨owned, more⟩)
        exact .cons (by simpa using owned) (ih.mp (by simpa using more))
      · rintro (_ | ⟨owned, more⟩)
        exact .cons (by simpa using owned) (by simpa using ih.mpr more)

/-- Whoever has been seen may be boosted. -/
theorem stretch_favour {links : List Link} (known : o ∈ seen) :
    (k.favour o r v).Stretch v seen next links ↔ k.Stretch v seen next links := by
  have same : (∀ link ∈ links, link.owner ∉ seen) → ∀ link ∈ links,
      (k.favour o r v).process link.owner = k.process link.owner := by
    intro new link mem
    have other : o ≠ link.owner := fun same => new link mem (same ▸ known)
    rw [process_favour, if_neg other]
  constructor
  · rintro ⟨chained, new, apart, slow⟩
    exact ⟨chained_favour.mp chained, new, apart, fun link mem => same new link mem ▸ slow link mem⟩
  · rintro ⟨chained, new, apart, slow⟩
    refine ⟨chained_favour.mpr chained, new, apart, fun link mem => ?_⟩
    rw [same new link mem]
    exact slow link mem

/-! ### What a donation leaves -/

/-- Every owner of the links has the priority `v`, on account of the resource of its link, and
the log tells so, link by link. Nobody else and nothing else has changed. -/
structure Favoured (k : Kernel) (v : Int) (links : List Link) (k' : Kernel) : Prop where
  boosted : ∀ link ∈ links, k'.process link.owner = { k.process link.owner with
    boosts := (k.process link.owner).boosts.put link.resource v }
  priority : ∀ link ∈ links, (k'.process link.owner).priority = v
  others : ∀ j, j ∉ links.map (·.owner) → k'.process j = k.process j
  log : k'.log.toList = k.log.toList ++ links.map fun link =>
    ⟨.inherits (k.process link.owner).pid v link.resource, k.tick⟩
  handles : k'.handles = k.handles
  rest : { k' with processes := k.processes, log := k.log } = k

theorem Favoured.refl (k : Kernel) (v : Int) : k.Favoured v [] k :=
  ⟨nofun, nofun, fun _ _ => rfl, (List.append_nil _).symm, rfl, rfl⟩

theorem Favoured.cons {links : List Link} (used : o ∈ k.handles)
    (slow : v < (k.process o).priority) (apart : o ∉ links.map (·.owner))
    (more : (k.favour o r v).Favoured v links k') : k.Favoured v (⟨r, o⟩ :: links) k' := by
  have here : k'.process o = (k.process o).boost r v := by
    rw [more.others o apart, process_favour, if_pos rfl]
  have before : ∀ link ∈ links, (k.favour o r v).process link.owner = k.process link.owner := by
    intro link mem
    have other : o ≠ link.owner := fun same => apart (same ▸ List.mem_map_of_mem mem)
    rw [process_favour, if_neg other]
  constructor
  case boosted =>
    refine List.forall_mem_cons.mpr ⟨here.trans (Process.boost_eq_put slow), fun link mem => ?_⟩
    rw [more.boosted link mem, before link mem]
  case priority =>
    refine List.forall_mem_cons.mpr ⟨?_, more.priority⟩
    rw [here]
    exact Process.priority_boost_of_slow slow
  case others =>
    intro j mem
    obtain ⟨other, mem⟩ := not_or.mp (mt List.mem_cons.mpr mem)
    rw [more.others j mem, process_favour, if_neg (Ne.symm other)]
  case log =>
    have first : (k.favour o r v).log.toList =
        k.log.toList ++ [⟨.inherits (k.process o).pid v r, k.tick⟩] := Array.toList_push
    rw [more.log, first, List.append_assoc, List.singleton_append, List.map_cons]
    simp
  case handles => rw [more.handles, handles_favour used]
  case rest =>
    have same := congrArg (fun l : Kernel => { l with processes := k.processes, log := k.log })
      more.rest
    exact same

/-! ### Who may be met -/

/-- Those who own a resource, each of them once. -/
def owners (k : Kernel) : List Handle :=
  (k.resourceIds.filterMap fun r => (k.resource r).owner).dedup

/-- The owners whose number has not been met. -/
def unmet (k : Kernel) (met : List Int) : List Handle :=
  k.owners.filter fun o => (k.process o).pid ∉ met

theorem mem_owners (inTable : 0 ≤ r ∧ r < k.size) (owned : (k.resource r).owner = some o) :
    o ∈ k.owners :=
  List.mem_dedup.mpr (List.mem_filterMap.mpr ⟨r, mem_resourceIds_iff.mpr inTable, owned⟩)

theorem length_owners_le (k : Kernel) : k.owners.length ≤ k.resources.size := by
  let owned := k.resourceIds.filter fun r => (k.resource r).owner.isSome
  have apart : owned.Nodup := by
    refine List.Nodup.filter _ (List.nodup_range.map fun i j same => ?_)
    exact Int.ofNat_inj.mp same
  calc k.owners.length
      ≤ (k.resourceIds.filterMap fun r => (k.resource r).owner).length :=
        (List.dedup_sublist _).length_le
    _ = owned.length := by
        rw [List.length_filterMap_eq_countP, List.countP_eq_length_filter]
    _ ≤ k.resources.size := length_le_of_owned apart fun r mem =>
        Option.isSome_iff_exists.mp (List.mem_filter.mp mem).2

/-- There is one less to be met behind an owner that is new. -/
theorem length_unmet_favour {met : List Int} (inTable : 0 ≤ r ∧ r < k.size)
    (owned : (k.resource r).owner = some o) (new : (k.process o).pid ∉ met) :
    ((k.favour o r v).unmet ((k.process o).pid :: met)).length < (k.unmet met).length := by
  have owners : (k.favour o r v).owners = k.owners := by simp [Kernel.owners, resourceIds]
  have less : (k.favour o r v).unmet ((k.process o).pid :: met) =
      (k.unmet met).filter fun j => (k.process j).pid ≠ (k.process o).pid := by
    simp only [unmet, owners, pid_favour, List.filter_filter, List.mem_cons, not_or]
    simp
  rw [less]
  refine List.length_filter_lt_length_iff_exists.mpr ⟨o, ?_, by simp⟩
  exact List.mem_filter.mpr ⟨mem_owners inTable owned, by simpa using new⟩

end Kernel

namespace Protocol

open KernelM
open Kernel (Link Stretch)

variable {k k' : Kernel} {v r : Int} {met : List Int} {next : Option Int} {n : Nat}
  {seen : List Handle}

/-! ### Rounds -/

/-- The walk goes so many rounds: there is no resource to go to; or the round finds one that
is free, or whose owner has been met or is urgent enough; or it favours the owner, and
the walk goes on to the resource on which that one is blocked. -/
inductive Rounds (v : Int) : Kernel → List Int → Option Int → Nat → Kernel → Prop
  | nowhere {k : Kernel} {met : List Int} : Rounds v k met none 0 k
  | stop {k : Kernel} {met : List Int} {r : Int}
      (stops : ∀ o, (k.resource r).owner = some o →
        (k.process o).pid ∈ met ∨ (k.process o).priority ≤ v) : Rounds v k met (some r) 1 k
  | on {k k' : Kernel} {met : List Int} {r : Int} {o : Handle} {n : Nat}
      (owned : (k.resource r).owner = some o) (new : (k.process o).pid ∉ met)
      (slow : v < (k.process o).priority)
      (more : Rounds v (k.favour o r v) ((k.process o).pid :: met)
        (k.memory.blockedOn.get? (k.process o).pid) n k') : Rounds v k met (some r) (n + 1) k'

/-- The walk ends: every round but the last meets an owner that it has not met. -/
theorem exists_rounds (v : Int) (tracked : k.Tracked)
    (inTable : ∀ r, next = some r → 0 ≤ r ∧ r < k.size) :
    ∃ n k', Rounds v k met next n k' ∧ n ≤ (k.unmet met).length + 1 := by
  induction left : (k.unmet met).length using Nat.strong_induction_on generalizing k met next with
  | _ left ih =>
      subst left
      cases next with
      | none => exact ⟨0, k, .nowhere, Nat.zero_le _⟩
      | some r =>
          by_cases stops : ∀ o, (k.resource r).owner = some o →
              (k.process o).pid ∈ met ∨ (k.process o).priority ≤ v
          · exact ⟨1, k, .stop stops, Nat.le_add_left _ _⟩
          · push Not at stops
            obtain ⟨o, owned, new, slow⟩ := stops
            have less := Kernel.length_unmet_favour (v := v) (inTable r rfl) owned new
            have tracked' : (k.favour o r v).Tracked := tracked.congr (by simp) (by simp)
            have inTable' : ∀ i, k.memory.blockedOn.get? (k.process o).pid = some i →
                0 ≤ i ∧ i < (k.favour o r v).size := fun i noted => by simpa using tracked _ i noted
            obtain ⟨n, k', more, few⟩ := ih _ less tracked' inTable' rfl
            exact ⟨n + 1, k', .on owned new slow more, by omega⟩

/-- There is one walk. -/
theorem Rounds.unique {m : Nat} {k₁ k₂ : Kernel} (left : Rounds v k met next n k₁)
    (right : Rounds v k met next m k₂) : m = n ∧ k₂ = k₁ := by
  induction left generalizing m with
  | nowhere =>
      cases right
      exact ⟨rfl, rfl⟩
  | stop stops =>
      cases right with
      | stop => exact ⟨rfl, rfl⟩
      | on owned new slow => exact absurd (stops _ owned) (by simp [new, slow])
  | on owned new slow more ih =>
      cases right with
      | stop stops => exact absurd (stops _ owned) (by simp [new, slow])
      | on owned' new' slow' more' =>
          cases owned.symm.trans owned'
          obtain ⟨rfl, rfl⟩ := ih more'
          exact ⟨rfl, rfl⟩

/-- As much fuel as there are rounds is enough, and more does not change anything. -/
theorem Rounds.run_donate (rounds : Rounds v k met next n k') (tracked : k.Tracked)
    {fuel : Nat} (enough : n ≤ fuel) :
    ∀ r, next = some r → 0 ≤ r ∧ r < k.size → (donate v fuel met r).run k = .ok () k' := by
  induction rounds generalizing fuel with
  | nowhere => nofun
  | @stop k met r stops =>
      rintro _ ⟨⟩ inTable
      obtain ⟨fuel, rfl⟩ := Nat.exists_eq_add_of_le' enough
      cases owned : (k.resource r).owner with
      | none => simp [donate, run_resource inTable, owned]
      | some o => simp [donate, run_resource inTable, owned, stops o owned]
  | @on k k' met r o n owned new slow more ih =>
      rintro _ ⟨⟩ inTable
      obtain ⟨fuel, rfl⟩ := Nat.exists_eq_add_of_le' (Nat.le_of_add_left_le enough)
      have goes : ¬ ((k.process o).pid ∈ met ∨ (k.process o).priority ≤ v) := by
        simp [new, slow]
      cases noted : k.memory.blockedOn.get? (k.process o).pid with
      | none =>
          rw [noted] at more
          cases more
          simp [donate, run_resource inTable, owned, goes, noted, Kernel.favour]
      | some i =>
          have enough' : n ≤ fuel := by omega
          have rest := ih (tracked.congr (by simp) (by simp)) enough' i noted
            (by simpa using tracked _ i noted)
          rw [← rest]
          simp [donate, run_resource inTable, owned, goes, noted, Kernel.favour]

/-- The walk favours whoever owns a resource of the longest stretch. -/
theorem Rounds.stretch (rounds : Rounds v k met next n k') (traceable : k.Traceable)
    (used : ∀ h ∈ seen, h ∈ k.handles) (same : met = seen.map fun h => (k.process h).pid) :
    ∃ links, k.Longest v seen next links ∧ k.Favoured v links k' := by
  -- On the rounds: where they stop the stretch ends as well, and each puts its owner in front.
  induction rounds generalizing seen with
  | nowhere =>
      refine ⟨[], ⟨.nil, fun others stretch => ?_⟩, .refl _ _⟩
      cases stretch.chained with
      | nil => exact List.prefix_rfl
  | stop stops =>
      refine ⟨[], ⟨.nil, fun others stretch => ?_⟩, .refl _ _⟩
      cases others with
      | nil => exact List.prefix_rfl
      | cons link others =>
          obtain ⟨⟨⟩, owned, unseen, slow, -⟩ := Kernel.stretch_cons_iff.mp stretch
          rcases stops _ owned with known | urgent
          · rw [same] at known
            obtain ⟨h, mem, pid⟩ := List.mem_map.mp known
            have is := traceable.distinct h (used h mem) _ (traceable.used _ _ owned) pid
            exact absurd (is ▸ mem) unseen
          · exact absurd slow (not_lt.mpr urgent)
  | @on k k' met r o n owned new slow more ih =>
      have used' : o ∈ k.handles := traceable.used r o owned
      have unseen : o ∉ seen := fun mem => new (same ▸ List.mem_map_of_mem mem)
      have known : ∀ h ∈ o :: seen, h ∈ (k.favour o r v).handles := by simpa [used'] using used
      obtain ⟨links, ⟨stretch, longest⟩, favoured⟩ :=
        ih (traceable.favour used') known (by simp [same])
      have stretch := (Kernel.stretch_favour (List.mem_cons_self ..)).mp stretch
      have whole : k.Stretch v seen (some r) (⟨r, o⟩ :: links) :=
        Kernel.stretch_cons_iff.mpr ⟨rfl, owned, unseen, slow, stretch⟩
      refine ⟨⟨r, o⟩ :: links, ⟨whole, fun others other => ?_⟩,
        .cons used' slow (List.nodup_cons.mp whole.apart).1 favoured⟩
      cases others with
      | nil => exact List.nil_prefix
      | cons link others =>
          obtain ⟨i, h⟩ := link
          obtain ⟨⟨⟩, owned', -, -, rest⟩ := Kernel.stretch_cons_iff.mp other
          rw [owned] at owned'
          cases owned'
          refine List.cons_prefix_cons.mpr ⟨rfl, longest others ?_⟩
          exact (Kernel.stretch_favour (List.mem_cons_self ..)).mpr rest

end Protocol

end Uniprocessor
