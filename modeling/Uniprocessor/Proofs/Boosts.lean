import Mathlib.Data.List.Induction
import Mathlib.Data.List.Nodup
import Mathlib.Order.Bounds.Basic
import Uniprocessor.Proofs.Process.Priority

/-!
The boosts of a process, told from the calls that were made for it.

Of the priorities that a resource was given, those are in force that no later call took
back (`Process.inForce`). Call by call, a resource gives the least of them, and nothing where
there are none (`Process.Recalls`). So what is in force for each resource decides the boosts and
the effective priority (`Process.sameBoosts_of_inForce`). A call for one resource leaves in force
what is in force for the others. This is why calls for different resources may change places,
and why `unboost` undoes the calls for its resource and no others (`boosts_running_minimum`).

Boosts are listed in the order in which their resources came. The calls decide that order too,
but no priority depends on it (`Process.SameBoosts`).
-/

namespace Uniprocessor

namespace Process

/-- A call that changes the boosts. -/
inductive Adjustment where
  | boost (resource priority : Int)
  | unboost (resource : Int)
  | clear
  deriving DecidableEq

/-- The resource for which the call is made. All boosts are cleared for none in particular. -/
def Adjustment.resource? : Adjustment → Option Int
  | .boost r _ => some r
  | .unboost r => some r
  | .clear => none

def adjust (p : Process) : Adjustment → Process
  | .boost r v => p.boost r v
  | .unboost r => p.unboost r
  | .clear => p.clearBoosts

/-- The process after the calls, the first call first. -/
def adjusted (p : Process) (calls : List Adjustment) : Process := calls.foldl adjust p

/-- What the resource was given and no later call took back. -/
def inForce (calls : List Adjustment) (r : Int) : Set Int :=
  {v | ∃ before later, calls = before ++ .boost r v :: later ∧
    .unboost r ∉ later ∧ .clear ∉ later}

/-- Nothing tells the two apart but the order in which their boosts are listed. -/
structure SameBoosts (p q : Process) : Prop where
  boosts : p.boosts.entries.Perm q.boosts.entries
  priority : p.priority = q.priority
  others : { p with boosts := q.boosts } = q

variable {p : Process} {calls calls' : List Adjustment} {a b : Adjustment} {r i j v w : Int}

/-! ### What is in force -/

/-- The last call gives a priority, or it leaves in force what was. -/
theorem mem_inForce_concat : v ∈ inForce (calls ++ [a]) r ↔
    a = .boost r v ∨ a ≠ .unboost r ∧ a ≠ .clear ∧ v ∈ inForce calls r := by
  constructor
  · rintro ⟨before, later, is, kept, uncleared⟩
    -- The call that gave the priority is the last one or comes before it.
    rcases later.eq_nil_or_concat' with rfl | ⟨later, last, rfl⟩
    · obtain ⟨rfl, same⟩ := List.append_inj' is rfl
      exact .inl (List.singleton_injective same)
    · have ends : calls ++ [a] = (before ++ .boost r v :: later) ++ [last] := by simpa using is
      obtain ⟨rfl, same⟩ := List.append_inj' ends rfl
      obtain rfl := List.singleton_injective same
      simp only [List.mem_append, List.mem_singleton, not_or] at kept uncleared
      exact .inr ⟨Ne.symm kept.2, Ne.symm uncleared.2, before, later, rfl, kept.1, uncleared.1⟩
  · rintro (rfl | ⟨keeps, keeps', before, later, rfl, kept, uncleared⟩)
    · exact ⟨calls, [], rfl, List.not_mem_nil, List.not_mem_nil⟩
    · refine ⟨before, later ++ [a], by simp, ?_, ?_⟩
      · simp [kept, Ne.symm keeps]
      · simp [uncleared, Ne.symm keeps']

@[simp] theorem inForce_nil : inForce [] r = ∅ := by
  apply Set.eq_empty_of_forall_notMem
  rintro v ⟨before, later, is, -⟩
  cases before <;> cases is

theorem inForce_boost : inForce (calls ++ [.boost i w]) r =
    if i = r then insert w (inForce calls r) else inForce calls r := by
  ext v
  rw [mem_inForce_concat]
  split <;> simp_all [eq_comm]

theorem inForce_unboost : inForce (calls ++ [.unboost i]) r =
    if i = r then ∅ else inForce calls r := by
  ext v
  rw [mem_inForce_concat]
  split <;> simp_all

theorem inForce_clear : inForce (calls ++ [.clear]) r = ∅ := by
  ext v
  simp [mem_inForce_concat]

/-- A call for one resource does not matter to the others. -/
theorem inForce_of_other (made : a.resource? = some i) (other : i ≠ r) :
    inForce (calls ++ [a]) r = inForce calls r := by
  cases a with
  | boost i v =>
      cases made
      rw [inForce_boost, if_neg other]
  | unboost i =>
      cases made
      rw [inForce_unboost, if_neg other]
  | clear => cases made

/-- What is in force after more calls depends on what was before them. -/
theorem inForce_append_congr (same : inForce calls r = inForce calls' r)
    (later : List Adjustment) : inForce (calls ++ later) r = inForce (calls' ++ later) r := by
  induction later using List.reverseRecOn with
  | nil => rw [List.append_nil, List.append_nil, same]
  | append_singleton later a ih =>
      ext v
      rw [← List.append_assoc, ← List.append_assoc, mem_inForce_concat, mem_inForce_concat, ih]

/-- Two calls for different resources leave the same in force, whichever comes first. -/
theorem inForce_swap (made : a.resource? = some i) (made' : b.resource? = some j) (apart : i ≠ j) :
    inForce (calls ++ [a] ++ [b]) r = inForce (calls ++ [b] ++ [a]) r := by
  by_cases here : i = r
  · have other : j ≠ r := fun same => apart (here.trans same.symm)
    rw [inForce_of_other made' other]
    exact inForce_append_congr (inForce_of_other made' other).symm [a]
  · rw [inForce_of_other made here]
    exact inForce_append_congr (inForce_of_other made here) [b]

/-- Where the calls for a resource are left out, nothing is in force for it, and for the others
what is in force with them. -/
theorem inForce_filter : inForce (calls.filter fun a => a.resource? ≠ some i) r =
    if i = r then ∅ else inForce calls r := by
  induction calls using List.reverseRecOn with
  | nil => simp
  | append_singleton calls a ih =>
      rw [List.filter_append]
      -- A call for the resource drops out; any other one stays, and what it does is the same.
      by_cases made : a.resource? = some i
      · have out : [a].filter (fun a => a.resource? ≠ some i) = [] := by simp [made]
        rw [out, List.append_nil, ih]
        split
        · rfl
        next other => rw [inForce_of_other made other]
      · have stays : [a].filter (fun a => a.resource? ≠ some i) = [a] := by simp [made]
        rw [stays]
        split at ih
        next same =>
          rw [if_pos same]
          apply Set.eq_empty_of_forall_notMem
          intro v mem
          rcases mem_inForce_concat.mp mem with rfl | ⟨-, -, old⟩
          · exact made (congrArg some same.symm)
          · rw [ih] at old
            exact old
        next other =>
          rw [if_neg other]
          exact inForce_append_congr ih [a]

/-! ### What a process recalls -/

/-- Each resource gives the least of what is in force for it, if there is anything. -/
structure Recalls (p : Process) (calls : List Adjustment) : Prop where
  once : p.boosts.keys.Nodup
  least : ∀ r v, p.boosts.get? r = some v → IsLeast (inForce calls r) v
  nothing : ∀ r, p.boosts.get? r = none → inForce calls r = ∅

namespace Recalls

theorem get?_iff (recalls : p.Recalls calls) :
    p.boosts.get? r = some v ↔ IsLeast (inForce calls r) v := by
  constructor
  · exact recalls.least r v
  · intro least
    cases found : p.boosts.get? r with
    | none =>
        have given := least.1
        rw [recalls.nothing r found] at given
        cases given
    | some w => rw [(recalls.least r w found).unique least]

theorem mem_keys_iff (recalls : p.Recalls calls) :
    r ∈ p.boosts.keys ↔ (inForce calls r).Nonempty := by
  rw [Table.mem_keys_iff]
  cases found : p.boosts.get? r with
  | none => simp [recalls.nothing r found]
  | some v => simpa using ⟨v, (recalls.least r v found).1⟩

/-- The boosts are the least of what is in force, so the effective priority is the least of
these and the base priority. -/
theorem isLeast (recalls : p.Recalls calls) :
    IsLeast (insert p.base {v | ∃ r, IsLeast (inForce calls r) v}) p.priority := by
  constructor
  · rcases p.priority_eq with is | mem
    · exact .inl is
    · obtain ⟨⟨r, v⟩, boost, is⟩ := List.mem_map.mp mem
      have found := (Table.get?_eq_some_iff recalls.once).mpr boost
      exact .inr ⟨r, is ▸ recalls.least r v found⟩
  · rintro v (rfl | ⟨r, least⟩)
    · exact p.priority_le_base
    · exact priority_le_of_mem (Table.mem_values_of_get? (recalls.get?_iff.mpr least))

/-! ### Calls -/

theorem boost (recalls : p.Recalls calls) (i w : Int) :
    (p.boost i w).Recalls (calls ++ [.boost i w]) where
  once := nodup_keys_boost recalls.once i w
  least r v found := by
    rw [get?_boost] at found
    rw [inForce_boost]
    split at found
    next same =>
      subst same
      obtain rfl := Option.some.inj found
      rw [if_pos rfl]
      cases given : p.boosts.get? i with
      | none => simp [recalls.nothing i given]
      | some u => exact (recalls.least i u given).insert w
    next other =>
      rw [if_neg other]
      exact recalls.least r v found
  nothing r found := by
    rw [get?_boost] at found
    split at found
    · cases found
    next other =>
      rw [inForce_boost, if_neg other]
      exact recalls.nothing r found

theorem unboost (recalls : p.Recalls calls) (i : Int) :
    (p.unboost i).Recalls (calls ++ [.unboost i]) where
  once := Table.nodup_keys_erase recalls.once i
  least r v found := by
    rw [Process.unboost, Table.get?_erase] at found
    split at found
    · cases found
    next other =>
      rw [inForce_unboost, if_neg other]
      exact recalls.least r v found
  nothing r found := by
    rw [Process.unboost, Table.get?_erase] at found
    rw [inForce_unboost]
    split
    · rfl
    next other =>
      rw [if_neg other] at found
      exact recalls.nothing r found

theorem clear : p.clearBoosts.Recalls (calls ++ [.clear]) where
  once := List.nodup_nil
  least _ _ := nofun
  nothing _ _ := inForce_clear

theorem adjust (recalls : p.Recalls calls) (a : Adjustment) :
    (p.adjust a).Recalls (calls ++ [a]) := by
  cases a with
  | boost r v => exact recalls.boost r v
  | unboost r => exact recalls.unboost r
  | clear => exact clear

end Recalls

theorem adjusted_concat (p : Process) (calls : List Adjustment) (a : Adjustment) :
    p.adjusted (calls ++ [a]) = (p.adjusted calls).adjust a := by
  simp [adjusted]

/-- Whoever has no boosts at first recalls all calls. -/
theorem recalls_adjusted (fresh : p.boosts = {}) (calls : List Adjustment) :
    (p.adjusted calls).Recalls calls := by
  -- From the end, since what a call does depends on what the calls before it have left.
  induction calls using List.reverseRecOn with
  | nil =>
      have nobody : ∀ r, (p.adjusted []).boosts.get? r = none := by
        intro r
        rw [adjusted, List.foldl_nil, fresh, Table.get?_empty]
      constructor
      · simp [adjusted, fresh, Table.keys]
      · simp [nobody]
      · simp
  | append_singleton calls a ih =>
      rw [adjusted_concat]
      exact ih.adjust a

theorem adjust_others (p : Process) (a : Adjustment) :
    { p with boosts := (p.adjust a).boosts } = p.adjust a := by
  cases a with
  | boost r v =>
      rw [adjust, boost]
      split
      · split <;> rfl
      · rfl
  | unboost r => rfl
  | clear => rfl

/-- Calls change the boosts and nothing else. -/
theorem adjusted_others (p : Process) (calls : List Adjustment) :
    { p with boosts := (p.adjusted calls).boosts } = p.adjusted calls := by
  induction calls using List.reverseRecOn with
  | nil => rfl
  | append_singleton calls a ih =>
      rw [adjusted_concat, ← adjust_others (p.adjusted calls) a, ← ih]

theorem base_adjusted (p : Process) (calls : List Adjustment) :
    (p.adjusted calls).base = p.base := by
  rw [← adjusted_others]

/-- What is in force decides the boosts, up to their order. -/
theorem sameBoosts_of_inForce (fresh : p.boosts = {})
    (same : ∀ r, inForce calls r = inForce calls' r) :
    (p.adjusted calls).SameBoosts (p.adjusted calls') := by
  have recalls := recalls_adjusted fresh calls
  have recalls' := recalls_adjusted fresh calls'
  constructor
  · apply (List.perm_ext_iff_of_nodup recalls.once.of_map recalls'.once.of_map).mpr
    rintro ⟨r, v⟩
    rw [← Table.get?_eq_some_iff recalls.once, ← Table.get?_eq_some_iff recalls'.once,
      recalls.get?_iff, recalls'.get?_iff, same]
  · have least := recalls.isLeast
    have least' := recalls'.isLeast
    rw [base_adjusted] at least least'
    simp only [same] at least
    exact least.unique least'
  · rw [← adjusted_others p calls, ← adjusted_others p calls']

end Process

open Process

/-- A process begins without boosts. Whatever the calls then: a resource gives a boost if and only
if something is in force for it, the boost is the least of what is, and the effective priority is
the least of the base priority and these. Whatever comes before and after them, two calls for
different resources may change places, and `unboost` leaves the process as if no call had been made
for its resource. -/
theorem boosts_running_minimum {p : Process} (fresh : p.boosts = {}) (calls : List Adjustment) :
    (∀ r, r ∈ (p.adjusted calls).boosts.keys ↔ (inForce calls r).Nonempty) ∧
    (∀ r v, (p.adjusted calls).boosts.get? r = some v ↔ IsLeast (inForce calls r) v) ∧
    IsLeast (insert p.base {v | ∃ r, IsLeast (inForce calls r) v}) (p.adjusted calls).priority ∧
    (∀ a b i j, a.resource? = some i → b.resource? = some j → i ≠ j → ∀ later,
      (p.adjusted (calls ++ a :: b :: later)).SameBoosts
        (p.adjusted (calls ++ b :: a :: later))) ∧
    ∀ r later, (p.adjusted (calls ++ .unboost r :: later)).SameBoosts
      (p.adjusted ((calls.filter fun a => a.resource? ≠ some r) ++ later)) := by
  have recalls := recalls_adjusted fresh calls
  refine ⟨fun r => recalls.mem_keys_iff, fun r v => recalls.get?_iff, ?_, ?_, ?_⟩
  · exact base_adjusted p calls ▸ recalls.isLeast
  · intro a b i j made made' apart later
    apply sameBoosts_of_inForce fresh
    intro r
    have swapped : inForce (calls ++ [a] ++ [b]) r = inForce (calls ++ [b] ++ [a]) r :=
      inForce_swap made made' apart
    simpa using inForce_append_congr swapped later
  · intro r later
    apply sameBoosts_of_inForce fresh
    intro i
    have undone : inForce (calls ++ [.unboost r]) i =
        inForce (calls.filter fun a => a.resource? ≠ some r) i := by
      rw [inForce_unboost, inForce_filter]
    simpa using inForce_append_congr undone later

/-- Two resources give boosts, and one of them is taken back and gives another. -/
def Process.juggling : List Adjustment :=
  [.boost 0 4, .boost 1 2, .boost 0 3, .unboost 1, .boost 0 6, .boost 1 8]

def Process.juggler : Process := { (default : Process) with base := 5 }

theorem boosts_running_minimum_juggling :
    juggler.boosts = {} ∧
    IsLeast (inForce juggling 0) 3 ∧ IsLeast (inForce juggling 1) 8 ∧ inForce juggling 2 = ∅ ∧
    IsLeast (insert 5 {v | ∃ r, IsLeast (inForce juggling r) v}) 3 ∧
    (juggler.adjusted (juggling ++ [.boost 0 1, .unboost 1])).SameBoosts
      (juggler.adjusted (juggling ++ [.unboost 1, .boost 0 1])) ∧
    (juggler.adjusted (juggling ++ [.unboost 0])).SameBoosts
      (juggler.adjusted [.boost 1 2, .unboost 1, .boost 1 8]) := by
  obtain ⟨keys, values, priority, swaps, undone⟩ :=
    boosts_running_minimum (p := juggler) rfl juggling
  have nothing : ¬ (inForce juggling 2).Nonempty := fun given =>
    absurd ((keys 2).mpr given) (by decide)
  exact ⟨rfl, (values 0 3).mp (by decide), (values 1 8).mp (by decide),
    Set.not_nonempty_iff_eq_empty.mp nothing, priority,
    swaps (.boost 0 1) (.unboost 1) 0 1 rfl rfl (by decide) [], undone 0 []⟩

/-- The boosts are listed in the order in which their resources came. -/
example : (juggler.adjusted [.boost 0 4, .boost 1 2]).boosts = ⟨[(0, 4), (1, 2)]⟩ ∧
    (juggler.adjusted [.boost 1 2, .boost 0 4]).boosts = ⟨[(1, 2), (0, 4)]⟩ := by
  decide

end Uniprocessor
