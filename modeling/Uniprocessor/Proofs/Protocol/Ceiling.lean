import Mathlib.Tactic.ByContra
import Uniprocessor.Proofs.Protocol.Elevation

/-!
Priorities under ceilings.

A process may need a resource if it requests it at some age (`Kernel.Declares`).
Where every resource has a ceiling at least as urgent as everybody who may need
it, three facts carry the protocol while nobody waits (`Kernel.Guarded`): a process
is boosted by the ceilings of what it owns, as far as that helps; of two boosted
processes one stands wholly below the other; and an owner is at least as urgent
as everybody else who may need what it owns.

Whoever arrives owns nothing yet (`Guarded.join`). The process that asks leads
(`Kernel.Leads`): nobody is more urgent, and what it may need is owned by nobody
else. Then it is granted what it asks for, and all of this still holds
(`Guarded.take`, `Leads.take`). It also holds when something is given back
(`Guarded.yield`): who had to stay below the owner stood below its base priority
already, or is no more urgent than the ceilings that are left.
-/

namespace Uniprocessor

namespace Process

variable {p p' : Process} {r v : Int}

/-- What a priority and a request are read off from. -/
def standing (p : Process) : Table Int Int × Int × List Request := (p.boosts, p.base, p.requests)

theorem priority_of_standing (same : p'.standing = p.standing) : p'.priority = p.priority :=
  priority_congr (congrArg (·.1) same) (congrArg (·.2.1) same)

/-- More boosts make a process no less urgent. -/
theorem priority_anti (base : p'.base = p.base)
    (more : ∀ e ∈ p.boosts.entries, e ∈ p'.boosts.entries) : p'.priority ≤ p.priority := by
  refine le_priority_iff.mpr ⟨base ▸ p'.priority_le_base, ?_⟩
  intro v mem
  obtain ⟨e, known, rfl⟩ := List.mem_map.mp mem
  exact priority_le_of_mem (List.mem_map.mpr ⟨e, more e known, rfl⟩)

end Process

namespace Kernel

variable {k k' : Kernel} {h p : Handle} {r v : Int}

/-- The process has arrived and has not left. -/
def Present (k : Kernel) (p : Handle) : Prop := p ∈ k.handles ∧ (k.process p).state ≠ .exited

/-- The process requests the resource at some age. -/
def Declares (k : Kernel) (p : Handle) (r : Int) : Prop :=
  ∃ q ∈ (k.process p).requests, q.resource = r

/-- A boost makes the process more urgent than it is by itself. -/
def Raised (k : Kernel) (p : Handle) : Prop := (k.process p).priority < (k.process p).base

/-- Every ceiling does its work, and nobody waits. -/
structure Guarded (k : Kernel) : Prop where
  boosts : ∀ p r v, (r, v) ∈ (k.process p).boosts.entries ↔
    (k.resource r).owner = some p ∧ (k.resource r).ceiling = some v ∧ v < (k.process p).base
  covered : ∀ p ∈ k.handles, ∀ q ∈ (k.process p).requests,
    ∃ v, (k.resource q.resource).ceiling = some v ∧ v ≤ (k.process p).base
  apart : ∀ x y, k.Present x → k.Present y → x ≠ y → k.Raised x → k.Raised y →
    (k.process x).base ≤ (k.process y).priority ∨ (k.process y).base ≤ (k.process x).priority
  shielded : ∀ r o x, (k.resource r).owner = some o → k.Present x → x ≠ o → k.Declares x r →
    (k.process o).priority ≤ (k.process x).priority
  calm : ∀ r, k.queue (.waiting r) = []

/-- Nobody is more urgent, and nobody else owns what the process may need. -/
structure Leads (k : Kernel) (h : Handle) : Prop where
  least : ∀ x, k.Present x → (k.process h).priority ≤ (k.process x).priority
  alone : ∀ r o, k.Declares h r → (k.resource r).owner = some o → o = h

theorem Declares.congr (declares : k'.Declares p r)
    (requests : (k'.process p).requests = (k.process p).requests) : k.Declares p r := by
  unfold Declares
  rw [← requests]
  exact declares

theorem Leads.shuffled (leads : k.Leads h) (shuffled : k.Shuffled k') : k'.Leads h := by
  have priority : ∀ p, (k'.process p).priority = (k.process p).priority :=
    shuffled.view Process.priority fun _ => rfl
  constructor
  · rintro x ⟨used, present⟩
    rw [priority, priority]
    refine leads.least x ⟨shuffled.handles ▸ used, ?_⟩
    exact fun gone => present ((shuffled.exited x).mpr gone)
  · intro r o declares owned
    rw [shuffled.owner] at owned
    exact leads.alone r o (declares.congr (shuffled.view Process.requests (fun _ => rfl) h)) owned

/-! ### What the ceilings give -/

namespace Guarded

/-- Everybody is boosted by the ceilings of what it owns. -/
theorem elevated (guarded : k.Guarded) : k.Elevated fun r => (k.resource r).ceiling :=
  guarded.boosts

/-- Nobody is in the queue of a resource. -/
theorem not_waiting (guarded : k.Guarded) (order : k.Orderly) (p : Handle) (r : Int) :
    (k.process p).queue ≠ some (.waiting r) := by
  intro marked
  have mem := (order.linked.mark p _).mp marked
  rw [guarded.calm r] at mem
  cases mem

/-- Changes that concern no priority, owner, ceiling or waiter, and nobody new. -/
theorem congr (guarded : k.Guarded)
    (standing : ∀ p, (k'.process p).standing = (k.process p).standing)
    (owner : ∀ r, (k'.resource r).owner = (k.resource r).owner)
    (ceiling : ∀ r, (k'.resource r).ceiling = (k.resource r).ceiling)
    (waiting : ∀ r, k'.queue (.waiting r) = k.queue (.waiting r))
    (handles : k'.handles = k.handles)
    (exited : ∀ p, (k.process p).state = .exited → (k'.process p).state = .exited) :
    k'.Guarded := by
  have priority : ∀ p, (k'.process p).priority = (k.process p).priority :=
    fun p => Process.priority_of_standing (standing p)
  have boosts : ∀ p, (k'.process p).boosts = (k.process p).boosts :=
    fun p => congrArg (·.1) (standing p)
  have base : ∀ p, (k'.process p).base = (k.process p).base :=
    fun p => congrArg (·.2.1) (standing p)
  have requests : ∀ p, (k'.process p).requests = (k.process p).requests :=
    fun p => congrArg (·.2.2) (standing p)
  have present : ∀ p, k'.Present p → k.Present p :=
    fun p here => ⟨handles ▸ here.1, fun gone => here.2 (exited p gone)⟩
  constructor
  · intro p r v
    rw [boosts, owner, ceiling, base]
    exact guarded.boosts p r v
  · intro p used q asked
    rw [requests] at asked
    rw [ceiling, base]
    exact guarded.covered p (handles ▸ used) q asked
  · intro x y here there other raised raised'
    simp only [Raised, priority, base] at raised raised' ⊢
    exact guarded.apart x y (present x here) (present y there) other raised raised'
  · intro r o x owned here other declares
    rw [owner] at owned
    rw [priority, priority]
    exact guarded.shielded r o x owned (present x here) other (declares.congr (requests x))
  · intro r
    rw [waiting]
    exact guarded.calm r

theorem shuffled (guarded : k.Guarded) (shuffled : k.Shuffled k') : k'.Guarded :=
  guarded.congr (shuffled.view Process.standing fun _ => rfl) shuffled.owner shuffled.ceiling
    shuffled.waiting shuffled.handles fun p => (shuffled.exited p).mpr

end Guarded

/-! ### Arriving -/

/-- Somebody new is there, who is not boosted, and nothing else differs that
concerns priorities. -/
structure Joins (k k' : Kernel) (n : Handle) : Prop where
  new : n ∉ k.handles
  handles : k'.handles = k.handles ++ [n]
  standing : ∀ p, p ≠ n → (k'.process p).standing = (k.process p).standing
  state : ∀ p, p ≠ n → (k'.process p).state = (k.process p).state
  bare : (k'.process n).boosts = {}
  owner : ∀ r, (k'.resource r).owner = (k.resource r).owner
  ceiling : ∀ r, (k'.resource r).ceiling = (k.resource r).ceiling
  waiting : ∀ r, k'.queue (.waiting r) = k.queue (.waiting r)

namespace Joins

variable {n : Handle}

theorem priority (joins : k.Joins k' n) (other : p ≠ n) :
    (k'.process p).priority = (k.process p).priority :=
  Process.priority_of_standing (joins.standing p other)

theorem boosts (joins : k.Joins k' n) (other : p ≠ n) :
    (k'.process p).boosts = (k.process p).boosts :=
  congrArg (·.1) (joins.standing p other)

theorem base (joins : k.Joins k' n) (other : p ≠ n) :
    (k'.process p).base = (k.process p).base :=
  congrArg (·.2.1) (joins.standing p other)

theorem requests (joins : k.Joins k' n) (other : p ≠ n) :
    (k'.process p).requests = (k.process p).requests :=
  congrArg (·.2.2) (joins.standing p other)

theorem used (joins : k.Joins k' n) (other : p ≠ n) (used : p ∈ k'.handles) : p ∈ k.handles := by
  rw [joins.handles] at used
  exact (List.mem_append.mp used).resolve_right fun last => other (List.mem_singleton.mp last)

theorem present (joins : k.Joins k' n) (other : p ≠ n) (here : k'.Present p) : k.Present p :=
  ⟨joins.used other here.1, joins.state p other ▸ here.2⟩

/-- The newcomer has its own priority. -/
theorem priority_new (joins : k.Joins k' n) : (k'.process n).priority = (k'.process n).base := by
  unfold Process.priority
  rw [joins.bare]
  rfl

/-- Whoever is boosted is not new. -/
theorem ne_of_raised (joins : k.Joins k' n) (raised : k'.Raised p) : p ≠ n := by
  rintro rfl
  exact absurd joins.priority_new raised.ne

end Joins

/-- Somebody arrives whom the ceilings cover. -/
theorem Guarded.join {n : Handle} (guarded : k.Guarded) (order : k.Orderly) (joins : k.Joins k' n)
    (covered : ∀ q ∈ (k'.process n).requests,
      ∃ v, (k.resource q.resource).ceiling = some v ∧ v ≤ (k'.process n).base) : k'.Guarded := by
  have nothing : ∀ r, (k.resource r).owner ≠ some n :=
    fun r owned => joins.new (order.owners r n owned).2.1
  -- The newcomer owns nothing, has no boosts, and asks for what the ceilings cover.
  constructor
  · intro p r v
    rw [joins.owner, joins.ceiling]
    by_cases last : p = n
    · subst last
      constructor
      · intro boost
        rw [joins.bare] at boost
        cases boost
      · rintro ⟨owned, _⟩
        exact absurd owned (nothing r)
    · rw [joins.boosts last, joins.base last]
      exact guarded.boosts p r v
  · intro p used q asked
    rw [joins.ceiling]
    by_cases last : p = n
    · subst last
      exact covered q asked
    · rw [joins.base last]
      exact guarded.covered p (joins.used last used) q (joins.requests last ▸ asked)
  · intro x y here there other raised raised'
    have first := joins.ne_of_raised raised
    have second := joins.ne_of_raised raised'
    simp only [Raised, joins.priority first, joins.priority second, joins.base first,
      joins.base second] at raised raised' ⊢
    exact guarded.apart x y (joins.present first here) (joins.present second there) other raised
      raised'
  · intro r o x owned here other declares
    rw [joins.owner] at owned
    have old : o ≠ n := fun is => nothing r (is ▸ owned)
    rw [joins.priority old]
    by_cases last : x = n
    · subst last
      obtain ⟨q, asked, rfl⟩ := declares
      obtain ⟨v, level, below⟩ := covered q asked
      rw [joins.priority_new]
      exact (guarded.elevated.priority_le_level owned level).trans below
    · rw [joins.priority last]
      exact guarded.shielded r o x owned (joins.present last here) other
        (declares.congr (joins.requests last))
  · intro r
    rw [joins.waiting]
    exact guarded.calm r

/-! ### Taking and giving back -/

/-- Nothing but owners and boosts differs. -/
structure Retains (k k' : Kernel) : Prop where
  base : ∀ p, (k'.process p).base = (k.process p).base
  requests : ∀ p, (k'.process p).requests = (k.process p).requests
  state : ∀ p, (k'.process p).state = (k.process p).state
  ceiling : ∀ i, (k'.resource i).ceiling = (k.resource i).ceiling
  waiting : ∀ i, k'.queue (.waiting i) = k.queue (.waiting i)
  handles : k'.handles = k.handles

/-- The process takes the resource and is raised to its ceiling, if that helps. -/
structure Takes (k k' : Kernel) (h : Handle) (r : Int) : Prop extends Retains k k' where
  owner : ∀ i, (k'.resource i).owner = if r = i then some h else (k.resource i).owner
  entries : ∀ p e, e ∈ (k'.process p).boosts.entries ↔ e ∈ (k.process p).boosts.entries ∨
    p = h ∧ e.1 = r ∧ (k.resource r).ceiling = some e.2 ∧ e.2 < (k.process h).base

/-- The process gives the resource back and loses what that gave. -/
structure Yields (k k' : Kernel) (h : Handle) (r : Int) : Prop extends Retains k k' where
  owner : ∀ i, (k'.resource i).owner = if r = i then none else (k.resource i).owner
  entries : ∀ p e, e ∈ (k'.process p).boosts.entries ↔
    e ∈ (k.process p).boosts.entries ∧ (p = h → e.1 ≠ r)

namespace Retains

theorem present (retains : k.Retains k') (here : k'.Present p) : k.Present p :=
  ⟨retains.handles ▸ here.1, retains.state p ▸ here.2⟩

theorem covered (retains : k.Retains k') (guarded : k.Guarded) : ∀ p ∈ k'.handles,
    ∀ q ∈ (k'.process p).requests,
      ∃ v, (k'.resource q.resource).ceiling = some v ∧ v ≤ (k'.process p).base := by
  intro p used q asked
  rw [retains.requests] at asked
  rw [retains.ceiling, retains.base]
  exact guarded.covered p (retains.handles ▸ used) q asked

end Retains

namespace Takes

/-- Nobody gets less urgent. -/
theorem priority_le (takes : k.Takes k' h r) (p : Handle) :
    (k'.process p).priority ≤ (k.process p).priority :=
  Process.priority_anti (takes.base p) fun e known => (takes.entries p e).mpr (.inl known)

/-- Nobody else gets more urgent. -/
theorem priority_eq (takes : k.Takes k' h r) (other : p ≠ h) :
    (k'.process p).priority = (k.process p).priority := by
  apply le_antisymm (takes.priority_le p)
  apply Process.priority_anti (takes.base p).symm
  intro e known
  exact ((takes.entries p e).mp known).resolve_right fun own => other own.1

end Takes

/-- Whoever leads stands wholly below everybody else who is boosted. -/
theorem Leads.base_le (leads : k.Leads h) (guarded : k.Guarded) (here : k.Present h) {y : Handle}
    (there : k.Present y) (other : y ≠ h) (raised : k.Raised y) :
    (k.process h).base ≤ (k.process y).priority := by
  have least := leads.least y there
  by_cases own : k.Raised h
  · rcases guarded.apart h y here there other.symm own raised with below | above
    · exact below
    · exact absurd (raised.trans_le above) (not_lt.mpr least)
  · exact (not_lt.mp own).trans least

namespace Takes

/-- What the ceiling adds is as it must be. -/
theorem boosts (takes : k.Takes k' h r) (guarded : k.Guarded)
    (free : (k.resource r).owner = none) (p : Handle) (i v : Int) :
    (i, v) ∈ (k'.process p).boosts.entries ↔ (k'.resource i).owner = some p ∧
      (k'.resource i).ceiling = some v ∧ v < (k'.process p).base := by
  rw [takes.ceiling]
  exact guarded.elevated.take free takes.base takes.owner takes.entries p i v

/-- Whoever else is boosted was so before. -/
theorem raised (takes : k.Takes k' h r) (other : p ≠ h) (raised : k'.Raised p) : k.Raised p := by
  rw [Raised, takes.priority_eq other, takes.base] at raised
  exact raised

/-- Everybody else who is boosted stands wholly above whoever led. -/
theorem above (takes : k.Takes k' h r) (guarded : k.Guarded) (leads : k.Leads h)
    (here : k'.Present h) (there : k'.Present p) (other : p ≠ h) (raised : k'.Raised p) :
    (k'.process h).base ≤ (k'.process p).priority := by
  rw [takes.base, takes.priority_eq other]
  exact leads.base_le guarded (takes.present here) (takes.present there) other
    (takes.raised other raised)

/-- Whoever led owns nothing that it shares with anybody more urgent. -/
theorem shielded (takes : k.Takes k' h r) (guarded : k.Guarded) (leads : k.Leads h) {i : Int}
    {o x : Handle} (owned : (k'.resource i).owner = some o) (here : k'.Present x)
    (other : x ≠ o) (declares : k'.Declares x i) :
    (k'.process o).priority ≤ (k'.process x).priority := by
  have here := takes.present here
  have declares := declares.congr (takes.requests x)
  rw [takes.owner] at owned
  by_cases own : o = h
  · subst own
    rw [takes.priority_eq other]
    exact (takes.priority_le o).trans (leads.least x here)
  · have different : r ≠ i := by
      rintro rfl
      rw [if_pos rfl] at owned
      exact own (Option.some.inj owned).symm
    rw [if_neg different] at owned
    have apart : x ≠ h := by
      rintro rfl
      exact own (leads.alone i o declares owned)
    rw [takes.priority_eq own, takes.priority_eq apart]
    exact guarded.shielded i o x owned here other declares

end Takes

/-- Whoever leads may take what is free. -/
theorem Guarded.take (guarded : k.Guarded) (leads : k.Leads h)
    (free : (k.resource r).owner = none) (takes : k.Takes k' h r) : k'.Guarded := by
  constructor
  · exact takes.boosts guarded free
  · exact takes.covered guarded
  · intro x y here there other raised raised'
    by_cases first : x = h
    · subst first
      exact .inl (takes.above guarded leads here there other.symm raised')
    · by_cases second : y = h
      · subst second
        exact .inr (takes.above guarded leads there here first raised)
      · rw [takes.base, takes.base, takes.priority_eq first, takes.priority_eq second]
        exact guarded.apart x y (takes.present here) (takes.present there) other
          (takes.raised first raised) (takes.raised second raised')
  · intro i o x owned here other declares
    exact takes.shielded guarded leads owned here other declares
  · intro i
    rw [takes.waiting]
    exact guarded.calm i

/-- Whoever has taken something still leads. -/
theorem Leads.take (leads : k.Leads h) (takes : k.Takes k' h r) : k'.Leads h := by
  constructor
  · intro x here
    by_cases own : x = h
    · rw [own]
    · rw [takes.priority_eq own]
      exact (takes.priority_le h).trans (leads.least x (takes.present here))
  · intro i o declares owned
    rw [takes.owner] at owned
    split at owned
    · exact (Option.some.inj owned).symm
    · exact leads.alone i o (declares.congr (takes.requests h)) owned

namespace Yields

/-- Nobody gets more urgent. -/
theorem le_priority (yields : k.Yields k' h r) (p : Handle) :
    (k.process p).priority ≤ (k'.process p).priority :=
  Process.priority_anti (yields.base p).symm fun e known => ((yields.entries p e).mp known).1

/-- Nobody else gets less urgent. -/
theorem priority_eq (yields : k.Yields k' h r) (other : p ≠ h) :
    (k'.process p).priority = (k.process p).priority := by
  apply le_antisymm _ (yields.le_priority p)
  apply Process.priority_anti (yields.base p)
  intro e known
  exact (yields.entries p e).mpr ⟨known, fun own => absurd own other⟩

/-- Whoever is boosted was so before. -/
theorem raised (yields : k.Yields k' h r) (raised : k'.Raised p) : k.Raised p := by
  rw [Raised, yields.base] at raised
  exact (yields.le_priority p).trans_lt raised

/-- What is left of the boosts is as it must be. -/
theorem boosts (yields : k.Yields k' h r) (guarded : k.Guarded)
    (owns : (k.resource r).owner = some h) (p : Handle) (i v : Int) :
    (i, v) ∈ (k'.process p).boosts.entries ↔ (k'.resource i).owner = some p ∧
      (k'.resource i).ceiling = some v ∧ v < (k'.process p).base := by
  rw [yields.ceiling]
  exact guarded.elevated.yield owns yields.base yields.owner yields.entries p i v

/-- What is left of the ceilings still bounds whoever has given something back. -/
theorem bounded (yields : k.Yields k' h r) (guarded : k.Guarded)
    (owns : (k.resource r).owner = some h) {i : Int} {x : Handle} (different : r ≠ i)
    (owned : (k.resource i).owner = some h) (used : x ∈ k.handles) (declares : k.Declares x i) :
    (k'.process h).priority ≤ (k.process x).base := by
  obtain ⟨q, asked, rfl⟩ := declares
  obtain ⟨v, level, below⟩ := guarded.covered x used q asked
  refine le_trans ?_ below
  by_cases helps : v < (k'.process h).base
  · have boost := (yields.boosts guarded owns h q.resource v).mpr
      ⟨by rw [yields.owner, if_neg different, owned], (yields.ceiling _).trans level, helps⟩
    exact Process.priority_le_of_mem (List.mem_map.mpr ⟨(q.resource, v), boost, rfl⟩)
  · exact (Process.priority_le_base _).trans (not_lt.mp helps)

/-- Whoever has given something back is still at least as urgent as everybody else
who may need what it has kept. -/
theorem shielded_own (yields : k.Yields k' h r) (guarded : k.Guarded)
    (owns : (k.resource r).owner = some h) (here : k.Present h) {i : Int} {x : Handle}
    (different : r ≠ i) (owned : (k.resource i).owner = some h) (there : k.Present x)
    (other : x ≠ h) (declares : k.Declares x i) :
    (k'.process h).priority ≤ (k.process x).priority := by
  by_cases raised : k.Raised x
  · -- The other is boosted, and not by what the owner has, so it stands wholly above the owner.
    have base : (k.process h).base ≤ (k.process x).priority := by
      have before := guarded.shielded i h x owned there other declares
      by_cases was : k.Raised h
      · rcases guarded.apart h x here there other.symm was raised with below | above
        · exact below
        · exact absurd (raised.trans_le above) (not_lt.mpr before)
      · exact (not_lt.mp was).trans before
    rw [← yields.base] at base
    exact (Process.priority_le_base _).trans base
  · exact (yields.bounded guarded owns different owned there.1 declares).trans (not_lt.mp raised)

end Yields

/-- An owner may give something back. -/
theorem Guarded.yield (guarded : k.Guarded) (owns : (k.resource r).owner = some h)
    (here : k.Present h) (yields : k.Yields k' h r) : k'.Guarded := by
  constructor
  · exact yields.boosts guarded owns
  · exact yields.covered guarded
  · intro x y hx hy other raised raised'
    rw [yields.base, yields.base]
    rcases guarded.apart x y (yields.present hx) (yields.present hy) other (yields.raised raised)
      (yields.raised raised') with below | above
    · exact .inl (below.trans (yields.le_priority y))
    · exact .inr (above.trans (yields.le_priority x))
  · intro i o x owned there other declares
    have there := yields.present there
    have declares := declares.congr (yields.requests x)
    rw [yields.owner] at owned
    split at owned
    · cases owned
    · rename_i different
      -- What `h` keeps still raises it; whoever else owns something is as urgent as before.
      by_cases own : o = h
      · subst own
        rw [yields.priority_eq other]
        exact yields.shielded_own guarded owns here different owned there other declares
      · rw [yields.priority_eq own]
        exact (guarded.shielded i o x owned there other declares).trans (yields.le_priority x)
  · intro i
    rw [yields.waiting]
    exact guarded.calm i

/-! ### What arrivals and the protocol do -/

/-- Whoever is received joins. -/
theorem joins_of_receive {new : Process} (fresh : k.nextHandle ∉ k.handles)
    (bare : new.boosts = {}) (same : (k.receive new).Same k') : k.Joins k' k.nextHandle := by
  have old : ∀ p, p ≠ k.nextHandle → k'.process p = k.process p := by
    intro p other
    simp [same.process, Ne.symm other]
  constructor
  case standing | state =>
    intro p other
    rw [old p other]
  case new => exact fresh
  case handles => exact same.handles.trans (handles_receive fresh new)
  case bare => simp [same.process, bare]
  case owner => simp [same.owner]
  case ceiling => simp [same.ceiling]
  case waiting => simp [same.queue]

/-- A grant takes the resource. -/
theorem takes_of_grant (guarded : k.Guarded) (used : h ∈ k.handles)
    (free : (k.resource r).owner = none) (e : Event) :
    k.Takes (((k.assign r (some h)).record e).raise h r) h r := by
  have alike : ((k.assign r (some h)).record e).Alike
      (((k.assign r (some h)).record e).raise h r) :=
    Protocol.alike_raise (by simpa using used) r
  have entries := mem_entries_raise (k := (k.assign r (some h)).record e) (h := h) (r := r)
    (by simpa using guarded.elevated.not_mem_keys_of_free free h)
  constructor
  case toRetains =>
    constructor
    · simp [alike.base]
    · simp [alike.requests]
    · simp [alike.state]
    · simp [alike.ceiling]
    · simp [alike.queue]
    · simp [alike.handles]
  · simp [alike.owner]
  · simpa using entries

/-- Where nobody waits a release gives the resource back and nothing else. -/
theorem yields_of_release (order : k.Orderly) (used : h ∈ k.handles)
    (calm : k.queue (.waiting r) = []) : k.Yields (k.lower h r) h r := by
  have alike : (k.free r).Alike (k.lower h r) := Protocol.alike_lower order used
  constructor
  case toRetains =>
    constructor
    · simp [alike.base, calm]
    · simp [alike.requests, calm]
    · simp [alike.state, calm]
    · simp [alike.ceiling]
    · intro i
      by_cases here : r = i
      · subst here
        simp [alike.queue, calm]
      · simp [alike.queue, here]
    · simp [alike.handles, order.handles_free]
  · simp [alike.owner]
  · exact mem_entries_lower

end Kernel

end Uniprocessor
