import Uniprocessor.Proofs.Protocol.Inheritance

/-!
Donations.

A process that begins to wait passes its priority on to the owner, and along the
chain of owners that wait themselves. Where the walk has come to, one waiter is
late (`Kernel.Walk`). Every step settles it and makes the next one late
(`Walk.next`), and where the walk ends nobody is (`Walk.stop`, `Walk.last`). Its
fuel never ends it, because the owners on the way are different and so are their
resources. So asking for a resource and giving one back under inheritance keep
priorities passed on (`PassedOn.acquired`, `PassedOn.refused`,
`PassedOn.released`).
-/

namespace Uniprocessor.Kernel

variable {k k' : Kernel} {h : Handle} {r v : Int}

/-! ### The walk -/

/-- Resources with different owners are different entries of the table. -/
theorem length_le_of_owned {done : List Int} (apart : done.Nodup)
    (owned : ∀ i ∈ done, ∃ j, (k.resource i).owner = some j) :
    done.length ≤ k.resources.size := by
  have known : done ⊆ k.resources.keys := by
    intro i mem
    obtain ⟨j, owner⟩ := owned i mem
    rw [Table.mem_keys_iff]
    cases found : k.resources.get? i with
    | none =>
        simp only [resource, found] at owner
        cases owner
    | some s => rfl
  simpa [Table.keys, Table.size] using apart.length_le_of_subset known

/-- Where the walk of a donation is: it passes on the priority `v`, and has come
to `x`, who waits for `r` and is the only one late. The owners of the resources
behind it (`done`) have all been met. -/
structure Walk (k : Kernel) (v : Int) (met done : List Int) (x : Handle) (r : Int) : Prop where
  passed : k.PassedOn fun q i => q = x ∧ i = r
  order : k.Orderly
  tracked : k.Tracked
  distinct : k.Distinct
  waits : x ∈ k.queue (.waiting r)
  inTable : 0 ≤ r ∧ r < k.size
  urgent : v ≤ (k.process x).priority
  earned : ∃ q, k.Behind q x ∧ (k.process q).base = v
  settled : ∀ j ∈ k.handles, (k.process j).pid ∈ met → (k.process j).priority ≤ v
  apart : done.Nodup
  walked : ∀ i ∈ done, ∃ j, (k.resource i).owner = some j ∧ (k.process j).pid ∈ met

namespace Walk

variable {met done : List Int} {x o : Handle} {i : Int}

/-- The walk may end at a free resource, at an owner that was met before, and at
one that is urgent enough. -/
theorem stop (walk : k.Walk v met done x r)
    (stop : ∀ o, (k.resource r).owner = some o →
      (k.process o).pid ∈ met ∨ (k.process o).priority ≤ v) : k.PassedOn fun _ _ => False := by
  apply walk.passed.mono
  intro i p owned q _ _
  by_cases late : q = x ∧ i = r
  · obtain ⟨rfl, rfl⟩ := late
    have used := (walk.order.owners i p owned).2.1
    exact .inr (((stop p owned).elim (walk.settled p used) id).trans walk.urgent)
  · exact .inl late

/-- Otherwise the owner is boosted. Now the owner is late, if it waits itself. -/
theorem raise (walk : k.Walk v met done x r) (owned : (k.resource r).owner = some o) (e : Event) :
    ((k.edit o (·.boost r v)).record e).PassedOn fun q _ => q = o := by
  obtain ⟨q, behind, base⟩ := walk.earned
  refine (walk.passed.boost owned ⟨q, behind.tail ⟨r, owned, walk.waits⟩, base⟩ ?_).record e
  intro i p owned' q mem other
  refine ⟨other, ?_⟩
  by_cases late : q = x ∧ i = r
  · obtain ⟨rfl, rfl⟩ := late
    rw [owned] at owned'
    cases owned'
    exact .inr ⟨rfl, walk.urgent⟩
  · exact .inl late

/-- An owner that does not wait is the last. -/
theorem last (walk : k.Walk v met done x r) (owned : (k.resource r).owner = some o)
    (awake : k.memory.blockedOn.get? (k.process o).pid = none) (e : Event) :
    ((k.edit o (·.boost r v)).record e).PassedOn fun _ _ => False := by
  refine (walk.raise owned e).mono fun i p _ q mem _ => .inl ?_
  rintro rfl
  have noted := (walk.passed.noted _ i).mpr ⟨q, by simpa using mem, rfl⟩
  rw [awake] at noted
  cases noted

/-- The walk goes on to the resource that the owner waits for. -/
theorem next (walk : k.Walk v met done x r) (owned : (k.resource r).owner = some o)
    (new : (k.process o).pid ∉ met) (slow : v < (k.process o).priority)
    (blocked : k.memory.blockedOn.get? (k.process o).pid = some i) (e : Event) :
    ((k.edit o (·.boost r v)).record e).Walk v ((k.process o).pid :: met) (r :: done) o i := by
  have used := (walk.order.owners r o owned).2.1
  have alike : k.Alike ((k.edit o (·.boost r v)).record e) :=
    (Alike.edit used (clearBoosts_boost r v)).trans (.record _ e)
  have waits : o ∈ k.queue (.waiting i) := by
    obtain ⟨j, mem, same⟩ := (walk.passed.noted _ i).mp blocked
    exact walk.distinct j (walk.order.linked.used mem) o used same ▸ mem
  constructor
  case passed =>
    -- From now on nobody but the owner may be late, and it waits for the next resource.
    refine (walk.raise owned e).mono fun j p _ q mem punctual => .inl ?_
    rintro rfl
    have marked := (walk.order.linked.mark q _).mpr waits
    rw [(walk.order.linked.mark q _).mpr (by simpa using mem)] at marked
    cases marked
    exact punctual ⟨rfl, rfl⟩
  case order => exact walk.order.congr alike.samePlaces
  case tracked => exact walk.tracked.congr (by simp) alike.size
  case distinct => simpa [Distinct, alike.handles, alike.pid] using walk.distinct
  case waits => simpa using waits
  case inTable => simpa using walk.tracked _ _ blocked
  case urgent => simpa using Process.le_priority_boost slow.le
  case earned =>
    obtain ⟨q, behind, base⟩ := walk.earned
    refine ⟨q, ?_, (alike.base q).trans base⟩
    rw [Behind, PassedOn.waitsOn_congr alike.owner fun i => alike.queue _]
    exact behind.tail ⟨r, owned, walk.waits⟩
  case settled =>
    intro j used' known
    rw [alike.pid] at known
    rw [alike.handles] at used'
    -- Whoever was met before is urgent enough already, and the owner has just become so.
    by_cases here : o = j
    · subst here
      simpa using Process.priority_boost_le _ r v
    · have before : (k.process j).pid ∈ met :=
        (List.mem_cons.mp known).resolve_left fun same =>
          here (walk.distinct j used' o used same).symm
      simpa [here] using walk.settled j used' before
  case apart =>
    refine List.nodup_cons.mpr ⟨?_, walk.apart⟩
    intro mem
    obtain ⟨j, owner, known⟩ := walk.walked r mem
    rw [owned] at owner
    cases owner
    exact new known
  case walked =>
    intro j mem
    simp only [alike.owner, alike.pid]
    rcases List.mem_cons.mp mem with rfl | old
    · exact ⟨o, owned, .head _⟩
    · obtain ⟨p, owner, known⟩ := walk.walked j old
      exact ⟨p, owner, .tail _ known⟩

/-- A walk leaves nobody late. Every owner on the way owns a resource of its own,
so the fuel does not end it. -/
theorem donate {fuel : Nat} (walk : k.Walk v met done x r)
    (enough : k.resources.size < fuel + done.length)
    (ran : (Protocol.donate v fuel met r).run k = .ok () k') : k'.PassedOn fun _ _ => False := by
  -- Each step takes one of the fuel and puts one resource into `done`.
  induction fuel generalizing k r met done x with
  | zero =>
      have bound := length_le_of_owned walk.apart fun i mem =>
        (walk.walked i mem).imp fun _ => And.left
      omega
  | succ fuel ih =>
      cases owned : (k.resource r).owner with
      | none =>
          have same : k = k' := by
            simpa [Protocol.donate, KernelM.run_resource walk.inTable, owned] using ran
          exact same ▸ walk.stop (by simp [owned])
      | some o =>
          by_cases stop : (k.process o).pid ∈ met ∨ (k.process o).priority ≤ v
          · have same : k = k' := by
              simpa [Protocol.donate, KernelM.run_resource walk.inTable, owned, stop] using ran
            exact same ▸ walk.stop (by simpa [owned] using stop)
          · obtain ⟨new, slow⟩ : (k.process o).pid ∉ met ∧ v < (k.process o).priority := by
              simpa using stop
            let e : Event := .inherits (k.process o).pid v r
            cases blocked : k.memory.blockedOn.get? (k.process o).pid with
            | none =>
                have same : (k.edit o (·.boost r v)).record e = k' := by
                  simpa [Protocol.donate, KernelM.run_resource walk.inTable, owned, stop, e,
                    blocked] using ran
                exact same ▸ walk.last owned blocked e
            | some i =>
                have rest : (Protocol.donate v fuel ((k.process o).pid :: met) i).run
                    ((k.edit o (·.boost r v)).record e) = .ok () k' := by
                  simpa [Protocol.donate, KernelM.run_resource walk.inTable, owned, stop, e,
                    blocked] using ran
                refine ih (walk.next owned new slow blocked e) ?_ rest
                show k.resources.size < fuel + (done.length + 1)
                omega

end Walk

namespace PassedOn

/-! ### The protocol -/

/-- Whatever is asked for and granted, priorities stay passed on. -/
theorem acquired (passed : k.PassedOn fun _ _ => False) (current : k.current = some h)
    (inTable : 0 ≤ r ∧ r < k.size) (free : (k.resource r).owner = none)
    (awake : ∀ i, h ∉ k.queue (.waiting i))
    (ran : (Protocol.acquire .inheritance r).run k = .ok true k') :
    k'.PassedOn fun _ _ => False := by
  rw [Protocol.run_acquire_inheriting current inTable free] at ran
  cases ran
  exact passed.grant free awake _

/-- So they do when it is refused. -/
theorem refused {owner : Handle} (passed : k.PassedOn fun _ _ => False) (order : k.Orderly)
    (tracked : k.Tracked) (distinct : k.Distinct) (used : h ∈ k.handles)
    (current : k.current = some h) (running : (k.process h).state = .running)
    (owned : (k.resource r).owner = some owner) (other : owner ≠ h)
    (ran : (Protocol.acquire .inheritance r).run k = .ok false k') :
    k'.PassedOn fun _ _ => False := by
  have inTable := (order.owners r owner owned).1
  have free := (order.placed h used).queue_of_running running
  have alike : (k.park r h).Alike (k.block r h owner) := Protocol.alike_block
  have order' : (k.block r h owner).Orderly :=
    (order.park used running inTable (by simp [owned, other])).congr alike.samePlaces
  have tracked' : (k.block r h owner).Tracked := Protocol.tracked_block tracked inTable
  have inTable' : 0 ≤ r ∧ r < (k.block r h owner).size := by simpa [alike.size] using inTable
  have pid : ∀ j, ((k.block r h owner).process j).pid = (k.process j).pid := by
    intro j
    rw [alike.pid]
    simp
  have passed' : (k.block r h owner).PassedOn fun q i => q = h ∧ i = r :=
    passed.block order distinct used free
  obtain ⟨k₁, donated, _⟩ := Protocol.run_donate ((k.block r h owner).process h).priority
    ((k.block r h owner).resources.size + 1) [(k.process h).pid] inTable' tracked'
  rw [Protocol.run_acquire_donating current inTable owned other running free donated] at ran
  cases ran
  have distinct' : (k.block r h owner).Distinct := by
    simpa [Distinct, pid, alike.handles, used] using distinct
  -- The walk begins at the waiter, the only one that is met so far.
  have walk : (k.block r h owner).Walk ((k.block r h owner).process h).priority
      [(k.process h).pid] [] h r := by
    refine ⟨passed', order', tracked', distinct', ?_, inTable', le_rfl, passed'.attained h, ?_,
      .nil, nofun⟩
    · simp [alike.queue]
    · intro j used' known
      rw [List.mem_singleton, pid] at known
      rw [alike.handles, handles_park r used] at used'
      rw [distinct j used' h used known]
  exact walk.donate (Nat.lt_succ_self _) donated

/-- And so they do when a resource is given back. -/
theorem released (passed : k.PassedOn fun _ _ => False) (order : k.Orderly)
    (distinct : k.Distinct) (current : k.current = some h)
    (owned : (k.resource r).owner = some h) (awake : ∀ i, h ∉ k.queue (.waiting i))
    (ran : (Protocol.release .inheritance r).run k = .ok () k') :
    k'.PassedOn fun _ _ => False := by
  rw [Protocol.run_release_rebuilding order current owned] at ran
  cases ran
  exact passed.release order distinct owned awake

end PassedOn

end Uniprocessor.Kernel
