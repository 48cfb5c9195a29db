import Uniprocessor.Proofs.Policy.Choice

/-!
What every discipline decides, and what it does about it.

A discipline decides who runs, who goes back to the ready queue, and how much of
the slice is used (`Policy.Decision`). Carrying a decision out takes the chosen
process from the ready queue and puts the preempted one at its tail, and does
nothing else (`Policy.Scheduled`): nobody is lost. The built-in disciplines each
decide by one expression over the state before (`Discipline.decision`).

The search by a key is made twice, before and after the running process goes
back. Both find the same process, unless the key rates the running process as
more urgent for having been preempted than anybody else: then the second search
takes that one back (`Policy.TakesBack`). None of the built-in keys does so, and none
can that rates processes by who they are (`Policy.not_takesBack`): whom such a key
names is the least of all who could run (`Policy.key_le_of_takePreemptively`).
-/

namespace Uniprocessor

/-- The ready processes are those in the ready queue, and at most the current process
runs, outside all queues. -/
structure Kernel.Schedulable (k : Kernel) : Prop where
  linked : k.Linked
  ready : ∀ h ∈ k.handles, (k.process h).state = .ready ↔ h ∈ k.queue .ready
  running : ∀ h, (k.process h).state = .running →
    k.current = some h ∧ (k.process h).queue = none

theorem Kernel.Orderly.schedulable {k : Kernel} (order : k.Orderly) : k.Schedulable where
  linked := order.linked
  ready h used := by
    rw [← order.linked.mark]
    cases order.placed h used with
    | ready state queue => simp [state, queue]
    | running state queue | exited state queue | waiting _ state queue => simp [state, queue]
  running h running := by
    have placed := order.placed h (Policy.used_of_running running)
    exact ⟨placed.current_of_running running, placed.queue_of_running running⟩

/-- The process once it has been preempted. -/
def Process.preempted (p : Process) : Process := (p.inState .ready).marked (some .ready)

namespace Policy

open KernelM

variable {k k' : Kernel} {h j : Handle} {key : Process → Int}

/-- Who runs, who goes back to the ready queue, and how much of the slice is used. -/
structure Decision where
  chosen : Option Handle
  back : Option Handle
  slice : Nat
  deriving DecidableEq, Repr

/-- The decision has been carried out, and nothing else has happened. -/
structure Scheduled (k : Kernel) (δ : Decision) (k' : Kernel) : Prop where
  /-- Nobody is chosen only where nobody could be. -/
  nobody : δ.chosen = none → continuing k = none ∧ k.queue .ready = []
  candidate : ∀ h, δ.chosen = some h → continuing k = some h ∨ h ∈ k.queue .ready
  back : ∀ h, δ.back = some h → continuing k = some h
  ready : k'.queue .ready = (k.queue .ready ++ δ.back.toList).filter (δ.chosen ≠ some ·)
  queue : ∀ q, q ≠ .ready → k'.queue q = k.queue q
  /-- The chosen process is in no queue, and changed only if it went back first. -/
  chosen : ∀ h, δ.chosen = some h →
    k'.process h =
      (if δ.back = some h then (k.process h).inState .ready else k.process h).marked none
  preempted : ∀ h, δ.back = some h → δ.chosen ≠ some h → k'.process h = (k.process h).preempted
  other : ∀ h, δ.chosen ≠ some h → δ.back ≠ some h → k'.process h = k.process h
  owner : ∀ r, (k'.resource r).owner = (k.resource r).owner
  ceiling : ∀ r, (k'.resource r).ceiling = (k.resource r).ceiling
  handles : k'.handles = k.handles
  current : k'.current = k.current
  size : k'.size = k.size
  tick : k'.tick = k.tick
  memory : k'.memory = { k.memory with sliceUsed := δ.slice }

/-! ### Who could be chosen -/

/-- The running process, if it may go on, and then the ready queue from its head. -/
def candidates (k : Kernel) : List Handle := (continuing k).toList ++ k.queue .ready

theorem free_of_continuing (ready : k.Schedulable) (goes : continuing k = some h) :
    (k.process h).queue = none :=
  (ready.running h (running_of_continuing goes)).2

theorem not_ready_of_continuing (ready : k.Schedulable) (goes : continuing k = some h) :
    h ∉ k.queue .ready :=
  ready.linked.not_mem (free_of_continuing ready goes) .ready

/-! ### Sending the running process back -/

/-- The kernel once the running process has gone back, if it does. -/
def sentBack (k : Kernel) : Option Handle → Kernel
  | none => k
  | some h => (k.sendBack h).record (.preempted (k.process h).pid)

@[simp] theorem process_sentBack (back : Option Handle) :
    ((sentBack k back).process j) =
      if back = some j then (k.process j).preempted else k.process j := by
  cases back with
  | none => rfl
  | some h => simp [sentBack, Process.preempted]

@[simp] theorem queue_sentBack (back : Option Handle) (q : QueueId) :
    (sentBack k back).queue q =
      if .ready = q then k.queue .ready ++ back.toList else k.queue q := by
  cases back with
  | none =>
      by_cases same : .ready = q
      · simp [sentBack, ← same]
      · simp [sentBack, same]
  | some h => simp [sentBack]

@[simp] theorem sentBack_frame (back : Option Handle) :
    (∀ r, ((sentBack k back).resource r).owner = (k.resource r).owner) ∧
      (∀ r, ((sentBack k back).resource r).ceiling = (k.resource r).ceiling) ∧
      (sentBack k back).current = k.current ∧ (sentBack k back).size = k.size ∧
      (sentBack k back).tick = k.tick ∧ (sentBack k back).memory = k.memory := by
  cases back <;> simp [sentBack]

theorem handles_sentBack {back : Option Handle}
    (goes : ∀ h, back = some h → continuing k = some h) :
    (sentBack k back).handles = k.handles := by
  cases back with
  | none => rfl
  | some h => simp [sentBack, used_of_running (running_of_continuing (goes h rfl))]

theorem linked_sentBack (ready : k.Schedulable) {back : Option Handle}
    (goes : ∀ h, back = some h → continuing k = some h) : (sentBack k back).Linked := by
  cases back with
  | none => exact ready.linked
  | some h =>
      have free := free_of_continuing ready (goes h rfl)
      have sent : (k.sendBack h).Linked := (ready.linked.inState h .ready).link (by simp [free])
      exact sent.congr (by simp [sentBack]) (by simp [sentBack])

theorem run_preempt_of_free (free : (k.process h).queue = none) (goes : continuing k = some h) :
    (preempt h).run k = .ok () (sentBack k (some h)) := by
  have moved : (move h .preempt).run k = .ok () (k.edit h (·.inState .ready)) :=
    run_move (by simp [running_of_continuing goes, Transition.sources])
  have linked : (enqueue .ready h).run (k.edit h (·.inState .ready)) = .ok () (k.sendBack h) :=
    run_enqueue (by simp [free])
  simp [preempt, moved, linked, sentBack]

/-! ### Carrying a decision out -/

/-- Nobody can run. -/
theorem scheduled_nobody (free : continuing k = none) (empty : k.queue .ready = []) (used : Nat) :
    Scheduled k ⟨none, none, used⟩ (withSlice k used) := by
  constructor <;> simp [withSlice, free, empty]

/-- The running process goes on. -/
theorem scheduled_stay (ready : k.Schedulable) (goes : continuing k = some h) (used : Nat) :
    Scheduled k ⟨some h, none, used⟩ (withSlice k used) := by
  have away := not_ready_of_continuing ready goes
  have same : (k.process h).marked none = k.process h := by
    rw [Process.marked, ← free_of_continuing ready goes]
  constructor
  case ready =>
    have kept : (k.queue .ready).filter (fun j => some h ≠ some j) = k.queue .ready := by
      refine List.filter_eq_self.mpr fun j mem => decide_eq_true fun is => ?_
      exact away (Option.some.inj is ▸ mem)
    simpa only [withSlice, Kernel.remember_frame, Option.toList_none, List.append_nil] using
      kept.symm
  all_goals simp [withSlice, goes, same]

/-- A member of the ready queue is taken, after the running process has gone back or not. -/
theorem scheduled_take (ready : k.Schedulable) {back : Option Handle}
    (goes : ∀ h, back = some h → continuing k = some h)
    (mem : h ∈ k.queue .ready ++ back.toList) (used : Nat) :
    Scheduled k ⟨some h, back, used⟩ (withSlice ((sentBack k back).unlink .ready h) used) := by
  have linked := linked_sentBack ready goes
  have member : h ∈ (sentBack k back).queue .ready := by simpa using mem
  have inUse := linked.used member
  -- Nobody stands in the queue twice, so whoever is taken out of it is gone.
  have alone := linked.nodup .ready
  rw [queue_sentBack, if_pos rfl] at alone
  constructor
  case nobody => nofun
  case candidate =>
    rintro _ ⟨⟩
    rcases List.mem_append.mp mem with here | here
    · exact .inr here
    · exact .inl (goes h (Option.mem_toList.mp here))
  case back => exact goes
  case ready =>
    simp only [withSlice, Kernel.remember_frame, Kernel.queue_unlink, queue_sentBack, if_true,
      alone.erase_eq_filter]
    congr 1
    funext j
    simp [eq_comm, bne, Bool.beq_eq_decide_eq]
  case chosen =>
    rintro _ ⟨⟩
    simp only [withSlice, Kernel.remember_frame, Kernel.process_unlink, process_sentBack, if_true]
    split <;> rfl
  case preempted =>
    intro j sent other
    have sent : back = some j := sent
    simp [withSlice, sent, Option.some_inj.not.mp other]
  case other =>
    intro j other stays
    simp [withSlice, stays, Option.some_inj.not.mp other]
  case handles => exact (Kernel.handles_unlink .ready inUse).trans (handles_sentBack goes)
  case queue => intro q other; simp [withSlice, Ne.symm other]
  all_goals simp [withSlice]

/-! ### Searching by a key -/

/-- The first candidate with the least key runs; a running process that is not chosen
goes back. -/
def leastOf (key : Process → Int) (k : Kernel) : Decision :=
  let chosen := (candidates k).minOn? fun h => key (k.process h)
  { chosen, back := (continuing k).filter (chosen ≠ some ·), slice := k.memory.sliceUsed }

/-- Where nobody goes on, the least of the ready queue is taken. -/
theorem scheduled_takeLeast (ready : k.Schedulable) (back : Option Handle)
    (goes : ∀ h, back = some h → continuing k = some h)
    (free : back = none → continuing k = none) (key : Process → Int) :
    ∃ k', (takeLeast key .ready).run (sentBack k back) =
        .ok ((sentBack k back).least? key .ready) k' ∧
      Scheduled k ⟨(sentBack k back).least? key .ready, back, k.memory.sliceUsed⟩ k' := by
  cases least : (sentBack k back).least? key .ready with
  | none =>
      have empty := least?_eq_none_iff.mp least
      rw [queue_sentBack, if_pos rfl, List.append_eq_nil_iff, Option.toList_eq_nil_iff] at empty
      obtain ⟨empty, rfl⟩ := empty
      exact ⟨_, run_takeLeast_none least, scheduled_nobody (free rfl) empty _⟩
  | some h =>
      have mem := least?_mem least
      have marked := ((linked_sentBack ready goes).mark h .ready).mpr mem
      rw [queue_sentBack, if_pos rfl] at mem
      refine ⟨_, run_takeLeast_some least marked, ?_⟩
      have taken := scheduled_take ready goes mem k.memory.sliceUsed
      cases back <;> exact taken

theorem leastOf_of_free (free : continuing k = none) :
    leastOf key k = ⟨k.least? key .ready, none, k.memory.sliceUsed⟩ := by
  simp [leastOf, candidates, free, Kernel.least?]

/-- The running process wins ties. -/
theorem leastOf_of_stays (goes : continuing k = some h)
    (wins : ∀ best, k.least? key .ready = some best → key (k.process h) ≤ key (k.process best)) :
    leastOf key k = ⟨some h, none, k.memory.sliceUsed⟩ := by
  have chosen : (candidates k).minOn? (fun j => key (k.process j)) = some h := by
    simp only [candidates, goes, Option.toList_some, List.singleton_append, List.minOn?_cons]
    cases least : (k.queue .ready).minOn? (fun j => key (k.process j)) with
    | none => rfl
    | some best => simp [minOn, wins best least]
  simp [leastOf, chosen, goes, Option.filter]

theorem leastOf_of_loses (goes : continuing k = some h) (apart : h ≠ j)
    (least : k.least? key .ready = some j) (loses : key (k.process j) < key (k.process h)) :
    leastOf key k = ⟨some j, some h, k.memory.sliceUsed⟩ := by
  have found : (k.queue .ready).minOn? (fun j => key (k.process j)) = some j := least
  have chosen : (candidates k).minOn? (fun j => key (k.process j)) = some j := by
    simp [candidates, goes, List.minOn?_cons, found, minOn, Int.not_le.mpr loses]
  simp [leastOf, chosen, goes, Option.filter, Ne.symm apart]

/-- The second search finds what the first one found, unless the one that has gone back is
now more urgent. -/
theorem least?_sentBack (away : h ∉ k.queue .ready) (least : k.least? key .ready = some j) :
    (sentBack k (some h)).least? key .ready =
      if key (k.process j) ≤ key (k.process h).preempted then some j else some h := by
  have apart : h ≠ j := fun same => away (same ▸ least?_mem least)
  have kept :
      (k.queue .ready).minOn? (fun i => key ((sentBack k (some h)).process i)) = some j := by
    rw [← least]
    have same : ∀ i ∈ k.queue .ready, (sentBack k (some h)).process i = k.process i := by
      intro i mem
      have other : h ≠ i := fun same => away (same ▸ mem)
      simp [other]
    exact List.minOn?_congr fun i mem j mem' => by rw [same i mem, same j mem']
  have ready : (sentBack k (some h)).queue .ready = k.queue .ready ++ [h] := by simp
  rw [Kernel.least?, ready, List.minOn?_append, kept]
  simp only [Option.merge, minOn, List.minOn?_singleton, process_sentBack, if_true,
    Option.some_inj.not.mpr apart, if_false]
  split <;> rfl

/-- A running process that loses stands at the tail of the ready queue when the least is
taken from there. -/
theorem scheduled_of_loses {best : Handle} (ready : k.Schedulable) (goes : continuing k = some h)
    (least : k.least? key .ready = some best)
    (loses : key (k.process best) < key (k.process h)) :
    ∃ k', (takePreemptively key).run k = .ok ((sentBack k (some h)).least? key .ready) k' ∧
      Scheduled k ⟨(sentBack k (some h)).least? key .ready, some h, k.memory.sliceUsed⟩ k' := by
  obtain ⟨k', ran, scheduled⟩ := scheduled_takeLeast ready (some h) (by simp [goes]) nofun key
  have sent := run_preempt_of_free (free_of_continuing ready goes) goes
  refine ⟨k', ?_, scheduled⟩
  rw [← ran]
  simp [takePreemptively, goes, least, Int.not_le.mpr loses, sent]

/-- The running process loses, and once it has gone back it is the most urgent. -/
structure TakesBack (key : Process → Int) (k : Kernel) (h : Handle) : Prop where
  goes : continuing k = some h
  loses : ∃ j ∈ k.queue .ready, key (k.process j) < key (k.process h)
  wins : ∀ j ∈ k.queue .ready, key (k.process h).preempted < key (k.process j)

/-- Nobody is taken back by a key that does not see that a process is preempted. -/
theorem not_takesBack (blind : ∀ p : Process, key p.preempted = key p) :
    ¬ TakesBack key k h := by
  intro back
  obtain ⟨j, mem, loses⟩ := back.loses
  have wins := back.wins j mem
  rw [blind] at wins
  exact absurd (Int.lt_trans wins loses) (Int.lt_irrefl _)

/-- Only the most urgent of the ready queue needs to be compared with. -/
theorem takesBack_iff {best : Handle} (goes : continuing k = some h)
    (least : k.least? key .ready = some best) :
    TakesBack key k j ↔ h = j ∧ key (k.process best) < key (k.process h) ∧
      key (k.process h).preempted < key (k.process best) := by
  have mem := least?_mem least
  constructor
  · intro back
    obtain rfl : h = j := Option.some.inj (goes.symm.trans back.goes)
    obtain ⟨i, listed, loses⟩ := back.loses
    exact ⟨rfl, Int.lt_of_le_of_lt (key_le_of_least? least listed) loses, back.wins best mem⟩
  · rintro ⟨rfl, loses, wins⟩
    refine ⟨goes, ⟨best, mem, loses⟩, fun i listed => ?_⟩
    exact Int.lt_of_lt_of_le wins (key_le_of_least? least listed)

/-- Whatever the key, the first candidate with the least key is chosen, unless the running
process is taken back. -/
theorem scheduled_takePreemptively (ready : k.Schedulable) (key : Process → Int) :
    ∃ δ k', (takePreemptively key).run k = .ok δ.chosen k' ∧ Scheduled k δ k' ∧
      ((∀ h, ¬ TakesBack key k h) → δ = leastOf key k) ∧
      ∀ h, TakesBack key k h → δ = ⟨some h, some h, k.memory.sliceUsed⟩ := by
  -- By who is compared: nobody runs, nobody is ready, or the running process meets the least.
  cases goes : continuing k with
  | none =>
      obtain ⟨k', ran, scheduled⟩ := scheduled_takeLeast ready none nofun (fun _ => goes) key
      refine ⟨_, k', ?_, scheduled, fun _ => (leastOf_of_free goes).symm, fun h back => ?_⟩
      · simpa [takePreemptively, goes, sentBack] using ran
      · rw [back.goes] at goes
        cases goes
  | some h =>
      have stays := scheduled_stay ready goes k.memory.sliceUsed
      cases least : k.least? key .ready with
      | none =>
          refine ⟨_, k, by simp [takePreemptively, goes, least], stays, fun _ => ?_,
            fun j back => ?_⟩
          · exact (leastOf_of_stays goes (by simp [least])).symm
          · obtain ⟨i, mem, _⟩ := back.loses
            rw [least?_eq_none_iff.mp least] at mem
            cases mem
      | some best =>
          by_cases wins : key (k.process h) ≤ key (k.process best)
          · refine ⟨_, k, by simp [takePreemptively, goes, least, wins], stays, fun _ => ?_,
              fun j back => ?_⟩
            · exact (leastOf_of_stays goes (by simp [least, wins])).symm
            · obtain ⟨_, loses, _⟩ := (takesBack_iff goes least).mp back
              exact absurd wins (Int.not_le.mpr loses)
          · have away := not_ready_of_continuing ready goes
            have apart : h ≠ best := fun same => away (same ▸ least?_mem least)
            have loses := Int.not_le.mp wins
            obtain ⟨k', ran, scheduled⟩ := scheduled_of_loses ready goes least loses
            refine ⟨_, k', ran, scheduled, ?_⟩
            rw [least?_sentBack away least]
            split
            next later =>
              refine ⟨fun _ => (leastOf_of_loses goes apart least loses).symm, fun j back => ?_⟩
              obtain ⟨_, _, sooner⟩ := (takesBack_iff goes least).mp back
              exact absurd later (Int.not_le.mpr sooner)
            next sooner =>
              have back : TakesBack key k h :=
                (takesBack_iff goes least).mpr ⟨rfl, loses, Int.not_le.mp sooner⟩
              refine ⟨fun nobody => absurd back (nobody h), fun j back' => ?_⟩
              obtain ⟨rfl, _⟩ := (takesBack_iff goes least).mp back'
              rfl

/-! ### The other searches -/

theorem withSlice_of_eq {used : Nat} (same : k.memory.sliceUsed = used) : withSlice k used = k := by
  rw [← same]
  rfl

/-- Where the running process does not go on, the head of the ready queue is taken. -/
theorem scheduled_takeHead (ready : k.Schedulable) (back : Option Handle)
    (goes : ∀ h, back = some h → continuing k = some h)
    (free : back = none → continuing k = none) :
    ∃ m, (takeHead .ready).run (sentBack k back) =
        .ok (k.queue .ready ++ back.toList).head? m ∧ m.memory = k.memory ∧
      ∀ used, Scheduled k ⟨(k.queue .ready ++ back.toList).head?, back, used⟩
        (withSlice m used) := by
  have members : (sentBack k back).queue .ready = k.queue .ready ++ back.toList := by simp
  cases listed : k.queue .ready ++ back.toList with
  | nil =>
      rw [listed] at members
      rw [List.append_eq_nil_iff, Option.toList_eq_nil_iff] at listed
      obtain ⟨empty, rfl⟩ := listed
      exact ⟨_, run_takeHead_nil members, rfl, scheduled_nobody (free rfl) empty⟩
  | cons h rest =>
      rw [listed] at members
      exact ⟨_, run_takeHead_cons members, by simp,
        scheduled_take ready goes (listed ▸ List.mem_cons_self)⟩

/-- The running process goes on while its slice lasts. -/
def lasts (quantum : Nat) (k : Kernel) : Bool :=
  (continuing k).isSome && k.memory.sliceUsed < quantum

end Policy

/-- What a discipline decides. -/
def Discipline.decision (k : Kernel) : Discipline → Policy.Decision
  | firstCome => ⟨(Policy.candidates k).head?, none, k.memory.sliceUsed⟩
  | shortestJob =>
      ⟨(Policy.continuing k).or ((k.queue .ready).minOn? fun h => ((k.process h).lifespan : Int)),
        none, k.memory.sliceUsed⟩
  | shortestRemaining => Policy.leastOf (fun p => p.remaining) k
  | roundRobin quantum =>
      if Policy.lasts quantum k then ⟨Policy.continuing k, none, k.memory.sliceUsed + 1⟩
      else
        let next := (k.queue .ready ++ (Policy.continuing k).toList).head?
        ⟨next, Policy.continuing k, if next.isSome then 1 else 0⟩
  | priority | priorityCeiling | priorityInheritance => Policy.leastOf Process.priority k

namespace Discipline

open Policy (continuing lasts)

variable {q : Nat} {k : Kernel} {h : Handle}

/-- While the slice lasts the running process goes on. -/
theorem decision_of_lasts (goes : lasts q k = true) :
    (roundRobin q).decision k = ⟨continuing k, none, k.memory.sliceUsed + 1⟩ := by
  simp [decision, goes]

/-- In a turn the head of the ready queue is chosen, if there is one. -/
theorem chosen_of_turn {j : Handle} {rest : List Handle} (turn : lasts q k = false)
    (ready : k.queue .ready = j :: rest) :
    ((roundRobin q).decision k).chosen = some j ∧ ((roundRobin q).decision k).slice = 1 := by
  simp [decision, turn, ready]

theorem slice_le_one_of_turn (turn : lasts q k = false) :
    ((roundRobin q).decision k).slice ≤ 1 := by
  simp only [decision, turn, Bool.false_eq_true, if_false]
  split <;> simp

/-- Whoever is chosen has some of its slice used. -/
theorem slice_pos_of_chosen (chosen : ((roundRobin q).decision k).chosen = some h) :
    0 < ((roundRobin q).decision k).slice := by
  cases goes : lasts q k with
  | true => simp [decision_of_lasts goes]
  | false =>
      have next : (k.queue .ready ++ (continuing k).toList).head? = some h := by
        simpa [decision, goes] using chosen
      simp [decision, goes, next]

end Discipline

namespace Policy

open KernelM

variable {k : Kernel} {h : Handle}

/-- A non-preemptive discipline does as `next` does where nobody goes on. -/
theorem scheduled_keepOr (ready : k.Schedulable) {next : KernelM (Option Handle)}
    {first : Option Handle}
    (otherwise : continuing k = none → ∃ k', next.run k = .ok first k' ∧
      Scheduled k ⟨first, none, k.memory.sliceUsed⟩ k') :
    ∃ k', (keepOr next).run k = .ok ((continuing k).or first) k' ∧
      Scheduled k ⟨(continuing k).or first, none, k.memory.sliceUsed⟩ k' := by
  cases goes : continuing k with
  | none =>
      obtain ⟨k', ran, scheduled⟩ := otherwise goes
      exact ⟨k', by simpa [keepOr, goes] using ran, scheduled⟩
  | some h => exact ⟨k, by simp [keepOr, goes], scheduled_stay ready goes k.memory.sliceUsed⟩

theorem scheduled_firstCome (ready : k.Schedulable) :
    ∃ k', Discipline.firstCome.schedule.run k = .ok (Discipline.firstCome.decision k).chosen k' ∧
      Scheduled k (Discipline.firstCome.decision k) k' := by
  have either : (candidates k).head? = (continuing k).or (k.queue .ready).head? := by
    simp [candidates, List.head?_append]
  simp only [Discipline.decision, either]
  refine scheduled_keepOr ready fun free => ?_
  obtain ⟨m, ran, memory, scheduled⟩ :=
    scheduled_takeHead ready none nofun (fun _ => free)
  have scheduled := scheduled k.memory.sliceUsed
  rw [withSlice_of_eq (by rw [memory]), Option.toList_none, List.append_nil] at scheduled
  exact ⟨m, by simpa [sentBack] using ran, scheduled⟩

theorem scheduled_shortestJob (ready : k.Schedulable) :
    ∃ k', Discipline.shortestJob.schedule.run k =
        .ok (Discipline.shortestJob.decision k).chosen k' ∧
      Scheduled k (Discipline.shortestJob.decision k) k' :=
  scheduled_keepOr ready fun free => scheduled_takeLeast ready none nofun (fun _ => free) _

/-- Round robin goes on while the slice lasts, and moves the ready queue round by one then. -/
theorem scheduled_roundRobin (ready : k.Schedulable) (quantum : Nat) :
    ∃ k', (Discipline.roundRobin quantum).schedule.run k =
        .ok ((Discipline.roundRobin quantum).decision k).chosen k' ∧
      Scheduled k ((Discipline.roundRobin quantum).decision k) k' := by
  simp only [Discipline.decision, Discipline.schedule]
  cases goes : continuing k with
  | none =>
      obtain ⟨m, ran, _, scheduled⟩ :=
        scheduled_takeHead ready none (by simp) (fun _ => goes)
      have ran : (takeHead .ready).run k = _ := ran
      rw [if_neg (by simp [lasts, goes])]
      exact ⟨_, by simp [rotate, goes, ran], scheduled _⟩
  | some h =>
      by_cases left : k.memory.sliceUsed < quantum
      · rw [if_pos (by simp [lasts, goes, left])]
        exact ⟨_, by simp [rotate, goes, left], scheduled_stay ready goes _⟩
      · obtain ⟨m, ran, _, scheduled⟩ :=
          scheduled_takeHead ready (some h) (by simp [goes]) (by simp)
        rw [if_neg (by simp [lasts, left])]
        refine ⟨_, ?_, scheduled _⟩
        simp [rotate, goes, left, run_preempt_of_free (free_of_continuing ready goes) goes, ran]

/-- A key that does not see that a process is preempted decides by one search. -/
theorem scheduled_leastOf (ready : k.Schedulable) {key : Process → Int}
    (blind : ∀ p : Process, key p.preempted = key p) :
    ∃ k', (takePreemptively key).run k = .ok (leastOf key k).chosen k' ∧
      Scheduled k (leastOf key k) k' := by
  obtain ⟨δ, k', ran, scheduled, least, _⟩ := scheduled_takePreemptively ready key
  obtain rfl := least fun _ => not_takesBack blind
  exact ⟨k', ran, scheduled⟩

/-- By a key that does not look at the places of processes, whoever is named has a key no
greater than that of anybody who could be. -/
theorem key_le_of_takePreemptively {k' : Kernel} {j : Handle} {key : Process → Int}
    (order : k.Orderly) (blind : ∀ p : Process, key p.unplaced = key p)
    (ran : (takePreemptively key).run k = .ok (some h) k')
    (able : continuing k = some j ∨ j ∈ k.queue .ready) :
    key (k.process h) ≤ key (k.process j) := by
  have unseen : ∀ p : Process, key p.preempted = key p := fun p =>
    calc key p.preempted = key p.preempted.unplaced := (blind _).symm
      _ = key p := blind p
  obtain ⟨k'', ran', _⟩ := scheduled_leastOf order.schedulable unseen
  rw [ran] at ran'
  injection ran' with chosen _
  have mem : j ∈ candidates k := by
    rcases able with goes | ready
    · simp [candidates, goes]
    · simp [candidates, ready]
  have bound := List.apply_get_minOn?_le_of_mem (f := fun i => key (k.process i)) mem
  have found : (candidates k).minOn? (fun i => key (k.process i)) = some h := chosen.symm
  simpa [found] using bound

end Policy

/-- Every built-in discipline carries out what it decides. -/
theorem Discipline.scheduled {k : Kernel} (d : Discipline) (ready : k.Schedulable) :
    ∃ k', d.schedule.run k = .ok (d.decision k).chosen k' ∧
      Policy.Scheduled k (d.decision k) k' := by
  cases d with
  | firstCome => exact Policy.scheduled_firstCome ready
  | shortestJob => exact Policy.scheduled_shortestJob ready
  | roundRobin quantum => exact Policy.scheduled_roundRobin ready quantum
  | shortestRemaining => exact Policy.scheduled_leastOf ready fun _ => rfl
  | priority | priorityCeiling | priorityInheritance =>
      exact Policy.scheduled_leastOf ready fun _ => rfl

end Uniprocessor
