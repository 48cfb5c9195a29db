import Uniprocessor.Proofs.Kernel.Views
import Mathlib.Data.List.Nodup
import Mathlib.Tactic.ByContra

/-!
Order in a kernel: states, marks, queues and owners agree.

A process in use is in exactly one situation (`Kernel.Placed`): ready and in the
ready queue, running and current, waiting in the queue of one resource, or
gone. Marks and queues say the same (`Kernel.Linked`), and what is owned is a
resource of the table, by somebody who has not left and does not wait for it
(`Kernel.Orderly`). Each elementary change of a kernel keeps this order where
its precondition holds.
-/

namespace Uniprocessor.Kernel

variable {k k' : Kernel} {h w : Handle} {r : Int} {q : QueueId}

/-! ### Marks and queues -/

/-- The mark of a process names the one queue that it is in, where it stands once. -/
structure Linked (k : Kernel) : Prop where
  mark : ∀ h q, (k.process h).queue = some q ↔ h ∈ k.queue q
  nodup : ∀ q, (k.queue q).Nodup

theorem Linked.congr (linked : k.Linked)
    (marks : ∀ h, (k'.process h).queue = (k.process h).queue)
    (queues : ∀ q, k'.queue q = k.queue q) : k'.Linked where
  mark h q := by rw [marks, queues, linked.mark]
  nodup q := by rw [queues]; exact linked.nodup q

theorem Linked.inState (linked : k.Linked) (h : Handle) (state : State) :
    (k.edit h (·.inState state)).Linked := by
  refine linked.congr ?_ (by simp)
  intro j
  by_cases here : h = j <;> simp [here]

theorem Linked.not_mem (linked : k.Linked) (free : (k.process h).queue = none) (q : QueueId) :
    h ∉ k.queue q := by
  intro mem
  rw [(linked.mark h q).mpr mem] at free
  cases free

theorem Linked.link (linked : k.Linked) (free : (k.process h).queue = none) :
    (k.link q h).Linked where
  mark j p := by
    by_cases same : h = j
    · subst same
      by_cases here : q = p
      · simp [here]
      · simp [here, linked.not_mem free p]
    · by_cases here : q = p
      · subst here
        simp [same, Ne.symm same, linked.mark]
      · simp [same, here, linked.mark]
  nodup p := by
    rw [queue_link]
    split
    · exact List.nodup_append.mpr ⟨linked.nodup q, List.nodup_singleton h, by
        intro a ha b hb
        rw [List.mem_singleton.mp hb]
        exact fun same => linked.not_mem free q (same ▸ ha)⟩
    · exact linked.nodup p

theorem Linked.unlink (linked : k.Linked) (mem : h ∈ k.queue q) : (k.unlink q h).Linked where
  mark j p := by
    have marked := (linked.mark h q).mpr mem
    by_cases same : h = j
    · subst same
      by_cases here : q = p
      · subst here
        simp [(linked.nodup q).not_mem_erase]
      · have elsewhere : h ∉ k.queue p := fun mem' => by
          rw [(linked.mark h p).mpr mem'] at marked
          exact here (Option.some.inj marked).symm
        simp [here, elsewhere]
    · by_cases here : q = p
      · subst here
        simp [same, linked.mark, List.mem_erase_of_ne (Ne.symm same)]
      · simp [same, here, linked.mark]
  nodup p := by
    rw [queue_unlink]
    split
    · exact (linked.nodup q).erase h
    · exact linked.nodup p

/-- Whoever is in a queue is in use. -/
theorem Linked.used (linked : k.Linked) (mem : h ∈ k.queue q) : h ∈ k.handles := by
  by_contra unused
  have marked := (linked.mark h q).mpr mem
  rw [process_of_unused unused] at marked
  cases marked

/-! ### Situations -/

/-- The situation of a process. -/
inductive Placed (k : Kernel) (h : Handle) : Prop where
  | ready (state : (k.process h).state = .ready) (queue : (k.process h).queue = some .ready)
  | running (state : (k.process h).state = .running) (queue : (k.process h).queue = none)
      (current : k.current = some h)
  | waiting (r : Int) (state : (k.process h).state = .waiting)
      (queue : (k.process h).queue = some (.waiting r)) (inTable : 0 ≤ r ∧ r < k.size)
  | exited (state : (k.process h).state = .exited) (queue : (k.process h).queue = none)

theorem Placed.congr (placed : k.Placed h)
    (state : (k'.process h).state = (k.process h).state)
    (queue : (k'.process h).queue = (k.process h).queue)
    (current : (k.process h).state = .running → k'.current = some h) (size : k'.size = k.size) :
    k'.Placed h := by
  cases placed with
  | ready s q => exact .ready (state.trans s) (queue.trans q)
  | running s q c => exact .running (state.trans s) (queue.trans q) (current s)
  | waiting r s q inTable =>
      exact .waiting r (state.trans s) (queue.trans q) ⟨inTable.1, size ▸ inTable.2⟩
  | exited s q => exact .exited (state.trans s) (queue.trans q)

theorem Placed.queue_of_running (placed : k.Placed h)
    (running : (k.process h).state = .running) : (k.process h).queue = none := by
  cases placed with
  | running _ free _ => exact free
  | ready state _ | waiting _ state _ _ | exited state _ => rw [state] at running; cases running

theorem Placed.current_of_running (placed : k.Placed h)
    (running : (k.process h).state = .running) : k.current = some h := by
  cases placed with
  | running _ _ current => exact current
  | ready state _ | waiting _ state _ _ | exited state _ => rw [state] at running; cases running

theorem Placed.state_of_ready (placed : k.Placed h)
    (queue : (k.process h).queue = some .ready) : (k.process h).state = .ready := by
  cases placed with
  | ready state _ => exact state
  | running _ free _ | exited _ free => rw [free] at queue; cases queue
  | waiting r _ elsewhere _ => rw [elsewhere] at queue; cases queue

theorem Placed.state_of_waiting (placed : k.Placed h)
    (queue : (k.process h).queue = some (.waiting r)) : (k.process h).state = .waiting := by
  cases placed with
  | waiting _ state _ _ => exact state
  | ready _ elsewhere => rw [elsewhere] at queue; cases queue
  | running _ free _ | exited _ free => rw [free] at queue; cases queue

/-! ### Order -/

/-- States, marks, queues and owners agree. -/
structure Orderly (k : Kernel) : Prop where
  linked : k.Linked
  placed : ∀ h ∈ k.handles, k.Placed h
  owners : ∀ r h, (k.resource r).owner = some h →
    (0 ≤ r ∧ r < k.size) ∧ h ∈ k.handles ∧ (k.process h).state ≠ .exited ∧
      (k.process h).queue ≠ some (.waiting r)

/-- Two kernels with the same processes at the same places. -/
structure SamePlaces (k k' : Kernel) : Prop where
  state : ∀ h, (k'.process h).state = (k.process h).state
  mark : ∀ h, (k'.process h).queue = (k.process h).queue
  owner : ∀ r, (k'.resource r).owner = (k.resource r).owner
  queue : ∀ q, k'.queue q = k.queue q
  handles : k'.handles = k.handles
  current : k'.current = k.current
  size : k'.size = k.size

theorem Orderly.congr (order : k.Orderly) (same : k.SamePlaces k') : k'.Orderly where
  linked := order.linked.congr same.mark same.queue
  placed j used := by
    rw [same.handles] at used
    refine (order.placed j used).congr (same.state j) (same.mark j) ?_ same.size
    intro running
    rw [same.current]
    exact (order.placed j used).current_of_running running
  owners r j owned := by
    rw [same.owner] at owned
    rw [same.size, same.handles, same.state, same.mark]
    exact order.owners r j owned

/-- Nobody has the processor. -/
def Idle (k : Kernel) : Prop := ∀ h ∈ k.handles, (k.process h).state ≠ .running

/-! ### Changes that keep the order -/

/-- A process that is not touched stays where it is. -/
theorem Orderly.placed_of_same (order : k.Orderly) {j : Handle} (used : j ∈ k.handles)
    (process : k'.process j = k.process j) (current : k'.current = k.current)
    (size : k'.size = k.size) : k'.Placed j := by
  refine (order.placed j used).congr (by rw [process]) (by rw [process]) ?_ size
  intro running
  rw [current]
  exact (order.placed j used).current_of_running running

theorem Orderly.sendBack (order : k.Orderly) (used : h ∈ k.handles)
    (running : (k.process h).state = .running) : (k.sendBack h).Orderly where
  linked := by
    have free := (order.placed h used).queue_of_running running
    exact (order.linked.inState h .ready).link (by simp [free])
  placed j mem := by
    rw [handles_sendBack used] at mem
    by_cases same : h = j
    · subst same
      exact .ready (by simp) (by simp)
    · exact order.placed_of_same mem (by simp [same]) (by simp) (by simp)
  owners r j owned := by
    obtain ⟨inTable, mem, here, apart⟩ := order.owners r j (by simpa using owned)
    refine ⟨by simpa using inTable, by simpa [used] using mem, ?_, ?_⟩ <;>
      by_cases same : h = j <;> simp [same, here, apart]

theorem Orderly.dispatch (order : k.Orderly) (mem : h ∈ k.queue .ready) (idle : k.Idle) :
    (k.dispatch h).Orderly where
  linked := (order.linked.unlink mem).congr (by intro j; simp [Kernel.dispatch])
    (by simp [Kernel.dispatch])
  placed j used := by
    rw [handles_dispatch (order.linked.used mem)] at used
    by_cases same : h = j
    · subst same
      exact .running (by simp) (by simp) (by simp)
    · exact (order.placed j used).congr (by simp [same]) (by simp [same])
        (fun running => absurd running (idle j used)) (by simp)
  owners r j owned := by
    have inUse := order.linked.used mem
    obtain ⟨inTable, used, here, apart⟩ := order.owners r j (by simpa using owned)
    refine ⟨by simpa using inTable, by simpa [inUse] using used, ?_, ?_⟩ <;>
      by_cases same : h = j <;> simp [same, here, apart]

theorem Orderly.rest (order : k.Orderly) (idle : k.Idle) : (k.turnTo none).Orderly where
  linked := order.linked.congr (by simp) (by simp)
  placed j used := (order.placed j (by simpa using used)).congr (by simp) (by simp)
    (fun running => absurd running (idle j (by simpa using used))) (by simp)
  owners r j owned := by simpa using order.owners r j (by simpa using owned)

theorem Orderly.grant (order : k.Orderly) (used : h ∈ k.handles)
    (running : (k.process h).state = .running) (inTable : 0 ≤ r ∧ r < k.size) :
    (k.assign r (some h)).Orderly where
  linked := order.linked.congr (by simp) (by simp)
  placed j mem := order.placed_of_same (by simpa using mem) (by simp) (by simp) (by simp)
  owners i j owned := by
    by_cases same : r = i
    · subst same
      have owned : h = j := by simpa using owned
      subst owned
      refine ⟨by simpa using inTable, by simpa using used, by simp [running], ?_⟩
      simp [(order.placed h used).queue_of_running running]
    · simpa using order.owners i j (by simpa [same] using owned)

theorem Orderly.vacate (order : k.Orderly) : (k.assign r none).Orderly where
  linked := order.linked.congr (by simp) (by simp)
  placed j mem := order.placed_of_same (by simpa using mem) (by simp) (by simp) (by simp)
  owners i j owned := by
    by_cases same : r = i
    · simp [same] at owned
    · simpa using order.owners i j (by simpa [same] using owned)

theorem Orderly.park (order : k.Orderly) (used : h ∈ k.handles)
    (running : (k.process h).state = .running) (inTable : 0 ≤ r ∧ r < k.size)
    (other : (k.resource r).owner ≠ some h) : (k.park r h).Orderly where
  linked := by
    have free := (order.placed h used).queue_of_running running
    exact (order.linked.inState h .waiting).link (by simp [free])
  placed j mem := by
    rw [handles_park r used] at mem
    by_cases same : h = j
    · subst same
      exact .waiting r (by simp) (by simp) (by simpa using inTable)
    · exact order.placed_of_same mem (by simp [same]) (by simp) (by simp)
  owners i j owned := by
    have owned : (k.resource i).owner = some j := by simpa using owned
    obtain ⟨inTable, mem, here, apart⟩ := order.owners i j owned
    refine ⟨by simpa using inTable, by simpa [used] using mem, ?_, ?_⟩
    · by_cases same : h = j <;> simp [same, here]
    · by_cases same : h = j
      · subst same
        have differ : r ≠ i := fun eq => other (eq ▸ owned)
        simp [differ]
      · simpa [same] using apart

theorem Orderly.wake (order : k.Orderly) (mem : w ∈ k.queue (.waiting r)) :
    (k.wake r w).Orderly where
  linked := ((order.linked.unlink mem).inState w .ready).link (by simp)
  placed j used := by
    rw [handles_wake r (order.linked.used mem)] at used
    by_cases same : w = j
    · subst same
      exact .ready (by simp) (by simp)
    · exact order.placed_of_same used (by simp [same]) (by simp) (by simp)
  owners i j owned := by
    have inUse := order.linked.used mem
    obtain ⟨inTable, used, here, apart⟩ := order.owners i j (by simpa using owned)
    refine ⟨by simpa using inTable, by simpa [inUse] using used, ?_, ?_⟩ <;>
      by_cases same : w = j <;> simp [same, here, apart]

theorem Orderly.handles_free (order : k.Orderly) : (k.free r).handles = k.handles :=
  Kernel.handles_free r fun _ mem => order.linked.used mem

theorem Orderly.free (order : k.Orderly) : (k.free r).Orderly := by
  unfold Kernel.free
  cases waiters : k.queue (.waiting r) with
  | nil => exact order.vacate
  | cons w rest => exact order.vacate.wake (by simp [waiters])

theorem Orderly.retire (order : k.Orderly) (used : h ∈ k.handles)
    (running : (k.process h).state = .running)
    (nothing : ∀ r, (k.resource r).owner ≠ some h) : (k.retire h).Orderly where
  linked := order.linked.congr (by intro j; simp) (by simp)
  placed j mem := by
    rw [handles_retire used] at mem
    by_cases same : h = j
    · subst same
      exact .exited (by simp) (by simp [(order.placed h used).queue_of_running running])
    · exact order.placed_of_same mem (by simp [same]) (by simp) (by simp)
  owners r j owned := by
    have owned : (k.resource r).owner = some j := by simpa using owned
    have same : h ≠ j := fun eq => nothing r (eq ▸ owned)
    simpa [same, used] using order.owners r j owned

theorem Orderly.receive (order : k.Orderly) (fresh : k.nextHandle ∉ k.handles) {p : Process}
    (ready : p.state = .ready) (free : p.queue = none) : (k.receive p).Orderly where
  linked := by
    have unmarked : (k.process k.nextHandle).queue = none := by rw [process_of_unused fresh]; rfl
    have marks : ∀ j, ((k.enroll p).process j).queue = (k.process j).queue := by
      intro j
      rw [process_enroll]
      split
      · rename_i same
        rw [← same, free, unmarked]
      · rfl
    have enrolled : (k.enroll p).Linked := order.linked.congr marks (k.enroll_frame p).2.1
    refine enrolled.link ?_
    · simp [process_enroll, free]
  placed j mem := by
    rw [handles_receive fresh] at mem
    by_cases same : k.nextHandle = j
    · subst same
      exact .ready (by simp [ready]) (by simp)
    · have used : j ∈ k.handles := by simpa [Ne.symm same] using mem
      exact order.placed_of_same used (by simp [same]) (by simp) (by simp)
  owners r j owned := by
    have owned : (k.resource r).owner = some j := by simpa using owned
    obtain ⟨inTable, used, here, apart⟩ := order.owners r j owned
    have same : k.nextHandle ≠ j := fun eq => fresh (eq ▸ used)
    refine ⟨by simpa using inTable, ?_, by simp [same, here], by simp [same, apart]⟩
    rw [handles_receive fresh]
    exact List.mem_append_left _ used

end Uniprocessor.Kernel
