import Uniprocessor.Kernel

/-!
The kernel seen through its views.

A kernel is looked at through the process of a handle, the owner and the
ceiling of a resource, the members of a queue, the handles in use, and the
current process, the size, the clock and the memory. Every operation is made of
the few writes below, and each of them says of every view what it shows there
(`process_edit`, `queue_link`, `owner_assign` and their siblings). Nothing that
follows looks into the tables behind the views.
-/

namespace Uniprocessor

namespace Process

/-! ### Changes of a process -/

/-- The process in another state. -/
def inState (p : Process) (state : State) : Process := { p with state := state }

/-- The process with another mark. -/
def marked (p : Process) (queue : Option QueueId) : Process := { p with queue := queue }

/-- The process with one more tick of work behind it. -/
def older (p : Process) : Process := { p with age := p.age + 1 }

/-- The process with a note of when it left. -/
def leftAt (p : Process) (tick : Nat) : Process := { p with exitTick := some tick }

/-- The process wherever it is. -/
def unplaced (p : Process) : Process := { p with state := .ready, queue := none }

/-- What was declared of a process, which nothing changes. -/
def declared (p : Process) : Process :=
  { p with state := .ready, age := 0, boosts := {}, queue := none, exitTick := none }

section Fields

variable (p q : Process)

@[simp] theorem inState_fields (state : State) :
    (p.inState state).state = state ∧ (p.inState state).declared = p.declared ∧
      (p.inState state).pid = p.pid ∧ (p.inState state).lifespan = p.lifespan ∧
      (p.inState state).base = p.base ∧ (p.inState state).requests = p.requests ∧
      (p.inState state).age = p.age ∧ (p.inState state).boosts = p.boosts ∧
      (p.inState state).queue = p.queue := by
  simp [inState, declared]

@[simp] theorem marked_fields (queue : Option QueueId) :
    (p.marked queue).queue = queue ∧ (p.marked queue).declared = p.declared ∧
      (p.marked queue).pid = p.pid ∧ (p.marked queue).lifespan = p.lifespan ∧
      (p.marked queue).base = p.base ∧ (p.marked queue).requests = p.requests ∧
      (p.marked queue).age = p.age ∧ (p.marked queue).boosts = p.boosts ∧
      (p.marked queue).state = p.state := by
  simp [marked, declared]

@[simp] theorem older_fields :
    p.older.age = p.age + 1 ∧ p.older.declared = p.declared ∧ p.older.pid = p.pid ∧
      p.older.lifespan = p.lifespan ∧ p.older.base = p.base ∧ p.older.requests = p.requests ∧
      p.older.boosts = p.boosts ∧ p.older.state = p.state ∧ p.older.queue = p.queue := by
  simp [older, declared]

@[simp] theorem leftAt_fields (tick : Nat) :
    (p.leftAt tick).declared = p.declared ∧ (p.leftAt tick).pid = p.pid ∧
      (p.leftAt tick).lifespan = p.lifespan ∧ (p.leftAt tick).base = p.base ∧
      (p.leftAt tick).requests = p.requests ∧ (p.leftAt tick).age = p.age ∧
      (p.leftAt tick).boosts = p.boosts ∧ (p.leftAt tick).state = p.state ∧
      (p.leftAt tick).queue = p.queue := by
  simp [leftAt, declared]

@[simp] theorem ite_fields (c : Prop) [Decidable c] :
    (if c then p else q).declared = (if c then p.declared else q.declared) ∧
      (if c then p else q).pid = (if c then p.pid else q.pid) ∧
      (if c then p else q).lifespan = (if c then p.lifespan else q.lifespan) ∧
      (if c then p else q).base = (if c then p.base else q.base) ∧
      (if c then p else q).requests = (if c then p.requests else q.requests) ∧
      (if c then p else q).age = (if c then p.age else q.age) ∧
      (if c then p else q).boosts = (if c then p.boosts else q.boosts) ∧
      (if c then p else q).state = (if c then p.state else q.state) ∧
      (if c then p else q).queue = (if c then p.queue else q.queue) := by
  split <;> simp

end Fields

end Process

namespace Kernel

variable (k : Kernel) (h j : Handle) (r : Int) (q : QueueId)

/-- The handles in use, in the order of enrolment. -/
def handles : List Handle := k.processes.keys

/-! ### Changes of a kernel -/

/-- Changes the process of a handle. -/
def edit (change : Process → Process) : Kernel := k.setProcess h (change (k.process h))

/-- Gives a resource another owner. -/
def assign (owner : Option Handle) : Kernel := k.setResource r { k.resource r with owner := owner }

/-- Gives a resource another ceiling. -/
def cap (ceiling : Option Int) : Kernel :=
  k.setResource r { k.resource r with ceiling := ceiling }

/-- Gives the processor to another process. -/
def turnTo (current : Option Handle) : Kernel := { k with current := current }

/-- Gives the policy something else to remember. -/
def remember (memory : Memory) : Kernel := { k with memory := memory }

/-- Moves the clock by one tick. -/
def later : Kernel := { k with tick := k.tick + 1 }

/-! ### What they show -/

@[simp] theorem ready_eq : k.ready = k.queue .ready := rfl

theorem queue_waiting : k.queue (.waiting r) = (k.resource r).waiting := rfl

@[simp] theorem process_edit (change : Process → Process) :
    (k.edit h change).process j = if h = j then change (k.process j) else k.process j := by
  unfold edit
  rw [process_setProcess]
  split
  · rename_i same
    rw [same]
  · rfl

@[simp] theorem edit_frame (change : Process → Process) :
    (∀ i, (k.edit h change).resource i = k.resource i) ∧
      (∀ i, (k.edit h change).queue i = k.queue i) ∧
      (k.edit h change).current = k.current ∧
      (k.edit h change).size = k.size ∧ (k.edit h change).tick = k.tick ∧
      (k.edit h change).memory = k.memory := by
  refine ⟨fun _ => rfl, ?_, rfl, rfl, rfl, rfl⟩
  intro i
  cases i <;> rfl

@[simp] theorem process_link :
    (k.link q h).process j = if h = j then (k.process j).marked (some q) else k.process j := by
  unfold link
  rw [process_setProcess]
  split
  · rename_i same
    rw [same]
    rfl
  · cases q <;> rfl

@[simp] theorem process_unlink :
    (k.unlink q h).process j = if h = j then (k.process j).marked none else k.process j := by
  unfold unlink
  rw [process_setProcess]
  split
  · rename_i same
    rw [same]
    rfl
  · cases q <;> rfl

theorem resource_setQueue_waiting (members : List Handle) (i : Int) :
    (k.setQueue (.waiting r) members).resource i =
      if r = i then { k.resource i with waiting := members } else k.resource i := by
  simp only [setQueue, resource_setResource]
  split
  · rename_i same
    rw [same]
  · rfl

@[simp] theorem setQueue_frame (members : List Handle) :
    (∀ i, ((k.setQueue q members).resource i).owner = (k.resource i).owner) ∧
      (∀ i, ((k.setQueue q members).resource i).ceiling = (k.resource i).ceiling) ∧
      (k.setQueue q members).handles = k.handles ∧
      (k.setQueue q members).current = k.current ∧ (k.setQueue q members).size = k.size ∧
      (k.setQueue q members).tick = k.tick ∧ (k.setQueue q members).memory = k.memory := by
  cases q with
  | ready => exact ⟨fun _ => rfl, fun _ => rfl, rfl, rfl, rfl, rfl, rfl⟩
  | named name => exact ⟨fun _ => rfl, fun _ => rfl, rfl, rfl, rfl, rfl, rfl⟩
  | waiting r =>
      refine ⟨fun i => ?_, fun i => ?_, rfl, rfl, rfl, rfl, rfl⟩ <;>
        rw [resource_setQueue_waiting] <;> split <;> rfl

@[simp] theorem queue_link (p : QueueId) :
    (k.link q h).queue p = if q = p then k.queue q ++ [h] else k.queue p := by
  rw [← queue_setQueue]
  cases p <;> rfl

@[simp] theorem link_frame :
    (∀ i, ((k.link q h).resource i).owner = (k.resource i).owner) ∧
      (∀ i, ((k.link q h).resource i).ceiling = (k.resource i).ceiling) ∧
      (k.link q h).current = k.current ∧ (k.link q h).size = k.size ∧
      (k.link q h).tick = k.tick ∧ (k.link q h).memory = k.memory :=
  ⟨fun i => (k.setQueue_frame q _).1 i, fun i => (k.setQueue_frame q _).2.1 i,
    (k.setQueue_frame q _).2.2.2.1, (k.setQueue_frame q _).2.2.2.2.1,
    (k.setQueue_frame q _).2.2.2.2.2.1, (k.setQueue_frame q _).2.2.2.2.2.2⟩

@[simp] theorem queue_unlink (p : QueueId) :
    (k.unlink q h).queue p = if q = p then (k.queue q).erase h else k.queue p := by
  rw [← queue_setQueue]
  cases p <;> rfl

@[simp] theorem unlink_frame :
    (∀ i, ((k.unlink q h).resource i).owner = (k.resource i).owner) ∧
      (∀ i, ((k.unlink q h).resource i).ceiling = (k.resource i).ceiling) ∧
      (k.unlink q h).current = k.current ∧ (k.unlink q h).size = k.size ∧
      (k.unlink q h).tick = k.tick ∧ (k.unlink q h).memory = k.memory :=
  ⟨fun i => (k.setQueue_frame q _).1 i, fun i => (k.setQueue_frame q _).2.1 i,
    (k.setQueue_frame q _).2.2.2.1, (k.setQueue_frame q _).2.2.2.2.1,
    (k.setQueue_frame q _).2.2.2.2.2.1, (k.setQueue_frame q _).2.2.2.2.2.2⟩

@[simp] theorem owner_assign (owner : Option Handle) (i : Int) :
    ((k.assign r owner).resource i).owner = if r = i then owner else (k.resource i).owner := by
  unfold assign
  rw [resource_setResource]
  split <;> rfl

@[simp] theorem assign_frame (owner : Option Handle) :
    (∀ i, ((k.assign r owner).resource i).ceiling = (k.resource i).ceiling) ∧
      (∀ j, (k.assign r owner).process j = k.process j) ∧
      (∀ p, (k.assign r owner).queue p = k.queue p) ∧
      (k.assign r owner).handles = k.handles ∧ (k.assign r owner).current = k.current ∧
      (k.assign r owner).size = k.size ∧ (k.assign r owner).tick = k.tick ∧
      (k.assign r owner).memory = k.memory := by
  refine ⟨?_, fun _ => rfl, ?_, rfl, rfl, rfl, rfl, rfl⟩
  · intro i
    unfold assign
    rw [resource_setResource]
    split
    · rename_i same
      rw [same]
    · rfl
  · intro p
    cases p with
    | ready => rfl
    | named name => rfl
    | waiting i =>
        simp only [queue_waiting, assign, resource_setResource]
        split
        · rename_i same
          rw [same]
        · rfl

@[simp] theorem ceiling_cap (ceiling : Option Int) (i : Int) :
    ((k.cap r ceiling).resource i).ceiling =
      if r = i then ceiling else (k.resource i).ceiling := by
  unfold cap
  rw [resource_setResource]
  split <;> rfl

@[simp] theorem cap_frame (ceiling : Option Int) :
    (∀ i, ((k.cap r ceiling).resource i).owner = (k.resource i).owner) ∧
      (∀ j, (k.cap r ceiling).process j = k.process j) ∧
      (∀ p, (k.cap r ceiling).queue p = k.queue p) ∧
      (k.cap r ceiling).handles = k.handles ∧ (k.cap r ceiling).current = k.current ∧
      (k.cap r ceiling).size = k.size ∧ (k.cap r ceiling).tick = k.tick ∧
      (k.cap r ceiling).memory = k.memory := by
  refine ⟨?_, fun _ => rfl, ?_, rfl, rfl, rfl, rfl, rfl⟩
  · intro i
    unfold cap
    rw [resource_setResource]
    split
    · rename_i same
      rw [same]
    · rfl
  · intro p
    cases p with
    | ready => rfl
    | named name => rfl
    | waiting i =>
        simp only [queue_waiting, cap, resource_setResource]
        split
        · rename_i same
          rw [same]
        · rfl

@[simp] theorem turnTo_frame (current : Option Handle) :
    (k.turnTo current).current = current ∧
      (∀ i, (k.turnTo current).resource i = k.resource i) ∧
      (∀ j, (k.turnTo current).process j = k.process j) ∧
      (∀ p, (k.turnTo current).queue p = k.queue p) ∧
      (k.turnTo current).handles = k.handles ∧
      (k.turnTo current).size = k.size ∧ (k.turnTo current).tick = k.tick ∧
      (k.turnTo current).memory = k.memory :=
  ⟨rfl, fun _ => rfl, fun _ => rfl, fun p => by cases p <;> rfl, rfl, rfl, rfl, rfl⟩

@[simp] theorem remember_frame (memory : Memory) :
    (k.remember memory).memory = memory ∧
      (∀ i, (k.remember memory).resource i = k.resource i) ∧
      (∀ j, (k.remember memory).process j = k.process j) ∧
      (∀ p, (k.remember memory).queue p = k.queue p) ∧
      (k.remember memory).handles = k.handles ∧
      (k.remember memory).size = k.size ∧ (k.remember memory).tick = k.tick ∧
      (k.remember memory).current = k.current :=
  ⟨rfl, fun _ => rfl, fun _ => rfl, fun p => by cases p <;> rfl, rfl, rfl, rfl, rfl⟩

@[simp] theorem later_frame :
    k.later.tick = k.tick + 1 ∧ (∀ i, k.later.resource i = k.resource i) ∧
      (∀ j, k.later.process j = k.process j) ∧ (∀ p, k.later.queue p = k.queue p) ∧
      k.later.handles = k.handles ∧ k.later.size = k.size ∧
      k.later.current = k.current ∧ k.later.memory = k.memory :=
  ⟨rfl, fun _ => rfl, fun _ => rfl, fun p => by cases p <;> rfl, rfl, rfl, rfl, rfl⟩

@[simp] theorem record_frame (e : Event) :
    (∀ i, (k.record e).resource i = k.resource i) ∧
      (∀ j, (k.record e).process j = k.process j) ∧ (∀ p, (k.record e).queue p = k.queue p) ∧
      (k.record e).handles = k.handles ∧
      (k.record e).size = k.size ∧ (k.record e).tick = k.tick ∧
      (k.record e).current = k.current ∧ (k.record e).memory = k.memory :=
  ⟨fun _ => rfl, fun _ => rfl, fun p => by cases p <;> rfl, rfl, rfl, rfl, rfl, rfl⟩

/-! ### Handles -/

variable {k h}

theorem handles_setProcess (used : h ∈ k.handles) (p : Process) :
    (k.setProcess h p).handles = k.handles := by
  exact (k.processes.keys_put h p).trans (if_pos used)

@[simp] theorem handles_edit (used : h ∈ k.handles) (change : Process → Process) :
    (k.edit h change).handles = k.handles :=
  handles_setProcess used _

@[simp] theorem handles_link (used : h ∈ k.handles) : (k.link q h).handles = k.handles := by
  unfold link
  rw [handles_setProcess] <;> simp [used]

@[simp] theorem handles_unlink (used : h ∈ k.handles) : (k.unlink q h).handles = k.handles := by
  unfold unlink
  rw [handles_setProcess] <;> simp [used]

theorem mem_handles_iff : h ∈ k.handles ↔ (k.processes.get? h).isSome :=
  Table.mem_keys_iff

/-- A handle that is not in use stands for no process in particular. -/
theorem process_of_unused (unused : h ∉ k.handles) : k.process h = default := by
  unfold process
  rw [mem_handles_iff, Bool.not_eq_true, Option.isSome_eq_false_iff, Option.isNone_iff_eq_none]
    at unused
  rw [unused]
  rfl

theorem process_enroll (p : Process) (j : Handle) :
    (k.enroll p).process j = if k.nextHandle = j then p else k.process j :=
  process_setProcess ..

theorem enroll_frame (p : Process) :
    (∀ i, (k.enroll p).resource i = k.resource i) ∧ (∀ q, (k.enroll p).queue q = k.queue q) ∧
      (k.enroll p).current = k.current ∧ (k.enroll p).size = k.size ∧
      (k.enroll p).tick = k.tick ∧ (k.enroll p).memory = k.memory := by
  refine ⟨fun _ => rfl, ?_, rfl, rfl, rfl, rfl⟩
  intro i
  cases i <;> rfl

theorem handles_enroll (fresh : k.nextHandle ∉ k.handles) (p : Process) :
    (k.enroll p).handles = k.handles ++ [k.nextHandle] :=
  (k.processes.keys_put k.nextHandle p).trans (if_neg fresh)

/-! ### Moves of a process -/

/-- Sends the running process to the tail of the ready queue. -/
def sendBack (k : Kernel) (h : Handle) : Kernel := (k.edit h (·.inState .ready)).link .ready h

/-- Takes a process from the ready queue and lets it run. -/
def dispatch (k : Kernel) (h : Handle) : Kernel :=
  ((k.unlink .ready h).edit h (·.inState .running)).turnTo (some h)

/-- Lets the running process wait at the tail of a resource's queue. -/
def park (k : Kernel) (r : Int) (h : Handle) : Kernel :=
  (k.edit h (·.inState .waiting)).link (.waiting r) h

/-- Moves a process from a resource's queue to the tail of the ready queue. -/
def wake (k : Kernel) (r : Int) (w : Handle) : Kernel :=
  ((k.unlink (.waiting r) w).edit w (·.inState .ready)).link .ready w

/-- Lets the running process leave, and notes when. -/
def retire (k : Kernel) (h : Handle) : Kernel :=
  (k.edit h (·.inState .exited)).edit h (·.leftAt (k.tick + 1))

/-- Adds a process at the tail of the ready queue. -/
def receive (k : Kernel) (p : Process) : Kernel := (k.enroll p).link .ready k.nextHandle

@[simp] theorem process_sendBack :
    (k.sendBack h).process j =
      if h = j then ((k.process j).inState .ready).marked (some .ready) else k.process j := by
  by_cases same : h = j <;> simp [sendBack, same]

@[simp] theorem sendBack_views :
    (∀ p, (k.sendBack h).queue p =
        if .ready = p then k.queue .ready ++ [h] else k.queue p) ∧
      (∀ i, ((k.sendBack h).resource i).owner = (k.resource i).owner) ∧
      (∀ i, ((k.sendBack h).resource i).ceiling = (k.resource i).ceiling) ∧
      (k.sendBack h).current = k.current ∧ (k.sendBack h).size = k.size ∧
      (k.sendBack h).tick = k.tick ∧ (k.sendBack h).memory = k.memory := by
  simp [sendBack]

@[simp] theorem handles_sendBack (used : h ∈ k.handles) : (k.sendBack h).handles = k.handles := by
  simp [sendBack, used]

@[simp] theorem process_dispatch :
    (k.dispatch h).process j =
      if h = j then ((k.process j).marked none).inState .running else k.process j := by
  by_cases same : h = j <;> simp [dispatch, same]

@[simp] theorem dispatch_views :
    (∀ p, (k.dispatch h).queue p =
        if .ready = p then (k.queue .ready).erase h else k.queue p) ∧
      (∀ i, ((k.dispatch h).resource i).owner = (k.resource i).owner) ∧
      (∀ i, ((k.dispatch h).resource i).ceiling = (k.resource i).ceiling) ∧
      (k.dispatch h).current = some h ∧ (k.dispatch h).size = k.size ∧
      (k.dispatch h).tick = k.tick ∧ (k.dispatch h).memory = k.memory := by
  simp [dispatch]

@[simp] theorem handles_dispatch (used : h ∈ k.handles) : (k.dispatch h).handles = k.handles := by
  simp [dispatch, used]

@[simp] theorem process_park :
    (k.park r h).process j =
      if h = j then ((k.process j).inState .waiting).marked (some (.waiting r))
      else k.process j := by
  by_cases same : h = j <;> simp [park, same]

@[simp] theorem park_views :
    (∀ p, (k.park r h).queue p =
        if .waiting r = p then k.queue (.waiting r) ++ [h] else k.queue p) ∧
      (∀ i, ((k.park r h).resource i).owner = (k.resource i).owner) ∧
      (∀ i, ((k.park r h).resource i).ceiling = (k.resource i).ceiling) ∧
      (k.park r h).current = k.current ∧ (k.park r h).size = k.size ∧
      (k.park r h).tick = k.tick ∧ (k.park r h).memory = k.memory := by
  simp [park]

@[simp] theorem handles_park (used : h ∈ k.handles) : (k.park r h).handles = k.handles := by
  simp [park, used]

@[simp] theorem process_wake :
    (k.wake r h).process j =
      if h = j then (((k.process j).marked none).inState .ready).marked (some .ready)
      else k.process j := by
  by_cases same : h = j <;> simp [wake, same]

@[simp] theorem wake_views :
    (∀ p, (k.wake r h).queue p =
        if .ready = p then k.queue .ready ++ [h]
        else if .waiting r = p then (k.queue (.waiting r)).erase h else k.queue p) ∧
      (∀ i, ((k.wake r h).resource i).owner = (k.resource i).owner) ∧
      (∀ i, ((k.wake r h).resource i).ceiling = (k.resource i).ceiling) ∧
      (k.wake r h).current = k.current ∧ (k.wake r h).size = k.size ∧
      (k.wake r h).tick = k.tick ∧ (k.wake r h).memory = k.memory := by
  simp [wake]

@[simp] theorem handles_wake (used : h ∈ k.handles) : (k.wake r h).handles = k.handles := by
  have kept := handles_unlink (.waiting r) used
  have used' : h ∈ ((k.unlink (.waiting r) h).edit h (·.inState .ready)).handles := by
    simp [used]
  rw [wake, handles_link _ used', handles_edit (by rw [kept]; exact used), kept]

@[simp] theorem process_retire :
    (k.retire h).process j =
      if h = j then ((k.process j).inState .exited).leftAt (k.tick + 1) else k.process j := by
  by_cases same : h = j <;> simp [retire, same]

@[simp] theorem retire_views :
    (∀ p, (k.retire h).queue p = k.queue p) ∧
      (∀ i, (k.retire h).resource i = k.resource i) ∧
      (k.retire h).current = k.current ∧ (k.retire h).size = k.size ∧
      (k.retire h).tick = k.tick ∧ (k.retire h).memory = k.memory := by
  simp [retire]

@[simp] theorem handles_retire (used : h ∈ k.handles) : (k.retire h).handles = k.handles := by
  simp [retire, used]

@[simp] theorem process_receive (p : Process) :
    (k.receive p).process j =
      if k.nextHandle = j then p.marked (some .ready) else k.process j := by
  by_cases same : k.nextHandle = j <;> simp [receive, process_enroll, same]

@[simp] theorem receive_views (p : Process) :
    (∀ q, (k.receive p).queue q =
        if .ready = q then k.queue .ready ++ [k.nextHandle] else k.queue q) ∧
      (∀ i, ((k.receive p).resource i).owner = (k.resource i).owner) ∧
      (∀ i, ((k.receive p).resource i).ceiling = (k.resource i).ceiling) ∧
      (k.receive p).current = k.current ∧ (k.receive p).size = k.size ∧
      (k.receive p).tick = k.tick ∧ (k.receive p).memory = k.memory := by
  simp [receive, enroll_frame]

theorem handles_receive (fresh : k.nextHandle ∉ k.handles) (p : Process) :
    (k.receive p).handles = k.handles ++ [k.nextHandle] := by
  have kept := handles_enroll fresh p
  rw [receive, handles_link _ (by simp [kept]), kept]

/-- Frees a resource and moves the head of its queue to the ready queue. -/
def free (k : Kernel) (r : Int) : Kernel :=
  match (k.queue (.waiting r)).head? with
  | none => k.assign r none
  | some w => (k.assign r none).wake r w

@[simp] theorem process_free :
    (k.free r).process j =
      if (k.queue (.waiting r)).head? = some j then
        (((k.process j).marked none).inState .ready).marked (some .ready)
      else k.process j := by
  unfold free
  cases (k.queue (.waiting r)).head? <;> simp

@[simp] theorem free_views :
    (∀ p, (k.free r).queue p =
        if .ready = p then k.queue .ready ++ (k.queue (.waiting r)).head?.toList
        else if .waiting r = p then (k.queue (.waiting r)).tail else k.queue p) ∧
      (∀ i, ((k.free r).resource i).owner = if r = i then none else (k.resource i).owner) ∧
      (∀ i, ((k.free r).resource i).ceiling = (k.resource i).ceiling) ∧
      (k.free r).current = k.current ∧ (k.free r).size = k.size ∧
      (k.free r).tick = k.tick ∧ (k.free r).memory = k.memory := by
  unfold free
  cases waiters : k.queue (.waiting r) with
  | nil =>
      refine ⟨?_, by simp⟩
      intro p
      by_cases same : .waiting r = p
      · subst same
        simp [waiters]
      · by_cases ready : .ready = p <;> simp [same, ready]
  | cons w rest => simp [waiters]

theorem handles_free (used : ∀ w ∈ k.queue (.waiting r), w ∈ k.handles) :
    (k.free r).handles = k.handles := by
  unfold free
  cases waiters : k.queue (.waiting r) with
  | nil => simp
  | cons w rest => simp [used w (by rw [waiters]; exact .head _)]

end Kernel

end Uniprocessor
