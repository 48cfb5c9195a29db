import Uniprocessor.Proofs.Text.Words
import Uniprocessor.Proofs.Workload.Validity

/-!
What the reader lets pass.

A well-formed workload has processes with numbers of their own, each with work to do,
and requests that fit into it and do not overlap where they want the same resource.
This says all that is asked of a workload and nothing about the order of its requests, so it is
what a writer has to provide. Every workload that is read is well-formed, and its
requests come in order (`wellFormed_of_parsed`).

The validity of a draft (`Draft.Valid`) holds what a run depends on. The rest is the
invariant `Draft.Proper`.
-/

namespace Uniprocessor

/-- One of two requests for the same resource has ended when the other falls due. -/
def Request.Disjoint (a b : Request) : Prop :=
  a.resource = b.resource → a.due + a.hold ≤ b.due ∨ b.due + b.hold ≤ a.due

/-- The order of requests is strict: age first, then resource. -/
def Request.Before (a b : Request) : Prop :=
  a.due < b.due ∨ a.due = b.due ∧ a.resource < b.resource

/-- A name is a word that opens no comment. -/
def IsName (name : Text) : Prop :=
  name ≠ [] ∧ ∀ p ∈ name, Text.isBlank p = false ∧ p ≠ .char '#'

instance (name : Text) : Decidable (IsName name) := inferInstanceAs (Decidable (_ ∧ _))

structure ProcessSpec.WellFormed (spec : ProcessSpec) : Prop where
  pid : 0 ≤ spec.pid
  lifespan : 1 ≤ spec.lifespan
  arrival : 0 ≤ spec.arrival
  priority : 0 ≤ spec.priority
  name : ∀ name, spec.name = some name → IsName name
  fits : ∀ q ∈ spec.requests, q.Fits spec.lifespan
  disjoint : spec.requests.Pairwise Request.Disjoint

/-- The part of it that runs do not depend on. -/
structure ProcessSpec.Proper (spec : ProcessSpec) : Prop where
  pid : 0 ≤ spec.pid
  priority : 0 ≤ spec.priority
  name : ∀ name, spec.name = some name → IsName name

structure Workload.WellFormed (w : Workload) : Prop where
  specs : ∀ spec ∈ w.processes, spec.WellFormed
  pids : (w.processes.map (·.pid)).Nodup
  ceilings : ∀ e ∈ w.explicitCeilings.entries, 0 ≤ e.1 ∧ 0 ≤ e.2
  resources : w.explicitCeilings.keys.Nodup

instance (n : Int) (q : Request) : Decidable (q.Fits n) :=
  decidable_of_iff (0 ≤ q.resource ∧ 0 ≤ q.due ∧ 1 ≤ q.hold ∧ q.due + q.hold ≤ n)
    ⟨fun ⟨resource, due, hold, within⟩ => ⟨resource, due, hold, within⟩,
      fun ⟨resource, due, hold, within⟩ => ⟨resource, due, hold, within⟩⟩

instance : DecidableRel Request.Disjoint := fun _ _ => inferInstanceAs (Decidable (_ → _))

instance (spec : ProcessSpec) : Decidable spec.WellFormed :=
  decidable_of_iff (0 ≤ spec.pid ∧ 1 ≤ spec.lifespan ∧ 0 ≤ spec.arrival ∧ 0 ≤ spec.priority ∧
      (∀ name ∈ spec.name, IsName name) ∧ (∀ q ∈ spec.requests, q.Fits spec.lifespan) ∧
        spec.requests.Pairwise Request.Disjoint)
    ⟨fun ⟨pid, lifespan, arrival, priority, name, fits, disjoint⟩ =>
        ⟨pid, lifespan, arrival, priority, name, fits, disjoint⟩,
      fun ⟨pid, lifespan, arrival, priority, name, fits, disjoint⟩ =>
        ⟨pid, lifespan, arrival, priority, name, fits, disjoint⟩⟩

instance (w : Workload) : Decidable w.WellFormed :=
  decidable_of_iff ((∀ spec ∈ w.processes, spec.WellFormed) ∧ (w.processes.map (·.pid)).Nodup ∧
      (∀ e ∈ w.explicitCeilings.entries, 0 ≤ e.1 ∧ 0 ≤ e.2) ∧ w.explicitCeilings.keys.Nodup)
    ⟨fun ⟨specs, pids, ceilings, resources⟩ => ⟨specs, pids, ceilings, resources⟩,
      fun ⟨specs, pids, ceilings, resources⟩ => ⟨specs, pids, ceilings, resources⟩⟩

/-! ### Requests -/

theorem Request.Disjoint.symm {a b : Request} (apart : a.Disjoint b) : b.Disjoint a :=
  fun same => (apart same.symm).symm

/-- Of two requests that keep apart the first one comes strictly before the
other: they differ in their resource, or the first one takes time. -/
theorem Request.before_of_apart {a b : Request} (inOrder : a.atMost b) (apart : a.Apart b)
    (hold : 1 ≤ a.hold) : a.Before b := by
  simp only [Request.atMost, Bool.or_eq_true, Bool.and_eq_true, decide_eq_true_eq, beq_iff_eq]
    at inOrder
  rcases inOrder with sooner | ⟨together, atMost⟩
  · exact .inl sooner
  · by_cases same : a.resource = b.resource
    · have ended := apart same
      omega
    · exact .inr ⟨together, by omega⟩

theorem ProcessSpec.Valid.before {spec : ProcessSpec} (valid : spec.Valid) :
    spec.requests.Pairwise Request.Before :=
  (valid.sorted.and valid.apart).imp_of_mem fun first _ both =>
    Request.before_of_apart both.1 both.2 (valid.fits _ first).hold

theorem ProcessSpec.Valid.disjoint {spec : ProcessSpec} (valid : spec.Valid) :
    spec.requests.Pairwise Request.Disjoint :=
  valid.apart.imp fun apart same => .inl (apart same)

namespace Workload

/-! ### Words -/

/-- A word of a line makes a name. -/
theorem isName_of_mem_lineWords {line word : Text} (mem : word ∈ lineWords line) :
    IsName word := by
  constructor
  · exact Text.ne_nil_of_mem_words mem
  · intro p here
    have kept := List.all_eq_true.mp List.all_takeWhile p (Text.mem_of_mem_words mem p here)
    exact ⟨Text.not_blank_of_mem_words mem p here, of_decide_eq_true kept⟩

/-! ### Blocks and drafts -/

structure Block.Proper (b : Block) : Prop where
  pid : 0 ≤ b.pid
  priority : ∀ level, b.priority = some level → 0 ≤ level
  name : ∀ name, b.name = some name → IsName name

theorem Block.proper_add {b b' : Block} {d : Detail} {arguments : List Text} (proper : b.Proper)
    (clean : ∀ word ∈ arguments, IsName word) (plain : d.Plain arguments)
    (added : b.add d = .ok b') : b'.Proper := by
  cases d with
  | name name =>
      obtain ⟨filled, fill, ⟨⟩⟩ := Except.bind_eq_ok_iff.mp added
      refine ⟨proper.pid, proper.priority, ?_⟩
      intro name is
      rw [Block.eq_of_fill fill] at is
      cases is
      exact clean _ plain
  | priority level =>
      obtain ⟨filled, fill, ⟨⟩⟩ := Except.bind_eq_ok_iff.mp added
      refine ⟨proper.pid, ?_, proper.name⟩
      intro n is
      rw [Block.eq_of_fill fill] at is
      cases is
      exact plain
  | start _ | lifespan _ =>
      obtain ⟨_, _, ⟨⟩⟩ := Except.bind_eq_ok_iff.mp added
      exact ⟨proper.pid, proper.priority, proper.name⟩
  | acquire q =>
      cases added
      exact ⟨proper.pid, proper.priority, proper.name⟩

theorem Block.proper_finish {b : Block} {spec : ProcessSpec} (proper : b.Proper)
    (finished : b.finish = .ok spec) : spec.Proper := by
  unfold Block.finish at finished
  split at finished
  · cases finished
  · obtain ⟨_, _, ⟨⟩⟩ := Except.bind_eq_ok_iff.mp finished
    refine ⟨proper.pid, ?_, proper.name⟩
    cases given : b.priority with
    | none => exact (by decide : (0 : Int) ≤ defaultPriority)
    | some level => exact proper.priority level given

structure Draft.Proper (d : Draft) : Prop where
  specs : ∀ spec ∈ d.processes, spec.Proper
  ceilings : ∀ e ∈ d.ceilings.entries, 0 ≤ e.1 ∧ 0 ≤ e.2
  resources : d.ceilings.keys.Nodup
  block : ∀ b, d.block = some b → b.Proper

theorem Draft.proper_addLine {d d' : Draft} {line : Text × Nat} (proper : d.Proper)
    (added : d.addLine line = .ok d') : d'.Proper := by
  have clean : ∀ word ∈ lineWords line.1, IsName word := fun _ => isName_of_mem_lineWords
  unfold Draft.addLine at added
  generalize lineWords line.1 = words at added clean
  cases Draft.addWords_eq_ok_iff.mp added with
  | blank => exact proper
  | opens outside read new =>
      refine ⟨proper.specs, proper.ceilings, proper.resources, ?_⟩
      rintro b ⟨⟩
      exact ⟨Heading.valid_of_read read, nofun, nofun⟩
  | caps outside read =>
      refine ⟨proper.specs, ?_, Table.nodup_keys_put proper.resources _ _, proper.block⟩
      intro e mem
      rcases Table.mem_entries_put mem with rfl | old
      · exact Heading.valid_of_read read
      · exact proper.ceilings e old
  | closes inside read finished =>
      refine ⟨?_, proper.ceilings, proper.resources, nofun⟩
      intro i mem
      rcases List.mem_append.mp mem with old | here
      · exact proper.specs i old
      · rw [List.mem_singleton.mp here]
        exact Block.proper_finish (proper.block _ inside) finished
  | tells inside read change =>
      refine ⟨proper.specs, proper.ceilings, proper.resources, ?_⟩
      rintro _ ⟨⟩
      exact Block.proper_add (proper.block _ inside) (fun w mem => clean w (.tail _ mem))
        (Detail.valid_of_read read).2 change

/-! ### The result -/

/-- Only well-formed workloads are read, and the requests of each of their processes are
strictly in order. -/
theorem wellFormed_of_parsed {text : Text} {w : Workload} (parsed : ofText text = .ok w) :
    w.WellFormed ∧ ∀ spec ∈ w.processes, spec.requests.Pairwise Request.Before := by
  have valid := valid_ofText parsed
  refine ⟨?_, fun spec mem => (valid.specs spec mem).before⟩
  obtain ⟨draft, folded, finished⟩ := Except.bind_eq_ok_iff.mp parsed
  have start : ({} : Draft).Proper := ⟨nofun, nofun, .nil, nofun⟩
  have proper : draft.Proper :=
    Except.foldlM_keeps (fun d line d' proper added => Draft.proper_addLine proper added) start
      folded
  unfold Draft.finish at finished
  split at finished
  · cases finished
  · cases finished
    refine ⟨fun spec mem => ?_, valid.pids, proper.ceilings, proper.resources⟩
    have runs := valid.specs spec mem
    have rest := proper.specs spec mem
    exact ⟨rest.pid, runs.lifespan, runs.arrival, rest.priority, rest.name, runs.fits,
      runs.disjoint⟩

theorem wellFormed_of_parsed_contention :
    contended.WellFormed ∧ ∀ spec ∈ contended.processes, spec.requests.Pairwise Request.Before :=
  wellFormed_of_parsed ofText_contention

end Workload

end Uniprocessor
