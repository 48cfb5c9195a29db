import Mathlib.Control.Monad.Basic
import Uniprocessor.Proofs.Outcome
import Uniprocessor.Workload.Reader

/-!
What a parsed workload is like.

A process of a parsed workload has work to do; its requests come in order of
age, end within its lifespan, and those for one resource do not overlap. No two
processes share a number (`Workload.valid_ofText`). The reader checks all of
this line by line, so it is an invariant of the draft.
-/

namespace Uniprocessor

/-- The request names a resource and lasts for some of the work of a lifespan. -/
structure Request.Fits (lifespan : Int) (q : Request) : Prop where
  resource : 0 ≤ q.resource
  due : 0 ≤ q.due
  hold : 1 ≤ q.hold
  within : q.due + q.hold ≤ lifespan

/-- A later request for the same resource comes after the earlier one has ended. -/
def Request.Apart (a b : Request) : Prop := a.resource = b.resource → a.due + a.hold ≤ b.due

structure ProcessSpec.Valid (spec : ProcessSpec) : Prop where
  lifespan : 1 ≤ spec.lifespan
  arrival : 0 ≤ spec.arrival
  fits : ∀ q ∈ spec.requests, q.Fits spec.lifespan
  sorted : spec.requests.Pairwise (fun a b => a.atMost b)
  apart : spec.requests.Pairwise Request.Apart

structure Workload.Valid (w : Workload) : Prop where
  specs : ∀ spec ∈ w.processes, spec.Valid
  pids : (w.processes.map (·.pid)).Nodup
  ceilings : ∀ r ∈ w.explicitCeilings.keys, 0 ≤ r

/-! ### The order of requests -/

theorem Request.atMost_trans (a b c : Request) (first : a.atMost b) (second : b.atMost c) :
    a.atMost c := by
  simp only [Request.atMost, Bool.or_eq_true, Bool.and_eq_true, decide_eq_true_eq, beq_iff_eq]
    at first second ⊢
  omega

theorem Request.atMost_total (a b : Request) : a.atMost b || b.atMost a := by
  simp only [Request.atMost, Bool.or_eq_true, Bool.and_eq_true, decide_eq_true_eq, beq_iff_eq]
  omega

theorem Request.sorted_sort (l : List Request) :
    (Request.sort l).Pairwise (fun a b => a.atMost b) :=
  List.pairwise_mergeSort Request.atMost_trans Request.atMost_total l

/-- Requests that are in order stay as they are. -/
theorem Request.sort_of_sorted {l : List Request} (sorted : l.Pairwise (fun a b => a.atMost b)) :
    Request.sort l = l :=
  List.mergeSort_of_pairwise sorted

namespace Workload

open WorkloadError (Cause)

/-! ### Statements -/

theorem least_le_of_quantity {q : Quantity} {word : Text} {n : Int}
    (read : quantity q word = .ok n) : q.least ≤ n := by
  unfold quantity at read
  split at read
  · cases read
  · split at read
    · cases read
    · rename_i small
      cases read
      exact Int.not_lt.mp small

/-- The quantities of a heading are in range. -/
def Heading.Valid : Heading → Prop
  | .process pid => 0 ≤ pid
  | .ceiling resource level => 0 ≤ resource ∧ 0 ≤ level

theorem Heading.valid_of_read {word : Text} {arguments : List Text} {h : Heading}
    (read : Heading.read word arguments = .ok h) : h.Valid := by
  unfold Heading.read at read
  split at read
  · obtain ⟨pid, number, ⟨⟩⟩ := Except.map_eq_ok_iff.mp read
    exact least_le_of_quantity number
  · cases read
  · split at read
    · obtain ⟨id, resource, rest⟩ := Except.bind_eq_ok_iff.mp read
      obtain ⟨level, ceiling, ⟨⟩⟩ := Except.bind_eq_ok_iff.mp rest
      exact ⟨least_le_of_quantity resource, least_le_of_quantity ceiling⟩
    · cases read
  · cases read
  · cases read

/-- The quantities of a statement about a process are in range. -/
def Detail.Valid : Detail → Prop
  | .start tick => 0 ≤ tick
  | .lifespan ticks => 1 ≤ ticks
  | .acquire q => 0 ≤ q.resource ∧ 0 ≤ q.due ∧ 1 ≤ q.hold
  | .name _ | .priority _ => True

/-- What blocks do not go by is in order as well: a priority is in range, and a
name is one of the words. -/
def Detail.Plain (arguments : List Text) : Detail → Prop
  | .name given => given ∈ arguments
  | .priority level => 0 ≤ level
  | .start _ | .lifespan _ | .acquire _ => True

theorem mem_of_onlyArgument {keyword : String} {arguments : List Text} {word : Text}
    (only : onlyArgument keyword arguments = .ok word) : word ∈ arguments := by
  unfold onlyArgument at only
  split at only
  · cases only
    exact .head _
  · cases only

theorem Detail.valid_of_read {pid : Int} {word : Text} {arguments : List Text} {d : Detail}
    (read : Detail.read pid word arguments = .ok (some d)) : d.Valid ∧ d.Plain arguments := by
  unfold Detail.read at read
  dsimp only at read
  split at read
  · split at read <;> cases read
  · obtain ⟨name, only, ⟨⟩⟩ := Except.bind_eq_ok_iff.mp read
    exact ⟨trivial, mem_of_onlyArgument only⟩
  · obtain ⟨_, _, rest⟩ := Except.bind_eq_ok_iff.mp read
    obtain ⟨tick, inRange, ⟨⟩⟩ := Except.bind_eq_ok_iff.mp rest
    exact ⟨least_le_of_quantity inRange, trivial⟩
  · obtain ⟨_, _, rest⟩ := Except.bind_eq_ok_iff.mp read
    obtain ⟨ticks, inRange, ⟨⟩⟩ := Except.bind_eq_ok_iff.mp rest
    exact ⟨least_le_of_quantity inRange, trivial⟩
  -- `prio` and `priority` are one statement
  iterate 2
    obtain ⟨_, _, rest⟩ := Except.bind_eq_ok_iff.mp read
    obtain ⟨level, inRange, ⟨⟩⟩ := Except.bind_eq_ok_iff.mp rest
    exact ⟨trivial, least_le_of_quantity inRange⟩
  · split at read
    · obtain ⟨r, resource, rest⟩ := Except.bind_eq_ok_iff.mp read
      obtain ⟨due, age, rest⟩ := Except.bind_eq_ok_iff.mp rest
      obtain ⟨hold, ticks, ⟨⟩⟩ := Except.bind_eq_ok_iff.mp rest
      exact ⟨⟨least_le_of_quantity resource, least_le_of_quantity age,
        least_le_of_quantity ticks⟩, trivial⟩
    · cases read
  · cases read
  · cases read

/-! ### Blocks -/

/-- What the lines of a block have said so far is in range. -/
structure Block.Valid (b : Block) : Prop where
  start : ∀ tick, b.start = some tick → 0 ≤ tick
  lifespan : ∀ ticks, b.lifespan = some ticks → 1 ≤ ticks
  requests : ∀ q ∈ b.requests, 0 ≤ q.resource ∧ 0 ≤ q.due ∧ 1 ≤ q.hold

theorem Block.eq_of_fill {α : Type} {b : Block} {field : Field} {old filled : Option α} {new : α}
    (fill : b.fill field old new = .ok filled) : filled = some new := by
  unfold Block.fill at fill
  split at fill
  · cases fill
  · cases fill
    rfl

/-- What is said about its process does not change which block it is. -/
theorem Block.origin_add {b b' : Block} {d : Detail} (added : b.add d = .ok b') :
    b'.pid = b.pid ∧ b'.line = b.line := by
  cases d with
  | acquire q =>
      cases added
      exact ⟨rfl, rfl⟩
  | _ =>
      obtain ⟨_, _, ⟨⟩⟩ := Except.bind_eq_ok_iff.mp added
      exact ⟨rfl, rfl⟩

theorem Block.valid_add {b b' : Block} {d : Detail} (valid : b.Valid) (inRange : d.Valid)
    (added : b.add d = .ok b') : b'.Valid ∧ b'.pid = b.pid := by
  cases d with
  | name name | priority level =>
      obtain ⟨_, _, ⟨⟩⟩ := Except.bind_eq_ok_iff.mp added
      exact ⟨⟨valid.start, valid.lifespan, valid.requests⟩, rfl⟩
  | start tick =>
      obtain ⟨filled, fill, ⟨⟩⟩ := Except.bind_eq_ok_iff.mp added
      refine ⟨⟨?_, valid.lifespan, valid.requests⟩, rfl⟩
      intro n is
      rw [Block.eq_of_fill fill] at is
      cases is
      exact inRange
  | lifespan ticks =>
      obtain ⟨filled, fill, ⟨⟩⟩ := Except.bind_eq_ok_iff.mp added
      refine ⟨⟨valid.start, ?_, valid.requests⟩, rfl⟩
      intro n is
      rw [Block.eq_of_fill fill] at is
      cases is
      exact inRange
  | acquire q =>
      cases added
      refine ⟨⟨valid.start, valid.lifespan, ?_⟩, rfl⟩
      intro i mem
      rcases List.mem_append.mp mem with old | new
      · exact valid.requests i old
      · rw [List.mem_singleton.mp new]
        exact inRange

/-- Requests that pass the check end in time and keep apart, also from what
`ends` says of those before them. -/
theorem Block.apart_of_checkRequests {pid lifespan : Int} {ends : Table Int Int}
    {l : List Request} (positive : ∀ q ∈ l, 1 ≤ q.hold)
    (checked : Block.checkRequests pid lifespan ends l = .ok ()) :
    (∀ q ∈ l, q.due + q.hold ≤ lifespan) ∧ l.Pairwise Request.Apart ∧
      ∀ q ∈ l, ∀ t, ends.get? q.resource = some t → t ≤ q.due := by
  -- On the requests. What `ends` says behind the first one is its end, or what it said before.
  induction l generalizing ends with
  | nil => exact ⟨nofun, .nil, nofun⟩
  | cons q later ih =>
      unfold Block.checkRequests at checked
      split at checked
      · cases checked
      · rename_i inTime
        split at checked
        · cases checked
        · rename_i free
          obtain ⟨within, apart, after⟩ :=
            ih (fun i mem => positive i (List.mem_cons_of_mem q mem)) checked
          have first : ∀ t, ends.get? q.resource = some t → t ≤ q.due := by
            intro t known
            rw [known, Option.any_some, decide_eq_true_eq] at free
            exact Int.not_lt.mp free
          have ended : ∀ i ∈ later, q.Apart i := by
            intro i mem same
            exact after i mem _ (by rw [Table.get?_put, if_pos same])
          refine ⟨?_, .cons ended apart, ?_⟩
          · rintro i (_ | ⟨_, mem⟩)
            · exact Int.not_lt.mp inTime
            · exact within i mem
          · rintro i (_ | ⟨_, mem⟩) t known
            · exact first t known
            · by_cases same : q.resource = i.resource
              · have hold := positive q (.head _)
                have before := first t (same ▸ known)
                have later := ended i mem same
                omega
              · exact after i mem t (by rw [Table.get?_put, if_neg same, known])

theorem Block.valid_finish {b : Block} {spec : ProcessSpec} (valid : b.Valid)
    (finished : b.finish = .ok spec) : spec.Valid ∧ spec.pid = b.pid := by
  unfold Block.finish at finished
  split at finished
  · cases finished
  · rename_i ticks known
    obtain ⟨⟨⟩, checked, ⟨⟩⟩ := Except.bind_eq_ok_iff.mp finished
    have ranges : ∀ q ∈ Request.sort b.requests, 0 ≤ q.resource ∧ 0 ≤ q.due ∧ 1 ≤ q.hold :=
      fun q mem => valid.requests q (List.mem_mergeSort.mp mem)
    obtain ⟨within, apart, _⟩ :=
      Block.apart_of_checkRequests (fun q mem => (ranges q mem).2.2) checked
    refine ⟨⟨valid.lifespan ticks known, ?_, ?_, Request.sorted_sort _, apart⟩, rfl⟩
    · cases start : b.start with
      | none => exact Int.le_refl 0
      | some tick => exact valid.start tick start
    · intro q mem
      obtain ⟨resource, due, hold⟩ := ranges q mem
      exact ⟨resource, due, hold, within q mem⟩

/-! ### Drafts -/

/-- What a line makes of a draft, by what it is. -/
inductive Draft.Adds (d : Draft) (n : Nat) : List Text → Draft → Prop
  | blank : d.Adds n [] d
  | opens {word : Text} {arguments : List Text} {pid : Int} (outside : d.block = none)
      (read : Heading.read word arguments = .ok (.process pid))
      (new : pid ∉ d.processes.map (·.pid)) :
      d.Adds n (word :: arguments) { d with block := some { pid, line := n } }
  | caps {word : Text} {arguments : List Text} {resource level : Int} (outside : d.block = none)
      (read : Heading.read word arguments = .ok (.ceiling resource level)) :
      d.Adds n (word :: arguments) { d with ceilings := d.ceilings.put resource level }
  | closes {word : Text} {arguments : List Text} {b : Block} {spec : ProcessSpec}
      (inside : d.block = some b) (read : Detail.read b.pid word arguments = .ok none)
      (finished : b.finish = .ok spec) :
      d.Adds n (word :: arguments) { d with processes := d.processes ++ [spec], block := none }
  | tells {word : Text} {arguments : List Text} {b b' : Block} {detail : Detail}
      (inside : d.block = some b) (read : Detail.read b.pid word arguments = .ok (some detail))
      (change : b.add detail = .ok b') :
      d.Adds n (word :: arguments) { d with block := some b' }

theorem Draft.any_pid_iff {d : Draft} {pid : Int} :
    d.processes.any (·.pid == pid) ↔ pid ∈ d.processes.map (·.pid) := by
  rw [List.any_eq_true, List.mem_map]
  simp only [beq_iff_eq]

/-- A line is read just where it makes something of the draft. -/
theorem Draft.addWords_eq_ok_iff {d d' : Draft} {n : Nat} {words : List Text} :
    d.addWords n words = .ok d' ↔ d.Adds n words d' := by
  constructor
  · intro added
    cases words with
    | nil =>
        cases added
        exact .blank
    | cons word arguments =>
        unfold Draft.addWords at added
        dsimp only at added
        cases block : d.block with
        | none =>
            rw [block] at added
            obtain ⟨heading, read, added⟩ := Except.bind_eq_ok_iff.mp added
            have read := Except.mapError_eq_ok_iff.mp read
            cases heading with
            | process pid =>
                dsimp only at added
                split at added
                · cases added
                · rename_i new
                  cases added
                  exact .opens block read (fun known => new (any_pid_iff.mpr known))
            | ceiling resource level =>
                cases added
                exact block ▸ .caps block read
        | some b =>
            rw [block] at added
            obtain ⟨detail, read, added⟩ := Except.bind_eq_ok_iff.mp added
            have read := Except.mapError_eq_ok_iff.mp read
            cases detail with
            | none =>
                obtain ⟨spec, finished, ⟨⟩⟩ := Except.bind_eq_ok_iff.mp added
                exact .closes block read (Except.mapError_eq_ok_iff.mp finished)
            | some detail =>
                obtain ⟨b', changed, ⟨⟩⟩ := Except.bind_eq_ok_iff.mp added
                exact .tells block read (Except.mapError_eq_ok_iff.mp changed)
  · rintro (_ | ⟨outside, read, new⟩ | ⟨outside, read⟩ | ⟨inside, read, finished⟩ |
      ⟨inside, read, change⟩)
    · rfl
    · simp only [Draft.addWords, outside, read]
      exact if_neg (mt any_pid_iff.mp new)
    · simp only [Draft.addWords, outside, read]
      rfl
    · simp only [Draft.addWords, inside, read, finished]
      rfl
    · simp only [Draft.addWords, inside]
      exact Except.bind_eq_ok_iff.mpr ⟨_, Except.mapError_eq_ok_iff.mpr read,
        Except.bind_eq_ok_iff.mpr ⟨_, Except.mapError_eq_ok_iff.mpr change, rfl⟩⟩

/-- What the lines so far amount to is part of a valid workload. -/
structure Draft.Valid (d : Draft) : Prop where
  specs : ∀ spec ∈ d.processes, spec.Valid
  pids : (d.processes.map (·.pid)).Nodup
  ceilings : ∀ r ∈ d.ceilings.keys, 0 ≤ r
  block : ∀ b, d.block = some b → b.Valid ∧ b.pid ∉ d.processes.map (·.pid)

theorem Draft.valid_addWords {d d' : Draft} {n : Nat} {words : List Text} (valid : d.Valid)
    (added : d.addWords n words = .ok d') : d'.Valid := by
  cases Draft.addWords_eq_ok_iff.mp added with
  | blank => exact valid
  | opens outside read new =>
      refine ⟨valid.specs, valid.pids, valid.ceilings, ?_⟩
      rintro b ⟨⟩
      exact ⟨⟨nofun, nofun, nofun⟩, new⟩
  | caps outside read =>
      refine ⟨valid.specs, valid.pids, ?_, fun b inside => valid.block b inside⟩
      intro r mem
      rcases Table.mem_keys_put.mp mem with rfl | old
      · exact (Heading.valid_of_read read).1
      · exact valid.ceilings r old
  | @closes word arguments b spec inside read finished =>
      obtain ⟨validBlock, new⟩ := valid.block b inside
      obtain ⟨validSpec, same⟩ := Block.valid_finish validBlock finished
      refine ⟨?_, ?_, valid.ceilings, nofun⟩
      · intro i mem
        rcases List.mem_append.mp mem with old | here
        · exact valid.specs i old
        · rwa [List.mem_singleton.mp here]
      -- The number was new when the block was opened, and none has been added since.
      · rw [List.map_append, List.nodup_append]
        refine ⟨valid.pids, List.pairwise_singleton _ _, ?_⟩
        rintro pid old _ (_ | ⟨_, ⟨⟩⟩) rfl
        exact new (same ▸ old)
  | @tells word arguments b b' detail inside read change =>
      obtain ⟨validBlock, new⟩ := valid.block b inside
      obtain ⟨valid', same⟩ := Block.valid_add validBlock (Detail.valid_of_read read).1 change
      refine ⟨valid.specs, valid.pids, valid.ceilings, ?_⟩
      rintro _ ⟨⟩
      exact ⟨valid', same ▸ new⟩

/-- A workload that its text gives is valid. -/
theorem valid_ofText {text : Text} {w : Workload} (parsed : ofText text = .ok w) :
    w.Valid := by
  obtain ⟨draft, folded, finished⟩ := Except.bind_eq_ok_iff.mp parsed
  have start : ({} : Draft).Valid := ⟨nofun, .nil, nofun, nofun⟩
  have valid : draft.Valid :=
    Except.foldlM_keeps (fun d line d' valid added => Draft.valid_addWords valid added) start folded
  unfold Draft.finish at finished
  split at finished
  · cases finished
  · cases finished
    exact ⟨valid.specs, valid.pids, valid.ceilings⟩

/-- A workload in which an urgent process comes for what another one holds. -/
def contention : Text :=
  Text.ofString ("process 1 \x7b\n lifespan 3\n prio 5\n acquire 0 0 2\n\x7d\n" ++
    "process 2 \x7b\n start 1\n lifespan 2\n prio 1\n acquire 0 0 1\n\x7d\n")

def contended : Workload where
  processes := [
    { pid := 1, lifespan := 3, priority := 5, requests := [⟨0, 0, 2⟩] },
    { pid := 2, lifespan := 2, arrival := 1, priority := 1, requests := [⟨0, 0, 1⟩] }]

theorem ofText_contention : ofText contention = .ok contended := by decide +kernel

theorem resourceIds_contended : contended.resourceIds = [0] := by decide +kernel

end Workload

end Uniprocessor
