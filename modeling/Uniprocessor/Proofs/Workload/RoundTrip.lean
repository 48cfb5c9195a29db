import Mathlib.Data.List.Pairwise
import Uniprocessor.Proofs.Workload.Writing

/-!
A well-formed workload that is written is read back (`ofText_written`).

The reader goes line by line, so this goes part by part. Inside a block the draft
knows what the statements so far have said (`Block.Holds`), whatever their order; since no field is
given twice, every further statement is taken (`Block.holds_add`). When the
block closes, the requests are sorted, and requests that keep apart have only one
sorted order (`Request.sort_eq_of_perm`).
-/

namespace Uniprocessor

/-- The same process with its requests in the order in which they fall due. -/
def ProcessSpec.inOrder (spec : ProcessSpec) : ProcessSpec :=
  { spec with requests := Request.sort spec.requests }

def Workload.inOrder (w : Workload) : Workload :=
  { w with processes := w.processes.map ProcessSpec.inOrder }

/-! ### Requests in order -/

/-- Requests that are in order and do not overlap keep apart. -/
theorem Request.apart_of_disjoint {a b : Request} (inOrder : a.atMost b) (disjoint : a.Disjoint b)
    (hold : 1 ≤ b.hold) : a.Apart b := by
  intro same
  simp only [Request.atMost, Bool.or_eq_true, Bool.and_eq_true, decide_eq_true_eq, beq_iff_eq]
    at inOrder
  rcases disjoint same with ended | early
  · exact ended
  · omega

/-- Requests that do not overlap can be sorted in one way only: two of them that are level
want the same resource at the same time. -/
theorem Request.sort_eq_of_perm {l l' : List Request} (perm : l.Perm l')
    (disjoint : l'.Pairwise Request.Disjoint) (hold : ∀ q ∈ l', 1 ≤ q.hold) :
    Request.sort l = Request.sort l' := by
  have sorted : (Request.sort l).Perm (Request.sort l') :=
    (List.mergeSort_perm l _).trans (perm.trans (List.mergeSort_perm l' _).symm)
  refine sorted.eq_of_pairwise ?_ (Request.sorted_sort l) (Request.sorted_sort l')
  intro a b first second before behind
  have here : a ∈ l' := perm.mem_iff.mp (List.mem_mergeSort.mp first)
  have there : b ∈ l' := List.mem_mergeSort.mp second
  have : Std.Symm Request.Disjoint := ⟨fun _ _ => Request.Disjoint.symm⟩
  by_contra differ
  simp only [Request.atMost, Bool.or_eq_true, Bool.and_eq_true, decide_eq_true_eq, beq_iff_eq]
    at before behind
  have apart := disjoint.forall here there differ (by omega)
  have some := hold a here
  have other := hold b there
  omega

namespace Workload

theorem Block.checkRequests_of_apart {pid lifespan : Int} {ends : Table Int Int}
    {l : List Request} (within : ∀ q ∈ l, q.due + q.hold ≤ lifespan)
    (apart : l.Pairwise Request.Apart)
    (after : ∀ q ∈ l, ∀ t, ends.get? q.resource = some t → t ≤ q.due) :
    Block.checkRequests pid lifespan ends l = .ok () := by
  -- On the requests. The end of the first one matters to the later ones of its resource only.
  induction l generalizing ends with
  | nil => rfl
  | cons q later ih =>
      obtain ⟨ended, apart⟩ := List.pairwise_cons.mp apart
      have inTime := Int.not_lt.mpr (within q (.head _))
      have free : ¬ (ends.get? q.resource).any (fun t => q.due < t) := by
        intro busy
        cases known : ends.get? q.resource with
        | none => simp [known] at busy
        | some t =>
            rw [known] at busy
            exact Int.not_lt.mpr (after q (.head _) t known) (of_decide_eq_true busy)
      rw [checkRequests, if_neg inTime, if_neg free]
      refine ih (fun i mem => within i (.tail _ mem)) apart ?_
      intro i mem t known
      rw [Table.get?_put] at known
      split at known
      · rename_i same
        cases known
        exact ended i mem same
      · exact after i (.tail _ mem) t known

/-! ### Blocks -/

/-- What a statement requests. -/
def Detail.request? : Detail → Option Request
  | .acquire q => some q
  | _ => none

/-- Both statements give the same field. -/
def Detail.Repeats : Detail → Detail → Prop
  | .name _, .name _ | .start _, .start _ | .lifespan _, .lifespan _ => True
  | .priority _, .priority _ => True
  | _, _ => False

theorem Detail.Repeats.symm {d e : Detail} (again : d.Repeats e) : e.Repeats d := by
  cases d <;> cases e <;> exact again

/-- No field of a process is given twice. -/
theorem details_once (spec : ProcessSpec) : spec.details.Pairwise (fun d e => ¬ d.Repeats e) := by
  have requests : spec.requests.Pairwise (fun _ _ => True) :=
    List.pairwise_of_forall fun _ _ => trivial
  cases name : spec.name <;>
    simpa [ProcessSpec.details, name, List.pairwise_map, Detail.Repeats] using requests

theorem filterMap_details (spec : ProcessSpec) :
    spec.details.filterMap Detail.request? = spec.requests := by
  have requests : (spec.requests.map Detail.acquire).filterMap Detail.request? = spec.requests := by
    rw [List.filterMap_map]
    exact List.filterMap_some
  unfold ProcessSpec.details
  cases spec.name <;> exact requests

/-- The block holds what the statements say. -/
structure Block.Holds (b : Block) (said : List Detail) : Prop where
  name : ∀ given, b.name = some given ↔ .name given ∈ said
  start : ∀ tick, b.start = some tick ↔ .start tick ∈ said
  lifespan : ∀ ticks, b.lifespan = some ticks ↔ .lifespan ticks ∈ said
  priority : ∀ level, b.priority = some level ↔ .priority level ∈ said
  requests : b.requests = said.filterMap Detail.request?

/-- A field that was not given before is filled, and is then what was said. -/
theorem Block.fill_holds {α : Type} (b : Block) (field : Field) (new : α) {old : Option α}
    {make : α → Detail} {said : List Detail} (injective : Function.Injective make)
    (holds : ∀ n, old = some n ↔ make n ∈ said) (unsaid : ∀ n, make n ∉ said) :
    b.fill field old new = .ok (some new) ∧
      ∀ n, some new = some n ↔ make n ∈ said ++ [make new] := by
  have empty : old = none :=
    Option.eq_none_iff_forall_ne_some.mpr fun n is => unsaid n ((holds n).mp is)
  constructor
  · rw [empty]
    rfl
  · intro n
    rw [List.mem_append, List.mem_singleton, injective.eq_iff, Option.some_inj, eq_comm]
    exact ⟨.inr, fun either => either.resolve_left (unsaid n)⟩

/-- A statement that repeats none is taken. -/
theorem Block.holds_add {b : Block} {said : List Detail} {d : Detail} (holds : b.Holds said)
    (new : ∀ e ∈ said, ¬ e.Repeats d) :
    ∃ b', b.add d = .ok b' ∧ b'.pid = b.pid ∧ b'.Holds (said ++ [d]) := by
  obtain ⟨name, start, lifespan, priority, requests⟩ := holds
  cases d with
  | name given =>
      obtain ⟨fill, given⟩ := Block.fill_holds b .name given
        (fun _ _ => Detail.name.inj) name fun n mem => new _ mem trivial
      refine ⟨_, Except.bind_eq_ok_iff.mpr ⟨_, fill, rfl⟩, rfl, given, ?_, ?_, ?_, ?_⟩ <;>
        simp [start, lifespan, priority, requests, Detail.request?]
  | start tick =>
      obtain ⟨fill, given⟩ := Block.fill_holds b .start tick
        (fun _ _ => Detail.start.inj) start fun n mem => new _ mem trivial
      refine ⟨_, Except.bind_eq_ok_iff.mpr ⟨_, fill, rfl⟩, rfl, ?_, given, ?_, ?_, ?_⟩ <;>
        simp [name, lifespan, priority, requests, Detail.request?]
  | lifespan ticks =>
      obtain ⟨fill, given⟩ := Block.fill_holds b .lifespan ticks
        (fun _ _ => Detail.lifespan.inj) lifespan fun n mem => new _ mem trivial
      refine ⟨_, Except.bind_eq_ok_iff.mpr ⟨_, fill, rfl⟩, rfl, ?_, ?_, given, ?_, ?_⟩ <;>
        simp [name, start, priority, requests, Detail.request?]
  | priority level =>
      obtain ⟨fill, given⟩ := Block.fill_holds b .priority level
        (fun _ _ => Detail.priority.inj) priority fun n mem => new _ mem trivial
      refine ⟨_, Except.bind_eq_ok_iff.mpr ⟨_, fill, rfl⟩, rfl, ?_, ?_, ?_, given, ?_⟩ <;>
        simp [name, start, lifespan, requests, Detail.request?]
  | acquire q =>
      refine ⟨_, rfl, rfl, ?_, ?_, ?_, ?_, ?_⟩ <;>
        simp [name, start, lifespan, priority, requests, Detail.request?]

/-- A block that was told all there is to say of a process declares it. -/
theorem Block.finish_of_holds {b : Block} {spec : ProcessSpec} {said : List Detail}
    (wellFormed : spec.WellFormed) (holds : b.Holds said) (all : said.Perm spec.details)
    (pid : b.pid = spec.pid) : b.finish = .ok spec.inOrder := by
  have name : b.name = spec.name := by
    refine Option.ext fun given => (holds.name given).trans (all.mem_iff.trans ?_)
    simp [ProcessSpec.details]
  have start : b.start = some spec.arrival :=
    (holds.start _).mpr (all.mem_iff.mpr (by simp [ProcessSpec.details]))
  have lifespan : b.lifespan = some spec.lifespan :=
    (holds.lifespan _).mpr (all.mem_iff.mpr (by simp [ProcessSpec.details]))
  have priority : b.priority = some spec.priority :=
    (holds.priority _).mpr (all.mem_iff.mpr (by simp [ProcessSpec.details]))
  have requests : Request.sort b.requests = Request.sort spec.requests := by
    refine Request.sort_eq_of_perm ?_ wellFormed.disjoint fun q mem => (wellFormed.fits q mem).hold
    rw [holds.requests]
    exact (all.filterMap Detail.request?).trans (.of_eq (filterMap_details spec))
  have fits : ∀ q ∈ Request.sort spec.requests, q.Fits spec.lifespan := fun q mem =>
    wellFormed.fits q (List.mem_mergeSort.mp mem)
  have disjoint : (Request.sort spec.requests).Pairwise Request.Disjoint :=
    (List.Perm.pairwise_iff Request.Disjoint.symm (List.mergeSort_perm _ _)).mpr wellFormed.disjoint
  have apart : (Request.sort spec.requests).Pairwise Request.Apart :=
    ((Request.sorted_sort _).and disjoint).imp_of_mem fun _ second both =>
      Request.apart_of_disjoint both.1 both.2 (fits _ second).hold
  have checked : checkRequests spec.pid spec.lifespan {} (Request.sort spec.requests) = .ok () :=
    checkRequests_of_apart (fun q mem => (fits q mem).within) apart nofun
  rw [finish, lifespan]
  simp only [requests, pid, checked, name, start, priority]
  rfl

/-! ### Lines -/

/-- The part writes what can be read. -/
def Part.Readable : Part → Prop
  | ceiling resource level => (Heading.ceiling resource level).Writable
  | block spec details =>
      spec.WellFormed ∧ (∀ n ∈ spec.numbers, IsShort n) ∧ details.Perm spec.details

/-- The draft becomes another one by the lines, wherever they stand in the text. -/
def Draft.Reads (d : Draft) (lines : List Line) (d' : Draft) : Prop :=
  ∀ n, ((lines.map Line.text).zipIdx n).foldlM Draft.addLine d = .ok d'

namespace Draft

variable {d d' d'' : Draft}

theorem Reads.append {lines more : List Line} (first : d.Reads lines d')
    (second : d'.Reads more d'') : d.Reads (lines ++ more) d'' := by
  intro n
  rw [List.map_append, List.zipIdx_append, List.foldlM_append]
  exact Except.bind_eq_ok_iff.mpr ⟨d', first n, second _⟩

theorem addLine_text {l : Line} {n : Nat} (plain : l.Plain)
    (adds : d.Adds n l.words d') : d.addLine (l.text, n) = .ok d' := by
  rw [addLine, plain.lineWords_text]
  exact addWords_eq_ok_iff.mpr adds

theorem reads_line {l : Line} (plain : l.Plain)
    (adds : ∀ n, d.Adds n l.words d') : d.Reads [l] d' := fun n =>
  Except.bind_eq_ok_iff.mpr ⟨d', addLine_text plain (adds n), rfl⟩

/-- Statements inside a block are taken one after the other. -/
theorem reads_details {b : Block} {said later : List Detail} (holds : b.Holds said)
    (once : (said ++ later).Pairwise (fun d e => ¬ d.Repeats e))
    (writable : ∀ d ∈ later, d.Writable) :
    ∃ b', Draft.Reads { d with block := some b } (later.map Detail.line)
        { d with block := some b' } ∧ b'.pid = b.pid ∧ b'.Holds (said ++ later) := by
  induction later generalizing b said with
  | nil => exact ⟨b, fun n => rfl, rfl, by rwa [List.append_nil]⟩
  | cons e later ih =>
      have new : ∀ d ∈ said, ¬ d.Repeats e := fun d mem =>
        (List.pairwise_append.mp once).2.2 d mem e (.head _)
      obtain ⟨b', added, pid, holds⟩ := Block.holds_add holds new
      have assoc : said ++ e :: later = said ++ [e] ++ later := by simp
      obtain ⟨b'', read, pid', holds'⟩ :=
        ih holds (assoc ▸ once) fun d mem => writable d (.tail _ mem)
      have here := writable e (.head _)
      have first : Draft.Reads { d with block := some b } [e.line] { d with block := some b' } :=
        reads_line (Detail.plain_line here) fun _ => .tells rfl (Detail.read_written here) added
      exact ⟨b'', first.append read, pid'.trans pid, assoc ▸ holds'⟩

/-- What a part of a document adds. -/
def plus (d : Draft) : Part → Draft
  | .ceiling resource level => { d with ceilings := d.ceilings.put resource level }
  | .block spec _ => { d with processes := d.processes ++ [spec.inOrder], block := none }

/-- A part is read as what it says, and leaves no block open. -/
theorem reads_part {part : Part} (outside : d.block = none) (readable : part.Readable)
    (new : ∀ spec, part.spec? = some spec → spec.pid ∉ d.processes.map (·.pid)) :
    d.Reads part.lines (d.plus part) := by
  cases part with
  | ceiling resource level =>
      exact reads_line (Heading.plain_line readable) fun _ =>
        .caps outside (Heading.read_written readable)
  | block spec details =>
      obtain ⟨wellFormed, short, all⟩ := readable
      have opening : (Heading.process spec.pid).Writable := ⟨wellFormed.pid, short _ (.head _)⟩
      have writable : ∀ e ∈ details, e.Writable := fun e mem =>
        wellFormed.writable short e (all.mem_iff.mp mem)
      have once : ([] ++ details).Pairwise (fun d e : Detail => ¬ d.Repeats e) :=
        (List.Perm.pairwise_iff (fun apart => mt Detail.Repeats.symm apart) all).mpr
          (details_once spec)
      intro n
      have nothing : Block.Holds { pid := spec.pid, line := n } [] := by
        constructor <;> simp
      obtain ⟨b, inside, pid, holds⟩ := reads_details (d := d) nothing once writable
      have finished := Block.finish_of_holds wellFormed holds all pid
      have closing : Draft.Reads { d with block := some b } [closingLine]
          (d.plus (.block spec details)) :=
        reads_line plain_closingLine fun _ => .closes rfl Detail.read_closing finished
      exact Except.bind_eq_ok_iff.mpr ⟨_, addLine_text (Heading.plain_line opening)
        (.opens outside (Heading.read_written opening) (new spec rfl)),
        (inside.append closing) (n + 1)⟩

/-- A document is read part by part. -/
theorem reads_parts {parts : List Part} (outside : d.block = none)
    (readable : ∀ part ∈ parts, part.Readable)
    (once : (d.processes.map (·.pid) ++ (parts.filterMap Part.spec?).map (·.pid)).Nodup) :
    d.Reads (parts.flatMap Part.lines)
      { processes := d.processes ++ (parts.filterMap Part.spec?).map ProcessSpec.inOrder
        ceilings :=
          (parts.filterMap Part.ceiling?).foldl (fun t e => t.put e.1 e.2) d.ceilings } := by
  -- On the parts. None of them leaves a block open, so the next one begins as the first did.
  induction parts generalizing d with
  | nil =>
      intro n
      simp [← outside]
      rfl
  | cons part parts ih =>
      have here := readable part (.head _)
      have rest := fun p (mem : p ∈ parts) => readable p (.tail _ mem)
      cases part with
      | ceiling resource level =>
          exact (reads_part outside here nofun).append
            (ih (d := d.plus (.ceiling resource level)) outside rest once)
      | block spec details =>
          have new : spec.pid ∉ d.processes.map (·.pid) := fun known =>
            (List.nodup_append.mp once).2.2 _ known _ (.head _) rfl
          have first := reads_part outside here (fun _ is => Option.some.inj is ▸ new)
          have once' : ((d.plus (.block spec details)).processes.map (·.pid) ++
              (parts.filterMap Part.spec?).map (·.pid)).Nodup := by
            rw [plus, List.map_append, List.append_assoc]
            exact once
          have later := ih rfl rest once'
          rw [plus, List.append_assoc] at later
          exact first.append later

end Draft

/-! ### The round trip -/

theorem WrittenAs.readable {w : Workload} {parts : List Part} (writes : w.WrittenAs parts)
    (wellFormed : w.WellFormed) (short : ∀ n ∈ w.numbers, IsShort n) :
    ∀ part ∈ parts, part.Readable := by
  intro part mem
  cases part with
  | ceiling resource level =>
      have listed : (resource, level) ∈ w.explicitCeilings.entries :=
        writes.ceilings ▸ List.mem_filterMap.mpr ⟨_, mem, rfl⟩
      obtain ⟨existing, urgent⟩ := wellFormed.ceilings _ listed
      have among : ∀ n ∈ [resource, level], IsShort n := fun n is =>
        short n (List.mem_append_right _ (List.mem_flatMap.mpr ⟨_, listed, is⟩))
      exact ⟨⟨existing, among _ (.head _)⟩, urgent, among _ (.tail _ (.head _))⟩
  | block spec details =>
      have listed : spec ∈ w.processes :=
        writes.processes ▸ List.mem_filterMap.mpr ⟨_, mem, rfl⟩
      have among : ∀ n ∈ spec.numbers, IsShort n := fun n is =>
        short n (List.mem_append_left _ (List.mem_flatMap.mpr ⟨_, listed, is⟩))
      exact ⟨wellFormed.specs spec listed, among, writes.details _ mem⟩

theorem plain_of_readable {parts : List Part} (readable : ∀ part ∈ parts, part.Readable) :
    ∀ l ∈ parts.flatMap Part.lines, l.Plain := by
  intro l mem
  obtain ⟨part, listed, inside⟩ := List.mem_flatMap.mp mem
  have can := readable part listed
  cases part with
  | ceiling resource level =>
      rw [List.mem_singleton.mp inside]
      exact Heading.plain_line can
  | block spec details =>
      obtain ⟨wellFormed, short, all⟩ := can
      rcases List.mem_append.mp inside with (_ | ⟨_, detail⟩) | closing
      · exact Heading.plain_line (h := .process spec.pid) ⟨wellFormed.pid, short _ (.head _)⟩
      · obtain ⟨d, said, rfl⟩ := List.mem_map.mp detail
        exact Detail.plain_line (wellFormed.writable short d (all.mem_iff.mp said))
      · rw [List.mem_singleton.mp closing]
        exact plain_closingLine

/-- A well-formed workload is read back from every document that writes it, with the requests
of each process in order: they are the same requests, first by when they fall due and then by
resource. -/
theorem ofText_written {w : Workload} {parts : List Part} (wellFormed : w.WellFormed)
    (short : ∀ n ∈ w.numbers, IsShort n) (writes : w.WrittenAs parts) :
    ofText (written parts) = .ok w.inOrder ∧
      ∀ spec ∈ w.processes, spec.inOrder.requests.Perm spec.requests ∧
        spec.inOrder.requests.Pairwise Request.Before := by
  have readable := writes.readable wellFormed short
  have whole : ∀ l ∈ (parts.flatMap Part.lines).map Line.text,
      ∀ p ∈ l, Text.isLineEnd p = false := by
    intro t mem
    obtain ⟨l, listed, rfl⟩ := List.mem_map.mp mem
    exact (plain_of_readable readable l listed).whole
  have once : ((parts.filterMap Part.spec?).map (·.pid)).Nodup := writes.processes ▸ wellFormed.pids
  have drafted := Draft.reads_parts (d := {}) rfl readable once 1
  rw [writes.processes, writes.ceilings] at drafted
  have ceilings := Table.ofList_entries wellFormed.resources
  have read : ofText (written parts) = .ok w.inOrder := by
    rw [ofText, written, Text.lines_flatMap whole, ofLines]
    refine Except.bind_eq_ok_iff.mpr ⟨_, drafted, ?_⟩
    exact congrArg (fun t => Except.ok { w.inOrder with explicitCeilings := t }) ceilings
  refine ⟨read, fun spec mem => ⟨List.mergeSort_perm _ _, ?_⟩⟩
  exact ((valid_ofText read).specs spec.inOrder (List.mem_map_of_mem mem)).before

/-- A logger whose requests are not in order, and a process without a name. -/
def logging : Workload where
  processes := [
    { pid := 4, lifespan := 5, arrival := 1, priority := 2, name := some "logger",
      requests := [⟨1, 3, 1⟩, ⟨0, 0, 2⟩] },
    { pid := 2, lifespan := 1, requests := [⟨1, 0, 1⟩] }]
  explicitCeilings := ⟨[(3, 1)]⟩

/-- A document that writes it, with the ceiling between the blocks and the first block's
statements in an order of its own. -/
def logbook : List Part := [
  .block logging.processes[0] [.acquire ⟨1, 3, 1⟩, .priority 2, .start 1, .acquire ⟨0, 0, 2⟩,
    .name "logger", .lifespan 5],
  .ceiling 3 1,
  .block logging.processes[1] logging.processes[1].details]

theorem ofText_written_logbook :
    ofText (written logbook) = .ok logging.inOrder ∧
      ∀ spec ∈ logging.processes, spec.inOrder.requests.Perm spec.requests ∧
        spec.inOrder.requests.Pairwise Request.Before :=
  ofText_written (by decide +kernel) (by decide +kernel)
    ⟨by decide +kernel, by decide +kernel, by decide +kernel⟩

example : written (logbook.drop 1) = Text.ofString ("resource 3 ceiling 1\nprocess 2 \x7b\n" ++
    "    start 0\n    lifespan 1\n    prio 10\n    acquire 1 0 1\n\x7d\n") := by
  decide +kernel

end Workload

end Uniprocessor
