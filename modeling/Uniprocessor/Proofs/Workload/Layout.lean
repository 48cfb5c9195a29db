import Mathlib.Data.List.Perm.Basic
import Mathlib.Logic.Relation
import Uniprocessor.Proofs.Workload.Statements

/-!
The layout of a text does not matter, nor does the order of statements in a block.

A text that is laid out anew (`Relaid`) is read as the same workload, or as none just like
the first one (`layout_ignored`): its lines may be spaced, commented and ended differently,
lines that say nothing may come and go, keywords may change their letters, the lines of a block
may come in any order, and a ceiling may be stated before a block or behind it.

A block is read by itself: whatever the draft, it adds the process that it declares
(`takeAll_block`), and the statements inside it declare the same process in any order
(`takeAll_body`).
-/

namespace Uniprocessor.Workload

open Text (Row Sheet laidOut IsBreak SameLetters)
open Except (Agree)

/-! ### Inside a block -/

namespace Block

variable {b b' : Block} {said said' : List Detail} {detail : Detail}

/-- What has been said once cannot be said again. -/
theorem Holds.unrepeated (holds : b.Holds said) (added : b.add detail = .ok b') :
    ∀ e ∈ said, ¬ e.Repeats detail := by
  rintro e mem again
  cases e <;> cases detail <;> try exact again
  all_goals obtain ⟨_, fill, _⟩ := Except.bind_eq_ok_iff.mp added
  · rw [(holds.name _).mpr mem] at fill
    cases fill
  · rw [(holds.start _).mpr mem] at fill
    cases fill
  · rw [(holds.lifespan _).mpr mem] at fill
    cases fill
  · rw [(holds.priority _).mpr mem] at fill
    cases fill

/-- What is taken repeats nothing, and the block holds it. -/
theorem Holds.adds {later : List Detail} (holds : b.Holds said)
    (once : said.Pairwise fun d e => ¬ d.Repeats e) (added : later.foldlM Block.add b = .ok b') :
    (said ++ later).Pairwise (fun d e => ¬ d.Repeats e) ∧ b'.Holds (said ++ later) := by
  induction later generalizing b said with
  | nil =>
      cases added
      rw [List.append_nil]
      exact ⟨once, holds⟩
  | cons detail later ih =>
      rw [List.foldlM_cons] at added
      obtain ⟨next, first, added⟩ := Except.bind_eq_ok_iff.mp added
      have new := holds.unrepeated first
      obtain ⟨next', first', _, holds⟩ := Block.holds_add holds new
      cases first.symm.trans first'
      have once : (said ++ [detail]).Pairwise fun d e => ¬ d.Repeats e :=
        List.pairwise_append.mpr ⟨once, List.pairwise_singleton _ _, fun e mem d here =>
          List.mem_singleton.mp here ▸ new e mem⟩
      have both := ih holds once added
      rwa [List.append_assoc] at both

/-- What repeats nothing is taken. -/
theorem Holds.exists_adds {later : List Detail} (holds : b.Holds said)
    (once : (said ++ later).Pairwise fun d e => ¬ d.Repeats e) :
    ∃ b', later.foldlM Block.add b = .ok b' := by
  induction later generalizing b said with
  | nil => exact ⟨b, rfl⟩
  | cons detail later ih =>
      have new : ∀ e ∈ said, ¬ e.Repeats detail := fun e mem =>
        (List.pairwise_append.mp once).2.2 e mem detail (.head _)
      obtain ⟨next, first, _, holds⟩ := Block.holds_add holds new
      rw [List.append_cons] at once
      obtain ⟨b', rest⟩ := ih holds once
      exact ⟨b', Except.bind_eq_ok_iff.mpr ⟨next, first, rest⟩⟩

/-- Blocks of one process that hold the same statements are alike. -/
theorem Holds.alike (holds : b.Holds said) (holds' : b'.Holds said') (perm : said.Perm said')
    (pid : b.pid = b'.pid) (valid : ∀ d ∈ said, d.Valid) : b.Alike b' where
  pid := pid
  name := Option.ext fun n => (holds.name n).trans (perm.mem_iff.trans (holds'.name n).symm)
  start := Option.ext fun n => (holds.start n).trans (perm.mem_iff.trans (holds'.start n).symm)
  lifespan := Option.ext fun n =>
    (holds.lifespan n).trans (perm.mem_iff.trans (holds'.lifespan n).symm)
  priority := Option.ext fun n =>
    (holds.priority n).trans (perm.mem_iff.trans (holds'.priority n).symm)
  requests := by
    rw [holds.requests, holds'.requests]
    exact perm.filterMap _
  holds := by
    intro q mem
    rw [holds.requests] at mem
    obtain ⟨detail, listed, requests⟩ := List.mem_filterMap.mp mem
    cases detail with
    | acquire q' =>
        cases requests
        exact (valid _ listed).2.2
    | _ => cases requests

theorem holds_nothing (pid : Int) (line : Nat) : Block.Holds { pid, line } [] := by
  constructor <;> simp

theorem pid_foldlM_add {details : List Detail} (added : details.foldlM Block.add b = .ok b') :
    b'.pid = b.pid :=
  Except.foldlM_keeps (P := fun c => c.pid = b.pid)
    (fun _ _ _ pid added => (Block.origin_add added).1.trans pid) rfl added

end Block

/-- The words say something about the process `pid`. -/
def Tells (pid : Int) (words : List Text) (detail : Detail) : Prop :=
  ∃ k arguments, words = k :: arguments ∧ Detail.read pid k arguments = .ok (some detail)

/-- The words close a block. -/
def Closing (words : List Text) : Prop := ∃ k, words = [k] ∧ Text.lower k = "\x7d"

theorem valid_of_tells {pid : Int} {body : List (List Text)} {details : List Detail}
    (told : List.Forall₂ (Tells pid) body details) : ∀ d ∈ details, d.Valid := by
  induction told with
  | nil => nofun
  | cons tells _ ih =>
      obtain ⟨k, arguments, rfl, read⟩ := tells
      exact List.forall_mem_cons.mpr ⟨(Detail.valid_of_read read).1, ih⟩

theorem closing_of_read {pid : Int} {k : Text} {arguments : List Text}
    (read : Detail.read pid k arguments = .ok none) : Closing (k :: arguments) := by
  unfold Detail.read at read
  dsimp only at read
  split at read
  · rename_i closes
    split at read
    · rename_i alone
      rw [List.isEmpty_iff.mp alone]
      exact ⟨k, rfl, closes⟩
    · cases read
  · obtain ⟨_, _, ⟨⟩⟩ := Except.bind_eq_ok_iff.mp read
  iterate 4
    obtain ⟨_, _, read⟩ := Except.bind_eq_ok_iff.mp read
    obtain ⟨_, _, ⟨⟩⟩ := Except.bind_eq_ok_iff.mp read
  · split at read
    · obtain ⟨_, _, read⟩ := Except.bind_eq_ok_iff.mp read
      obtain ⟨_, _, read⟩ := Except.bind_eq_ok_iff.mp read
      obtain ⟨_, _, ⟨⟩⟩ := Except.bind_eq_ok_iff.mp read
    · cases read
  · cases read
  · cases read

theorem read_closing {pid : Int} {k : Text} (closes : Text.lower k = "\x7d") :
    Detail.read pid k [] = .ok none := by
  unfold Detail.read
  simp only [closes]
  rfl

variable {d e : Draft} {b : Block} {body body' : List (List Text)}

/-- Inside a block statements are about its process, and nothing else of the draft counts. -/
theorem takeAll_inside (inside : ∀ words ∈ body, words ≠ [] ∧ ¬ Closing words) :
    Draft.takeAll { d with block := some b } body = .ok e ↔
      ∃ details b', List.Forall₂ (Tells b.pid) body details ∧
        details.foldlM Block.add b = .ok b' ∧ e = { d with block := some b' } := by
  -- On the lines of the block: none of them closes it, so each says something of the process.
  induction body generalizing b with
  | nil =>
      constructor
      · rintro ⟨⟩
        exact ⟨[], b, .nil, rfl, rfl⟩
      · rintro ⟨_, b', ⟨⟩, ⟨⟩, rfl⟩
        rfl
  | cons words body ih =>
      obtain ⟨some, stays⟩ := inside words (.head _)
      have ih := fun b => ih (b := b) fun words mem => inside words (.tail _ mem)
      rw [Draft.takeAll_cons, Except.bind_eq_ok_iff]
      constructor
      · rintro ⟨_, adds, rest⟩
        cases Draft.addWords_eq_ok_iff.mp adds with
        | blank => exact absurd rfl some
        | opens outside | caps outside => cases outside
        | closes _ read => exact absurd (closing_of_read read) stays
        | tells here read change =>
            cases here
            obtain ⟨details, b', told, added, is⟩ := (ih _).mp rest
            rw [(Block.origin_add change).1] at told
            exact ⟨_ :: details, b', .cons ⟨_, _, rfl, read⟩ told,
              Except.bind_eq_ok_iff.mpr ⟨_, change, added⟩, is⟩
      · rintro ⟨_, b', (_ | ⟨tells, told⟩), added, is⟩
        obtain ⟨k, arguments, rfl, read⟩ := tells
        obtain ⟨next, change, added⟩ := Except.bind_eq_ok_iff.mp added
        rw [← (Block.origin_add change).1] at told
        exact ⟨_, Draft.addWords_eq_ok_iff.mpr (.tells rfl read change),
          (ih next).mpr ⟨_, b', told, added, is⟩⟩

/-- The statements inside a block say the same in any order. -/
theorem takeAll_perm {pid : Int} {line : Nat} (perm : body.Perm body')
    (inside : ∀ words ∈ body, words ≠ [] ∧ ¬ Closing words)
    (read : Draft.takeAll { d with block := some { pid, line } } body = .ok e) :
    ∃ e', Draft.takeAll { d with block := some { pid, line } } body' = .ok e' ∧ e.Alike e' := by
  obtain ⟨details, b, told, added, rfl⟩ := (takeAll_inside inside).mp read
  obtain ⟨details', told', perm'⟩ := List.perm_comp_forall₂ perm.symm told
  have nothing := Block.holds_nothing pid line
  obtain ⟨once, holds⟩ := nothing.adds .nil added
  have once' : details'.Pairwise fun d e => ¬ d.Repeats e :=
    (List.Perm.pairwise_iff (fun apart => mt Detail.Repeats.symm apart) perm').mpr once
  obtain ⟨b', added'⟩ := nothing.exists_adds once'
  have holds' := (nothing.adds .nil added').2
  have inside' : ∀ words ∈ body', words ≠ [] ∧ ¬ Closing words := fun words mem =>
    inside words (perm.mem_iff.mpr mem)
  refine ⟨_, (takeAll_inside inside').mpr ⟨details', b', told', added', rfl⟩, rfl, rfl, ?_⟩
  have pid := (Block.pid_foldlM_add added).trans (Block.pid_foldlM_add added').symm
  exact .some (holds.alike holds' perm'.symm pid (valid_of_tells told))

theorem takeAll_body {pid : Int} {line : Nat} (perm : body.Perm body')
    (inside : ∀ words ∈ body, words ≠ [] ∧ ¬ Closing words) :
    Agree Draft.Alike (Draft.takeAll { d with block := some { pid, line } } body)
      (Draft.takeAll { d with block := some { pid, line } } body') := by
  refine .of_imp (fun e read => takeAll_perm perm inside read) fun e read => ?_
  obtain ⟨e', read', _⟩ :=
    takeAll_perm perm.symm (fun words mem => inside words (perm.mem_iff.mpr mem)) read
  exact ⟨e', read'⟩

/-! ### Blocks and ceilings -/

section Headings

variable {k : Text} {arguments : List Text}

/-- A block cannot be opened inside another one. -/
theorem read_process (process : Text.lower k = "process") (pid : Int) :
    Detail.read pid k arguments = .error (.unclosed pid) := by
  unfold Detail.read
  simp only [process]

/-- A ceiling cannot be stated inside a block. -/
theorem read_resource (resource : Text.lower k = "resource") (pid : Int) :
    Detail.read pid k arguments = .error (.unknownKeyword k) := by
  unfold Detail.read
  simp only [resource]
  rfl

/-- A heading is what its keyword announces. -/
theorem keyword_of_read {h : Heading} (read : Heading.read k arguments = .ok h) :
    Text.lower k = h.keyword := by
  unfold Heading.read at read
  split at read
  · rename_i process
    obtain ⟨_, _, rfl⟩ := Except.map_eq_ok_iff.mp read
    exact process
  · cases read
  · rename_i resource
    split at read
    · obtain ⟨_, _, read⟩ := Except.bind_eq_ok_iff.mp read
      obtain ⟨_, _, ⟨⟩⟩ := Except.bind_eq_ok_iff.mp read
      exact resource
    · cases read
  · cases read
  · cases read

theorem addWords_process (process : Text.lower k = "process") :
    d.addWords 0 (k :: arguments) = .ok e ↔
      ∃ pid, d.block = none ∧ Heading.read k arguments = .ok (.process pid) ∧
        pid ∉ d.processes.map (·.pid) ∧ e = { d with block := some { pid, line := 0 } } := by
  rw [Draft.addWords_eq_ok_iff]
  constructor
  · intro adds
    cases adds with
    | opens outside read new => exact ⟨_, outside, read, new, rfl⟩
    | caps _ read =>
        have ceiling : "process" = "resource" := process.symm.trans (keyword_of_read read)
        exact absurd ceiling (by decide)
    | closes _ read | tells _ read =>
        rw [read_process process] at read
        cases read
  · rintro ⟨pid, outside, read, new, rfl⟩
    exact .opens outside read new

theorem addWords_resource (resource : Text.lower k = "resource") :
    d.addWords 0 (k :: arguments) = .ok e ↔
      ∃ id level, d.block = none ∧ Heading.read k arguments = .ok (.ceiling id level) ∧
        e = { d with ceilings := d.ceilings.put id level } := by
  rw [Draft.addWords_eq_ok_iff]
  constructor
  · intro adds
    cases adds with
    | opens _ read =>
        have opening : "resource" = "process" := resource.symm.trans (keyword_of_read read)
        exact absurd opening (by decide)
    | caps outside read => exact ⟨_, _, outside, read, rfl⟩
    | closes _ read | tells _ read =>
        rw [read_resource resource] at read
        cases read
  · rintro ⟨id, level, outside, read, rfl⟩
    exact .caps outside read

theorem addWords_closing {c : Text} (closes : Text.lower c = "\x7d") :
    Draft.addWords { d with block := some b } 0 [c] = .ok e ↔
      ∃ spec, b.finish = .ok spec ∧
        e = { d with processes := d.processes ++ [spec], block := none } := by
  rw [Draft.addWords_eq_ok_iff]
  constructor
  · intro adds
    cases adds with
    | opens outside | caps outside => cases outside
    | closes here read finished =>
        cases here
        exact ⟨_, finished, rfl⟩
    | tells here read =>
        rw [read_closing closes] at read
        cases read
  · rintro ⟨spec, finished, rfl⟩
    exact .closes rfl (read_closing closes) finished

/-- What a block says declares the process: all of it can be said of one process, and makes
it whole. -/
def Declares (pid : Int) (body : List (List Text)) (spec : ProcessSpec) : Prop :=
  ∃ details b, List.Forall₂ (Tells pid) body details ∧
    details.foldlM Block.add { pid, line := 0 } = .ok b ∧ b.finish = .ok spec

/-- A block adds the process that it declares, whatever else the draft holds. -/
theorem takeAll_block (process : Text.lower k = "process")
    (inside : ∀ words ∈ body, words ≠ [] ∧ ¬ Closing words) {closing : List Text}
    (closes : Closing closing) :
    d.takeAll ((k :: arguments) :: body ++ [closing]) = .ok e ↔
      ∃ pid spec, d.block = none ∧ Heading.read k arguments = .ok (.process pid) ∧
        pid ∉ d.processes.map (·.pid) ∧ Declares pid body spec ∧
        e = { d with processes := d.processes ++ [spec], block := none } := by
  obtain ⟨c, rfl, brace⟩ := closes
  rw [List.cons_append, Draft.takeAll_cons, Except.bind_eq_ok_iff]
  constructor
  · rintro ⟨_, first, rest⟩
    obtain ⟨pid, outside, read, new, rfl⟩ := (addWords_process process).mp first
    rw [Draft.takeAll_append] at rest
    obtain ⟨_, middle, last⟩ := Except.bind_eq_ok_iff.mp rest
    obtain ⟨details, b, told, added, rfl⟩ := (takeAll_inside inside).mp middle
    rw [Draft.takeAll_singleton] at last
    obtain ⟨spec, finished, rfl⟩ := (addWords_closing brace).mp last
    exact ⟨pid, spec, outside, read, new, ⟨details, b, told, added, finished⟩, rfl⟩
  · rintro ⟨pid, spec, outside, read, new, ⟨details, b, told, added, finished⟩, rfl⟩
    refine ⟨_, (addWords_process process).mpr ⟨pid, outside, read, new, rfl⟩, ?_⟩
    rw [Draft.takeAll_append]
    refine Except.bind_eq_ok_iff.mpr
      ⟨_, (takeAll_inside inside).mpr ⟨details, b, told, added, rfl⟩, ?_⟩
    rw [Draft.takeAll_singleton]
    exact (addWords_closing brace).mpr ⟨spec, finished, rfl⟩

/-- A ceiling may be stated before a block or behind it. -/
theorem takeAll_resource {r : Text} {stated : List Text} (resource : Text.lower r = "resource")
    (process : Text.lower k = "process")
    (inside : ∀ words ∈ body, words ≠ [] ∧ ¬ Closing words) {closing : List Text}
    (closes : Closing closing) :
    d.takeAll ((r :: stated) :: ((k :: arguments) :: body ++ [closing])) = .ok e ↔
      d.takeAll ((k :: arguments) :: body ++ [closing] ++ [r :: stated]) = .ok e := by
  rw [Draft.takeAll_cons, Draft.takeAll_append, Except.bind_eq_ok_iff, Except.bind_eq_ok_iff]
  simp only [takeAll_block process inside closes, addWords_resource resource,
    Draft.takeAll_singleton]
  constructor
  · rintro ⟨_, ⟨id, level, outside, states, rfl⟩, pid, spec, _, read, new, declares, rfl⟩
    exact ⟨_, ⟨pid, spec, outside, read, new, declares, rfl⟩, id, level, rfl, states, rfl⟩
  · rintro ⟨_, ⟨pid, spec, outside, read, new, declares, rfl⟩, id, level, _, states, rfl⟩
    exact ⟨_, ⟨id, level, outside, states, rfl⟩, pid, spec, outside, read, new, declares, rfl⟩

end Headings

/-! ### Rows -/

/-- What the rows say, but for those that say nothing. -/
def said (rows : List Row) : List (List Text) :=
  (rows.map fun row => lineWords row.content).filter (· ≠ [])

theorem said_append (front back : List Row) : said (front ++ back) = said front ++ said back := by
  rw [said, List.map_append, List.filter_append]
  rfl

theorem said_cons_of_blank {row : Row} (blank : Says [] row.content) (back : List Row) :
    said (row :: back) = said back := by
  rw [said, List.map_cons, says_iff.mp blank]
  rfl

theorem said_cons {row : Row} {k : Text} {arguments : List Text}
    (words : Says (k :: arguments) row.content) (back : List Row) :
    said (row :: back) = (k :: arguments) :: said back := by
  rw [said, List.map_cons, says_iff.mp words]
  rfl

/-- A text says what its rows say. -/
theorem statements_laidOut {rows : List Row} (sheet : Sheet rows) :
    statements (laidOut rows) = said rows := by
  have nonempty : ∀ ls : List Text, (ls.map lineWords).filter (· ≠ []) =
      ((ls.filter (· ≠ [])).map lineWords).filter (· ≠ []) := by
    intro ls
    induction ls with
    | nil => rfl
    | cons l ls ih =>
        cases l with
        | nil => exact ih
        | cons c l =>
            rw [List.filter_cons_of_pos (by simp), List.map_cons, List.map_cons, List.filter_cons,
              List.filter_cons, ih]
  rw [statements, nonempty, sheet.lines_laidOut, ← nonempty, List.map_map]
  rfl

/-- The row says something that begins with the keyword, whatever the case of its letters. -/
def Heads (keyword : String) (row : Row) : Prop :=
  ∃ k arguments, Says (k :: arguments) row.content ∧ Text.lower k = keyword

/-- The row closes a block. -/
def Closes (row : Row) : Prop := ∃ k, Says [k] row.content ∧ Text.lower k = "\x7d"

theorem heads_iff {keyword : String} {row : Row} :
    Heads keyword row ↔ (lineWords row.content).head?.map Text.lower = some keyword := by
  constructor
  · rintro ⟨k, arguments, words, is⟩
    rw [says_iff.mp words, List.head?_cons, Option.map_some, is]
  · intro heads
    obtain ⟨k, first, is⟩ := Option.map_eq_some_iff.mp heads
    obtain ⟨arguments, words⟩ := List.head?_eq_some_iff.mp first
    exact ⟨k, arguments, says_iff.mpr words, is⟩

instance (keyword : String) (row : Row) : Decidable (Heads keyword row) :=
  decidable_of_iff _ heads_iff.symm

theorem closes_iff {row : Row} :
    Closes row ↔ (lineWords row.content).map Text.lower = ["\x7d"] := by
  constructor
  · rintro ⟨k, words, is⟩
    rw [says_iff.mp words, List.map_singleton, is]
  · intro closes
    obtain ⟨k, words, is⟩ := List.map_eq_singleton_iff.mp closes
    exact ⟨k, says_iff.mpr words, is⟩

instance (row : Row) : Decidable (Closes row) := decidable_of_iff _ closes_iff.symm

/-- The second rows are the first ones laid out anew, in one of these ways. -/
inductive Relaid : List Row → List Row → Prop
  /-- A line that says nothing is put in. -/
  | blank {row : Row} (blank : Says [] row.content) (front back : List Row) :
      Relaid (front ++ back) (front ++ row :: back)
  /-- Other blanks stand between the words of a line, or another comment behind them. -/
  | spacing {words : List Text} {content content' : Text} (before : Says words content)
      (after : Says words content') (ending : Text) (front back : List Row) :
      Relaid (front ++ ⟨content, ending⟩ :: back) (front ++ ⟨content', ending⟩ :: back)
  /-- A line ends with another kind of line break. -/
  | ending (content ending ending' : Text) (front back : List Row) :
      Relaid (front ++ ⟨content, ending⟩ :: back) (front ++ ⟨content, ending'⟩ :: back)
  /-- The keyword of a statement is written with other letters, small or capital. -/
  | letters {row row' : Row} {k k' : Text} {arguments : List Text}
      (before : Says (k :: arguments) row.content) (after : Says (k' :: arguments) row'.content)
      (same : SameLetters k k') (front back : List Row) :
      Relaid (front ++ row :: back) (front ++ row' :: back)
  /-- The keyword of a ceiling is the third word of its statement. -/
  | ceiling {row row' : Row} {r id c c' level : Text} (before : Says [r, id, c, level] row.content)
      (after : Says [r, id, c', level] row'.content) (resource : Text.lower r = "resource")
      (same : SameLetters c c') (front back : List Row) :
      Relaid (front ++ row :: back) (front ++ row' :: back)
  /-- The long keyword for a priority is written instead of the short one. -/
  | priority {row row' : Row} {k k' : Text} {arguments : List Text}
      (before : Says (k :: arguments) row.content) (after : Says (k' :: arguments) row'.content)
      (short : Text.lower k = "prio") (long : Text.lower k' = "priority")
      (front back : List Row) : Relaid (front ++ row :: back) (front ++ row' :: back)
  /-- The lines inside a block come in another order. -/
  | statements {opening : Row} {body body' : List Row} (opens : Heads "process" opening)
      (inside : ∀ row ∈ body, ¬ Closes row) (perm : body.Perm body') (front back : List Row) :
      Relaid (front ++ (opening :: body) ++ back) (front ++ (opening :: body') ++ back)
  /-- A ceiling is stated behind a block and not before it. -/
  | resource {stated opening closing : Row} {body : List Row} (states : Heads "resource" stated)
      (opens : Heads "process" opening) (inside : ∀ row ∈ body, ¬ Closes row)
      (closes : Closes closing) (front back : List Row) :
      Relaid (front ++ stated :: (opening :: body ++ [closing]) ++ back)
        (front ++ (opening :: body ++ [closing] ++ [stated]) ++ back)

/-- The texts are laid out on rows that differ in one of these ways. -/
def Rewritten (t t' : Text) : Prop :=
  ∃ rows rows', Relaid rows rows' ∧ Sheet rows ∧ Sheet rows' ∧ laidOut rows = t ∧ laidOut rows' = t'

/-! ### Reading them -/

theorem Draft.Valid.alike (valid : d.Valid) : d.Alike d := by
  refine ⟨rfl, rfl, ?_⟩
  cases inside : d.block with
  | none => exact .none
  | some b =>
      have holds := fun q mem => ((valid.block b inside).1.requests q mem).2.2
      exact .some ⟨rfl, rfl, rfl, rfl, rfl, .refl _, holds⟩

theorem Draft.Valid.takeAll {said : List (List Text)} (valid : d.Valid)
    (read : d.takeAll said = .ok e) : e.Valid :=
  Except.foldlM_keeps (fun _ _ _ valid added => Draft.valid_addWords valid added) valid read

/-- Statements in the middle of a text may be exchanged for others that do the same. -/
theorem ofStatements_agree {middle middle' : List (List Text)}
    (agree : ∀ d : Draft, d.Valid → Agree Draft.Alike (d.takeAll middle) (d.takeAll middle'))
    (front back : List (List Text)) :
    Agree Eq (ofStatements (front ++ middle ++ back))
      (ofStatements (front ++ middle' ++ back)) := by
  have start : ({} : Draft).Valid := ⟨nofun, .nil, nofun, nofun⟩
  have exchanged : Agree Draft.Alike (Draft.takeAll {} (front ++ middle))
      (Draft.takeAll {} (front ++ middle')) := by
    rw [Draft.takeAll_append, Draft.takeAll_append]
    refine (Agree.refl _).bind ?_
    rintro d _ read rfl
    exact agree d (start.takeAll read)
  have whole : Agree Draft.Alike (Draft.takeAll {} (front ++ middle ++ back))
      (Draft.takeAll {} (front ++ middle' ++ back)) := by
    rw [Draft.takeAll_append _ _ back, Draft.takeAll_append _ _ back]
    exact exchanged.bind fun _ _ _ alike => alike.takeAll back
  exact whole.bind fun _ _ _ alike => alike.finish

theorem ofStatements_reworded {words words' : List Text} (reworded : Reworded words words')
    (front back : List (List Text)) :
    Agree Eq (ofStatements (front ++ words :: back)) (ofStatements (front ++ words' :: back)) := by
  rw [List.append_cons _ words, List.append_cons _ words']
  refine ofStatements_agree (fun d valid => ?_) front back
  rw [Draft.takeAll_singleton, Draft.takeAll_singleton]
  exact valid.alike.addWords reworded 0 0

theorem ofStatements_perm {k : Text} {arguments : List Text} (process : Text.lower k = "process")
    (inside : ∀ words ∈ body, words ≠ [] ∧ ¬ Closing words) (perm : body.Perm body')
    (front back : List (List Text)) :
    Agree Eq (ofStatements (front ++ ((k :: arguments) :: body) ++ back))
      (ofStatements (front ++ ((k :: arguments) :: body') ++ back)) := by
  refine ofStatements_agree (fun d _ => ?_) front back
  rw [Draft.takeAll_cons, Draft.takeAll_cons]
  refine (Agree.refl _).bind ?_
  rintro _ _ opened rfl
  obtain ⟨pid, _, _, _, rfl⟩ := (addWords_process process).mp opened
  exact takeAll_body perm inside

theorem ofStatements_resource {r k : Text} {stated arguments closing : List Text}
    (resource : Text.lower r = "resource") (process : Text.lower k = "process")
    (inside : ∀ words ∈ body, words ≠ [] ∧ ¬ Closing words) (closes : Closing closing)
    (front back : List (List Text)) :
    Agree Eq
      (ofStatements (front ++ ((r :: stated) :: ((k :: arguments) :: body ++ [closing])) ++ back))
      (ofStatements
        (front ++ ((k :: arguments) :: body ++ [closing] ++ [r :: stated]) ++ back)) := by
  refine ofStatements_agree (fun d valid => ?_) front back
  have same (e : Draft) :
      d.takeAll ((r :: stated) :: ((k :: arguments) :: body ++ [closing])) = .ok e ↔
        d.takeAll ((k :: arguments) :: body ++ [closing] ++ [r :: stated]) = .ok e :=
    takeAll_resource resource process inside closes
  exact .of_imp (fun e read => ⟨e, (same e).mp read, (valid.takeAll read).alike⟩)
    fun e read => ⟨e, (same e).mpr read⟩

theorem said_congr {content content' : Text} (same : lineWords content = lineWords content')
    (ending ending' : Text) (front back : List Row) :
    said (front ++ ⟨content, ending⟩ :: back) = said (front ++ ⟨content', ending'⟩ :: back) := by
  rw [said, said, List.map_append, List.map_append, List.map_cons, List.map_cons, same]

theorem inside_said {rows : List Row} (inside : ∀ row ∈ rows, ¬ Closes row) :
    ∀ words ∈ said rows, words ≠ [] ∧ ¬ Closing words := by
  intro words mem
  obtain ⟨listed, some⟩ := List.mem_filter.mp mem
  obtain ⟨row, here, rfl⟩ := List.mem_map.mp listed
  refine ⟨of_decide_eq_true some, fun ⟨k, is, brace⟩ => ?_⟩
  exact inside row here ⟨k, says_iff.mpr is, brace⟩

/-- Rows that are laid out anew are read alike. -/
theorem Relaid.agree {rows rows' : List Row} (relaid : Relaid rows rows') :
    Agree Eq (ofStatements (said rows)) (ofStatements (said rows')) := by
  cases relaid with
  | blank blank front back =>
      rw [said_append, said_append, said_cons_of_blank blank]
      exact .refl _
  | spacing before after ending front back =>
      have same := (says_iff.mp before).trans (says_iff.mp after).symm
      rw [said_congr same ending ending]
      exact .refl _
  | ending content ending ending' front back =>
      rw [said_congr rfl ending ending']
      exact .refl _
  | letters before after same front back =>
      rw [said_append, said_append, said_cons before, said_cons after]
      exact ofStatements_reworded (.keyword same.lower_eq _) _ _
  | ceiling before after resource same front back =>
      rw [said_append, said_append, said_cons before, said_cons after]
      exact ofStatements_reworded (.ceiling resource same.lower_eq _ _) _ _
  | priority before after short long front back =>
      rw [said_append, said_append, said_cons before, said_cons after]
      exact ofStatements_reworded (.priority short long _) _ _
  | @statements opening body body' opens inside perm front back =>
      obtain ⟨k, arguments, words, process⟩ := opens
      have perm : (said body).Perm (said body') := (perm.map _).filter _
      rw [said_append, said_append, said_append, said_append, said_cons words, said_cons words]
      exact ofStatements_perm process (inside_said inside) perm _ _
  | @resource stated opening closing body states opens inside closes front back =>
      obtain ⟨r, ceiling, words', resource⟩ := states
      obtain ⟨k, arguments, words, process⟩ := opens
      obtain ⟨c, brace, is⟩ := closes
      simp only [said_append, said_cons words, said_cons words', said_cons brace, List.cons_append]
      exact ofStatements_resource resource process (inside_said inside) ⟨c, rfl, is⟩ _ _

theorem Rewritten.ofText_eq_ok_iff {t t' : Text} (rewritten : Rewritten t t') (w : Workload) :
    ofText t = .ok w ↔ ofText t' = .ok w := by
  obtain ⟨rows, rows', relaid, sheet, sheet', rfl, rfl⟩ := rewritten
  calc
    _ ↔ ofStatements (said rows) = .ok w := by
      rw [(ofText_agree _).ok_iff, statements_laidOut sheet]
    _ ↔ ofStatements (said rows') = .ok w := relaid.agree.ok_iff w
    _ ↔ _ := by rw [(ofText_agree _).ok_iff, statements_laidOut sheet']

/-! ### The result -/

/-- Every text is laid out on rows that say words. However they are laid out anew, in one way
or in several, the text is read as the same workload, or again as none. -/
theorem layout_ignored :
    (∀ t, ∃ rows, Sheet rows ∧ laidOut rows = t ∧ ∀ row ∈ rows, ∃ words, Says words row.content) ∧
      ∀ t t', Relation.EqvGen Rewritten t t' → ∀ w, ofText t = .ok w ↔ ofText t' = .ok w := by
  constructor
  · intro t
    obtain ⟨rows, sheet, is, _⟩ := Text.exists_sheet t
    exact ⟨rows, sheet, is, fun row _ => ⟨_, says_iff.mpr rfl⟩⟩
  · intro t t' relaid w
    induction relaid with
    | rel t t' rewritten => exact rewritten.ofText_eq_ok_iff w
    | refl t => exact Iff.rfl
    | symm t t' _ ih => exact ih.symm
    | trans t t' t'' _ _ ih ih' => exact ih.trans ih'

/-- The contention with the statements of its first block the other way round. -/
def reversed : Text :=
  Text.ofString ("process 1 \x7b\n acquire 0 0 2\n prio 5\n lifespan 3\n\x7d\n" ++
    "process 2 \x7b\n start 1\n lifespan 2\n prio 1\n acquire 0 0 1\n\x7d\n")

/-- A line with a line feed behind it. -/
def newlined (line : String) : Row := ⟨Text.ofString line, [.char '\n']⟩

theorem layout_ignored_reversed :
    Relation.EqvGen Rewritten contention reversed ∧ ofText reversed = .ok contended := by
  let body := [" lifespan 3", " prio 5", " acquire 0 0 2"].map newlined
  let others := ["\x7d", "process 2 \x7b", " start 1", " lifespan 2", " prio 1", " acquire 0 0 1",
    "\x7d"].map newlined
  have relaid : Relaid ([] ++ (newlined "process 1 \x7b" :: body) ++ others)
      ([] ++ (newlined "process 1 \x7b" :: body.reverse) ++ others) :=
    .statements (by decide +kernel) (by decide +kernel) (List.reverse_perm body).symm [] others
  have rewritten : Rewritten contention reversed :=
    ⟨_, _, relaid, Text.sheet_of_newlines (by decide +kernel),
      Text.sheet_of_newlines (by decide +kernel), by decide +kernel, by decide +kernel⟩
  have same := Relation.EqvGen.rel _ _ rewritten
  exact ⟨same, (layout_ignored.2 _ _ same contended).mp ofText_contention⟩

end Uniprocessor.Workload
