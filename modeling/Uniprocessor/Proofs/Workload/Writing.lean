import Mathlib.Data.List.TakeWhile
import Uniprocessor.Proofs.Text.Numeral
import Uniprocessor.Proofs.Workload.WellFormed

/-!
Writing a workload.

A document is made of parts: ceilings, each on a line, and blocks, each with the
line that opens it, its statements and the line that closes it. A statement is
written as its keyword and its arguments. These are words that open no comment, so they are
found again on the line (`Line.Plain.lineWords_text`), and the statement is read as what it
says (`Heading.read_written`, `Detail.read_written`). Numbers are written in decimal
digits; they must not be longer than what is still read.
-/

namespace Uniprocessor

/-- The number has no more decimal digits than are read. -/
def IsShort (n : Int) : Prop := (toString n).length ≤ Text.digitLimit

instance (n : Int) : Decidable (IsShort n) := inferInstanceAs (Decidable (_ ≤ _))

/-- The number is in range, and not too long to be read. -/
structure Quantity.Takes (q : Quantity) (n : Int) : Prop where
  least : q.least ≤ n
  short : IsShort n

theorem Quantity.Takes.nonneg {q : Quantity} {n : Int} (takes : q.Takes n) : 0 ≤ n :=
  Int.le_trans (by cases q <;> decide) takes.least

namespace Workload

open Text (IsWord)

/-! ### Statements -/

def Heading.keyword : Heading → String
  | .process _ => "process"
  | .ceiling _ _ => "resource"

def Heading.arguments : Heading → List Text
  | .process pid => [toString pid, "\x7b"]
  | .ceiling resource level => [toString resource, "ceiling", toString level]

def Detail.keyword : Detail → String
  | .name _ => "name"
  | .start _ => "start"
  | .lifespan _ => "lifespan"
  | .priority _ => "prio"
  | .acquire _ => "acquire"

def Detail.arguments : Detail → List Text
  | .name given => [given]
  | .start n | .lifespan n | .priority n => [toString n]
  | .acquire q => [toString q.resource, toString q.due, toString q.hold]

def Heading.Writable : Heading → Prop
  | .process pid => Quantity.pid.Takes pid
  | .ceiling resource level => Quantity.resource.Takes resource ∧ Quantity.ceiling.Takes level

def Detail.Writable : Detail → Prop
  | .name given => IsName given
  | .start tick => Quantity.start.Takes tick
  | .lifespan ticks => Quantity.lifespan.Takes ticks
  | .priority level => Quantity.priority.Takes level
  | .acquire q =>
      Quantity.resource.Takes q.resource ∧ Quantity.acquireTime.Takes q.due ∧
        Quantity.duration.Takes q.hold

theorem quantity_toString {q : Quantity} {n : Int} (takes : q.Takes n) :
    quantity q (Text.ofString (toString n)) = .ok n := by
  rw [quantity, Text.readInt?_toString takes.nonneg takes.short]
  exact if_neg (Int.not_lt.mpr takes.least)

/-- Keywords are written in small letters. -/
theorem Heading.lower_keyword (h : Heading) : Text.lower (Text.ofString h.keyword) = h.keyword := by
  cases h <;>
    · rw [keyword]
      decide +kernel

theorem Detail.lower_keyword (d : Detail) : Text.lower (Text.ofString d.keyword) = d.keyword := by
  cases d <;>
    · rw [keyword]
      decide +kernel

/-- A heading is read back from the words that write it. -/
theorem Heading.read_written {h : Heading} (writable : h.Writable) :
    Heading.read h.keyword h.arguments = .ok h := by
  unfold Heading.read
  rw [h.lower_keyword]
  cases h with
  | process pid =>
      have brace : Text.ofString "\x7b" = [.char '\x7b'] := by decide
      simp only [keyword, arguments, brace, quantity_toString writable]
      rfl
  | ceiling resource level =>
      have middle : Text.lower (Text.ofString "ceiling") = "ceiling" := by decide +kernel
      simp only [keyword, arguments, middle, quantity_toString writable.1,
        quantity_toString writable.2]
      rfl

/-- A statement about a process is read back from the words that write it. -/
theorem Detail.read_written {pid : Int} {d : Detail} (writable : d.Writable) :
    Detail.read pid d.keyword d.arguments = .ok (some d) := by
  unfold Detail.read
  simp only [d.lower_keyword]
  cases d with
  | name given => rfl
  | start n | lifespan n | priority n =>
      have number := quantity_toString writable
      simp only [keyword, arguments]
      exact Except.bind_eq_ok_iff.mpr ⟨_, rfl, Except.bind_eq_ok_iff.mpr ⟨_, number, rfl⟩⟩
  | acquire q =>
      obtain ⟨resource, due, hold⟩ := writable
      simp only [keyword, arguments, quantity_toString resource, quantity_toString due,
        quantity_toString hold]
      rfl

theorem Detail.read_closing {pid : Int} :
    Detail.read pid (Text.ofString "\x7d") [] = .ok none := by
  have word : Text.lower (Text.ofString "\x7d") = "\x7d" := by decide +kernel
  unfold Detail.read
  simp only [word]
  rfl

/-! ### Lines -/

/-- A line of a document: how far it stands in, and its words. -/
structure Line where
  depth : Nat
  words : List Text

def Line.text (l : Line) : Text :=
  List.replicate l.depth (.char ' ') ++ [.char ' '].intercalate l.words

def Heading.line (h : Heading) : Line := ⟨0, h.keyword :: h.arguments⟩

def Detail.line (d : Detail) : Line := ⟨4, d.keyword :: d.arguments⟩

def closingLine : Line := ⟨0, ["\x7d"]⟩

/-- No word of the line breaks up or opens a comment. -/
def Line.Plain (l : Line) : Prop := ∀ word ∈ l.words, IsName word

theorem isName_toString {n : Int} (nonneg : 0 ≤ n) : IsName (Text.ofString (toString n)) := by
  constructor
  · intro empty
    refine Nat.toDigits_ne_nil (b := 10) (n := n.toNat) ?_
    rw [← Text.toList_toString nonneg]
    exact List.map_eq_nil_iff.mp empty
  · intro p mem
    obtain ⟨c, written, rfl⟩ := List.mem_map.mp mem
    have digit := Text.isDigit_of_mem_toString nonneg c written
    have other : c ≠ '#' := Text.ne_of_isDigit digit (by decide)
    exact ⟨Text.isBlank_of_isDigit digit, mt CodePoint.char.inj other⟩

theorem Heading.plain_line {h : Heading} (writable : h.Writable) : h.line.Plain := by
  cases h with
  | process pid =>
      rintro word (_ | ⟨_, _ | ⟨_, _ | ⟨_, ⟨⟩⟩⟩⟩)
      · exact (by decide +kernel : IsName "process")
      · exact isName_toString writable.nonneg
      · exact (by decide +kernel : IsName "\x7b")
  | ceiling resource level =>
      rintro word (_ | ⟨_, _ | ⟨_, _ | ⟨_, _ | ⟨_, ⟨⟩⟩⟩⟩⟩)
      · exact (by decide +kernel : IsName "resource")
      · exact isName_toString writable.1.nonneg
      · exact (by decide +kernel : IsName "ceiling")
      · exact isName_toString writable.2.nonneg

theorem Detail.isName_keyword (d : Detail) : IsName d.keyword := by
  cases d <;>
    · rw [keyword]
      decide +kernel

theorem Detail.plain_line {d : Detail} (writable : d.Writable) : d.line.Plain := by
  rintro word (_ | ⟨_, mem⟩)
  · exact d.isName_keyword
  · cases d with
    | name given =>
        rw [List.mem_singleton.mp mem]
        exact writable
    | start n | lifespan n | priority n =>
        rw [List.mem_singleton.mp mem]
        exact isName_toString writable.nonneg
    | acquire q =>
        obtain ⟨resource, due, hold⟩ := writable
        rcases mem with _ | ⟨_, _ | ⟨_, _ | ⟨_, ⟨⟩⟩⟩⟩
        · exact isName_toString resource.nonneg
        · exact isName_toString due.nonneg
        · exact isName_toString hold.nonneg

theorem plain_closingLine : closingLine.Plain := by
  rintro word (_ | ⟨_, ⟨⟩⟩)
  exact (by decide +kernel : IsName "\x7d")

/-- What a line is made of. -/
theorem Line.mem_text {l : Line} {p : CodePoint} (mem : p ∈ l.text) :
    p = .char ' ' ∨ ∃ word ∈ l.words, p ∈ word := by
  rcases List.mem_append.mp mem with indentation | body
  · exact .inl (List.eq_of_mem_replicate indentation)
  · rcases Text.mem_of_mem_intercalate body with blank | ⟨w, here, inside⟩
    · exact .inl (List.mem_singleton.mp blank)
    · exact .inr ⟨w, here, inside⟩

namespace Line

variable {l : Line}

theorem Plain.isWord (plain : l.Plain) : ∀ w ∈ l.words, IsWord w := by
  intro w mem
  obtain ⟨some, solid⟩ := plain w mem
  exact ⟨some, fun p inside => (solid p inside).1⟩

/-- A line is written on one line. -/
theorem Plain.whole (plain : l.Plain) : ∀ p ∈ l.text, Text.isLineEnd p = false := by
  intro p mem
  rcases l.mem_text mem with rfl | ⟨word, listed, inside⟩
  · decide
  · refine Bool.eq_false_iff.mpr fun ends => ?_
    have solid := (plain.isWord word listed).2 p inside
    rw [Text.isBlank_of_isLineEnd ends] at solid
    cases solid

/-- The words of a line are found again. -/
theorem Plain.lineWords_text (plain : l.Plain) : lineWords l.text = l.words := by
  have noComment : ∀ p ∈ l.text, decide (p ≠ .char '#') = true := by
    intro p mem
    refine decide_eq_true ?_
    rcases l.mem_text mem with rfl | ⟨word, listed, inside⟩
    · decide
    · exact ((plain word listed).2 p inside).2
  rw [lineWords, List.takeWhile_eq_self_iff.mpr noComment, text,
    Text.words_append_of_blank fun p mem => List.eq_of_mem_replicate mem ▸ (by decide),
    Text.words_intercalate plain.isWord]

end Line

/-! ### Documents -/

/-- A part of a document: a ceiling, or a block with its statements. -/
inductive Part where
  | ceiling (resource level : Int)
  | block (spec : ProcessSpec) (details : List Detail)

namespace Part

def lines : Part → List Line
  | ceiling resource level => [(Heading.ceiling resource level).line]
  | block spec details =>
      (Heading.process spec.pid).line :: details.map Detail.line ++ [closingLine]

def ceiling? : Part → Option (Int × Int)
  | ceiling resource level => some (resource, level)
  | block _ _ => none

def spec? : Part → Option ProcessSpec
  | ceiling _ _ => none
  | block spec _ => some spec

end Part

/-- The text of a document: its lines, each with a line feed behind it. -/
def written (parts : List Part) : Text :=
  ((parts.flatMap Part.lines).map Line.text).flatMap (· ++ [.char '\n'])

end Workload

/-- The statements that say what a process is. -/
def ProcessSpec.details (spec : ProcessSpec) : List Workload.Detail :=
  spec.name.toList.map .name ++
    [.start spec.arrival, .lifespan spec.lifespan, .priority spec.priority] ++
      spec.requests.map .acquire

/-- The numbers that are written for a process. -/
def ProcessSpec.numbers (spec : ProcessSpec) : List Int :=
  [spec.pid, spec.lifespan, spec.arrival, spec.priority] ++
    spec.requests.flatMap (fun q => [q.resource, q.due, q.hold])

def Workload.numbers (w : Workload) : List Int :=
  w.processes.flatMap ProcessSpec.numbers ++
    w.explicitCeilings.entries.flatMap (fun e => [e.1, e.2])

theorem ProcessSpec.WellFormed.writable {spec : ProcessSpec} (wellFormed : spec.WellFormed)
    (short : ∀ n ∈ spec.numbers, IsShort n) : ∀ d ∈ spec.details, d.Writable := by
  intro d mem
  rcases List.mem_append.mp mem with scalar | request
  · rcases List.mem_append.mp scalar with called | rest
    · obtain ⟨given, is, rfl⟩ := List.mem_map.mp called
      exact wellFormed.name given (Option.mem_toList.mp is)
    · rcases rest with _ | ⟨_, _ | ⟨_, _ | ⟨_, ⟨⟩⟩⟩⟩
      · exact ⟨wellFormed.arrival, short _ (by simp [numbers])⟩
      · exact ⟨wellFormed.lifespan, short _ (by simp [numbers])⟩
      · exact ⟨wellFormed.priority, short _ (by simp [numbers])⟩
  · obtain ⟨q, requested, rfl⟩ := List.mem_map.mp request
    have fits := wellFormed.fits q requested
    have among : ∀ n ∈ [q.resource, q.due, q.hold], IsShort n := fun n is =>
      short n (List.mem_append_right _ (List.mem_flatMap.mpr ⟨q, requested, is⟩))
    exact ⟨⟨fits.resource, among _ (by simp)⟩, ⟨fits.due, among _ (by simp)⟩,
      ⟨fits.hold, among _ (by simp)⟩⟩

/-- The block says all that there is to say of its process, in any order. -/
def Workload.Part.Complete : Workload.Part → Prop
  | .ceiling _ _ => True
  | .block spec details => details.Perm spec.details

instance (part : Workload.Part) : Decidable part.Complete :=
  match part with
  | .ceiling _ _ => isTrue trivial
  | .block spec details => inferInstanceAs (Decidable (details.Perm spec.details))

/-- The parts say what the workload is, its ceilings and its processes in their
order. -/
structure Workload.WrittenAs (w : Workload) (parts : List Workload.Part) : Prop where
  ceilings : parts.filterMap Workload.Part.ceiling? = w.explicitCeilings.entries
  processes : parts.filterMap Workload.Part.spec? = w.processes
  details : ∀ part ∈ parts, part.Complete

/-- The ceilings first, and then the processes. -/
def Workload.parts (w : Workload) : List Workload.Part :=
  w.explicitCeilings.entries.map (fun e => .ceiling e.1 e.2) ++
    w.processes.map (fun spec => .block spec spec.details)

theorem Workload.writtenAs_parts (w : Workload) : w.WrittenAs w.parts where
  ceilings := by simp [parts, Part.ceiling?, Function.comp_def]
  processes := by simp [parts, Part.spec?, Function.comp_def]
  details := by
    intro part mem
    rcases List.mem_append.mp mem with ceiling | block
    · obtain ⟨e, _, rfl⟩ := List.mem_map.mp ceiling
      trivial
    · obtain ⟨spec, _, rfl⟩ := List.mem_map.mp block
      exact .refl _

end Uniprocessor
