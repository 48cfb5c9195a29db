import Uniprocessor.Proofs.Text.Cuts
import Uniprocessor.Text.Case

/-!
What a text is laid out with.

A line has blanks between its words (`Spaced`), and any blanks do (`spaced_iff`); words may
differ in the case of their letters (`SameLetters`). A text has line breaks of several kinds
between its lines (`IsBreak`), and any kind does: every text is a sheet of its lines, each with
the break behind it (`exists_sheet`), and whatever the breaks of a sheet are, its lines are found
again (`Sheet.lines_laidOut`). Only empty lines may get lost, where a line feed comes to stand
behind a carriage return.
-/

namespace Uniprocessor.Text

variable {c : CodePoint} {t l : Text} {ws : List Text}

/-! ### Words -/

/-- The line is made of the words, with blanks between any two and around all of them. -/
inductive Spaced : List Text → Text → Prop
  | blank {gap : Text} (blank : ∀ c ∈ gap, isBlank c) : Spaced [] gap
  | word {gap w rest : Text} {ws : List Text} (blank : ∀ c ∈ gap, isBlank c) (word : IsWord w)
      (apart : ∀ c ∈ rest.head?, isBlank c) (more : Spaced ws rest) :
      Spaced (w :: ws) (gap ++ w ++ rest)

theorem Spaced.words_eq (spaced : Spaced ws t) : words t = ws := by
  induction spaced with
  | @blank gap blank =>
      rw [← List.append_nil gap, words_append_of_blank blank]
      rfl
  | @word gap w rest ws blank word apart _ ih =>
      rw [List.append_assoc, words_append_of_blank blank]
      cases rest with
      | nil =>
          rw [List.append_nil, words_of_isWord word, ← ih]
          rfl
      | cons c rest =>
          have here : isBlank c := apart c rfl
          have behind : words (c :: rest) = words rest := words_append_cons here [] rest
          rw [words_append_cons here, words_of_isWord word, ← ih, behind]
          rfl

theorem exists_spaced (t : Text) : ∃ ws, Spaced ws t := by
  induction t with
  | nil => exact ⟨[], .blank nofun⟩
  | cons c t ih =>
      obtain ⟨ws, spaced⟩ := ih
      by_cases blank : isBlank c
      · cases spaced with
        | blank gap => exact ⟨[], .blank (List.forall_mem_cons.mpr ⟨blank, gap⟩)⟩
        | @word gap w rest ws before word apart more =>
            exact ⟨w :: ws,
              @Spaced.word (c :: gap) w rest ws (List.forall_mem_cons.mpr ⟨blank, before⟩)
                word apart more⟩
      · have solid : isBlank c = false := Bool.eq_false_iff.mpr blank
        have single : IsWord [c] := ⟨nofun, List.forall_mem_singleton.mpr solid⟩
        cases spaced with
        | blank gap =>
            exact ⟨[[c]], @Spaced.word [] [c] t [] nofun single
              (fun d first => gap d (List.mem_of_mem_head? first)) (.blank gap)⟩
        | @word gap w rest ws before word apart more =>
            cases gap with
            | nil =>
                -- the first word begins right behind the code point, which becomes part of it
                exact ⟨(c :: w) :: ws, @Spaced.word [] (c :: w) rest ws nofun
                  ⟨nofun, List.forall_mem_cons.mpr ⟨solid, word.2⟩⟩ apart more⟩
            | cons d gap =>
                refine ⟨[c] :: w :: ws, @Spaced.word [] [c] _ _ nofun single ?_
                  (.word before word apart more)⟩
                rintro _ ⟨⟩
                exact before d (.head _)

theorem spaced_iff : Spaced ws t ↔ words t = ws := by
  constructor
  · exact Spaced.words_eq
  · rintro rfl
    obtain ⟨ws, spaced⟩ := exists_spaced t
    rwa [spaced.words_eq]

/-! ### Letters -/

/-- The small form of a letter of ASCII. -/
def small : CodePoint → CodePoint
  | .char c => .char c.toLower
  | .half n => .half n

/-- The words differ at most in the case of ASCII letters. -/
def SameLetters (v w : Text) : Prop := v.map small = w.map small

instance (v w : Text) : Decidable (SameLetters v w) := inferInstanceAs (Decidable (_ = _))

theorem lower_eq_string (w : Text) : lower w = string (w.map small) := by
  have letter : ∀ c : CodePoint, (small c).toChar = c.toChar.toLower := by
    rintro (c | n)
    · rfl
    · exact (by decide : Char.ofNat 0xfffd = (Char.ofNat 0xfffd).toLower)
  refine String.toList_inj.mp ?_
  simp [lower, string, letter]

theorem SameLetters.lower_eq {v w : Text} (same : SameLetters v w) : lower v = lower w := by
  rw [lower_eq_string, lower_eq_string, same]

/-! ### Lines -/

/-- What may stand at the end of a line. -/
def IsBreak (b : Text) : Prop := b = [.char '\r', .char '\n'] ∨ ∃ c, isLineEnd c ∧ b = [c]

/-- A line, with what ends it. -/
structure Row where
  content : Text
  ending : Text
  deriving DecidableEq

/-- The text of the rows. -/
def laidOut (rows : List Row) : Text := rows.flatMap fun row => row.content ++ row.ending

/-- A line break stands behind every row, but that the last one may end with the text. -/
inductive Sheet : List Row → Prop
  | nil : Sheet []
  | last {content : Text} (whole : ∀ c ∈ content, isLineEnd c = false) : Sheet [⟨content, []⟩]
  | cons {content ending : Text} {rows : List Row} (whole : ∀ c ∈ content, isLineEnd c = false)
      (ends : IsBreak ending) (more : Sheet rows) : Sheet (⟨content, ending⟩ :: rows)

/-- Rows that all end with a line feed make a sheet. -/
theorem sheet_of_newlines {rows : List Row}
    (closed : ∀ row ∈ rows, row.ending = [.char '\n'] ∧ ∀ c ∈ row.content, isLineEnd c = false) :
    Sheet rows := by
  induction rows with
  | nil => exact .nil
  | cons row rows ih =>
      obtain ⟨⟨newline, whole⟩, others⟩ := List.forall_mem_cons.mp closed
      exact .cons whole (newline ▸ .inr ⟨_, by decide, rfl⟩) (ih others)

theorem exists_sheet (t : Text) :
    ∃ rows, Sheet rows ∧ laidOut rows = t ∧ rows.map (·.content) = lines t := by
  induction t using lines.induct with
  | case1 => exact ⟨[], .nil, rfl, rfl⟩
  | case2 rest ih =>
      obtain ⟨rows, sheet, rfl, contents⟩ := ih
      refine ⟨⟨[], [.char '\r', .char '\n']⟩ :: rows,
        .cons (List.forall_mem_nil _) (.inl rfl) sheet, rfl, ?_⟩
      rw [lines, List.map_cons, contents]
  | case3 c rest single ends ih =>
      obtain ⟨rows, sheet, rfl, contents⟩ := ih
      refine ⟨⟨[], [c]⟩ :: rows, .cons (List.forall_mem_nil _) (.inr ⟨c, ends, rfl⟩) sheet, rfl, ?_⟩
      rw [lines_cons_of_isLineEnd ends single, List.map_cons, contents]
  | case4 c rest single inside empty ih =>
      obtain ⟨rows, sheet, rfl, contents⟩ := ih
      have none : rows = [] := List.map_eq_nil_iff.mp (contents.trans empty)
      subst none
      refine ⟨[⟨[c], []⟩], .last ?_, rfl, ?_⟩
      · exact List.forall_mem_singleton.mpr (Bool.eq_false_iff.mpr inside)
      · rw [lines_cons_of_not_isLineEnd inside]
        rfl
  | case5 c rest single inside first others split ih =>
      obtain ⟨rows, sheet, rfl, contents⟩ := ih
      have solid : isLineEnd c = false := Bool.eq_false_iff.mpr inside
      rw [lines_cons_of_not_isLineEnd inside, ← contents]
      -- the code point is part of the first row
      cases sheet with
      | nil => cases contents.trans split
      | last whole =>
          exact ⟨[⟨c :: _, []⟩], .last (List.forall_mem_cons.mpr ⟨solid, whole⟩), rfl, rfl⟩
      | cons whole ends more =>
          exact ⟨⟨c :: _, _⟩ :: _, .cons (List.forall_mem_cons.mpr ⟨solid, whole⟩) ends more,
            rfl, rfl⟩

/-- A line without an end is the only one of its text. -/
theorem lines_of_whole (whole : ∀ d ∈ c :: l, isLineEnd d = false) :
    lines (c :: l) = [c :: l] := by
  induction l generalizing c with
  | nil =>
      rw [lines_cons_of_not_isLineEnd (Bool.eq_false_iff.mp (whole c (.head _)))]
      rfl
  | cons d l ih =>
      rw [lines_cons_of_not_isLineEnd (Bool.eq_false_iff.mp (whole c (.head _))),
        ih fun e mem => whole e (.tail _ mem)]
      rfl

/-- What ends the first line ends it wherever it begins. -/
theorem lines_append_of_closed {ls : List Text} (whole : ∀ d ∈ l, isLineEnd d = false)
    (closed : lines t = [] :: ls) : lines (l ++ t) = l :: ls := by
  induction l with
  | nil => exact closed
  | cons d l ih =>
      rw [List.cons_append, lines_cons_of_not_isLineEnd (Bool.eq_false_iff.mp (whole d (.head _))),
        ih fun e mem => whole e (.tail _ mem)]
      rfl

/-- A break ends a line, and may take a line feed behind it for its own. -/
theorem IsBreak.lines_append {b : Text} (ends : IsBreak b) (rest : Text) :
    lines (b ++ rest) = [] :: lines rest ∨
      ∃ more, rest = .char '\n' :: more ∧ lines (b ++ rest) = [] :: lines more := by
  rcases ends with rfl | ⟨c, ends, rfl⟩
  · exact .inl (by rw [List.cons_append, List.cons_append, lines]; rfl)
  · by_cases joined : ∃ more, c = .char '\r' ∧ rest = .char '\n' :: more
    · obtain ⟨more, rfl, rfl⟩ := joined
      exact .inr ⟨more, rfl, by rw [List.singleton_append, lines]⟩
    · exact .inl (lines_cons_of_isLineEnd ends fun more is next => joined ⟨more, is, next⟩)

/-- The lines of a sheet are found again, but for empty ones. -/
theorem Sheet.lines_laidOut {rows : List Row} (sheet : Sheet rows) :
    (lines (laidOut rows)).filter (· ≠ []) = (rows.map (·.content)).filter (· ≠ []) := by
  induction sheet with
  | nil => rfl
  | @last content whole =>
      have alone : laidOut [⟨content, []⟩] = content := by simp [laidOut]
      rw [alone]
      cases content with
      | nil => rfl
      | cons c l => rw [lines_of_whole whole]; rfl
  | @cons content ending rows whole ends more ih =>
      have behind : laidOut (⟨content, ending⟩ :: rows) = content ++ (ending ++ laidOut rows) := by
        rw [laidOut, List.flatMap_cons, List.append_assoc]
        rfl
      rw [behind, List.map_cons]
      rcases ends.lines_append (laidOut rows) with closed | ⟨more, begins, closed⟩
      · rw [lines_append_of_closed whole closed, List.filter_cons, List.filter_cons, ih]
      · -- the line feed of an empty row is taken for the break's own
        have empty : lines (laidOut rows) = [] :: lines more := by
          rw [begins]
          exact lines_cons_of_isLineEnd (by decide) nofun
        rw [lines_append_of_closed whole closed, List.filter_cons, List.filter_cons, ← ih, empty]
        rfl

end Uniprocessor.Text
