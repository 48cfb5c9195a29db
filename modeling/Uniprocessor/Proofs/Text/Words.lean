import Uniprocessor.Text.Blank
import Uniprocessor.Text.Lines

/-!
The words of a line and the lines of a text.

A blank parts the words before it from the words behind it (`words_append_cons`),
and a line feed parts lines the same way (`lines_append_newline`). So words that are
written with blanks between them, and lines that are written one after the other,
are found again.
-/

namespace Uniprocessor.Text

variable {p : CodePoint → Bool}

theorem mem_of_mem_splitOnP {l w : Text} (piece : w ∈ l.splitOnP p) : ∀ c ∈ w, c ∈ l := by
  induction l generalizing w with
  | nil =>
      rw [List.splitOnP_nil, List.mem_singleton] at piece
      rw [piece]
      exact fun c mem => mem
  | cons c rest ih =>
      rw [List.splitOnP_cons_eq_if_modifyHead] at piece
      split at piece
      · rcases List.mem_cons.mp piece with rfl | later
        · nofun
        · exact fun d mem => .tail _ (ih later d mem)
      · obtain ⟨first, others, cut⟩ := List.exists_cons_of_ne_nil (List.splitOnP_ne_nil p rest)
        rw [cut, List.modifyHead_cons] at piece
        rcases List.mem_cons.mp piece with rfl | later
        · intro d mem
          rcases List.mem_cons.mp mem with rfl | mem
          · exact .head _
          · exact .tail _ (ih (cut ▸ .head _) d mem)
        · exact fun d mem => .tail _ (ih (cut ▸ .tail _ later) d mem)

/-- Words are made of what is in the line. -/
theorem mem_of_mem_words {t w : Text} (word : w ∈ words t) : ∀ c ∈ w, c ∈ t :=
  mem_of_mem_splitOnP (List.mem_filter.mp word).1

/-! ### Writing words -/

/-- The word is not empty and holds no blank. -/
def IsWord (w : Text) : Prop := w ≠ [] ∧ ∀ c ∈ w, isBlank c = false

/-- Words are found on either side of a blank. -/
theorem words_append_cons {c : CodePoint} (blank : isBlank c) (before behind : Text) :
    words (before ++ c :: behind) = words before ++ words behind := by
  rw [words, List.splitOnP_append_cons _ _ blank, List.filter_append]
  rfl

theorem words_of_isWord {w : Text} (word : IsWord w) : words w = [w] := by
  have kept : (!w.isEmpty) = true := by simpa using word.1
  rw [words, List.splitOnP_eq_singleton word.2]
  exact List.filter_cons_of_pos kept

/-- Blanks in front of a line do not count. -/
theorem words_append_of_blank {indentation : Text} (blank : ∀ c ∈ indentation, isBlank c)
    (t : Text) : words (indentation ++ t) = words t := by
  induction indentation with
  | nil => rfl
  | cons c rest ih =>
      rw [List.cons_append, ← ih fun d mem => blank d (.tail _ mem)]
      exact words_append_cons (blank c (.head _)) [] _

/-- Words with a blank between any two are found again. -/
theorem words_intercalate {ws : List Text} (word : ∀ w ∈ ws, IsWord w) :
    words ([.char ' '].intercalate ws) = ws := by
  match ws with
  | [] => rfl
  | [w] =>
      rw [List.intercalate_singleton]
      exact words_of_isWord (word w (.head _))
  | w :: v :: rest =>
      rw [List.intercalate_cons_cons, List.append_assoc, List.singleton_append,
        words_append_cons (by decide), words_of_isWord (word w (.head _)),
        words_intercalate fun u mem => word u (.tail _ mem)]
      rfl

theorem mem_of_mem_intercalate {between : Text} {ws : List Text} {c : CodePoint}
    (mem : c ∈ between.intercalate ws) : c ∈ between ∨ ∃ w ∈ ws, c ∈ w := by
  match ws with
  | [] => cases mem
  | [w] =>
      rw [List.intercalate_singleton] at mem
      exact .inr ⟨w, .head _, mem⟩
  | w :: v :: rest =>
      rw [List.intercalate_cons_cons] at mem
      rcases List.mem_append.mp mem with front | later
      · rcases List.mem_append.mp front with first | here
        · exact .inr ⟨w, .head _, first⟩
        · exact .inl here
      · exact (mem_of_mem_intercalate later).imp_right fun ⟨u, listed, inside⟩ =>
          ⟨u, .tail _ listed, inside⟩

/-! ### Writing lines -/

theorem isBlank_of_isLineEnd {c : CodePoint} (ends : isLineEnd c) : isBlank c := by
  simp only [isLineEnd, isBlank, Bool.or_eq_true, Bool.and_eq_true, decide_eq_true_eq, beq_iff_eq]
    at ends ⊢
  omega

/-- A line feed closes a line. -/
theorem lines_append_newline {l : Text} (whole : ∀ c ∈ l, isLineEnd c = false) (rest : Text) :
    lines (l ++ .char '\n' :: rest) = l :: lines rest := by
  induction l with
  | nil =>
      rw [List.nil_append, lines]
      · exact if_pos (by decide)
      · nofun
  | cons c l ih =>
      have inside := whole c (.head _)
      rw [List.cons_append, lines, if_neg (by rw [inside]; decide),
        ih fun d mem => whole d (.tail _ mem)]
      rintro behind rfl
      exact absurd inside (by decide)

/-- Lines that are closed by a line feed each are found again. -/
theorem lines_flatMap {ls : List Text} (whole : ∀ l ∈ ls, ∀ c ∈ l, isLineEnd c = false) :
    lines (ls.flatMap (· ++ [.char '\n'])) = ls := by
  induction ls with
  | nil => rfl
  | cons l ls ih =>
      rw [List.flatMap_cons, List.append_assoc, List.singleton_append,
        lines_append_newline (whole l (.head _)), ih fun m mem => whole m (.tail _ mem)]

end Uniprocessor.Text
