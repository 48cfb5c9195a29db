import Uniprocessor.Proofs.Text.Words

/-!
Cutting a text between two lines.

A text is made of whole lines of another one if no line is cut apart, and no line end that
takes two characters (`WholeLines`). However many of the first lines of a text are wanted,
there is a text of just these (`exists_wholeLines`).
-/

namespace Uniprocessor.Text

variable {c : CodePoint} {t p : Text}

/-! ### The first code point -/

/-- A line end in front closes an empty line, unless it is half of a longer one. -/
theorem lines_cons_of_isLineEnd (ends : isLineEnd c)
    (single : ∀ rest, c = .char '\r' → t = .char '\n' :: rest → False) :
    lines (c :: t) = [] :: lines t := by
  rw [lines, if_pos ends]
  exact single

/-- Anything else belongs to the first line. -/
theorem lines_cons_of_not_isLineEnd (inside : ¬ isLineEnd c) :
    lines (c :: t) = (c :: (lines t).headD []) :: (lines t).tail := by
  rw [lines, if_neg inside]
  · cases lines t <;> rfl
  · rintro rest rfl
    exact absurd rfl inside

/-! ### Whole lines -/

/-- The text `p` is made of the first lines of `t`, and these are whole. -/
def WholeLines (p t : Text) : Prop :=
  ∃ rest, t = p ++ rest ∧ lines t = lines p ++ lines rest

theorem WholeLines.isPrefix_lines (whole : WholeLines p t) : lines p <+: lines t := by
  obtain ⟨rest, _, cut⟩ := whole
  exact ⟨lines rest, cut.symm⟩

/-- Any number of first lines can be cut off. -/
theorem exists_cut (t : Text) (n : Nat) :
    ∃ p rest, t = p ++ rest ∧ lines p = (lines t).take n ∧ lines rest = (lines t).drop n := by
  induction t using lines.induct generalizing n with
  | case1 => exact ⟨[], [], rfl, by simp [lines], by simp [lines]⟩
  | case2 rest ih =>
      cases n with
      | zero => exact ⟨[], _, rfl, rfl, rfl⟩
      | succ n =>
          obtain ⟨p, behind, cut, front, back⟩ := ih n
          refine ⟨.char '\r' :: .char '\n' :: p, behind, ?_, ?_, ?_⟩
          · rw [cut]
            rfl
          · simp [lines, front]
          · simp [lines, back]
  | case3 c rest single ends ih =>
      cases n with
      | zero => exact ⟨[], _, rfl, rfl, rfl⟩
      | succ n =>
          obtain ⟨p, behind, rfl, front, back⟩ := ih n
          have apart : ∀ more, c = .char '\r' → p = .char '\n' :: more → False := by
            rintro more is rfl
            exact single _ is rfl
          refine ⟨c :: p, behind, rfl, ?_, ?_⟩
          · rw [lines_cons_of_isLineEnd ends apart, lines_cons_of_isLineEnd ends single, front]
            rfl
          · rw [lines_cons_of_isLineEnd ends single, back]
            rfl
  | case4 c rest single inside _ ih | case5 c rest single inside _ _ _ ih =>
      cases n with
      | zero => exact ⟨[], _, rfl, rfl, rfl⟩
      | succ n =>
          -- the code point is part of the first line, so as many lines are cut off the rest
          obtain ⟨p, behind, rfl, front, back⟩ := ih (n + 1)
          refine ⟨c :: p, behind, rfl, ?_, ?_⟩
          · rw [lines_cons_of_not_isLineEnd inside, lines_cons_of_not_isLineEnd inside, front]
            cases lines (p ++ behind) <;> simp
          · rw [lines_cons_of_not_isLineEnd inside, back]
            cases lines (p ++ behind) <;> simp

theorem exists_wholeLines (t : Text) (n : Nat) :
    ∃ p, WholeLines p t ∧ lines p = (lines t).take n := by
  obtain ⟨p, rest, is, front, back⟩ := exists_cut t n
  refine ⟨p, ⟨rest, is, ?_⟩, front⟩
  rw [front, back, List.take_append_drop]

end Uniprocessor.Text
