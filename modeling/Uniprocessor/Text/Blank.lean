import Uniprocessor.Text.CodePoint

/-!
Blanks and words.

A word is a longest run of code points none of which is blank. Words are never
empty and hold no blank (`ne_nil_of_mem_words`, `not_blank_of_mem_words`).
-/

namespace Uniprocessor.Text

/-- The characters that separate words: tab to carriage return, the four
information separators, space, next line, and the Unicode spaces. The zero
width space is not one of them. -/
def isBlank (c : CodePoint) : Bool :=
  let n := c.value
  (0x09 ≤ n && n ≤ 0x0d) || (0x1c ≤ n && n ≤ 0x20) || n == 0x85 || n == 0xa0 || n == 0x1680 ||
    (0x2000 ≤ n && n ≤ 0x200a) || n == 0x2028 || n == 0x2029 || n == 0x202f || n == 0x205f ||
    n == 0x3000

/-- The words of a line, in order. -/
def words (t : Text) : List Text :=
  (t.splitOnP isBlank).filter (fun w => !w.isEmpty)

/-- The text without the code points of a class at its two ends. -/
def trimBy (p : CodePoint → Bool) (t : Text) : Text :=
  ((t.dropWhile p).reverse.dropWhile p).reverse

/-- The text without the blanks at its two ends. -/
def trim (t : Text) : Text := trimBy isBlank t

/-! ### Facts about words -/

theorem ne_nil_of_mem_words {t w : Text} (h : w ∈ words t) : w ≠ [] := by
  have kept := (List.mem_filter.mp h).2
  intro empty
  simp [empty] at kept

theorem not_mem_of_mem_splitOnP {p : CodePoint → Bool} {l w : Text}
    (h : w ∈ l.splitOnP p) : ∀ c ∈ w, p c = false := by
  induction l generalizing w with
  | nil =>
      rw [List.splitOnP_nil, List.mem_singleton] at h
      subst h
      simp
  | cons c rest ih =>
      rw [List.splitOnP_cons_eq_if_modifyHead] at h
      by_cases hit : p c
      · rw [if_pos hit, List.mem_cons] at h
        rcases h with rfl | h
        · simp
        · exact ih h
      · rw [if_neg hit] at h
        cases split : rest.splitOnP p with
        | nil => exact absurd split (List.splitOnP_ne_nil p rest)
        | cons first others =>
            rw [split, List.modifyHead_cons, List.mem_cons] at h
            rcases h with rfl | h
            · intro d hd
              rcases List.mem_cons.mp hd with rfl | hd
              · simpa using hit
              · exact ih (by simp [split]) d hd
            · exact ih (by simp [split, h])

theorem not_blank_of_mem_words {t w : Text} (h : w ∈ words t) :
    ∀ c ∈ w, isBlank c = false :=
  not_mem_of_mem_splitOnP (List.mem_filter.mp h).1

end Uniprocessor.Text
