import Uniprocessor.Text.CodePoint

/-!
Lines of a text, and the two conventions for where a line ends.

`lines` breaks at every Unicode line end; `foldNewlines` is what reading a text
file does first: it knows only the carriage return and the line feed.
-/

namespace Uniprocessor.Text

/-- The characters that end a line. -/
def isLineEnd (c : CodePoint) : Bool :=
  let n := c.value
  (0x0a ≤ n && n ≤ 0x0d) || (0x1c ≤ n && n ≤ 0x1e) || n == 0x85 || n == 0x2028 || n == 0x2029

/-- The lines of a text without their ends. A carriage return with a line feed
is one end; an end that closes the text opens no further line. -/
def lines : Text → List Text
  | [] => []
  | .char '\r' :: .char '\n' :: rest => [] :: lines rest
  | c :: rest =>
      if isLineEnd c then [] :: lines rest
      else match lines rest with
        | [] => [[c]]
        | first :: others => (c :: first) :: others

/-- Every carriage return, with the line feed behind it if there is one, becomes
a line feed. -/
def foldNewlines : List Char → List Char
  | [] => []
  | '\r' :: '\n' :: rest => '\n' :: foldNewlines rest
  | c :: rest => (if c = '\r' then '\n' else c) :: foldNewlines rest

/-! ### Facts about line ends -/

theorem carriageReturn_not_mem_foldNewlines (l : List Char) : '\r' ∉ foldNewlines l := by
  fun_induction foldNewlines l with
  | case1 => simp
  | case2 rest ih => simpa using ih
  | case3 c rest _ ih =>
      by_cases h : c = '\r'
      · simpa [h] using ih
      · simp [h, ih, Ne.symm h]

end Uniprocessor.Text
