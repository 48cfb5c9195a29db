import Uniprocessor.Text.Digit

/-!
Tables of numbers, written as text.

A line holds rows with semicolons between them; a row holds hexadecimal numbers
with spaces between them.
-/

namespace Uniprocessor.Text

/-- The number that hexadecimal digits write. -/
def ofHexDigits (l : List Char) : Nat :=
  l.foldl (fun n c => 16 * n + (hexValue? c).getD 0) 0

def rowsOfLine (line : String) : List (List Nat) :=
  (line.toList.splitOn ';').map (fun row => (row.splitOn ' ').map ofHexDigits)

/-- The rows of a table, in order. -/
def rows (lines : List String) : List (List Nat) := lines.flatMap rowsOfLine

/-- The rows of a table as runs, each with its first and last member. -/
def runs (lines : List String) : List (Nat × Nat) :=
  (rows lines).filterMap fun row =>
    match row with
    | [first, last] => some (first, last)
    | _ => none

/-- A number is in one of the runs. -/
def inRuns (runs : List (Nat × Nat)) (n : Nat) : Bool :=
  runs.any (fun run => run.1 ≤ n && n ≤ run.2)

end Uniprocessor.Text
