import Uniprocessor.Text.CodePoint

/-!
Fixed-width columns. Widths count code points, and nothing is ever cut.
-/

namespace Uniprocessor.Text

/-- Right-aligns a text in a column. -/
def padLeft (width : Nat) (s : String) : String :=
  String.ofList (List.replicate (width - s.length) ' ') ++ s

/-- Left-aligns a text in a column. -/
def padRight (width : Nat) (t : Text) : Text :=
  t ++ List.replicate (width - t.length) (.char ' ')

end Uniprocessor.Text
