/-!
Numbers in a row.
-/

namespace Uniprocessor.Text

/-- Numbers between brackets, parted by commas. -/
def bracketed (ns : List Int) : String :=
  "[" ++ ", ".intercalate (ns.map toString) ++ "]"

/-- Numbers parted by blanks, or a dash if there is none. -/
def spacedOrDash (ns : List Int) : String :=
  if ns.isEmpty then "-" else " ".intercalate (ns.map toString)

/-- A number, or a dash if there is none. -/
def orDash (n : Option Int) : String := (n.map toString).getD "-"

end Uniprocessor.Text
