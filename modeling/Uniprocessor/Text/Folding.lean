import Std.Data.HashMap
import Uniprocessor.Text.Folding.Table
import Uniprocessor.Text.Hangul
import Uniprocessor.Text.Rows

/-!
Folding: characters without the differences that do not count in a name.

A folded character is a list of small letters and marks, taken apart as far as
possible. It may be empty, and most characters fold to themselves.
-/

namespace Uniprocessor.Text.Folding

/-- Every `step`-th character of a run, and the first of their images. -/
structure Shift where
  first : Nat
  last : Nat
  step : Nat
  image : Nat
  deriving DecidableEq, Repr

def Shift.image? (s : Shift) (n : Nat) : Option Nat :=
  if s.first ≤ n ∧ n ≤ s.last ∧ (n - s.first) % s.step = 0 then some (s.image + (n - s.first))
  else none

def shifts : List Shift :=
  (rows shiftLines).filterMap fun row =>
    match row with
    | [first, last, step, image] => some { first, last, step, image }
    | _ => none

def spellings : Std.HashMap Nat (List Nat) :=
  .ofList ((rows spellingLines).filterMap fun row =>
    match row with
    | n :: spelling => some (n, spelling)
    | [] => none)

/-- What stands for a character. -/
def fold (n : Nat) : List Nat :=
  if Hangul.isSyllable n then Hangul.letters n
  else match shifts.findSome? (·.image? n) with
    | some image => [image]
    | none => spellings.getD n [n]

end Uniprocessor.Text.Folding
