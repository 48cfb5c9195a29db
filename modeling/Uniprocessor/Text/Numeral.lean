import Uniprocessor.Text.Blank
import Uniprocessor.Text.Digit

/-!
Reading an integer.

A numeral is an optional sign and decimal digits of any script, where single
low lines may stand between two digits. Blanks around it do not count. More
than `digitLimit` digits are refused.
-/

namespace Uniprocessor.Text

/-- The longest numeral that is still read. -/
def digitLimit : Nat := 4300

/-- Spaces that may surround a numeral. The information separators separate
words, but do not belong here. -/
def isNumeralSpace (c : CodePoint) : Bool :=
  isBlank c && !(0x1c ≤ c.value && c.value ≤ 0x1f)

/-- The digits of a numeral from left to right, or `none` where a code point is
no digit or a low line does not stand between two digits. -/
def digits? : Text → Option (List Nat)
  | [] => none
  | [c] => (digitValue? c).map ([·])
  | c :: .char '_' :: rest => do
      let d ← digitValue? c
      let ds ← digits? rest
      pure (d :: ds)
  | c :: rest => do
      let d ← digitValue? c
      let ds ← digits? rest
      pure (d :: ds)

/-- The number that decimal digits write, the most significant first. -/
def ofDigits (ds : List Nat) : Nat := ds.foldl (fun n d => 10 * n + d) 0

/-- The number that ASCII digits write. -/
def ofAsciiDigits (l : List Char) : Nat := ofDigits (l.map (fun c => c.toNat - 48))

/-- What is said where a numeral with too many digits is no other fault. -/
def digitLimitMessage (count : Nat) : String :=
  s!"Exceeds the limit ({digitLimit} digits) for integer string conversion: " ++
    s!"value has {count} digits; use sys.set_int_max_str_digits() to increase the limit"

def readNat? (t : Text) : Option Nat := do
  let ds ← digits? t
  if ds.length ≤ digitLimit then some (ofDigits ds) else none

/-- The integer that a text writes. -/
def readInt? (t : Text) : Option Int :=
  match trimBy isNumeralSpace t with
  | .char '-' :: rest => (readNat? rest).map (fun n => -(n : Int))
  | .char '+' :: rest => (readNat? rest).map (fun n => (n : Int))
  | rest => (readNat? rest).map (fun n => (n : Int))

end Uniprocessor.Text
