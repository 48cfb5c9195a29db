import Uniprocessor.Text.CodePoint
import Uniprocessor.Text.Printable

/-!
Quoted text: how a word from outside is shown in a message.

The quote is a single one, or a double one where the text holds single quotes
and no double ones. Backslash and the quote in use are escaped, and so is
every code point that does not print.
-/

namespace Uniprocessor.Text

def hexDigit (n : Nat) : Char := Nat.digitChar n

/-- The last `width` hexadecimal digits of a number. -/
def hex : Nat → Nat → List Char
  | 0, _ => []
  | width + 1, n => hex width (n / 16) ++ [hexDigit (n % 16)]

/-- One character between quotes `q`. -/
def quoteChar (q c : Char) : List Char :=
  if c = q ∨ c = '\\' then ['\\', c]
  else if c = '\n' then ['\\', 'n']
  else if c = '\r' then ['\\', 'r']
  else if c = '\t' then ['\\', 't']
  else if isPrintable c then [c]
  else if c.toNat < 0x100 then '\\' :: 'x' :: hex 2 c.toNat
  else if c.toNat < 0x10000 then '\\' :: 'u' :: hex 4 c.toNat
  else '\\' :: 'U' :: hex 8 c.toNat

/-- The escape of a half. -/
def escapeHalf (n : Fin 2048) : List Char := '\\' :: 'u' :: hex 4 (CodePoint.half n).value

/-- One code point between quotes `q`. -/
def quotePoint (q : Char) : CodePoint → List Char
  | .char c => quoteChar q c
  | .half n => escapeHalf n

/-- The quote that a text is put in. -/
def quoteMark (t : Text) : Char :=
  if .char '\'' ∈ t ∧ .char '"' ∉ t then '"' else '\''

def quoted (t : Text) : String :=
  let q := quoteMark t
  String.ofList (q :: t.flatMap (quotePoint q) ++ [q])

/-- The text as an error stream shows it, with an escape for every half. -/
def escaped (t : Text) : String :=
  String.ofList (t.flatMap fun p =>
    match p with
    | .char c => [c]
    | .half n => escapeHalf n)

end Uniprocessor.Text
