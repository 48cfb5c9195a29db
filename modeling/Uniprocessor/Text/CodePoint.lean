/-!
Text as code points.

JSON and UTF-16 can write half of a surrogate pair that stands alone. Such a
half is no character, but it is a code point, and a message can show it; so
text is a list of code points. A string is a text without halves
(`Text.string_ofString`).
-/

namespace Uniprocessor

/-- A character, or the surrogate `0xd800 + n` on its own. -/
inductive CodePoint where
  | char (c : Char)
  | half (n : Fin 2048)
  deriving DecidableEq, Repr

namespace CodePoint

def value : CodePoint → Nat
  | char c => c.toNat
  | half n => 0xd800 + n

/-- The code point of a number of the code space. -/
def ofNat? (n : Nat) : Option CodePoint :=
  if h : 0xd800 ≤ n ∧ n < 0xe000 then some (half ⟨n - 0xd800, by omega⟩)
  else if n < 0x110000 then some (char (Char.ofNat n))
  else none

theorem ofNat?_value (p : CodePoint) : ofNat? p.value = some p := by
  cases p with
  | char c =>
      have valid : c.toNat < 0xd800 ∨ 0xdfff < c.toNat ∧ c.toNat < 0x110000 := c.valid
      rw [ofNat?, value, dif_neg (by omega), if_pos (by omega), Char.ofNat_toNat]
  | half n =>
      have low := n.isLt
      rw [ofNat?, dif_pos ⟨by simp only [value]; omega, by simp only [value]; omega⟩]
      simp [value]

/-- The character to write. A half cannot be written, and becomes the
replacement character. -/
def toChar : CodePoint → Char
  | char c => c
  | half _ => Char.ofNat 0xfffd

def isHigh (unit : Nat) : Bool := 0xd800 ≤ unit && unit < 0xdc00

def isLow (unit : Nat) : Bool := 0xdc00 ≤ unit && unit < 0xe000

/-- The character of a high and a low half. -/
def join (high low : Nat) : CodePoint :=
  char (Char.ofNat (0x10000 + (high - 0xd800) * 1024 + (low - 0xdc00)))

end CodePoint

abbrev Text := List CodePoint

namespace Text

def ofString (s : String) : Text := s.toList.map .char

/-- Texts go by the numbers of their code points, and a text stands before its
continuations. -/
def atMost : Text → Text → Bool
  | [], _ => true
  | _ :: _, [] => false
  | p :: a, q :: b => p.value < q.value || (p.value == q.value && atMost a b)

/-- Texts in a row, with a separator between them. -/
def joined (separator : Text) (texts : List Text) : Text := separator.intercalate texts

/-- The text as it is written. -/
def string (t : Text) : String := String.ofList (t.map CodePoint.toChar)

instance : Coe String Text := ⟨ofString⟩

@[simp] theorem string_ofString (s : String) : (ofString s).string = s := by
  simp [string, ofString, Function.comp_def, CodePoint.toChar]

end Text

end Uniprocessor
