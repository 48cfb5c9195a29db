import Uniprocessor.Text.CodePoint

/-!
Letter case, for comparing a word with the ASCII words of a fixed vocabulary.
-/

namespace Uniprocessor.Text

/-- Small letters for capitals. Outside ASCII only the Kelvin sign has a small
form inside it, the letter k, which no word of the vocabularies that are compared this way
contains; so folding ASCII alone decides every comparison. -/
def lower (t : Text) : String := t.string.map Char.toLower

/-- The characters outside ASCII whose capitals are ASCII letters: the sharp s,
the dotless i, the long s, and the ligatures of the letters f, i, l, s and t. -/
def asciiCapitals : List (Nat × String) :=
  [(0xdf, "SS"), (0x131, "I"), (0x17f, "S"), (0xfb00, "FF"), (0xfb01, "FI"), (0xfb02, "FL"),
   (0xfb03, "FFI"), (0xfb04, "FFL"), (0xfb05, "ST"), (0xfb06, "ST")]

/-- Capitals for small letters, as far as they are ASCII letters. -/
def upper (t : Text) : String :=
  String.join (t.map fun p =>
    match asciiCapitals.find? (fun e => e.1 = p.value) with
    | some e => e.2
    | none => String.singleton p.toChar.toUpper)

end Uniprocessor.Text
