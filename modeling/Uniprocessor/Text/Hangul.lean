/-!
Hangul syllables.

A syllable has a leading consonant, a vowel and perhaps a trailing consonant.
The syllables stand in one run, in the order of these parts, so that arithmetic
takes them apart and puts them together.
-/

namespace Uniprocessor.Text.Hangul

/-- The first syllable. -/
def first : Nat := 0xac00

def leading : Nat := 0x1100

def vowel : Nat := 0x1161

/-- The place before the first trailing consonant. -/
def trailing : Nat := 0x11a7

def leadingCount : Nat := 19

def vowelCount : Nat := 21

/-- How many endings a syllable can have, where none is one of them. -/
def endingCount : Nat := 28

def isSyllable (n : Nat) : Bool :=
  first ≤ n && n < first + leadingCount * vowelCount * endingCount

/-- The letters of a syllable. -/
def letters (n : Nat) : List Nat :=
  let index := n - first
  let ending := index % endingCount
  [leading + index / endingCount / vowelCount, vowel + index / endingCount % vowelCount] ++
    if ending = 0 then [] else [trailing + ending]

/-- The syllable of two letters, or of a syllable and a trailing consonant. -/
def join? (a b : Nat) : Option Nat :=
  if leading ≤ a ∧ a < leading + leadingCount ∧ vowel ≤ b ∧ b < vowel + vowelCount then
    some (first + ((a - leading) * vowelCount + (b - vowel)) * endingCount)
  else if isSyllable a ∧ (a - first) % endingCount = 0 ∧ trailing < b ∧
      b < trailing + endingCount then
    some (a + (b - trailing))
  else none

end Uniprocessor.Text.Hangul
