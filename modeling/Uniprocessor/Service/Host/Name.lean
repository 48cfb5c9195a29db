import Uniprocessor.Service.Host.Punycode
import Uniprocessor.Text.Composition
import Uniprocessor.Text.Direction
import Uniprocessor.Text.Folding
import Uniprocessor.Text.Quoted

/-!
Hosts that are names: labels with points between them.

A name is sent in ASCII. A label that is not ASCII is prepared, which folds its
characters and composes them again, and then goes in Punycode behind a mark. A
client that shows the name reads such labels back.
-/

namespace Uniprocessor.Service.Host

/-- What is wrong with a label. -/
inductive LabelFault where
  | emptyOrLong
  | long
  | character (n : Nat)
  | mixedDirections
  | unevenEnds
  | marked
  | punycode (f : Punycode.Fault)
  | ambiguous (given readBack : List Char)
  deriving DecidableEq, Repr

/-- A name cannot be sent, or cannot be shown. -/
inductive NameFault where
  | sending (f : LabelFault)
  | showing (f : LabelFault)
  deriving DecidableEq, Repr

def Punycode.Fault.message : Punycode.Fault → String
  | .incomplete => "incomplete punicode string"
  | .noDigit n => s!"Invalid extended code point '{Char.ofNat n}'"
  | .outOfRange n => s!"Invalid character U+{String.ofList (Nat.toDigits 16 n)}"

def quotedAscii (l : List Char) : String := Text.quoted (l.map .char)

def LabelFault.message : LabelFault → String
  | .emptyOrLong => "label empty or too long"
  | .long => "label too long"
  | .character n => s!"Invalid character {Text.quoted (CodePoint.ofNat? n).toList}"
  | .mixedDirections => "Violation of BIDI requirement 2"
  | .unevenEnds => "Violation of BIDI requirement 3"
  | .marked => "Label starts with ACE prefix"
  | .punycode f => s!"decoding with 'punycode' codec failed (UnicodeError: {f.message})"
  | .ambiguous given readBack =>
      s!"('IDNA does not round-trip', b{quotedAscii given}, b{quotedAscii readBack})"

def NameFault.message : NameFault → String
  | .sending f => s!"encoding with 'idna' codec failed (UnicodeError: {f.message})"
  | .showing (.ambiguous given readBack) => (LabelFault.ambiguous given readBack).message
  | .showing f => s!"decoding with 'idna' codec failed (UnicodeError: {f.message})"

/-! ### Preparing labels -/

/-- The characters that no prepared label may hold: spaces, controls, private
characters, halves of pairs, and characters that order or annotate others. -/
def prohibited : List (Nat × Nat) :=
  [(0x80, 0xa0), (0x340, 0x341), (0x6dd, 0x6dd), (0x70f, 0x70f), (0x1680, 0x1680),
   (0x180e, 0x180e), (0x2000, 0x200f), (0x2028, 0x202f), (0x205f, 0x2063), (0x206a, 0x206f),
   (0x2ff0, 0x2ffb), (0x3000, 0x3000), (0xd800, 0xf8ff), (0xfdd0, 0xfdef), (0xfeff, 0xfeff),
   (0xfff9, 0xffff), (0x1d173, 0x1d17a), (0x1fffe, 0x1ffff), (0x2fffe, 0x2ffff),
   (0x3fffe, 0x3ffff), (0x4fffe, 0x4ffff), (0x5fffe, 0x5ffff), (0x6fffe, 0x6ffff),
   (0x7fffe, 0x7ffff), (0x8fffe, 0x8ffff), (0x9fffe, 0x9ffff), (0xafffe, 0xaffff),
   (0xbfffe, 0xbffff), (0xcfffe, 0xcffff), (0xdfffe, 0xdffff), (0xe0001, 0xe0001),
   (0xe0020, 0xe007f), (0xefffe, 0x10ffff)]

/-- Letters that are written from right to left stand at both ends, and not with
letters that are written the other way. -/
def checkDirections (label : List Nat) : Except LabelFault Unit :=
  let isRightToLeft := Text.Direction.isRightToLeft
  if !label.any isRightToLeft then .ok ()
  else if label.any Text.Direction.isLeftToRight then .error .mixedDirections
  else if label.head?.all isRightToLeft && label.getLast?.all isRightToLeft then .ok ()
  else .error .unevenEnds

/-- A label in the form in which equal labels look the same. -/
def prepare (label : List Nat) : Except LabelFault (List Nat) := do
  let label := Text.Composition.compose (label.flatMap Text.Folding.fold)
  match label.find? (Text.inRuns prohibited) with
  | some n => throw (.character n)
  | none => checkDirections label
  pure label

/-! ### Sending -/

/-- A label has fewer characters than this. -/
def labelLimit : Nat := 64

/-- What a label in Punycode begins with. -/
def mark : List Nat := [0x78, 0x6e, 0x2d, 0x2d]

def isAscii (l : List Nat) : Bool := l.all (· < 0x80)

/-- A label as it is sent. -/
def sentLabel (label : List Nat) : Except LabelFault (List Nat) := do
  let label ← if isAscii label then pure label else prepare label
  let label ←
    if isAscii label then pure label
    else if mark.isPrefixOf label then throw .marked
    else pure (mark ++ Punycode.encode label)
  if label.isEmpty || labelLimit ≤ label.length then throw .emptyOrLong
  pure label

def point : Nat := 0x2e

/-- The points between the labels of a name that is not all ASCII. -/
def isPoint (n : Nat) : Bool := n = point || n = 0x3002 || n = 0xff0e || n = 0xff61

/-- Changes each label of a name. The last one may be empty, and stays so. -/
def mapLabels (change : List Nat → Except LabelFault (List Nat)) (labels : List (List Nat)) :
    Except LabelFault (List Nat) := do
  let isEnded := labels.getLast?.any List.isEmpty
  let changed ← (if isEnded then labels.dropLast else labels).mapM change
  pure ([point].intercalate (changed ++ if isEnded then [[]] else []))

/-- A name as it is sent. One in ASCII is sent as it is, if its labels are not too
long and only the last one is empty. -/
def sentName (name : List Nat) : Except LabelFault (List Nat) :=
  if isAscii name then
    let labels := name.splitOn point
    if labels.dropLast.any (fun l => l.isEmpty || labelLimit ≤ l.length) then
      .error .emptyOrLong
    else if labels.getLast?.any (fun l => labelLimit ≤ l.length) then .error .long
    else .ok name
  else mapLabels sentLabel (name.splitOnP isPoint)

/-! ### Showing -/

def characters (l : List Nat) : List Char := l.map Char.ofNat

/-- A label as it is shown. One in Punycode must be what its text is sent as. -/
def shownLabel (label : List Nat) : Except LabelFault (List Nat) :=
  if mark.isPrefixOf label then do
    let shown ← (Punycode.decode (label.drop mark.length)).mapError .punycode
    let readBack ← sentLabel shown
    if readBack = label then pure shown
    else throw (.ambiguous (characters label) (characters readBack))
  else .ok label

/-- A name as it is sent. -/
def encodeName (name : List Char) : Except NameFault (List Char) :=
  ((sentName (name.map Char.toNat)).map characters).mapError .sending

/-- A name that was sent, as it is shown. -/
def decodeName (name : List Char) : Except NameFault (List Char) :=
  ((mapLabels shownLabel ((name.map Char.toNat).splitOn point)).map characters).mapError .showing

end Uniprocessor.Service.Host
