import Uniprocessor.Json.Reader
import Uniprocessor.Text.Utf8

/-!
The bytes of a JSON text.

JSON starts with ASCII characters, so the zeros among the first bytes tell UTF-8,
UTF-16 and UTF-32 apart, and which end of a unit comes first.
-/

namespace Uniprocessor.Json

/-- Which end of a unit its first byte is. -/
inductive ByteOrder where
  | bigEnd
  | littleEnd
  deriving DecidableEq, Repr

inductive Encoding where
  | utf8
  | utf16 (order : ByteOrder)
  | utf32 (order : ByteOrder)
  deriving DecidableEq, Repr

namespace Encoding

/-- The encoding of a text, by the zeros among its first bytes. -/
def ofBytes : List Nat → Encoding
  | 0 :: b :: _ :: _ :: _ => if b = 0 then .utf32 .bigEnd else .utf16 .bigEnd
  | _ :: 0 :: c :: d :: _ =>
      if c = 0 ∧ d = 0 then .utf32 .littleEnd else .utf16 .littleEnd
  | [0, _] => .utf16 .bigEnd
  | [_, 0] => .utf16 .littleEnd
  | _ => .utf8

/-- The number that two parts of a unit make, where each part is below `base`. -/
def joined (order : ByteOrder) (base first second : Nat) : Nat :=
  match order with
  | .bigEnd => base * first + second
  | .littleEnd => base * second + first

/-- The units that pairs of parts make; none may be left over. -/
def pairs? (order : ByteOrder) (base : Nat) : List Nat → Option (List Nat)
  | [] => some []
  | first :: second :: rest =>
      (pairs? order base rest).map (joined order base first second :: ·)
  | [_] => none

/-- The code points of units of sixteen bits. A high and a low half in a row are
one character; any other half stands alone. -/
def pointsOf : List Nat → Text
  | [] => []
  | [unit] => [ofUnit unit]
  | high :: low :: rest =>
      if CodePoint.isHigh high && CodePoint.isLow low then CodePoint.join high low :: pointsOf rest
      else ofUnit high :: pointsOf (low :: rest)

/-- The text without a byte order mark in front. -/
def dropMark : Text → Text
  | c :: rest => if c = byteOrderMark then rest else c :: rest
  | [] => []

/-- The text that bytes stand for, if they stand for one. Only UTF-8 may start
with a byte order mark. -/
def decode? (e : Encoding) (bytes : List Nat) : Option Text :=
  match e with
  | .utf8 => (Text.Utf8.decode bytes).toOption.map (fun l => dropMark (l.map .char))
  | .utf16 order => (pairs? order 256 bytes).map pointsOf
  | .utf32 order => do
      let halves ← pairs? order 256 bytes
      let units ← pairs? order 65536 halves
      units.mapM CodePoint.ofNat?

end Encoding

/-- The value that bytes write, or why they write none; `none` for bytes that
are no text. -/
def ofBytes? (bytes : List Nat) : Option (Except Fault Json) :=
  ((Encoding.ofBytes bytes).decode? bytes).map ofText

end Uniprocessor.Json
