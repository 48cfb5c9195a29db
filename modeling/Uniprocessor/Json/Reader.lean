import Uniprocessor.Json
import Uniprocessor.Text.Numeral

/-!
Reading JSON, with the place of the first fault.

Beyond standard JSON the reader takes `NaN`, `Infinity` and `-Infinity`. Of
several fields with one key the last wins. A fault is placed by the number of
code points that were left to read, which `place` turns into a line and a column.
-/

namespace Uniprocessor.Json

open Number (Binary64)

/-- What a reader can miss in a text. -/
inductive Cause where
  | value
  | property
  | colon
  | comma
  | extraData
  | unterminated
  | control
  | escape
  | unicodeEscape
  | byteOrderMark
  deriving DecidableEq, Repr

def Cause.message : Cause → String
  | .value => "Expecting value"
  | .property => "Expecting property name enclosed in double quotes"
  | .colon => "Expecting ':' delimiter"
  | .comma => "Expecting ',' delimiter"
  | .extraData => "Extra data"
  | .unterminated => "Unterminated string starting at"
  | .control => "Invalid control character at"
  | .escape => "Invalid \\escape"
  | .unicodeEscape => "Invalid \\uXXXX escape"
  | .byteOrderMark => "Unexpected UTF-8 BOM (decode using utf-8-sig)"

/-- The two kinds of brackets. -/
inductive Bracket where
  | list
  | object
  deriving DecidableEq, Repr

/-- Why a text is not read: a fault in its form, where `left` code points were
still to read, a whole number with too many digits, or a bracket within too
many others. -/
inductive Fault where
  | malformed (cause : Cause) (left : Nat)
  | tooManyDigits (count : Nat)
  | tooDeep (bracket : Bracket)
  deriving DecidableEq, Repr

/-- How many brackets may be open at a time. Each takes a level of a stack of a thousand;
the number is what is left to a caller of the loaders that stands fifteen levels down. From
further down, as from the command line, it is less by what the caller's own calls take. -/
def depthLimit : Nat := 985

def missing {α : Type} (cause : Cause) (rest : Text) : Except Fault α :=
  .error (.malformed cause rest.length)

def isSpace (c : CodePoint) : Bool :=
  c == .char ' ' || c == .char '\t' || c == .char '\n' || c == .char '\r'

def skipSpace (t : Text) : Text := t.dropWhile isSpace

/-! ### Strings -/

/-- A unit of sixteen bits, written in hexadecimal. The text has to go on
behind it. -/
def unit? : Text → Option (Nat × Text)
  | .char a :: .char b :: .char c :: .char d :: e :: rest => do
      let a ← Text.hexValue? a
      let b ← Text.hexValue? b
      let c ← Text.hexValue? c
      let d ← Text.hexValue? d
      pure (4096 * a + 256 * b + 16 * c + d, e :: rest)
  | _ => none

/-- The code point of a single unit. -/
def ofUnit (n : Nat) : CodePoint := (CodePoint.ofNat? n).getD (.char (Char.ofNat 0xfffd))

/-- A code point from its escape, behind the `u`. Two halves in a row are one
character. -/
def unicodePoint (afterU : Text) : Except Fault (CodePoint × Text) :=
  match unit? afterU with
  | none => .error (.malformed .unicodeEscape (afterU.length + 1))
  | some (high, rest) =>
      match CodePoint.isHigh high, rest with
      | true, .char '\\' :: .char 'u' :: more =>
          if more.length < 5 then .ok (ofUnit high, rest)
          else match unit? more with
            | none => .error (.malformed .unicodeEscape (more.length + 1))
            | some (low, rest') =>
                if CodePoint.isLow low then .ok (CodePoint.join high low, rest')
                else .ok (ofUnit high, rest)
      | _, _ => .ok (ofUnit high, rest)

/-- The character that a letter stands for behind a backslash. -/
def escaped? (c : Char) : Option Char :=
  match c with
  | '"' => some '"'
  | '\\' => some '\\'
  | '/' => some '/'
  | 'b' => some '\x08'
  | 'f' => some '\x0c'
  | 'n' => some '\n'
  | 'r' => some '\r'
  | 't' => some '\t'
  | _ => none

/-- The code points of a string up to its closing quote; `left` places the
opening one. Each step reads at least one of them, so `fuel` above their number
is enough. -/
def stringTail (left : Nat) : Nat → Text → Text → Except Fault (Text × Text)
  | 0, _, _ => .error (.malformed .unterminated left)
  | _, [], _ => .error (.malformed .unterminated left)
  | _, .char '"' :: rest, done => .ok (done.reverse, rest)
  | _, [.char '\\'], _ => .error (.malformed .unterminated left)
  | fuel + 1, .char '\\' :: .char 'u' :: rest, done => do
      let (c, rest) ← unicodePoint rest
      stringTail left fuel rest (c :: done)
  | fuel + 1, .char '\\' :: c :: rest, done =>
      match escaped? c.toChar with
      | some e => stringTail left fuel rest (.char e :: done)
      | none => missing .escape (.char '\\' :: c :: rest)
  | fuel + 1, c :: rest, done =>
      if c.value < 0x20 then missing .control (c :: rest)
      else stringTail left fuel rest (c :: done)

/-- A string behind its opening quote. -/
def string (rest : Text) : Except Fault (Text × Text) :=
  stringTail (rest.length + 1) (rest.length + 1) rest []

/-! ### Numbers -/

def isDigit (c : CodePoint) : Bool := 48 ≤ c.value && c.value ≤ 57

def natOf (ds : Text) : Nat := ds.foldl (fun n c => 10 * n + (c.value - 48)) 0

/-- The digits of a fraction, behind a point that a digit follows. -/
def fraction : Text → Text × Text
  | .char '.' :: d :: rest =>
      if isDigit d then ((d :: rest).takeWhile isDigit, (d :: rest).dropWhile isDigit)
      else ([], .char '.' :: d :: rest)
  | rest => ([], rest)

/-- A power of ten, if one is written in full. -/
def exponent? (t : Text) : Option Int × Text :=
  let signed (negative : Bool) (rest : Text) : Option Int × Text :=
    let ds := rest.takeWhile isDigit
    if ds.isEmpty then (none, t)
    else
      let n : Int := natOf ds
      (some (if negative then -n else n), rest.dropWhile isDigit)
  match t with
  | e :: rest =>
      if e = .char 'e' ∨ e = .char 'E' then
        match rest with
        | .char '+' :: rest => signed false rest
        | .char '-' :: rest => signed true rest
        | rest => signed false rest
      else (none, t)
  | [] => (none, t)

/-- A number behind its sign; `start` is the text from the sign on. -/
def number (negative : Bool) (start t : Text) : Except Fault (Json × Text) :=
  let whole := match t with
    | .char '0' :: _ => [CodePoint.char '0']
    | _ => t.takeWhile isDigit
  if whole.isEmpty then missing .value start
  else
    let (places, rest) := fraction (t.drop whole.length)
    let (exponent, rest) := exponent? rest
    if places.isEmpty ∧ exponent.isNone then
      if Text.digitLimit < whole.length then .error (.tooManyDigits whole.length)
      else
        let n : Int := natOf whole
        .ok (.int (if negative then -n else n), rest)
    else
      let power : Int := exponent.getD 0 - places.length
      .ok (.real (Binary64.ofDecimal negative (natOf (whole ++ places)) power), rest)

/-! ### Values -/

/-- The text behind a word that it starts with. -/
def behind? (word : Text) (t : Text) : Option Text :=
  if word.isPrefixOf t then some (t.drop word.length) else none

/-- A value that is no string, list or object. -/
def scalar (t : Text) : Except Fault (Json × Text) :=
  let words : List (Text × Json) :=
    [("null", .null), ("true", .bool true), ("false", .bool false), ("NaN", .real .notANumber),
     ("Infinity", .real (.infinite false)), ("-Infinity", .real (.infinite true))]
  match words.findSome? (fun w => (behind? w.1 t).map (fun rest => (w.2, rest))) with
  | some found => .ok found
  | none =>
      match t with
      | .char '-' :: rest => number true t rest
      | _ => number false t t

mutual

/-- A value at the front of the text, where `room` more brackets may be opened.
Every bracket takes two steps, so `fuel` above twice the length of the text is
enough. -/
def value : Nat → Nat → Text → Except Fault (Json × Text)
  | 0, _, t => missing .value t
  | fuel + 1, room, t =>
      match t, room with
      | .char '"' :: rest, _ => do
          let (s, rest) ← string rest
          pure (.str s, rest)
      | .char '[' :: _, 0 => .error (.tooDeep .list)
      | .char '[' :: rest, room + 1 =>
          match skipSpace rest with
          | .char ']' :: rest => .ok (.arr [], rest)
          | rest => do
              let (items, rest) ← items fuel room rest
              pure (.arr items, rest)
      | .char '\x7b' :: _, 0 => .error (.tooDeep .object)
      | .char '\x7b' :: rest, room + 1 =>
          match skipSpace rest with
          | .char '\x7d' :: rest => .ok (.obj [], rest)
          | rest => do
              let (fields, rest) ← fields fuel room rest
              pure (.obj (Table.ofList fields).entries, rest)
      | _, _ => scalar t

/-- The items of a list up to its closing bracket. -/
def items : Nat → Nat → Text → Except Fault (List Json × Text)
  | 0, _, t => missing .value t
  | fuel + 1, room, t => do
      let (j, rest) ← value fuel room t
      match skipSpace rest with
      | .char ']' :: rest => .ok ([j], rest)
      | .char ',' :: rest => do
          let (others, rest) ← items fuel room (skipSpace rest)
          pure (j :: others, rest)
      | rest => missing .comma rest

/-- The fields of an object up to its closing brace. -/
def fields : Nat → Nat → Text → Except Fault (List (Text × Json) × Text)
  | 0, _, t => missing .property t
  | fuel + 1, room, t =>
      match t with
      | .char '"' :: rest => do
          let (key, rest) ← string rest
          match skipSpace rest with
          | .char ':' :: rest => do
              let (j, rest) ← value fuel room (skipSpace rest)
              match skipSpace rest with
              | .char '\x7d' :: rest => .ok ([(key, j)], rest)
              | .char ',' :: rest => do
                  let (others, rest) ← fields fuel room (skipSpace rest)
                  pure ((key, j) :: others, rest)
              | rest => missing .comma rest
          | rest => missing .colon rest
      | _ => missing .property t

end

/-- The value that a whole text writes. -/
def ofText (t : Text) : Except Fault Json := do
  let (j, rest) ← value (2 * t.length + 2) depthLimit (skipSpace t)
  match skipSpace rest with
  | [] => pure j
  | rest => missing .extraData rest

def byteOrderMark : CodePoint := .char (Char.ofNat 0xfeff)

/-- The value that a text without a byte order mark writes. -/
def ofUnmarked (t : Text) : Except Fault Json :=
  if t.head? = some byteOrderMark then missing .byteOrderMark t else ofText t

/-! ### Places -/

/-- The place of an offset: its line and its column, both from 1. -/
def place (t : Text) (offset : Nat) : Nat × Nat :=
  let before := t.take offset
  let column := (before.reverse.takeWhile (· ≠ .char '\n')).length
  (before.count (.char '\n') + 1, column + 1)

/-- What is wrong with a text, and where. -/
def Fault.message (t : Text) : Fault → String
  | .malformed cause left =>
      let offset := t.length - left
      let (line, column) := place t offset
      s!"{cause.message}: line {line} column {column} (char {offset})"
  | .tooManyDigits count => Text.digitLimitMessage count
  | .tooDeep bracket =>
      let kind := match bracket with
        | .list => "array"
        | .object => "object"
      s!"maximum recursion depth exceeded while decoding a JSON {kind} from a unicode string"

end Uniprocessor.Json
