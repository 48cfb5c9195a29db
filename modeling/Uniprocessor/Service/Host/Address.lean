import Uniprocessor.Text.Numeral

/-!
Hosts that are addresses in digits.
-/

namespace Uniprocessor.Service.Host

/-- A decimal number below 256 without zeros in front. -/
def isOctet (l : List Char) : Bool :=
  !l.isEmpty && l.length ≤ 3 && l.all Char.isDigit && (l.head? ≠ some '0' || l.length = 1) &&
    Text.ofAsciiDigits l ≤ 255

/-- Four octets with points between them. -/
def isVersion4 (l : List Char) : Bool :=
  let octets := l.splitOn '.'
  octets.length = 4 && octets.all isOctet

/-- One to four hexadecimal digits. -/
def isGroup (l : List Char) : Bool :=
  !l.isEmpty && l.length ≤ 4 && l.all Text.isHexDigit

/-- How many groups a part of an address has. A last one of octets counts as two,
where `dotted` allows it. -/
def groupCount? (dotted : Bool) : List (List Char) → Option Nat
  | [] => some 0
  | [last] =>
      if isGroup last then some 1 else if dotted && isVersion4 last then some 2 else none
  | group :: rest => if isGroup group then (groupCount? dotted rest).map (· + 1) else none

/-- The groups between the colons of a part of an address. -/
def groupsOf (l : List Char) : List (List Char) := if l.isEmpty then [] else l.splitOn ':'

/-- What stands on the two sides of the first gap, which is two colons in a row. -/
def splitGap : List Char → Option (List Char × List Char)
  | ':' :: ':' :: rest => some ([], rest)
  | c :: rest => (splitGap rest).map (fun (left, right) => (c :: left, right))
  | [] => none

/-- Eight groups with colons between them, or fewer around a gap. A percent sign
and the name of a zone may follow. -/
def isVersion6 (l : List Char) : Bool :=
  let address := l.takeWhile (· ≠ '%')
  let zoned := match l.dropWhile (· ≠ '%') with
    | [] => true
    | _ :: zone => !zone.isEmpty && !zone.contains '%'
  let full := match splitGap address with
    | none => groupCount? true (groupsOf address) = some 8
    | some (left, right) =>
        match groupCount? false (groupsOf left), groupCount? true (groupsOf right) with
        | some m, some n => m + n < 8
        | _, _ => false
  zoned && full

/-- An address of a later version: the letter v, the version in hexadecimal, a
point, and something behind it. -/
def isLaterVersion (l : List Char) : Bool :=
  match l with
  | 'v' :: rest =>
      !(rest.takeWhile Text.isHexDigit).isEmpty &&
        match rest.dropWhile Text.isHexDigit with
        | '.' :: _ :: _ => true
        | _ => false
  | _ => false

end Uniprocessor.Service.Host
