import Uniprocessor.Number.Binary64

/-!
Floating-point numbers in decimal: with two places, and with the fewest digits
that read back as the same number.
-/

namespace Uniprocessor.Number

/-- The decimal digits of a natural number. -/
def digits (n : Nat) : List Char := Nat.toDigits 10 n

def zeros (n : Nat) : List Char := List.replicate n '0'

namespace Binary64

/-! ### Two places -/

/-- The hundredths nearest to the exact value; a tie goes to the even one. -/
def hundredths (mantissa : Nat) (exponent : Int) : Nat :=
  let (n, d) := scaled (100 * mantissa) 1 (-exponent)
  roundQuotient n d

def twoPlaces : Binary64 → String
  | finite negative m e =>
      let places := digits (hundredths m e % 100)
      String.ofList ((if negative then ['-'] else []) ++ digits (hundredths m e / 100) ++
        '.' :: zeros (2 - places.length) ++ places)
  | infinite negative => if negative then "-inf" else "inf"
  | notANumber => "nan"

/-! ### The fewest digits

The numbers that round to `m * 2 ^ e` lie between the midpoints to its
neighbours. The first decimal grid, from coarse to fine, on which one of the
two points around the number lies there gives the digits. -/

/-- The number `d * 10 ^ p` next to `m * 2 ^ e`, of the two around it, if it
rounds to it. Everything is counted in quarters of the last binary place. -/
def nearOnGrid (m : Nat) (e p : Int) : Option Nat :=
  let decimalUnit := powerOfTen p.toNat <<< (2 - e).toNat
  let binaryUnit := powerOfTen (-p).toNat <<< (e - 2).toNat
  let value := 4 * m * binaryUnit
  let low := (if m = leastFull ∧ leastExponent < e then 4 * m - 1 else 4 * m - 2) * binaryUnit
  let high := (4 * m + 2) * binaryUnit
  let inside (d : Nat) : Bool :=
    if m % 2 = 0 then low ≤ d * decimalUnit && d * decimalUnit ≤ high
    else low < d * decimalUnit && d * decimalUnit < high
  let below := value / decimalUnit
  let above := below + 1
  match inside below, inside above with
  | true, true =>
      let down := value - below * decimalUnit
      let up := above * decimalUnit - value
      if down < up ∨ (down = up ∧ below % 2 = 0) then some below else some above
  | true, false => some below
  | false, true => some above
  | false, false => none

/-- Tries `fuel` grids, from `10 ^ p` to finer ones. -/
def shortestFrom (m : Nat) (e : Int) : Nat → Int → Nat × Int
  | 0, p => (0, p)
  | fuel + 1, p =>
      match nearOnGrid m e p with
      | some d => (d, p)
      | none => shortestFrom m e fuel (p - 1)

/-- The digits and the power of ten of the shortest decimal that reads back. -/
def shortest (m : Nat) (e : Int) : Nat × Int :=
  let binaryPlace : Int := (m.log2 : Int) + e
  shortestFrom m e 24 (Int.fdiv (binaryPlace * 30103) 100000 + 2)

/-- Digits with their point after `point` places: positional for exponents from
-4 to 15, with an exponent of two digits at least beyond. -/
def layOut (ds : List Char) (point : Int) : List Char :=
  if -4 < point ∧ point ≤ 16 then
    if point ≤ 0 then '0' :: '.' :: zeros (-point).toNat ++ ds
    else if (ds.length : Int) ≤ point then ds ++ zeros (point.toNat - ds.length) ++ ['.', '0']
    else ds.take point.toNat ++ '.' :: ds.drop point.toNat
  else
    let exponent := digits (point - 1).natAbs
    let fraction := if ds.length ≤ 1 then [] else '.' :: ds.drop 1
    ds.take 1 ++ fraction ++ ['e', if point ≤ 0 then '-' else '+'] ++
      zeros (2 - exponent.length) ++ exponent

/-- The fewest digits that read back as the same number. -/
def render : Binary64 → String
  | finite negative m e =>
      let magnitude :=
        if m = 0 then ['0', '.', '0']
        else
          let (d, p) := shortest m e
          layOut (digits d) ((digits d).length + p)
      String.ofList ((if negative then ['-'] else []) ++ magnitude)
  | infinite negative => if negative then "-inf" else "inf"
  | notANumber => "nan"

end Binary64

end Uniprocessor.Number
