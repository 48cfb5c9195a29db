import Uniprocessor.Number.Rounding

/-!
Floating-point numbers of 64 bits, as exact values.

A finite number is `mantissa * 2 ^ exponent` with a mantissa below `2 ^ 53` and
an exponent from -1074 to 971; the mantissa is at least `2 ^ 52` unless the
exponent is the least one.
-/

namespace Uniprocessor.Number

inductive Binary64 where
  | finite (negative : Bool) (mantissa : Nat) (exponent : Int)
  | infinite (negative : Bool)
  | notANumber
  deriving DecidableEq, Repr

namespace Binary64

def leastExponent : Int := -1074

def greatestExponent : Int := 971

/-- The least mantissa of 53 bits, `2 ^ 52`. -/
def leastFull : Nat := 1 <<< 52

/-- The first number that no mantissa reaches, `2 ^ 53`. -/
def mantissaBound : Nat := 1 <<< 53

def powerOfTen (n : Nat) : Nat := Nat.pow 10 n

/-- `num / (den * 2 ^ e)` as a quotient of natural numbers. -/
def scaled (num den : Nat) (e : Int) : Nat × Nat :=
  if 0 ≤ e then (num, den <<< e.toNat) else (num <<< (-e).toNat, den)

/-- The exponent for which the quotient has a mantissa of 53 bits, or the least
exponent if that is greater. -/
def exponentFor (num den : Nat) : Int :=
  let guess : Int := (num.log2 : Int) - den.log2 - 53
  let (n, d) := scaled num den guess
  max leastExponent (if mantissaBound * d ≤ n then guess + 1 else guess)

/-- The floating-point number nearest to `num / den`; a tie goes to the even
mantissa. -/
def ofRatio (negative : Bool) (num den : Nat) : Binary64 :=
  if num = 0 then .finite negative 0 leastExponent
  else
    let e := exponentFor num den
    let (n, d) := scaled num den e
    let m := roundQuotient n d
    let (m, e) := if m = mantissaBound then (leastFull, e + 1) else (m, e)
    if greatestExponent < e then .infinite negative else .finite negative m e

/-- The number nearest to `digits * 10 ^ exponent`. Magnitudes that are out of
range by far are told by the number of digits alone. -/
def ofDecimal (negative : Bool) (digits : Nat) (exponent : Int) : Binary64 :=
  let magnitude : Int := ((Nat.toDigits 10 digits).length : Int) + exponent
  if digits = 0 ∨ magnitude < -400 then .finite negative 0 leastExponent
  else if 400 < magnitude then .infinite negative
  else if 0 ≤ exponent then ofRatio negative (digits * powerOfTen exponent.toNat) 1
  else ofRatio negative digits (powerOfTen (-exponent).toNat)

def signBit (negative : Bool) : Nat := if negative then 1 <<< 63 else 0

/-- The 64 bits: sign, biased exponent, fraction. -/
def toBits : Binary64 → Nat
  | finite negative m e =>
      let fraction := if m < leastFull then m else (e + 1075).toNat * leastFull + (m - leastFull)
      signBit negative + fraction
  | infinite negative => signBit negative + 2047 * leastFull
  | notANumber => 2047 * leastFull + leastFull / 2

/-- The value, if it is a whole number. -/
def whole? : Binary64 → Option Int
  | finite negative m e =>
      let sign : Int := if negative then -1 else 1
      if 0 ≤ e then some (sign * (m <<< e.toNat : Nat))
      else
        let unit := 1 <<< (-e).toNat
        if m % unit = 0 then some (sign * (m / unit : Nat)) else none
  | _ => none

/-- The value is below zero, or is zero. -/
def isAtMostZero : Binary64 → Bool
  | finite negative m _ => negative || m = 0
  | infinite negative => negative
  | notANumber => false

end Binary64

/-- A quotient is beyond the finite numbers. -/
inductive TooLarge where
  | quotient
  deriving DecidableEq, Repr

def TooLarge.message : TooLarge → String
  | .quotient => "integer division result too large for a float"

/-- The floating-point number nearest to the mean, if there are any values. -/
def mean (values : List Int) : Except TooLarge (Option Binary64) :=
  if values.isEmpty then .ok none
  else
    let total := values.foldl (· + ·) 0
    match Binary64.ofRatio (total < 0) total.natAbs values.length with
    | .infinite _ => .error .quotient
    | value => .ok (some value)

end Uniprocessor.Number
