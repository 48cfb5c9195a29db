/-!
Rounding a quotient to the nearest whole number; a tie goes to the even one.
-/

namespace Uniprocessor.Number

/-- The whole number nearest to `num / den`. -/
def roundQuotient (num den : Nat) : Nat :=
  let q := num / den
  let r := num % den
  if 2 * r < den then q
  else if den < 2 * r then q + 1
  else q + q % 2

/-- The rounded quotient is off by half a unit at most. -/
theorem roundQuotient_near (num den : Nat) (h : 0 < den) :
    2 * num ≤ (2 * roundQuotient num den + 1) * den ∧
      2 * roundQuotient num den * den ≤ 2 * num + den := by
  have whole := Nat.div_add_mod num den
  have small := Nat.mod_lt num h
  unfold roundQuotient
  generalize num / den = q at whole
  generalize num % den = r at whole small
  have expand (a b : Nat) : (a + b) * den = a * den + b * den := Nat.add_mul a b den
  have times : den * q = q * den := Nat.mul_comm den q
  have double (a : Nat) : 2 * a * den = 2 * (a * den) := Nat.mul_assoc 2 a den
  rcases Nat.mod_two_eq_zero_or_one q with parity | parity <;>
    simp only [parity] <;> split <;> (try split) <;>
    simp only [expand, double, Nat.add_zero, Nat.one_mul, Nat.mul_add] <;> omega

end Uniprocessor.Number
