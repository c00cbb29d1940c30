import RunnerFleet.Decimal.Binary64

/-!
# Numbers to a fixed count of decimal places

The exact value is rounded to the nearest decimal; a tie goes to the even neighbour.
-/

namespace RunnerFleet.Decimal

/-- The natural nearest to `num / den`; a tie goes to the even one. -/
def roundDiv (num den : Nat) : Nat :=
  let quotient := num / den
  let twice := 2 * (num % den)
  if twice > den ∨ (twice = den ∧ quotient % 2 = 1) then quotient + 1 else quotient

/-- `x` with exactly `places` digits after the point. -/
def fixed (places : Nat) (x : Float) : String :=
  (Binary64.ofFloat x).write fun m q =>
    positional (roundDiv (numerator m q * Nat.pow 10 places) (denominator q)) places

/-- The rounded quotient is within half a unit of the quotient. -/
theorem roundDiv_near (num : Nat) {den : Nat} (h : 0 < den) :
    2 * (roundDiv num den * den) ≤ 2 * num + den ∧
      2 * num ≤ 2 * (roundDiv num den * den) + den := by
  have hm := Nat.div_add_mod num den
  have hl := Nat.mod_lt num h
  have hc := Nat.mul_comm den (num / den)
  unfold roundDiv
  simp only
  split
  · rw [Nat.add_mul]; omega
  · omega

end RunnerFleet.Decimal
