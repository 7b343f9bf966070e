import RecordQuery.Binary64.Basic

/-!
# Rounding to binary64

One function rounds an exact nonnegative quotient to the nearest number, a tie going to the even
significand. Every operation whose exact result is a quotient of integers rounds through it.
-/

namespace RecordQuery.Binary64

/-- `num / den` to the nearest whole number, a half going to the even one. -/
def roundHalfEven (num den : Nat) : Nat :=
  let whole := num / den
  let rest := num % den
  if den < 2 * rest ∨ (2 * rest = den ∧ whole % 2 = 1) then whole + 1 else whole

/-- The magnitude of the number nearest to `num / den` units of `2 ^ -1074`. The quotient is cut to
53 binary digits, fewer near zero; a carry out of the significand moves into the exponent field by
itself, and what is past the largest finite number is infinity. -/
def roundMagnitude (num den : Nat) : Nat :=
  -- no digit is cut from a number that is small enough
  let shift := (num / den).log2 + 1 - 53
  min infinityMagnitude (shift * exponentWeight + roundHalfEven num (den * Nat.pow 2 shift))

/-- The number nearest to `± num / den` units of `2 ^ -1074`. -/
def ofQuotient (negative : Bool) (num den : Nat) : Binary64 :=
  ofParts negative (roundMagnitude num den)

/-- The number nearest to a whole number of units; `0` gives the zero of the given sign. -/
def ofUnits (negativeZero : Bool) (units : Int) : Binary64 :=
  if units = 0 then ofParts negativeZero 0 else ofQuotient (units < 0) units.natAbs 1

/-- The number nearest to an integer. -/
def ofInt (n : Int) : Binary64 :=
  ofUnits false (n * unitsPerOne)

end RecordQuery.Binary64
