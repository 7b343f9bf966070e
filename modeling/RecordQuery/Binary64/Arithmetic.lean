import RecordQuery.Binary64.Rounding

/-!
# Arithmetic on binary64 numbers

Sum, quotient and remainder, each the exact result rounded once, and the conversion to a 64-bit
integer that goes toward zero and stops at the ends of the range.
-/

namespace RecordQuery.Binary64

/-- The sum. Infinities of opposite signs have none, and `-0 + -0` alone gives `-0`. -/
def add (x y : Binary64) : Binary64 :=
  if x.isNaN || y.isNaN then nan
  else if x.isInfinite then
    if y.isInfinite && x.isNegative != y.isNegative then nan else x
  else if y.isInfinite then y
  else ofUnits (x.isNegative && y.isNegative) (x.units + y.units)

/-- The quotient. `0 / 0` and a quotient of infinities are NaN, and any other number divided by
zero is infinite. -/
def div (x y : Binary64) : Binary64 :=
  let negative := x.isNegative != y.isNegative
  if x.isNaN || y.isNaN then nan
  else if x.isInfinite then if y.isInfinite then nan else ofParts negative infinityMagnitude
  else if y.isInfinite then ofParts negative 0
  else if y.isZero then if x.isZero then nan else ofParts negative infinityMagnitude
  else ofQuotient negative (x.units.natAbs * unitsPerOne) y.units.natAbs

/-- The remainder of the division that goes toward zero; it has the sign of `x` and is exact. -/
def rem (x y : Binary64) : Binary64 :=
  if x.isNaN || y.isNaN || x.isInfinite || y.isZero then nan
  else if y.isInfinite then x
  else ofQuotient x.isNegative (x.units.natAbs % y.units.natAbs) 1

/-- The 64-bit integer nearest to an integer: one past an end of the range becomes that end. -/
def clampInt64 (n : Int) : Int64 :=
  .ofInt (max (-0x8000000000000000) (min 0x7fffffffffffffff n))

/-- The integer part, held within the 64-bit range; a NaN gives `0`. -/
def toInt64 (x : Binary64) : Int64 :=
  if x.isNaN then 0 else clampInt64 (x.units.tdiv unitsPerOne)

end RecordQuery.Binary64
