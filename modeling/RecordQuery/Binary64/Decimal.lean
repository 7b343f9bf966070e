import RecordQuery.Binary64.Rounding

/-!
# Decimal fractions and binary64

`Decimal` is a decimal fraction `digits * 10 ^ exponent`. `ofDecimal` reads one as the nearest
number. `toDecimal` writes a number with the fewest digits that read back as the same number, and
of those the nearest to it; where two are equally near, a `Tie` says which is taken.
-/

namespace RecordQuery

/-- The decimal fraction `digits * 10 ^ exponent`. -/
structure Decimal where
  digits : Nat
  exponent : Int
deriving DecidableEq, Repr

namespace Decimal

/-- How many decimal digits `n` has; `0` has one. -/
def digitCount (n : Nat) : Nat :=
  (Nat.toDigits 10 n).length

/-- Moves the zeros that `digits` ends in to the exponent; at most `fuel` of them. -/
def dropZeros : Nat → Decimal → Decimal
  | 0, d => d
  | fuel + 1, d =>
    if d.digits % 10 = 0 then dropZeros fuel ⟨d.digits / 10, d.exponent + 1⟩ else d

end Decimal

namespace Binary64

/-- The number nearest to `± digits * 10 ^ exponent`. An exponent that puts the fraction far
outside the range of finite numbers is not raised to a power. -/
def ofDecimal (negative : Bool) (d : Decimal) : Binary64 :=
  let top := Decimal.digitCount d.digits + d.exponent
  if d.digits = 0 ∨ top < -400 then ofParts negative 0
  else if 400 < top then ofParts negative infinityMagnitude
  else if 0 ≤ d.exponent then
    ofQuotient negative (d.digits * Nat.pow 10 d.exponent.toNat * unitsPerOne) 1
  else ofQuotient negative (d.digits * unitsPerOne) (Nat.pow 10 (-d.exponent).toNat)

/-- Whether `± digits * 10 ^ exponent` reads back as the magnitude: it lies between the midpoints
to both neighbours, the midpoints themselves counting when the significand is even. -/
def readsBack (magnitude : Nat) (d : Decimal) : Bool :=
  let low := unitsOfMagnitude (magnitude - 1) + unitsOfMagnitude magnitude
  let high := unitsOfMagnitude magnitude + unitsOfMagnitude (magnitude + 1)
  let num := 2 * unitsPerOne * d.digits * Nat.pow 10 d.exponent.toNat
  let den := Nat.pow 10 (-d.exponent).toNat
  if magnitude % 2 = 0 then low * den ≤ num ∧ num ≤ high * den
  else low * den < num ∧ num < high * den

/-- The position of the decimal point: the least `p` such that the magnitude is below `10 ^ p`. -/
def pointPosition (magnitude : Nat) : Int :=
  Decimal.digitCount (unitsOfMagnitude magnitude * Nat.pow 10 400 / unitsPerOne) - 400

/-- Which of two equally near decimal fractions is taken. -/
inductive Tie where
  | up
  | even
deriving DecidableEq, Repr

/-- The two neighbours of the magnitude on the grid of multiples of `10 ^ exponent`, nearer one
first. -/
def neighbours (tie : Tie) (magnitude : Nat) (exponent : Int) : List Decimal :=
  let num := unitsOfMagnitude magnitude * Nat.pow 10 (-exponent).toNat
  let den := unitsPerOne * Nat.pow 10 exponent.toNat
  let whole := num / den
  let rest := num % den
  let below : Decimal := ⟨whole, exponent⟩
  let above : Decimal := ⟨whole + 1, exponent⟩
  if 2 * rest < den ∨ (2 * rest = den ∧ tie = .even ∧ whole % 2 = 0) then [below, above]
  else [above, below]

/-- The shortest decimal fraction that reads back as the magnitude, trying grids of `count` digits
and more; `fuel` grids are tried. Seventeen digits are enough for every number. -/
def shortest (tie : Tie) (magnitude : Nat) : Nat → Nat → Decimal
  | 0, _ => ⟨0, 0⟩
  | fuel + 1, count =>
    let exponent := pointPosition magnitude - count
    match (neighbours tie magnitude exponent).find? (readsBack magnitude) with
    | some d => d
    | none => shortest tie magnitude fuel (count + 1)

/-- The magnitude of a finite number with the fewest digits that read back, the nearest of those;
no digits end in zero. -/
def toDecimal (tie : Tie) (x : Binary64) : Decimal :=
  if x.isZero then ⟨0, 0⟩ else Decimal.dropZeros 20 (shortest tie x.magnitude 17 1)

end Binary64

end RecordQuery
