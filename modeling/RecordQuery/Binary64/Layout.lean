import RecordQuery.Binary64.Decimal

/-!
# How binary64 numbers are written

Two layouts share the shortest digits. `displayText` is positional at any size and writes whole
numbers without a point. `jsonText` always shows that the number is not an integer and turns to an
exponent for very large and very small ones.
-/

namespace RecordQuery.Binary64

/-- `n` zeros. -/
def zeros (n : Nat) : String :=
  String.ofList (List.replicate n '0')

/-- The digits of a decimal fraction with the point in its place, in positional notation. -/
def positional (d : Decimal) : String :=
  let digits := toString d.digits
  let point : Int := digits.length + d.exponent
  if 0 ≤ d.exponent then digits ++ zeros d.exponent.toNat
  else if 0 < point then
    String.ofList (digits.toList.take point.toNat) ++ "." ++
      String.ofList (digits.toList.drop point.toNat)
  else "0." ++ zeros (-point).toNat ++ digits

/-- The sign and `body` for finite numbers, and the names of the others. -/
def signed (x : Binary64) (body : String) : String :=
  if x.isNaN then "NaN"
  else
    let sign := if x.isNegative then "-" else ""
    if x.isInfinite then sign ++ "inf" else sign ++ body

/-- Shortest digits in positional notation, never with an exponent: `100`, `0.5`, `-0`, `inf`. Of
two equally near fractions the one farther from zero is shown. -/
def displayText (x : Binary64) : String :=
  x.signed (positional (x.toDecimal .up))

/-- The exponent with its sign: `+300`, `-7`. -/
def exponentText (e : Int) : String :=
  (if e < 0 then "-" else "+") ++ toString e.natAbs

/-- Shortest digits as a JSON number: `1.0`, `0.001`, `1e+300`, `2.5e-7`. The notation is
positional when the point falls among the first sixteen digits or after at most four zeros. Of two
equally near fractions the one with an even last digit is shown. -/
def jsonText (x : Binary64) : String :=
  let d := x.toDecimal .even
  let digits := toString d.digits
  let point : Int := digits.length + d.exponent
  x.signed <|
    if -5 < point ∧ point ≤ 16 then
      if 0 ≤ d.exponent then positional d ++ ".0" else positional d
    else
      let head := String.ofList (digits.toList.take 1)
      let tail := String.ofList (digits.toList.drop 1)
      head ++ (if tail.isEmpty then "" else "." ++ tail) ++ "e" ++ exponentText (point - 1)

end RecordQuery.Binary64
