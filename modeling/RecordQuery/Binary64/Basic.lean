/-!
# IEEE 754 binary64 numbers

A `Binary64` is a 64-bit word. Every finite one is a whole multiple of `2 ^ -1074`, so its exact
value is the integer `units`, and comparing two numbers is comparing two integers. Words of
nonnegative numbers are ordered as their values are, and the word after the largest finite one is
infinity.
-/

namespace RecordQuery

/-- A binary64 number, given by its word: a sign bit, 11 exponent bits and 52 fraction bits. -/
structure Binary64 where
  bits : UInt64
deriving DecidableEq, Repr, Inhabited

namespace Binary64

/-- The weight of the sign bit: `2 ^ 63`. -/
def signWeight : Nat :=
  0x8000000000000000

/-- The weight of the lowest exponent bit: `2 ^ 52`. -/
def exponentWeight : Nat :=
  0x10000000000000

/-- The word without its sign bit. -/
def magnitude (x : Binary64) : Nat :=
  x.bits.toNat % signWeight

/-- Whether the sign bit is set, as it also is for `-0`. -/
def isNegative (x : Binary64) : Bool :=
  signWeight ≤ x.bits.toNat

/-- The magnitude of the infinities; larger magnitudes are NaNs, smaller ones are finite. -/
def infinityMagnitude : Nat :=
  0x7ff0000000000000

def isNaN (x : Binary64) : Bool :=
  infinityMagnitude < x.magnitude

def isInfinite (x : Binary64) : Bool :=
  x.magnitude = infinityMagnitude

def isFinite (x : Binary64) : Bool :=
  x.magnitude < infinityMagnitude

/-- Whether this is `0` or `-0`. -/
def isZero (x : Binary64) : Bool :=
  x.magnitude = 0

/-- The number with the given sign bit and magnitude. -/
def ofParts (negative : Bool) (magnitude : Nat) : Binary64 :=
  ⟨.ofNat ((if negative then signWeight else 0) + magnitude)⟩

def zero : Binary64 := ⟨0⟩

def one : Binary64 := ⟨0x3ff0000000000000⟩

def infinity : Binary64 := ⟨0x7ff0000000000000⟩

def negInfinity : Binary64 := ⟨0xfff0000000000000⟩

def nan : Binary64 := ⟨0x7ff8000000000000⟩

/-- The value of a magnitude in multiples of `2 ^ -1074`. For the magnitude of infinity it is the
value that the next number would have, which is above that of every finite number. -/
def unitsOfMagnitude (magnitude : Nat) : Nat :=
  let exponent := magnitude / exponentWeight
  let fraction := magnitude % exponentWeight
  if exponent = 0 then fraction else (exponentWeight + fraction) * Nat.pow 2 (exponent - 1)

/-- How many units make one: `2 ^ 1074`. -/
def unitsPerOne : Nat :=
  Nat.pow 2 1074

/-- The exact value in multiples of `2 ^ -1074`; both zeros give `0`. -/
def units (x : Binary64) : Int :=
  if x.isNegative then -(unitsOfMagnitude x.magnitude : Int) else unitsOfMagnitude x.magnitude

/-- The order of two numbers; a NaN is in no order with anything, itself included. -/
def compare (x y : Binary64) : Option Ordering :=
  if x.isNaN || y.isNaN then none else some (Ord.compare x.units y.units)

/-- Numeric equality: `0` equals `-0`, and a NaN equals nothing. -/
def equals (x y : Binary64) : Bool :=
  x.compare y == some .eq

/-- The number with its sign bit cleared. -/
def abs (x : Binary64) : Binary64 :=
  ofParts false x.magnitude

end Binary64

end RecordQuery
