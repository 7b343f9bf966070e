import RecordQuery.Binary64.Arithmetic
import RecordQuery.Binary64.Layout

/-!
# Numbers in three representations

A query holds a number as a signed or an unsigned 64-bit integer or as a binary64 number. Numbers
of one representation compare exactly; numbers of different ones compare as binary64 numbers.
-/

namespace RecordQuery

/-- A number of a query document. -/
inductive Number where
  | signed (n : Int64)
  | unsigned (n : UInt64)
  | real (x : Binary64)
deriving DecidableEq, Repr

namespace Number

/-- The nearest binary64 number. -/
def toBinary64 : Number → Binary64
  | .signed n => .ofInt n.toInt
  | .unsigned n => .ofInt n.toNat
  | .real x => x

/-- The order of two numbers; a NaN is in no order with anything. -/
def compare : Number → Number → Option Ordering
  | .signed a, .signed b => some (Ord.compare a.toInt b.toInt)
  | .unsigned a, .unsigned b => some (Ord.compare a.toNat b.toNat)
  -- large integers of different representations may count as equal here
  | a, b => a.toBinary64.compare b.toBinary64

/-- Numeric equality, whatever the representations. -/
def equals (a b : Number) : Bool :=
  a.compare b == some .eq

def isNaN : Number → Bool
  | .real x => x.isNaN
  | _ => false

/-- Decimal text; a number that is not an integer has its shortest digits. -/
def text : Number → String
  | .signed n => toString n.toInt
  | .unsigned n => toString n.toNat
  | .real x => x.displayText

end Number

/-- `2 ^ 63`, the first integer that 64 bits do not hold with a sign. -/
def signedLimit : Int :=
  0x8000000000000000

/-- `2 ^ 64`, the first integer that 64 bits do not hold. -/
def unsignedLimit : Int :=
  0x10000000000000000

/-- A number of a JSON text: an integer of the range that 64 bits hold with or without a sign, or a
finite binary64 number. -/
inductive Numeral where
  | integer (n : Int) (low : -signedLimit ≤ n) (high : n < unsignedLimit)
  | real (x : Binary64) (finite : x.isFinite = true)
deriving DecidableEq

namespace Numeral

/-- The number as a query holds it: an integer is signed if it fits and unsigned otherwise. -/
def toNumber : Numeral → Number
  | .integer n _ _ => if n < signedLimit then .signed (.ofInt n) else .unsigned (.ofNat n.toNat)
  | .real x _ => .real x

/-- The integer, if it is one that fits 64 bits with a sign. -/
def toInt64? : Numeral → Option Int64
  | .integer n _ _ => if n < signedLimit then some (.ofInt n) else none
  | .real _ _ => none

/-- A binary64 number, if it is finite. -/
def ofBinary64? (x : Binary64) : Option Numeral :=
  if h : x.isFinite = true then some (.real x h) else none

/-- The integer `± n`, or the nearest binary64 number if 64 bits do not hold it; `none` if that is
not finite. A zero with a minus sign is a binary64 number. -/
def ofInteger? (negative : Bool) (n : Nat) : Option Numeral :=
  let value : Int := if negative then -n else n
  -- `-0` is no integer
  if h : -signedLimit ≤ value ∧ value < unsignedLimit ∧ ¬(negative = true ∧ n = 0) then
    some (.integer value h.1 h.2.1)
  else ofBinary64? (.ofDecimal negative ⟨n, 0⟩)

/-- The binary64 number nearest to `± digits * 10 ^ exponent`; `none` if that is not finite. -/
def ofDecimal? (negative : Bool) (d : Decimal) : Option Numeral :=
  ofBinary64? (.ofDecimal negative d)

end Numeral

end RecordQuery
