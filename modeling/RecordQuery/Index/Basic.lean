import RecordQuery.Record
import Std.Data.HashMap

/-!
# Equality indexes

An `EqualityIndex` holds, for each scalar that one attribute takes, the positions of the records
that have it, in ascending order. A record whose attribute is a list stands under each scalar of the
list. Numbers are found across representations; a number too large for its binary64 value to tell it
from its neighbours, and anything but a scalar, is not looked up.
-/

namespace RecordQuery

/-- What a scalar is found by. -/
inductive IndexKey where
  | null
  | bool (b : Bool)
  | number (bits : UInt64)
  | string (s : String)
deriving DecidableEq, Hashable, Repr

namespace IndexKey

/-- Numbers are found by their binary64 value; both zeros are one and a NaN is not found. -/
def ofNumber? (n : Number) : Option IndexKey :=
  let x := n.toBinary64
  if x.isNaN then none
  else if x.isZero then some (number Binary64.zero.bits)
  else some (number x.bits)

/-- The key of a scalar attribute. -/
def ofScalar? : Json → Option IndexKey
  | .null => some null
  | .bool b => some (bool b)
  | .number n => ofNumber? n.toNumber
  | .string s => some (string s)
  | .array _ _ | .object _ _ _ => none

/-- The keys under which a record with this attribute is found. -/
def ofAttribute : Option Json → List IndexKey
  | none => []
  | some (.array _ item) => (List.ofFn item).filterMap ofScalar?
  | some scalar => (ofScalar? scalar).toList

/-- From `2 ^ 53` on, integers share binary64 values. -/
def exactLimit : Binary64 :=
  .ofInt 9007199254740992

/-- The key of a value that can be looked up. -/
def ofValue? : Value → Option IndexKey
  | .null => some null
  | .bool b => some (bool b)
  | .number n =>
    -- a NaN is in no order with the limit and has no key either
    if (n.toBinary64.abs.compare exactLimit).any (·.isGE) then none else ofNumber? n
  | .string s => some (string s)
  | _ => none

end IndexKey

/-- The positions of records by the value of one attribute. -/
structure EqualityIndex where
  /-- The attribute: a key or a path. -/
  key : String
  positions : Std.HashMap IndexKey (List Nat)

namespace EqualityIndex

/-- Puts a position, no greater than those there, in front of them once. -/
def consPosition (position : Nat) (positions : List Nat) : List Nat :=
  if positions.head? = some position then positions else position :: positions

/-- The index of a list of attributes, one for each record. -/
def ofAttributes (key : String) (attrs : List (Option Json)) : EqualityIndex where
  key := key
  -- from the last record to the first, since positions are put in front
  positions := attrs.zipIdx.foldr (fun (attr, position) index =>
    (IndexKey.ofAttribute attr).foldl (fun index k =>
      index.insert k (consPosition position (index.getD k []))) index) ∅

/-- How many values the attribute takes. -/
def distinct (index : EqualityIndex) : Nat :=
  index.positions.size

/-- The positions of the records whose attribute equals the value, if it can be looked up. -/
def lookup? (index : EqualityIndex) (v : Value) : Option (List Nat) :=
  (IndexKey.ofValue? v).map fun k => index.positions.getD k []

variable {m : Type → Type} {ρ : Type} [Monad m] [Queryable m ρ]

/-- Reads the attribute of every record in turn and indexes them by it. -/
def build [Subscriber m] (key : String) (records : List ρ) (getter : Getter m ρ) :
    Eval m EqualityIndex := do
  let attrs ← records.mapM fun r => (Subject.of getter r).attr key (Path.ofKey? key)
  let index := ofAttributes key attrs
  receive (.indexed key records.length index.distinct)
  return index

end EqualityIndex

end RecordQuery
