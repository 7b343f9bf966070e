import RecordQuery.Value.Basic

/-!
# Comparing attributes with values

An attribute of a record is a JSON value and what it is compared with is a value of a query.
`Json.strictEq` and `Json.deepEq` are equality of scalars and of all values, `Json.order?` orders
the two if they are of comparable kinds. Dates meet attributes that give an instant.
-/

namespace RecordQuery

namespace Json

/-- Equality of scalars. Numbers are compared across representations, and any attribute that gives
an instant equals that date. Lists and objects equal nothing. -/
def strictEq : Json → Value → Bool
  | .null, .null => true
  | .bool a, .bool b => a == b
  | .number a, .number b => a.toNumber.equals b
  | .string a, .string b => a == b
  | a, .date t => Timestamp.ofAttribute? a == some t
  | _, _ => false

/-- Equality of lists element by element, of objects key by key, and of anything else as scalars. -/
def deepEq : Json → Value → Bool
  | .array n a, .array m b =>
    if h : n = m then (List.finRange n).all fun i => deepEq (a i) (b (i.cast h)) else false
  | .object keys _ a, .object others _ b =>
    keys.length == others.length && (List.finRange others.length).all fun j =>
      match keys.finIdxOf? others[j] with
      | some i => deepEq (a i) (b j)
      | none => false
  | a, b => strictEq a b

/-- The order of an attribute and a value: numbers, texts, truth values or instants. -/
def order? : Json → Value → Option Ordering
  | .number a, .number b => a.toNumber.compare b
  | .string a, .string b => some (compare a b)
  | .bool a, .bool b => some (compare a b)
  | a, .date t => (Timestamp.ofAttribute? a).map (·.compare t)
  | _, _ => none

end Json

/-- Whether an element of the list equals the value. -/
def containsValue (items : List Json) (v : Value) : Bool :=
  items.any (·.deepEq v)

end RecordQuery
