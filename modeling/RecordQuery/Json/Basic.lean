import RecordQuery.Fields
import RecordQuery.Number

/-!
# JSON values

Records and their attributes are JSON values. The elements of an array are a function of their
positions and the fields of an object a function of the positions of its distinct keys, so that a
definition by recursion on a value reaches every part of it, one found by its key included.
-/

namespace RecordQuery

inductive Json where
  | null
  | bool (b : Bool)
  | number (n : Numeral)
  | string (s : String)
  | array (size : Nat) (item : Fin size → Json)
  | object (keys : List String) (nodup : keys.Nodup) (value : Fin keys.length → Json)
deriving Inhabited

namespace Json

def ofList (items : List Json) : Json :=
  .array items.length items.get

def ofFields (fields : Fields Json) : Json :=
  .object fields.keys fields.nodup fields.value

/-- The elements of an array, in order. -/
def items? : Json → Option (List Json)
  | .array _ item => some (List.ofFn item)
  | _ => none

/-- The fields of an object. -/
def fields? : Json → Option (Fields Json)
  | .object keys nodup value => some ⟨keys, nodup, value⟩
  | _ => none

def isNull : Json → Bool
  | .null => true
  | _ => false

/-- The value of an attribute. An object gives the field of that name. A list gives the list of
what its elements give, with `null` for those that give nothing. -/
def attr (key : String) : Json → Option Json
  | .object keys _ value => (keys.finIdxOf? key).map value
  | .array size item => some (.array size fun i => (attr key (item i)).getD .null)
  | _ => none

/-- What the remaining segments of a path lead to. At a list all of them apply to every element,
and an element that leads nowhere gives `null`. -/
def lookup : Json → List String → Option Json
  | json, [] => some json
  | .array size item, segment :: rest =>
    some (.array size fun i => (lookup (item i) (segment :: rest)).getD .null)
  | .object keys _ value, segment :: rest =>
    match keys.finIdxOf? segment with
    | some i => lookup (value i) rest
    | none => none
  | _, _ :: _ => none

end Json

end RecordQuery
