import RecordQuery.Value.Basic

/-!
# Kinds of values

Every value of a query and every attribute of a record has a `Kind`. An attribute that a record
lacks has a kind of its own.
-/

namespace RecordQuery

inductive Kind where
  | null
  | undefined
  | boolean
  | number
  | string
  | array
  | object
  | regexp
  | date
  | function
deriving DecidableEq, Repr

namespace Kind

def all : List Kind :=
  [null, undefined, boolean, number, string, array, object, regexp, date, function]

/-- The name that a query tests a kind by. -/
def name : Kind → String
  | null => "null"
  | undefined => "undefined"
  | boolean => "boolean"
  | number => "number"
  | string => "string"
  | array => "array"
  | object => "object"
  | regexp => "regexp"
  | date => "date"
  | function => "function"

/-- Null and absent attributes count as undefined. -/
def isNullish (k : Kind) : Bool :=
  k = null || k = undefined

/-- The kind of an attribute that a record has or lacks. -/
def ofAttribute : Option Json → Kind
  | none => undefined
  | some .null => null
  | some (.bool _) => boolean
  | some (.number _) => number
  | some (.string _) => string
  | some (.array _ _) => array
  | some (.object _ _ _) => object

end Kind

def Value.kind : Value → Kind
  | .null => .null
  | .bool _ => .boolean
  | .number _ => .number
  | .string _ => .string
  | .array _ _ => .array
  | .object _ _ _ => .object
  | .pattern _ => .regexp
  | .date _ => .date
  | .function _ => .function

end RecordQuery
