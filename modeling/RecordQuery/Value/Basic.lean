import RecordQuery.Json.Basic
import RecordQuery.Pattern.Reader
import RecordQuery.Text.Quoted
import RecordQuery.Timestamp.Basic

/-!
# Values of query documents

A query document maps keys to values. Its values are those of JSON and, besides them, patterns,
dates and callbacks. `Value.ofJson` embeds the JSON values, and `Value.equals` is the equality of
values: numbers count as equal across representations, a NaN equals nothing, and the order of the
keys of a document is of no account. Messages show a value on one line without blanks, as in
`{"a":[1,2],"b":/^x/}`.
-/

namespace RecordQuery

/-- The name by which a query refers to a test that its caller supplies. Callbacks are equal if they
have the same name, whatever their tests do. -/
structure Callback where
  id : Nat
deriving DecidableEq, Repr, Inhabited

inductive Value where
  | null
  | bool (b : Bool)
  | number (n : Number)
  | string (s : String)
  | array (size : Nat) (item : Fin size → Value)
  | object (keys : List String) (nodup : keys.Nodup) (value : Fin keys.length → Value)
  | pattern (p : Pattern)
  | date (t : Timestamp)
  | function (c : Callback)
deriving Inhabited

/-- A query: keys in order, each with what is asked of it. -/
abbrev Document := Fields Value

namespace Value

def ofList (items : List Value) : Value :=
  .array items.length items.get

def ofDocument (d : Document) : Value :=
  .object d.keys d.nodup d.value

/-- A JSON value as a query states it. -/
def ofJson : Json → Value
  | .null => .null
  | .bool b => .bool b
  | .number n => .number n.toNumber
  | .string s => .string s
  | .array size item => .array size fun i => ofJson (item i)
  | .object keys nodup value => .object keys nodup fun i => ofJson (value i)

/-- The elements of an array, in order. -/
def items? : Value → Option (List Value)
  | .array _ item => some (List.ofFn item)
  | _ => none

@[simp]
theorem items?_ofList (vs : List Value) : (ofList vs).items? = some vs :=
  congrArg some List.ofFn_getElem

def document? : Value → Option Document
  | .object keys nodup value => some ⟨keys, nodup, value⟩
  | _ => none

def string? : Value → Option String
  | .string s => some s
  | _ => none

def number? : Value → Option Number
  | .number n => some n
  | _ => none

def isNull : Value → Bool
  | .null => true
  | _ => false

def isNaN : Value → Bool
  | .number n => n.isNaN
  | _ => false

def isArray : Value → Bool
  | .array _ _ => true
  | _ => false

/-- Equality of values. Patterns are compared by their texts. -/
def equals : Value → Value → Bool
  | .null, .null => true
  | .bool a, .bool b => a == b
  | .number a, .number b => a.equals b
  | .string a, .string b => a == b
  | .array n a, .array m b =>
    if h : n = m then (List.finRange n).all fun i => equals (a i) (b (i.cast h)) else false
  | .object keys _ a, .object others _ b =>
    keys.length == others.length && (List.finRange keys.length).all fun i =>
      match others.finIdxOf? (keys.get i) with
      | some j => equals (a i) (b j)
      | none => false
  | .pattern a, .pattern b => a.source == b.source
  | .date a, .date b => a == b
  | .function a, .function b => a == b
  | _, _ => false

end Value

namespace Document

/-- The document that a JSON object states. -/
def ofFields (fields : Fields Json) : Document :=
  fields.map Value.ofJson

def equals (a b : Document) : Bool :=
  (Value.ofDocument a).equals (.ofDocument b)

end Document

/-! ## The text of values -/

/-- The text of a value. A callback shows nothing of itself. -/
def Value.text : Value → String
  | .null => "null"
  | .bool b => if b then "true" else "false"
  | .number n => n.text
  | .string s => Text.quoted s
  | .array _ item => "[" ++ ",".intercalate (List.ofFn fun i => text (item i)) ++ "]"
  | .object keys _ value =>
    "\x7b" ++ ",".intercalate
      (List.ofFn fun i => Text.quoted (keys.get i) ++ ":" ++ text (value i)) ++ "\x7d"
  | .pattern p => "/" ++ p.source ++ "/"
  | .date t => "Date(" ++ toString t.millis.toInt ++ ")"
  | .function _ => "<function>"

def Document.text (d : Document) : String :=
  (Value.ofDocument d).text

end RecordQuery
