import RecordQuery.Kind

/-!
# Operators

An `Operator` tests one attribute against an operand and a `Combinator` joins tests. Every operator
has a name, a `Shape` that its operand must have and a `Guard` on the kind of the attribute. The
order in which they are listed is the order in which tests are made: those that reject cheaply
first, those that run a query of their own last.
-/

namespace RecordQuery

inductive Operator where
  | less
  | lessEqual
  | greater
  | greaterEqual
  | present
  | has
  | kind
  | notEqual
  | equal
  | modulo
  | size
  | between
  | betweenEqual
  | startsWith
  | endsWith
  | like
  | likeCaseless
  | contains
  | isIn
  | notIn
  | containsAll
  | containsAny
  | containsNone
  | callback
  | regex
  | regexp
  | deepEqual
  | elementMatch
  | date
  | computed
deriving DecidableEq, Repr

/-- What an operator expects of its operand. -/
inductive Shape where
  | any
  | array
  | number
  | string
  | pattern
  | pair
  | function
  | document
deriving DecidableEq, Repr

/-- What an operator requires of an attribute. If an attribute is not of that kind, the test is
false. -/
inductive Guard where
  | any
  | string
  | array
  | stringOrArray
  | defined
deriving DecidableEq, Repr

namespace Shape

/-- Whether a value has the shape. Any value except a callback will do for `any`. -/
def accepts : Shape → Value → Bool
  | any, v => v.kind ≠ .function
  | array, v => v.kind = .array
  | number, v => v.kind = .number
  | string, v => v.kind = .string
  -- the text of a pattern will do for one
  | pattern, v => v.kind = .regexp || v.kind = .string
  | pair, .array size _ => size = 2
  | pair, _ => false
  | function, v => v.kind = .function
  | document, v => v.kind = .object

end Shape

namespace Guard

def admits : Guard → Kind → Bool
  | any, _ => true
  | string, k => k = .string
  | array, k => k = .array
  | stringOrArray, k => k = .string || k = .array
  | defined, k => !k.isNullish

end Guard

namespace Operator

/-- The operators in the order in which their tests are made. -/
def all : List Operator :=
  [less, lessEqual, greater, greaterEqual, present, has, kind, notEqual, equal, modulo, size,
    between, betweenEqual, startsWith, endsWith, like, likeCaseless, contains, isIn, notIn,
    containsAll, containsAny, containsNone, callback, regex, regexp, deepEqual, elementMatch, date,
    computed]

def name : Operator → String
  | less => "$lt"
  | lessEqual => "$lte"
  | greater => "$gt"
  | greaterEqual => "$gte"
  | present => "$exists"
  | has => "$has"
  | kind => "$type"
  | notEqual => "$ne"
  | equal => "$equal"
  | modulo => "$mod"
  | size => "$size"
  | between => "$between"
  | betweenEqual => "$betweene"
  | startsWith => "$startsWith"
  | endsWith => "$endsWith"
  | like => "$like"
  | likeCaseless => "$likeI"
  | contains => "$contains"
  | isIn => "$in"
  | notIn => "$nin"
  | containsAll => "$all"
  | containsAny => "$any"
  | containsNone => "$none"
  | callback => "$cb"
  | regex => "$regex"
  | regexp => "$regexp"
  | deepEqual => "$deepEqual"
  | elementMatch => "$elemMatch"
  | date => "$date"
  | computed => "$computed"

def shape : Operator → Shape
  | isIn | notIn | containsAll | containsAny | containsNone => .array
  | size => .number
  | startsWith | endsWith | like | likeCaseless => .string
  | regex | regexp => .pattern
  | modulo | between | betweenEqual => .pair
  | callback => .function
  | elementMatch => .document
  | _ => .any

def guard : Operator → Guard
  | startsWith | endsWith | like | likeCaseless | regex | regexp => .string
  | contains | containsAll | containsAny | containsNone | elementMatch => .array
  | size => .stringOrArray
  | isIn | notIn => .defined
  | _ => .any

/-- Whether an operand has the shape that the operator expects. -/
def accepts (op : Operator) (v : Value) : Bool :=
  op.shape.accepts v

/-- Whether the operator can be true of an attribute of this kind. -/
def admits (op : Operator) (k : Kind) : Bool :=
  op.guard.admits k

def ofName? (name : String) : Option Operator :=
  all.find? (·.name == name)

@[simp]
theorem ofName?_name (op : Operator) : ofName? op.name = some op := by
  cases op <;> decide

theorem ofName?_eq_some_iff {name : String} {op : Operator} :
    ofName? name = some op ↔ op.name = name := by
  refine ⟨fun h => ?_, fun h => h ▸ ofName?_name op⟩
  simpa using List.find?_some h

/-- Whether the operator takes a pattern, to which options can be given. -/
def takesOptions (op : Operator) : Bool :=
  op = regex || op = regexp

end Operator

/-- How tests are joined. -/
inductive Combinator where
  | and
  | not
  | or
  | nor
deriving DecidableEq, Repr

namespace Combinator

/-- The combinators in the order in which the groups of a query are tested. -/
def all : List Combinator :=
  [and, not, or, nor]

def name : Combinator → String
  | and => "$and"
  | not => "$not"
  | or => "$or"
  | nor => "$nor"

/-- Whether what is joined must be a list. -/
def expectsArray (c : Combinator) : Bool :=
  c ≠ not

def ofName? (name : String) : Option Combinator :=
  all.find? (·.name == name)

@[simp]
theorem mem_all (c : Combinator) : c ∈ all := by
  cases c <;> decide

@[simp]
theorem ofName?_name (c : Combinator) : ofName? c.name = some c := by
  cases c <;> decide

theorem ofName?_eq_some_iff {name : String} {c : Combinator} :
    ofName? name = some c ↔ c.name = name := by
  refine ⟨fun h => ?_, fun h => h ▸ ofName?_name c⟩
  simpa using List.find?_some h

@[simp]
theorem name_inj {c c' : Combinator} : c.name = c'.name ↔ c = c' := by
  refine ⟨fun h => ?_, fun h => h ▸ rfl⟩
  simpa using congrArg ofName? h

/-- No operator has the name of a combinator. -/
@[simp]
theorem ofName?_operator_name (op : Operator) : ofName? op.name = none := by
  cases op <;> decide

end Combinator

/-! ## The order of tests

An operator is tested at the place that it has in the list. Groups follow the operators, and last
come those that have no place of their own.
-/

/-- The place of what is tested last. -/
def lastPrecedence : Nat :=
  32

def Operator.precedence : Operator → Nat
  | .date | .computed => lastPrecedence
  | op => op.ctorIdx

def Combinator.precedence : Combinator → Nat
  | .not => 28
  | .and => 29
  | .or => 30
  | .nor => 31

theorem Operator.precedence_le (op : Operator) : op.precedence ≤ lastPrecedence := by
  cases op <;> decide

theorem Combinator.precedence_lt (c : Combinator) : c.precedence < lastPrecedence := by
  cases c <;> decide

end RecordQuery
