import RecordQuery.Query.Basic
import RecordQuery.Text.Lowercase
import RecordQuery.Value.Comparison

/-!
# Tests of one attribute

`Operator.test` is what each operator asks of an attribute, by way of the tests that the forms of
operand give. `Condition.matches` asks it only of the kinds of attribute that the operator admits.
-/

namespace RecordQuery

/-! ## Texts in texts -/

/-- Whether `t` stands somewhere in a text. -/
def Text.occursIn (t : List Char) : List Char → Bool
  | [] => t.isEmpty
  | c :: rest => t.isPrefixOf (c :: rest) || occursIn t rest

@[simp]
theorem Text.occursIn_iff {t s : List Char} : occursIn t s = true ↔ t <:+: s := by
  induction s with
  | nil => cases t <;> simp [occursIn]
  | cons c rest ih =>
    rw [occursIn, Bool.or_eq_true, ih, List.isPrefixOf_iff_prefix, List.infix_cons_iff]

/-! ## What an operand holds -/

namespace Operand

/-- The listed values; none if the operand is not a list. -/
def items : Operand → List Value
  | list items => items
  | _ => []

/-- The characters of a text; none if the operand is not a text. -/
def chars : Operand → List Char
  | text s => s.toList
  | _ => []

/-! ## Tests by form of operand -/

/-- The attribute and the value are in an order that `accept` takes. Nothing is in an order with
null. -/
def orders (accept : Ordering → Bool) : Operand → Option Json → Bool
  | value v, some a => !v.isNull && (a.order? v).any accept
  | _, _ => false

/-- The attribute is in accepted orders with the two bounds of `$between` or `$betweene`. -/
def bounds (above below : Ordering → Bool) : Operand → Option Json → Bool
  | pair low high, some a =>
    !low.isNull && !high.isNull && (a.order? low).any above && (a.order? high).any below
  | _, _ => false

/-- The attribute is there, and not null, as the operand of `$exists` or `$has` says. -/
def states : Operand → Option Json → Bool
  | value (.bool expected), attr => attr.any (!·.isNull) == expected
  | _, _ => false

def namesKind : Operand → Option Json → Bool
  | value (.string name), attr => (Kind.ofAttribute attr).name == name
  | _, _ => false

def differs : Operand → Option Json → Bool
  -- an attribute that is not there differs from everything
  | value v, attr => !attr.any (·.deepEq v)
  | _, _ => false

/-- The attribute, or an element of it if it is a list, equals the value of `$equal`. -/
def equals : Operand → Option Json → Bool
  | value v, some (.array _ item) => (List.ofFn item).any (·.strictEq v)
  | value v, some a => a.strictEq v
  | _, _ => false

/-- The attribute leaves the second number of `$mod` as remainder of its division by the first. -/
def remains : Operand → Option Json → Bool
  | pair (.number divisor) (.number remainder), some (.number n) =>
    (n.toNumber.toBinary64.rem divisor.toBinary64).equals remainder.toBinary64
  | _, _ => false

def counts : Operand → Option Json → Bool
  | size expected, some (.string s) => (Number.unsigned (.ofNat s.length)).equals expected
  | size expected, some (.array n _) => (Number.unsigned (.ofNat n)).equals expected
  | _, _ => false

/-- The attribute is a text and passes. -/
def textTest (test : List Char → Bool) : Option Json → Bool
  | some (.string s) => test s.toList
  | _ => false

/-- The attribute is a list and passes. -/
def listTest (test : List Json → Bool) : Option Json → Bool
  | some (.array _ item) => test (List.ofFn item)
  | _ => false

def isElement : Operand → Option Json → Bool
  | value v, attr => listTest (containsValue · v) attr
  | _, _ => false

def matchesPattern : Operand → Option Json → Bool
  | pattern p, some (.string s) => p.isMatch s
  | _, _ => false

def deepEquals : Operand → Option Json → Bool
  | value v, some a => a.deepEq v
  | _, _ => false

def isInstant : Operand → Option Json → Bool
  | value (.date t), some a => Timestamp.ofAttribute? a == some t
  | _, _ => false

end Operand

/-! ## Tests by operator -/

/-- What the operator asks of an attribute. `$cb` and `$elemMatch` need more than the attribute and
are never true here. -/
def Operator.test (op : Operator) (operand : Operand) (attr : Option Json) : Bool :=
  match op with
  | .less => operand.orders (·.isLT) attr
  | .lessEqual => operand.orders (·.isLE) attr
  | .greater => operand.orders (·.isGT) attr
  | .greaterEqual => operand.orders (·.isGE) attr
  | .present | .has => operand.states attr
  | .kind => operand.namesKind attr
  | .notEqual => operand.differs attr
  | .equal => operand.equals attr
  | .modulo => operand.remains attr
  | .size => operand.counts attr
  | .between => operand.bounds (·.isGT) (·.isLT) attr
  | .betweenEqual => operand.bounds (·.isGE) (·.isLE) attr
  | .startsWith => Operand.textTest (operand.chars.isPrefixOf <| Text.lowercase ·) attr
  | .endsWith => Operand.textTest (operand.chars.isPrefixOf <| Text.reverseLower ·) attr
  | .like => Operand.textTest (Text.occursIn operand.chars) attr
  | .likeCaseless => Operand.textTest (Text.occursIn operand.chars <| Text.lowercase ·) attr
  | .contains => operand.isElement attr
  -- neither `$in` nor `$nin` is true of an attribute that is not there
  | .isIn => attr.any fun a => operand.items.any a.deepEq
  | .notIn => attr.any fun a => !operand.items.any a.deepEq
  | .containsAll => Operand.listTest (fun items => operand.items.all (containsValue items)) attr
  | .containsAny => Operand.listTest (fun items => operand.items.any (containsValue items)) attr
  | .containsNone => Operand.listTest (fun items => !operand.items.any (containsValue items)) attr
  | .regex | .regexp => operand.matchesPattern attr
  | .deepEqual => operand.deepEquals attr
  | .date => operand.isInstant attr
  | .callback | .elementMatch | .computed => false

/-- The test of an attribute by itself. -/
def Condition.matches (c : Condition) (attr : Option Json) : Bool :=
  c.op.admits (.ofAttribute attr) && c.op.test c.operand attr

end RecordQuery
