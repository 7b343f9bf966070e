import RecordQuery.Error
import RecordQuery.Query.Basic
import RecordQuery.Text.Lowercase

/-!
# Clauses

A clause is what one attribute is asked: a literal, or operators with their operands. An object is a
clause of operators if its keys are; it may then also have a `$boost` and, beside `$regex` or
`$regexp`, `$options`. A literal and an operator with its operand each state one condition.
-/

namespace RecordQuery

/-- What a clause counts in a score stands under this key. -/
def boostKey : String :=
  "$boost"

/-- The options of `$regex` and `$regexp` stand under this key. -/
def optionsKey : String :=
  "$options"

/-- Whether a key of a clause begins with `$`, as the names of operators do. -/
def isReserved (key : String) : Bool :=
  "$".toList.isPrefixOf key.toList

@[simp]
theorem Operator.name_ne_boostKey (op : Operator) : op.name ≠ boostKey := by
  cases op <;> decide

@[simp]
theorem Operator.name_ne_optionsKey (op : Operator) : op.name ≠ optionsKey := by
  cases op <;> decide

@[simp]
theorem Operator.isReserved_name (op : Operator) : isReserved op.name = true := by
  cases op <;> decide

/-- The `$boost` of a document, if it has one. It must be finite and not negative. -/
def Document.boost? (d : Document) : Except CompileError (Option Binary64) :=
  match d.get? boostKey with
  | none => .ok none
  | some (.number n) =>
    let x := n.toBinary64
    -- minus zero is in order with zero, so it will do
    if x.isFinite && (x.compare .zero).any (·.isGE) then .ok (some x)
    else .error (.invalidBoost (.number n))
  | some v => .error (.invalidBoost v)

/-- What an operator name in a clause stands for. -/
inductive Verb where
  | join (c : Combinator)
  | test (op : Operator)

def Verb.ofName? (name : String) : Except CompileError Verb :=
  match Combinator.ofName? name with
  | some c => .ok (.join c)
  | none =>
    match Operator.ofName? name with
    | some op => .ok (.test op)
    | none => .error (.unknownOperator name)

/-- Whether a name is that of an operator which takes `$options`. -/
def namesPattern (name : String) : Bool :=
  (Operator.ofName? name).any (·.takesOptions)

/-- Whether an object with these keys, `$boost` apart, is a clause of operators; if not, it is a
literal. `$options` need `$regex` or `$regexp`, and operators do not mix with other keys. -/
def isOperatorClause (keys : List String) : Except CompileError Bool :=
  match keys.find? (!isReserved ·) with
  | some key => if keys.any isReserved then .error (.unknownOperator key) else .ok false
  | none =>
    match keys.filter (· ≠ optionsKey) with
    | [] => if keys.isEmpty then .ok false else .error .optionsWithoutRegex
    | [name] => do
      -- an unknown name is reported before `$options` that it does not take
      discard (Verb.ofName? name)
      if keys.contains optionsKey && !namesPattern name then .error .optionsWithoutRegex
      else return true
    | names =>
      if keys.contains optionsKey && !names.any namesPattern then .error .optionsWithoutRegex
      else .ok true

/-! ## Conditions -/

/-- Adds what one letter of `$options` asks for. Two of the letters ask for what holds anyway. -/
def Pattern.Flags.add? (flags : Pattern.Flags) (letter : Char) :
    Except CompileError Pattern.Flags :=
  match letter with
  | 'i' => .ok { flags with caseInsensitive := true }
  | 'm' => .ok { flags with multiLine := true }
  | 's' => .ok { flags with dotMatchesNewLine := true }
  | 'x' => .ok { flags with ignoreWhitespace := true }
  | 'u' | 'g' => .ok flags
  | _ => .error (.invalidFlag letter)

def Pattern.Flags.ofOptions? : Option Value → Except CompileError Pattern.Flags
  | none => .ok {}
  | some (.string letters) => letters.toList.foldlM Pattern.Flags.add? {}
  | some v => .error (.invalidOptions v)

/-- The pattern that an operand gives. `$options` change how a text is read and have no effect on a
pattern literal. -/
def Pattern.ofOperand? (v : Value) (options : Option Value) : Except CompileError Pattern :=
  match v with
  | .pattern p => .ok p
  | .string source => do
    match Pattern.compile? (← Pattern.Flags.ofOptions? options) source with
    | some p => return p
    | none => .error (.invalidPattern source)
  | v => .error (.invalidOperand .regex v)

/-- The operand of a value, in the form that the operator needs. -/
def Operand.ofValue? (op : Operator) (v : Value) (options : Option Value) :
    Except CompileError Operand :=
  match op, v with
  | .endsWith, .string s => .ok (.text (.ofList (Text.reverseLower s.toList)))
  | .startsWith, .string s | .likeCaseless, .string s =>
    .ok (.text (.ofList (Text.lowercase s.toList)))
  | .like, .string s => .ok (.text s)
  -- the one form of operand that can still be refused
  | .regex, v | .regexp, v => return .pattern (← Pattern.ofOperand? v options)
  | .isIn, .array _ item | .notIn, .array _ item | .containsAll, .array _ item
  | .containsAny, .array _ item | .containsNone, .array _ item => .ok (.list (List.ofFn item))
  | .between, .array 2 item | .betweenEqual, .array 2 item | .modulo, .array 2 item =>
    .ok (.pair (item 0) (item 1))
  | .size, .number n => .ok (.size n)
  | .callback, .function c => .ok (.callback c)
  | _, v => .ok (.value v)

/-- Lists, objects and NaN are compared by their parts, not as scalars. -/
def Value.isStructured : Value → Bool
  | .array _ _ | .object _ _ _ => true
  | v => v.isNaN

/-- The condition that an operator and its operand state. -/
def Condition.ofOperator? (key : String) (op : Operator) (v : Value) (options : Option Value) :
    Except CompileError Condition := do
  let operand ← Operand.ofValue? op v options
  return .ofKey key (if op = .equal && v.isStructured then .deepEqual else op) operand

/-- The condition that a value states by itself. -/
def Condition.ofLiteral? (key : String) (v : Value) : Except CompileError Condition :=
  match v with
  | .pattern p => .ok (.ofKey key .regexp (.pattern p))
  | .date _ => .ok (.ofKey key .date (.value v))
  | .function _ => .error (.invalidOperand .equal v)
  | v => .ok (.ofKey key (if v.isStructured then .deepEqual else .equal) (.value v))

end RecordQuery
