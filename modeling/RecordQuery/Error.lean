import RecordQuery.Json.Printer
import RecordQuery.Operator
import RecordQuery.Value.Basic

/-!
# Errors

A query document that is not a query has a `CompileError`. Running a query fails only in what its
caller supplies, with an `EvalError`. `message` says what is wrong in words.
-/

namespace RecordQuery

inductive CompileError where
  /-- An operand that does not have the shape its operator expects. -/
  | invalidOperand (op : Operator) (value : Value)
  /-- `$options` that are not a text. -/
  | invalidOptions (value : Value)
  | unknownOperator (name : String)
  /-- A combinator of something that is not a list. -/
  | expectedArray (c : Combinator)
  /-- A value where a document belongs. -/
  | expectedDocument (value : Value)
  /-- JSON other than an object, given as a whole query. -/
  | expectedObject (json : Json)
  | optionsWithoutRegex
  | invalidPattern (source : String)
  | invalidFlag (flag : Char)
  /-- A `$boost` that is not a number, not finite or negative. -/
  | invalidBoost (value : Value)
  /-- A score of a query that is not a single `$and` group; its groups are of these kinds. -/
  | scoreRequiresSingleAnd (found : List Combinator)
  /-- A score of a predicate. -/
  | scoreRequiresQuery

namespace CompileError

def message : CompileError → String
  | invalidOperand op value =>
    "query value (" ++ value.text ++ ") doesn't match query type: (" ++ op.name ++ ")"
  | invalidOptions value =>
    "query value (" ++ value.text ++ ") doesn't match query type: ($options)"
  | unknownOperator name => "unknown query operator '" ++ name ++ "'"
  | expectedArray c => c.name ++ " query must be an array"
  | expectedDocument value => "expected a query document, got " ++ value.text
  | expectedObject json => "expected a query document, got " ++ json.text
  | optionsWithoutRegex => "$options needs a $regex"
  | invalidPattern source => "invalid regex pattern: " ++ source
  | invalidFlag flag => "unsupported regex flag '" ++ flag.toString ++ "'"
  | invalidBoost value => "$boost must be a non-negative number, got " ++ value.text
  | scoreRequiresSingleAnd found =>
    let kinds := if found.isEmpty then "no groups" else ", ".intercalate (found.map (·.name))
    "score operations only work on a single $and query (found " ++ kinds ++ ")"
  | scoreRequiresQuery => "score operations need a query document or compiled query"

end CompileError

inductive EvalError where
  /-- A `$cb` failed, with this text. -/
  | callback (text : String)
  /-- Reading an attribute failed, with this text. -/
  | getter (key text : String)
  | unknownMethod (name : String)
  /-- A predicate failed, with this text. -/
  | predicate (text : String)
deriving DecidableEq, Repr

namespace EvalError

def message : EvalError → String
  | callback text => "callback failed: " ++ text
  | getter key text => "getter failed for '" ++ key ++ "': " ++ text
  | unknownMethod name => "record has no method '" ++ name ++ "'"
  | predicate text => "predicate failed: " ++ text

end EvalError

inductive QueryError where
  | compile (e : CompileError)
  | eval (e : EvalError)

namespace QueryError

def message : QueryError → String
  | compile e => e.message
  | eval e => e.message

end QueryError

/-- The document that a JSON value states. -/
def Document.ofJson? : Json → Except CompileError Document
  | .object keys nodup value => .ok (.ofFields ⟨keys, nodup, value⟩)
  | json => .error (.expectedObject json)

end RecordQuery
