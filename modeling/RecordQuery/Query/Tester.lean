import RecordQuery.Query.Compile
import RecordQuery.Query.Evaluate

/-!
# Compiling for use

`Query.compile` reads a document and reports it. A `Tester` is a query bound to a way of reading
attributes, a test of single records.
-/

namespace RecordQuery

variable {m : Type → Type} {ρ : Type} [Monad m]

/-- Reads a document as a query and reports what was read. -/
def Query.compile [Subscriber m] (d : Document) : ExceptT QueryError m Query :=
  match Query.ofDocument? d with
  | .error e => throw (.compile e)
  | .ok q => do
    receive (.compiled d.size q.groups.length)
    return q

/-- A query that is ready to test records. -/
structure Tester (m : Type → Type) (ρ : Type) where
  query : Query
  getter : Getter m ρ

namespace Tester

def compile [Subscriber m] (d : Document) (getter : Getter m ρ) :
    ExceptT QueryError m (Tester m ρ) := do
  return ⟨← Query.compile d, getter⟩

def test [Queryable m ρ] (calls : Callbacks m) (tester : Tester m ρ) (r : ρ) : Eval m Bool :=
  tester.query.eval calls (.of tester.getter r)

end Tester

end RecordQuery
