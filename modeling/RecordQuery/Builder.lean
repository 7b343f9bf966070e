import RecordQuery.Run

/-!
# Building a query piece by piece

A `Builder` collects fragments of a query under the four combinators, over a list of records, and
runs the document that they make up. Only the order of fragments under the same combinator counts.
-/

namespace RecordQuery

structure Builder (m : Type → Type) (ρ : Type) where
  records : List ρ
  fragments : Combinator → List Value
  getter : Getter m ρ
  /-- The attributes that indexes are built for. -/
  indexes : List String

namespace Builder

variable {m : Type → Type} {ρ : Type}

/-- A builder without fragments, whose query every record passes. -/
def ofRecords (records : List ρ) : Builder m ρ :=
  ⟨records, fun _ => [], .property, []⟩

/-- Adds a fragment under a combinator. -/
def add (b : Builder m ρ) (kind : Combinator) (fragment : Value) : Builder m ρ :=
  { b with fragments := fun k => b.fragments k ++ if k = kind then [fragment] else [] }

/-- Adds what a single attribute is asked. -/
def addWhere (b : Builder m ρ) (kind : Combinator) (key : String) (clause : Value) :
    Builder m ρ :=
  b.add kind (.ofDocument (.singleton key clause))

def withGetter (b : Builder m ρ) (getter : Getter m ρ) : Builder m ρ :=
  { b with getter := getter }

/-- Asks for an index, unless there is to be one. -/
def withIndex (b : Builder m ρ) (key : String) : Builder m ρ :=
  if b.indexes.contains key then b else { b with indexes := b.indexes ++ [key] }

/-- The document that the fragments make up. -/
def document (b : Builder m ρ) : Document :=
  .ofList <| (Combinator.all.filter fun kind => !(b.fragments kind).isEmpty).map fun kind =>
    (kind.name, .ofList (b.fragments kind))

variable [Monad m] [Subscriber m]

def compile (b : Builder m ρ) : ExceptT QueryError m Query :=
  Query.compile b.document

def tester (b : Builder m ρ) : ExceptT QueryError m (Tester m ρ) :=
  Tester.compile b.document b.getter

variable [Queryable m ρ]

/-- Compiles the document, builds the indexes and runs the query. -/
def execute (calls : Callbacks m) (b : Builder m ρ) (mode : Mode) :
    ExceptT QueryError m (Outcome ρ) := do
  let q ← b.compile
  let keys := if mode = .score then [] else b.indexes
  let indexes ← keys.mapM fun key =>
    ExceptT.adapt QueryError.eval (EqualityIndex.build key b.records b.getter)
  q.run calls b.records b.getter mode indexes

/-- The records that match. -/
def all (calls : Callbacks m) (b : Builder m ρ) : ExceptT QueryError m (List ρ) := do
  return (← b.execute calls .filter).records

/-- The first record that matches. -/
def first (calls : Callbacks m) (b : Builder m ρ) : ExceptT QueryError m (Option ρ) := do
  return (← b.execute calls .first).records.head?

/-- How many records match. -/
def count (calls : Callbacks m) (b : Builder m ρ) : ExceptT QueryError m Nat := do
  return (← b.all calls).length

/-- The score of every record. -/
def score (calls : Callbacks m) (b : Builder m ρ) : ExceptT QueryError m (List (ρ × Binary64)) := do
  (← b.compile).scoreAll calls b.records b.getter

end Builder

end RecordQuery
