import RecordQuery.Index.Narrow
import RecordQuery.Query.Score
import RecordQuery.Query.Tester

/-!
# Running a query over records

A run tests a list of records and gives those that pass, the first of them, or every record with its
score. Records are tested in order, and a run for the first stops there. With indexes a run tests
only the candidates that they leave, against what is left of the query.
-/

namespace RecordQuery

/-- What a run is to give. -/
inductive Mode where
  | filter
  | first
  | score
deriving DecidableEq, Repr

/-- What records are tested by. -/
inductive Criteria (m : Type → Type) (ρ : Type) where
  | document (d : Document)
  | query (q : Query)
  | predicate (test : ρ → m (Except String Bool))

/-- What a run gives. -/
inductive Outcome (ρ : Type) where
  | all (records : List ρ)
  | first (record : Option ρ)
  | scored (records : List (ρ × Binary64))

/-- The records of an outcome in order. -/
def Outcome.records {ρ : Type} : Outcome ρ → List ρ
  | all records => records
  | first record => record.toList
  | scored records => records.map (·.1)

variable {m : Type → Type} {ρ : Type} [Monad m]

/-- The records that pass. -/
def selectAll (test : ρ → Eval m Bool) : List ρ → Eval m (List ρ)
  | [] => pure []
  | r :: records => do
    if ← test r then
      return r :: (← selectAll test records)
    else selectAll test records

/-- The first record that passes. -/
def selectFirst (test : ρ → Eval m Bool) : List ρ → Eval m (Option ρ)
  | [] => pure none
  | r :: records => do
    -- no record after the first that passes is tested
    if ← test r then pure (some r) else selectFirst test records

/-- The first record that passes, or all of them. -/
def select (test : ρ → Eval m Bool) (firstOnly : Bool) (records : List ρ) : Eval m (Outcome ρ) :=
  if firstOnly then .first <$> selectFirst test records else .all <$> selectAll test records

/-- The records at these positions. -/
def recordsAt (records : List ρ) (positions : List Nat) : List ρ :=
  let table := records.toArray
  positions.filterMap (table[·]?)

variable [Subscriber m] [Queryable m ρ]

/-- The score of every record. -/
def Query.scoreAll (calls : Callbacks m) (records : List ρ) (q : Query) (getter : Getter m ρ) :
    ExceptT QueryError m (List (ρ × Binary64)) :=
  records.mapM fun r => return (r, ← q.score calls (.of getter r))

/-- Runs a query, with indexes that were built over the same records in the same way. Scores need
every node and leave the indexes aside. -/
def Query.run (calls : Callbacks m) (records : List ρ) (q : Query) (getter : Getter m ρ)
    (mode : Mode) (indexes : List EqualityIndex) : ExceptT QueryError m (Outcome ρ) :=
  if mode = .score then
    .scored <$> q.scoreAll calls records getter
  else
    ExceptT.adapt .eval <|
      match q.narrow? indexes with
      | none => select (fun r => q.eval calls (.of getter r)) (mode = .first) records
      | some narrowed => do
        receive (.narrowed narrowed.answered narrowed.candidates.length)
        select (fun r => narrowed.rest.eval calls (.of getter r)) (mode = .first)
          (recordsAt records narrowed.candidates)

/-- Runs a predicate of the caller, which has no score. -/
def runPredicate (test : ρ → m (Except String Bool)) (records : List ρ) (mode : Mode) :
    ExceptT QueryError m (Outcome ρ) :=
  if mode = .score then throw (.compile .scoreRequiresQuery)
  else
    ExceptT.adapt .eval <|
      select (fun r => ExceptT.mk ((·.mapError .predicate) <$> test r)) (mode = .first) records

def runIndexed (calls : Callbacks m) (records : List ρ) (criteria : Criteria m ρ)
    (getter : Getter m ρ) (mode : Mode) (indexes : List EqualityIndex) :
    ExceptT QueryError m (Outcome ρ) :=
  match criteria with
  | .document d => do (← Query.compile d).run calls records getter mode indexes
  | .query q => q.run calls records getter mode indexes
  | .predicate test => runPredicate test records mode

def run (calls : Callbacks m) (records : List ρ) (criteria : Criteria m ρ) (getter : Getter m ρ)
    (mode : Mode) : ExceptT QueryError m (Outcome ρ) :=
  runIndexed calls records criteria getter mode []

/-- The records that match a document. -/
def filter (calls : Callbacks m) (records : List ρ) (d : Document) (getter : Getter m ρ) :
    ExceptT QueryError m (List ρ) := do
  return (← run calls records (.document d) getter .filter).records

/-- The first record that matches a document. -/
def findFirst (calls : Callbacks m) (records : List ρ) (d : Document) (getter : Getter m ρ) :
    ExceptT QueryError m (Option ρ) := do
  return (← run calls records (.document d) getter .first).records.head?

/-- The score of every record against a document. -/
def score (calls : Callbacks m) (records : List ρ) (d : Document) (getter : Getter m ρ) :
    ExceptT QueryError m (List (ρ × Binary64)) := do
  (← Query.compile d).scoreAll calls records getter

end RecordQuery
