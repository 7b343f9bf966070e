import RecordQuery.Query.Evaluate

/-!
# Scores

The score of a record is the boost of the nodes that it passes, as a part of the boost of all
nodes. Every node is tested. Only a query that is one `$and` group has a score.
-/

namespace RecordQuery

namespace Query

/-- The nodes that a score counts, if the query is one `$and` group. -/
def scored? (q : Query) : Except CompileError (List Node) :=
  match q.groups with
  | [⟨.and, nodes, _⟩] => .ok nodes
  | groups => .error (.scoreRequiresSingleAnd (groups.map (·.kind)))

end Query

/-- Boosts summed in order, of all nodes and of those that pass. -/
structure Tally where
  total : Binary64
  passed : Binary64

namespace Tally

def empty : Tally :=
  ⟨.zero, .zero⟩

def count (t : Tally) (boost : Binary64) (pass : Bool) : Tally :=
  ⟨t.total.add boost, if pass then t.passed.add boost else t.passed⟩

/-- The boost that passes as a part of the total; zero if the total is. -/
def score (t : Tally) : Binary64 :=
  if t.total.isZero then .zero else t.passed.div t.total

end Tally

variable {m : Type → Type} [Monad m]

/-- Counts the nodes in order. -/
def tally (calls : Callbacks m) (s : Subject m) (nodes : List Node) : Eval m Tally :=
  nodes.foldlM (fun t node => return t.count node.boost (← node.eval calls s)) .empty

/-- The score of a record. -/
def Query.score (calls : Callbacks m) (s : Subject m) (q : Query) :
    ExceptT QueryError m Binary64 :=
  match q.scored? with
  | .error e => throw (.compile e)
  | .ok nodes => ExceptT.adapt .eval (Tally.score <$> tally calls s nodes)

end RecordQuery
