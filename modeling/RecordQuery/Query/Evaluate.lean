import RecordQuery.Query.Condition
import RecordQuery.Record

/-!
# Evaluating queries

`Query.eval` tests a record. Nodes are tested in order and no further than the answer needs: a node
of the `decisive` answer settles its group, and a group that does not pass settles the query.
-/

namespace RecordQuery

namespace Combinator

/-- The answer of one node that settles the group. -/
def decisive : Combinator → Bool
  | and => false
  | _ => true

/-- Whether the group passes, given whether one of its nodes has settled it. -/
def passes (kind : Combinator) (settled : Bool) : Bool :=
  settled == (kind == or)

end Combinator

variable {m : Type → Type} [Monad m]

/-- Asks the caller's test of a `$cb`. -/
def Callbacks.call (calls : Callbacks m) (c : Callback) (s : Subject m) (attr : Option Json) :
    Eval m Bool :=
  ExceptT.mk ((·.mapError .callback) <$> calls c s.record attr)

/-- Whether some element of a list passes. -/
def anyElement (test : Json → Eval m Bool) : Option Json → Eval m Bool
  | some (.array _ item) => (List.ofFn item).anyM test
  | _ => pure false

mutual

def Condition.eval (calls : Callbacks m) (s : Subject m) : Condition → Eval m Bool
  | ⟨key, path, op, operand, _⟩ => do
    -- the attribute is read even if the operator then turns its kind away
    let attr ← s.attr key path
    if op.admits (.ofAttribute attr) then
      match op, operand with
      | .callback, .callback c => calls.call c s attr
      | .elementMatch, .query q => anyElement (fun item => q.eval calls (.ofElement item)) attr
      | op, operand => pure (op.test operand attr)
    else pure false

def Node.eval (calls : Callbacks m) (s : Subject m) : Node → Eval m Bool
  | .condition c => c.eval calls s
  | .group g => g.eval calls s

def Group.eval (calls : Callbacks m) (s : Subject m) : Group → Eval m Bool
  | ⟨kind, nodes, _⟩ => kind.passes <$> settles calls s kind.decisive nodes

/-- Whether some node answers `decisive`. -/
def settles (calls : Callbacks m) (s : Subject m) (decisive : Bool) : List Node → Eval m Bool
  | [] => pure false
  | node :: nodes => do
    -- the nodes after one that settles the group are not tested
    if (← node.eval calls s) = decisive then pure true else settles calls s decisive nodes

def Query.eval (calls : Callbacks m) (s : Subject m) : Query → Eval m Bool
  | ⟨groups⟩ => allPass calls s groups

def allPass (calls : Callbacks m) (s : Subject m) : List Group → Eval m Bool
  | [] => pure true
  | group :: groups => do
    if ← group.eval calls s then allPass calls s groups else pure false

end

end RecordQuery
