import RecordQuery.Arrange
import RecordQuery.Operator
import RecordQuery.Path

/-!
# Queries

A compiled query is a list of groups that all have to pass. A `Group` joins nodes by a combinator
and a node is a group or a `Condition`, which tests one attribute. The operand of `$elemMatch` holds
a query of its own, so the types are defined together.
-/

namespace RecordQuery

mutual

/-- What an attribute is tested against, in the form that its operator needs. -/
inductive Operand where
  | value (v : Value)
  | list (items : List Value)
  | pair (first second : Value)
  | size (n : Number)
  | text (s : String)
  | pattern (p : Pattern)
  | callback (c : Callback)
  | query (q : Query)

/-- The test of one attribute. -/
structure Condition where
  key : String
  /-- How the attribute is found in the record, if not by its key. -/
  path : Option Path
  op : Operator
  operand : Operand
  /-- What the node counts in a score: its `$boost`, or one. -/
  boost : Binary64

inductive Node where
  | condition (c : Condition)
  | group (g : Group)

/-- Nodes that are joined by a combinator. -/
structure Group where
  kind : Combinator
  nodes : List Node
  /-- What the node counts in a score: its `$boost`, or one. -/
  boost : Binary64

structure Query where
  groups : List Group

end

instance : Inhabited Operand := ⟨.value .null⟩
instance : Inhabited Query := ⟨⟨[]⟩⟩

namespace Query

def isEmpty (q : Query) : Bool :=
  q.groups.isEmpty

end Query

/-- A condition without `$boost`. A dotted key is a path. -/
def Condition.ofKey (key : String) (op : Operator) (operand : Operand) : Condition where
  key := key
  path := Path.ofKey? key
  op := op
  operand := operand
  boost := .one

/-- A group without `$boost`. -/
def Group.ofNodes (kind : Combinator) (nodes : List Node) : Group :=
  ⟨kind, nodes, .one⟩

namespace Node

/-- Its place in the order of tests. -/
def precedence : Node → Nat
  | condition c => c.op.precedence
  | group g => g.kind.precedence

def boost : Node → Binary64
  | condition c => c.boost
  | group g => g.boost

def withBoost (boost : Binary64) : Node → Node
  | condition c => condition { c with boost := boost }
  | group g => group { g with boost := boost }

/-- Makes a condition read its attribute as a path, whatever its key. -/
def readDirectly (key : String) : Node → Node
  | condition c => condition { c with path := some (.ofText key) }
  | group g => group g

/-- The nodes in the order of tests. Nodes of the same place stay in order. -/
def arrange (nodes : List Node) : List Node :=
  arrangeBy Node.precedence (lastPrecedence + 1) nodes

theorem precedence_le : ∀ node : Node, node.precedence ≤ lastPrecedence
  | condition c => c.op.precedence_le
  | group g => Nat.le_of_lt g.kind.precedence_lt

@[simp]
theorem mem_arrange {node : Node} {nodes : List Node} : node ∈ arrange nodes ↔ node ∈ nodes := by
  rw [arrange, mem_arrangeBy]
  exact and_iff_left (Nat.lt_succ_of_le node.precedence_le)

end Node

end RecordQuery
