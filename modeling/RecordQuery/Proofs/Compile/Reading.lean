import RecordQuery.Proofs.Compile.Invariant

/-!
# How compiled conditions read

Every condition that the compiler puts into a group reads its attribute in one of two ways: as its
key calls for, or from the record itself.
-/

namespace RecordQuery

/-- If the node is a condition, it is one on this key and reads it in one of the two ways. -/
def Node.ReadsBy (key : String) : Node → Prop
  | .condition c => c.key = key ∧ (c.path = Path.ofKey? key ∨ c.path = some (.ofText key))
  | .group _ => True

namespace Node

variable {key : String} {node : Node}

theorem readsBy_ofKey (op : Operator) (operand : Operand) :
    (Node.condition (.ofKey key op operand)).ReadsBy key :=
  ⟨rfl, .inl rfl⟩

theorem ReadsBy.readDirectly (h : node.ReadsBy key) : (node.readDirectly key).ReadsBy key := by
  cases node with
  | condition c => exact ⟨h.1, .inr rfl⟩
  | group g => trivial

theorem ReadsBy.withBoost (h : node.ReadsBy key) (boost : Binary64) :
    (node.withBoost boost).ReadsBy key := by
  cases node <;> exact h

end Node

theorem readsBy_of_ofLiteral? {key : String} {v : Value} {c : Condition}
    (h : Condition.ofLiteral? key v = .ok c) : (Node.condition c).ReadsBy key := by
  cases v with
  | function _ => cases h
  | _ =>
    obtain rfl := Except.ok.inj h
    exact Node.readsBy_ofKey _ _

theorem readsBy_of_ofOperator? {key : String} {op : Operator} {v : Value} {options : Option Value}
    {c : Condition} (h : Condition.ofOperator? key op v options = .ok c) :
    (Node.condition c).ReadsBy key := by
  obtain ⟨operand, -, h⟩ := bind_eq_ok_iff.1 h
  obtain rfl := Except.ok.inj h
  exact Node.readsBy_ofKey _ _

/-- The node reads by some key, or is a group. -/
def Node.IsReadable (node : Node) : Prop :=
  ∃ key, node.ReadsBy key

theorem keptByCompiler_readsBy :
    KeptByCompiler Node.ReadsBy fun q =>
      ∀ group ∈ q.groups, ∀ node ∈ group.nodes, node.IsReadable where
  literal h := readsBy_of_ofLiteral? h
  operator _ _ _ h := readsBy_of_ofOperator? h
  elements _ := Node.readsBy_ofKey _ _
  readDirectly h := h.readDirectly
  withBoost _ h := h.withBoost _
  tests _ := trivial
  query _ hgroups := by
    refine (forall_mem_iff_of_forall₂ (p := fun _ => True) hgroups fun kind group _ hgroup => ?_).2
      fun _ _ => trivial
    obtain ⟨tests, rfl, htests⟩ := hgroup
    exact iff_of_true (fun node hnode => htests node (Node.mem_arrange.1 hnode)) trivial

/-- The nodes of the groups of a compiled query. -/
theorem isReadable_of_compileQuery {d : Document} {q : Query}
    (h : compileQuery (.ofDocument d) = .ok q) {group : Group} (hgroup : group ∈ q.groups)
    {node : Node} (hnode : node ∈ group.nodes) : node.IsReadable :=
  (keptByCompiler_readsBy.kept (.ofDocument d)).query q h group hgroup node hnode

end RecordQuery
