import RecordQuery.Query.Score

/-!
# The conditions of a query

`Query.leaves` are the conditions that a query makes of the record itself; those under `$elemMatch`
are not among them, but stand in the query all the same (`Condition.StandsIn`). However the leaves
are grouped, an evaluation runs them one after another, so two evaluations are related in every way
in which their leaves are and which running one thing after another keeps (`KeptByEval.eval_query`).
A property that a query has if all queries under its `$elemMatch` do is one of every query
(`Query.induction_elements`).
-/

namespace RecordQuery

/-! ## Conditions outside and inside `$elemMatch` -/

mutual

/-- The conditions that the node makes of the record, those under `$elemMatch` not included. -/
def Node.leaves : Node → List Condition
  | .condition c => [c]
  | .group g => g.leaves

def Group.leaves : Group → List Condition
  | ⟨_, nodes, _⟩ => nodesLeaves nodes

def nodesLeaves : List Node → List Condition
  | [] => []
  | node :: nodes => node.leaves ++ nodesLeaves nodes

end

def Query.leaves (q : Query) : List Condition :=
  q.groups.flatMap Group.leaves

theorem nodesLeaves_eq_flatMap (nodes : List Node) :
    nodesLeaves nodes = nodes.flatMap Node.leaves := by
  induction nodes with
  | nil => rfl
  | cons node nodes ih => rw [nodesLeaves, ih, List.flatMap_cons]

theorem Group.leaves_eq_flatMap (g : Group) : g.leaves = g.nodes.flatMap Node.leaves := by
  obtain ⟨kind, nodes, boost⟩ := g
  rw [Group.leaves, nodesLeaves_eq_flatMap]

/-- What a score counts are conditions of the query. -/
theorem Query.mem_leaves_of_scored? {q : Query} {nodes : List Node} (h : q.scored? = .ok nodes)
    {node : Node} (hnode : node ∈ nodes) {c : Condition} (hc : c ∈ node.leaves) :
    c ∈ q.leaves := by
  unfold scored? at h
  split at h
  · rename_i boost hgroups
    cases h
    rw [leaves, hgroups, List.flatMap_singleton, Group.leaves_eq_flatMap]
    exact List.mem_flatMap.2 ⟨node, hnode, hc⟩
  · cases h

/-- The condition is one of the query or of a query under `$elemMatch` in it, however deep. -/
inductive Condition.StandsIn : Condition → Query → Prop
  | leaf {c : Condition} {q : Query} : c ∈ q.leaves → StandsIn c q
  | elements {c c' : Condition} {q q' : Query} :
      c' ∈ q.leaves → c'.op = .elementMatch → c'.operand = .query q' → StandsIn c q' → StandsIn c q

/-- The query has the property if all queries under its `$elemMatch` do. -/
def Query.IsHereditary (P : Query → Prop) : Prop :=
  ∀ q : Query, (∀ c ∈ q.leaves, ∀ q', c.operand = .query q' → P q') → P q

mutual

theorem Node.induction_elements {P : Query → Prop} (h : Query.IsHereditary P) : ∀ node : Node,
    ∀ c ∈ node.leaves, ∀ q', c.operand = .query q' → P q'
  | .condition ⟨_, _, _, operand, _⟩ => by
    intro c hc q' hq'
    rw [Node.leaves, List.mem_singleton] at hc
    rw [hc] at hq'
    cases operand with
    | query q =>
      rw [← Operand.query.inj hq']
      exact Query.induction_elements h q
    | _ => cases hq'
  | .group ⟨_, nodes, _⟩ => nodes_induction_elements h nodes

theorem nodes_induction_elements {P : Query → Prop} (h : Query.IsHereditary P) :
    ∀ nodes : List Node, ∀ c ∈ nodesLeaves nodes, ∀ q', c.operand = .query q' → P q'
  | [] => nofun
  | node :: nodes => by
    intro c hc
    rw [nodesLeaves, List.mem_append] at hc
    cases hc with
    | inl hc => exact Node.induction_elements h node c hc
    | inr hc => exact nodes_induction_elements h nodes c hc

/-- A hereditary property is one of every query. -/
theorem Query.induction_elements {P : Query → Prop} (h : Query.IsHereditary P) : ∀ q : Query, P q
  | ⟨groups⟩ => h ⟨groups⟩ (groups_induction_elements h groups)

theorem groups_induction_elements {P : Query → Prop} (h : Query.IsHereditary P) :
    ∀ groups : List Group, ∀ c ∈ groups.flatMap Group.leaves, ∀ q', c.operand = .query q' → P q'
  | [] => nofun
  | ⟨_, nodes, _⟩ :: groups => by
    intro c hc
    rw [List.flatMap_cons, List.mem_append] at hc
    cases hc with
    | inl hc => exact nodes_induction_elements h nodes c hc
    | inr hc => exact groups_induction_elements h groups c hc

end

/-! ## Runs that are put together alike -/

variable {m : Type → Type} [Monad m]

/-- A relation of runs that holds of runs which are put together of related ones. -/
structure KeptByEval (R : ∀ α : Type, Eval m α → Eval m α → Prop) : Prop where
  ofPure {α : Type} (a : α) : R α (pure a) (pure a)
  ofMap {α β : Type} {x y : Eval m α} (f : α → β) : R α x y → R β (f <$> x) (f <$> y)
  ofBind {α β : Type} {x y : Eval m α} {f g : α → Eval m β} :
    R α x y → (∀ a, R β (f a) (g a)) → R β (x >>= f) (y >>= g)

namespace KeptByEval

variable {R : ∀ α : Type, Eval m α → Eval m α → Prop} {calls : Callbacks m} {s t : Subject m}

mutual

theorem eval_node (h : KeptByEval R) : ∀ node : Node,
    (∀ c ∈ node.leaves, R _ (c.eval calls s) (c.eval calls t)) →
      R _ (node.eval calls s) (node.eval calls t)
  | .condition c, hleaves => by
    rw [Node.eval, Node.eval]
    exact hleaves c (List.mem_singleton_self c)
  | .group g, hleaves => by
    rw [Node.eval, Node.eval]
    exact eval_group h g hleaves

theorem eval_group (h : KeptByEval R) : ∀ g : Group,
    (∀ c ∈ g.leaves, R _ (c.eval calls s) (c.eval calls t)) →
      R _ (g.eval calls s) (g.eval calls t)
  | ⟨kind, nodes, _⟩, hleaves => by
    rw [Group.eval, Group.eval]
    exact h.ofMap _ (settles_nodes h nodes kind.decisive hleaves)

theorem settles_nodes (h : KeptByEval R) : ∀ (nodes : List Node) (decisive : Bool),
    (∀ c ∈ nodesLeaves nodes, R _ (c.eval calls s) (c.eval calls t)) →
      R _ (settles calls s decisive nodes) (settles calls t decisive nodes)
  | [], decisive, _ => by
    rw [settles, settles]
    exact h.ofPure false
  | first :: nodes, decisive, hleaves => by
    rw [nodesLeaves, List.forall_mem_append] at hleaves
    rw [settles, settles]
    apply h.ofBind (eval_node h first hleaves.1)
    intro answer
    by_cases hdecisive : answer = decisive
    · rw [if_pos hdecisive, if_pos hdecisive]
      exact h.ofPure true
    · rw [if_neg hdecisive, if_neg hdecisive]
      exact settles_nodes h nodes decisive hleaves.2

end

variable (h : KeptByEval R)
include h

/-- Evaluations are related as their leaves are. -/
theorem eval_query {q : Query} (hleaves : ∀ c ∈ q.leaves, R _ (c.eval calls s) (c.eval calls t)) :
    R _ (q.eval calls s) (q.eval calls t) := by
  obtain ⟨groups⟩ := q
  rw [Query.eval, Query.eval]
  rw [Query.leaves] at hleaves
  induction groups with
  | nil =>
    rw [allPass, allPass]
    exact h.ofPure true
  | cons first groups ih =>
    rw [List.flatMap_cons, List.forall_mem_append] at hleaves
    rw [allPass, allPass]
    apply h.ofBind (h.eval_group first hleaves.1)
    intro pass
    cases pass with
    | true => exact ih hleaves.2
    | false => exact h.ofPure false

/-- So are tallies, which run every node. -/
theorem tally_nodes {nodes : List Node}
    (hleaves : ∀ node ∈ nodes, ∀ c ∈ node.leaves, R _ (c.eval calls s) (c.eval calls t)) :
    R _ (tally calls s nodes) (tally calls t nodes) := by
  unfold tally
  -- counted from anywhere, as the later nodes are
  generalize Tally.empty = start
  induction nodes generalizing start with
  | nil => exact h.ofPure start
  | cons first nodes ih =>
    rw [List.forall_mem_cons] at hleaves
    rw [List.foldlM_cons, List.foldlM_cons]
    apply h.ofBind
    · exact h.ofBind (h.eval_node first hleaves.1) fun pass => h.ofPure _
    · exact fun next => ih hleaves.2 next

end KeptByEval

/-! ## Conditions that read alike -/

section Attributes

variable {R : ∀ α : Type, Eval m α → Eval m α → Prop} (h : KeptByEval R)
  (hrefl : ∀ {α : Type} (x : Eval m α), R α x x) {calls : Callbacks m} {s t : Subject m}
include h hrefl

/-- Beyond the attribute a condition needs the record for `$cb` alone. -/
theorem KeptByEval.eval_condition {c : Condition}
    (hattr : R _ (s.attr c.key c.path) (t.attr c.key c.path))
    (hcallback : c.op = .callback → s.record = t.record) :
    R _ (c.eval calls s) (c.eval calls t) := by
  obtain ⟨key, path, op, operand, boost⟩ := c
  rw [Condition.eval, Condition.eval]
  apply h.ofBind hattr
  intro attr
  cases op.admits (.ofAttribute attr) with
  | false => exact h.ofPure false
  | true =>
    rw [if_pos rfl, if_pos rfl]
    split
    · rename_i f
      have hcall : calls.call f s attr = calls.call f t attr := by
        rw [Callbacks.call, Callbacks.call, hcallback rfl]
      rw [hcall]
      exact hrefl _
    · exact hrefl _
    · exact hrefl _

variable {q : Query}
  (hattr : ∀ c ∈ q.leaves, R _ (s.attr c.key c.path) (t.attr c.key c.path))
  (hcallback : ∀ c ∈ q.leaves, c.op = .callback → s.record = t.record)
include hattr hcallback

theorem KeptByEval.eval_query_of_attrs : R _ (q.eval calls s) (q.eval calls t) :=
  h.eval_query fun c hc => h.eval_condition hrefl (hattr c hc) (hcallback c hc)

theorem KeptByEval.tally_of_attrs {nodes : List Node} (hnodes : q.scored? = .ok nodes) :
    R _ (tally calls s nodes) (tally calls t nodes) := by
  refine h.tally_nodes fun node hnode c hc => ?_
  have hleaf : c ∈ q.leaves := Query.mem_leaves_of_scored? hnodes hnode hc
  exact h.eval_condition hrefl (hattr c hleaf) (hcallback c hleaf)

end Attributes

/-- Equal runs put together make equal runs. -/
theorem keptByEval_eq : KeptByEval fun α (x y : Eval m α) => x = y where
  ofPure _ := rfl
  ofMap _ hxy := by rw [hxy]
  ofBind hxy hfg := by rw [hxy, funext hfg]

end RecordQuery
