import RecordQuery.Proofs.Compile.Conjunction

/-!
# Nodes that no record tells apart

Nodes agree if they have the same verdict whatever they are asked, and if calls of both fail or of
neither. Groups agree if their nodes do, in whatever order they stand (`NodesAgree`), and it makes
no difference whether they are `$not` or `$nor` groups (`NodesAgree.ofTests`). Similar nodes agree,
and they still do if they are given a `$boost` or made to read their attribute directly.
-/

namespace RecordQuery

/-! ## Nodes and queries -/

/-- The same verdict whatever is asked, and calls that fail in both or in neither. -/
def Node.Agrees (node node' : Node) : Prop :=
  ∀ (calls : Callbacks Id) (s : Subject Id), node.verdict calls s = node'.verdict calls s ∧
    (node.NeverFails calls s ↔ node'.NeverFails calls s)

def Query.Agrees (q q' : Query) : Prop :=
  ∀ (calls : Callbacks Id) (s : Subject Id), q.verdict calls s = q'.verdict calls s ∧
    (q.NeverFails calls s ↔ q'.NeverFails calls s)

/-- The same condition, but for a query under `$elemMatch`, or groups that agree. -/
inductive Node.Similar : Node → Node → Prop
  | refl (node : Node) : Similar node node
  | elementMatch {key : String} {path : Option Path} {q q' : Query} {boost : Binary64} :
      q.Agrees q' →
        Similar (.condition ⟨key, path, .elementMatch, .query q, boost⟩)
          (.condition ⟨key, path, .elementMatch, .query q', boost⟩)
  | group {g g' : Group} : Node.Agrees (.group g) (.group g') → Similar (.group g) (.group g')

/-- Queries that agree never give different answers, and if no call fails, both give one. -/
theorem Query.Agrees.eval {q q' : Query} (h : q.Agrees q') (calls : Callbacks Id)
    (s : Subject Id) :
    (∀ b b', (q.eval calls s).run = .ok b → (q'.eval calls s).run = .ok b' → b = b') ∧
    (q.NeverFails calls s ↔ q'.NeverFails calls s) ∧
    (q.NeverFails calls s →
      ∃ b, (q.eval calls s).run = .ok b ∧ (q'.eval calls s).run = .ok b) := by
  obtain ⟨hverdict, hfails⟩ := h calls s
  refine ⟨fun b b' hb hb' => ?_, hfails, fun hnever => ?_⟩
  · rw [← q.verdict_eq_of_eval s hb, ← q'.verdict_eq_of_eval s hb', hverdict]
  · exact ⟨_, eval_of_neverFails hnever, hverdict ▸ eval_of_neverFails (hfails.1 hnever)⟩

namespace Node

variable {node node' : Node}

theorem Agrees.refl (node : Node) : node.Agrees node := fun _ _ => ⟨rfl, Iff.rfl⟩

@[simp]
theorem neverFails_withBoost (node : Node) (boost : Binary64) (calls : Callbacks Id)
    (s : Subject Id) : (node.withBoost boost).NeverFails calls s ↔ node.NeverFails calls s := by
  cases node with
  | condition c =>
    obtain ⟨key, path, op, operand, _⟩ := c
    rfl
  | group g =>
    obtain ⟨kind, nodes, _⟩ := g
    rfl

theorem Agrees.withBoost (h : node.Agrees node') (boost : Binary64) :
    (node.withBoost boost).Agrees (node'.withBoost boost) := by
  intro calls s
  simpa using h calls s

theorem Similar.agrees (h : node.Similar node') : node.Agrees node' := by
  cases h with
  | refl => exact .refl node
  | group h => exact h
  | elementMatch h =>
    intro calls s
    rw [Node.verdict, Node.verdict, Condition.verdict_elementMatch, Condition.verdict_elementMatch]
    simp only [(h calls _).1, true_and]
    show (∃ attr, _ ∧ ∀ item ∈ elements attr, _) ↔ ∃ attr, _ ∧ ∀ item ∈ elements attr, _
    simp only [(h calls _).2]

theorem Similar.readDirectly (h : node.Similar node') (key : String) :
    (node.readDirectly key).Similar (node'.readDirectly key) := by
  cases h with
  | refl => exact .refl _
  | group h => exact .group h
  | elementMatch h => exact .elementMatch h

theorem Similar.withBoost (h : node.Similar node') (boost : Option Binary64) :
    (boost.elim node node.withBoost).Similar (boost.elim node' node'.withBoost) := by
  cases boost with
  | none => exact h
  | some boost =>
    cases h with
    | refl => exact .refl _
    | elementMatch h => exact .elementMatch h
    | group h => exact .group (h.withBoost boost)

end Node

/-! ## Groups -/

/-- The combinators that mean the same of a list: each itself, and `$not` and `$nor`. -/
def Combinator.MayBecome (kind kind' : Combinator) : Prop :=
  kind' = kind ∨ kind = .not ∧ kind' = .nor

/-- As many nodes, each of which agrees with one of the others. -/
structure NodesAgree (nodes nodes' : List Node) : Prop where
  length_eq : nodes.length = nodes'.length
  left : ∀ node ∈ nodes, ∃ node' ∈ nodes', node.Agrees node'
  right : ∀ node' ∈ nodes', ∃ node ∈ nodes, node.Agrees node'

namespace NodesAgree

variable {nodes nodes' : List Node}

theorem of_forall₂ (h : List.Forall₂ Node.Agrees nodes nodes') : NodesAgree nodes nodes' where
  length_eq := h.length_eq
  left _ hnode := exists_of_forall₂_left h hnode
  right _ hnode := exists_of_forall₂_right h hnode

theorem of_similar (h : List.Forall₂ Node.Similar nodes nodes') : NodesAgree nodes nodes' :=
  of_forall₂ (h.imp fun _ _ => Node.Similar.agrees)

theorem refl (nodes : List Node) : NodesAgree nodes nodes :=
  of_forall₂ (List.forall₂_same.2 fun node _ => .refl node)

theorem append {more more' : List Node} (h : NodesAgree nodes nodes')
    (hmore : NodesAgree more more') : NodesAgree (nodes ++ more) (nodes' ++ more') where
  length_eq := by rw [List.length_append, List.length_append, h.length_eq, hmore.length_eq]
  left node hnode := by
    rcases List.mem_append.1 hnode with hnode | hnode
    · obtain ⟨node', hnode', hagrees⟩ := h.left node hnode
      exact ⟨node', List.mem_append_left _ hnode', hagrees⟩
    · obtain ⟨node', hnode', hagrees⟩ := hmore.left node hnode
      exact ⟨node', List.mem_append_right _ hnode', hagrees⟩
  right node' hnode' := by
    rcases List.mem_append.1 hnode' with hnode' | hnode'
    · obtain ⟨node, hnode, hagrees⟩ := h.right node' hnode'
      exact ⟨node, List.mem_append_left _ hnode, hagrees⟩
    · obtain ⟨node, hnode, hagrees⟩ := hmore.right node' hnode'
      exact ⟨node, List.mem_append_right _ hnode, hagrees⟩

variable (h : NodesAgree nodes nodes')
include h

/-- The order of tests is of no account. -/
theorem arrange : NodesAgree (Node.arrange nodes) (Node.arrange nodes') where
  length_eq := by
    rw [(Node.perm_arrange nodes).length_eq, (Node.perm_arrange nodes').length_eq, h.length_eq]
  left := by simpa only [Node.mem_arrange] using h.left
  right := by simpa only [Node.mem_arrange] using h.right

section Properties

variable {p : Node → Prop} (hp : ∀ node node', node.Agrees node' → (p node ↔ p node'))
include hp

theorem exists_iff : (∃ node ∈ nodes, p node) ↔ ∃ node ∈ nodes', p node := by
  constructor
  · rintro ⟨node, hnode, hnodep⟩
    obtain ⟨node', hnode', hagrees⟩ := h.left node hnode
    exact ⟨node', hnode', (hp _ _ hagrees).1 hnodep⟩
  · rintro ⟨node', hnode', hnodep⟩
    obtain ⟨node, hnode, hagrees⟩ := h.right node' hnode'
    exact ⟨node, hnode, (hp _ _ hagrees).2 hnodep⟩

theorem forall_iff : (∀ node ∈ nodes, p node) ↔ ∀ node ∈ nodes', p node := by
  have hexists := exists_iff h fun node node' hagrees => not_congr (hp node node' hagrees)
  simpa using not_congr hexists

end Properties

variable {kind kind' : Combinator} (hkind : kind.MayBecome kind')
include hkind

theorem joins_iff (calls : Callbacks Id) (s : Subject Id) :
    kind.Joins (· ∈ nodes) (fun node => node.verdict calls s = true) ↔
      kind'.Joins (· ∈ nodes') fun node => node.verdict calls s = true := by
  have hverdict : ∀ node node' : Node, node.Agrees node' →
      (node.verdict calls s = true ↔ node'.verdict calls s = true) := fun node node' hagrees => by
    rw [(hagrees calls s).1]
  have hnegation : (∀ node ∈ nodes, ¬node.verdict calls s = true) ↔
      ∀ node ∈ nodes', ¬node.verdict calls s = true :=
    forall_iff h fun node node' hagrees => not_congr (hverdict node node' hagrees)
  rcases hkind with hsame | ⟨rfl, rfl⟩
  · subst hsame
    cases kind' with
    | and => exact forall_iff h hverdict
    | or => exact exists_iff h hverdict
    | not | nor => exact hnegation
  · exact hnegation

/-- `$not` and `$nor` are the same of a list. -/
theorem ofNodes : Node.Agrees (.group (.ofNodes kind nodes)) (.group (.ofNodes kind' nodes')) := by
  intro calls s
  constructor
  · rw [Node.verdict, Node.verdict, Bool.eq_iff_iff, Group.verdict_iff, Group.verdict_iff]
    exact joins_iff h hkind calls s
  · rw [Node.NeverFails, Node.NeverFails, Group.neverFails_iff, Group.neverFails_iff]
    exact forall_iff h fun node node' hagrees => (hagrees calls s).2

theorem ofTests : (Node.ofTests kind nodes).Similar (Node.ofTests kind' nodes') :=
  .group (h.arrange.ofNodes hkind)

theorem membership : NodesAgree (kind.membership nodes) (kind'.membership nodes') := by
  have hor : kind' = .or ↔ kind = .or := by
    rcases hkind with rfl | ⟨rfl, rfl⟩
    · exact Iff.rfl
    · decide
  unfold Combinator.membership
  by_cases hgroup : kind = .or ∧ 2 ≤ nodes.length
  · rw [if_pos hgroup, if_pos ⟨hor.2 hgroup.1, h.length_eq ▸ hgroup.2⟩]
    exact of_forall₂ (.cons (h.ofNodes (.inl rfl)) .nil)
  · rw [if_neg hgroup, if_neg fun hgroup' => hgroup ⟨hor.1 hgroup'.1, h.length_eq ▸ hgroup'.2⟩]
    exact h

omit h in
theorem flatMap_membership {members members' : List (List Node)}
    (hmembers : List.Forall₂ NodesAgree members members') :
    NodesAgree (members.flatMap kind.membership) (members'.flatMap kind'.membership) := by
  induction hmembers with
  | nil => exact refl []
  | cons hmember _ ih => exact (hmember.membership hkind).append ih

end NodesAgree

/-- One test stands for itself, and several are a group. -/
theorem Node.Similar.ofClause {nodes nodes' : List Node}
    (h : List.Forall₂ Node.Similar nodes nodes') :
    (Node.ofClause nodes).Similar (Node.ofClause nodes') := by
  have hagree : NodesAgree nodes nodes' := .of_similar h
  match h with
  | .cons hnode .nil => exact hnode
  | .nil | .cons _ (.cons _ _) => exact hagree.ofTests (.inl rfl)

end RecordQuery
