import Mathlib.Logic.Relation
import RecordQuery.Proofs.Query.Verdict

/-!
# The order of tests

`Query.Permutes` permutes the groups of a query, or the nodes of one group of it, at any depth and
also under `$elemMatch`. No such step changes the verdict or lets a call fail that did not
(`Query.Permutes.verdict_eq`, `Query.Permutes.neverFails`), and so no number of them changes an
answer.
-/

namespace RecordQuery

mutual

/-- A permutation somewhere in a node. -/
inductive Node.Permutes : Node → Node → Prop
  | group {g g' : Group} : Group.Permutes g g' → Node.Permutes (.group g) (.group g')
  | elements {key : String} {path : Option Path} {q q' : Query} {boost : Binary64} :
      Query.Permutes q q' →
        Node.Permutes (.condition ⟨key, path, .elementMatch, .query q, boost⟩)
          (.condition ⟨key, path, .elementMatch, .query q', boost⟩)

/-- A permutation of the nodes of a group or in one of them. -/
inductive Group.Permutes : Group → Group → Prop
  | nodes {kind : Combinator} {nodes nodes' : List Node} {boost : Binary64} :
      nodes.Perm nodes' → Group.Permutes ⟨kind, nodes, boost⟩ ⟨kind, nodes', boost⟩
  | node {kind : Combinator} {before after : List Node} {node node' : Node} {boost : Binary64} :
      Node.Permutes node node' →
        Group.Permutes ⟨kind, before ++ node :: after, boost⟩
          ⟨kind, before ++ node' :: after, boost⟩

/-- A permutation of the groups of a query or in one of them. -/
inductive Query.Permutes : Query → Query → Prop
  | groups {groups groups' : List Group} :
      groups.Perm groups' → Query.Permutes ⟨groups⟩ ⟨groups'⟩
  | group {before after : List Group} {group group' : Group} :
      Group.Permutes group group' →
        Query.Permutes ⟨before ++ group :: after⟩ ⟨before ++ group' :: after⟩

end

/-- The queries are the same up to permutations of groups and nodes anywhere in them. -/
def Query.Reordered : Query → Query → Prop :=
  Relation.ReflTransGen Query.Permutes

variable {calls : Callbacks Id}

/-! ## One permutation -/

mutual

theorem Node.Permutes.verdict_eq : ∀ {node node' : Node}, node.Permutes node' →
    ∀ s : Subject Id, node.verdict calls s = node'.verdict calls s
  | _, _, .group h, s => by
    rw [Node.verdict, Node.verdict, Group.Permutes.verdict_eq h s]
  | _, _, .elements h, s => by
    rw [Node.verdict, Node.verdict, Condition.verdict_elementMatch, Condition.verdict_elementMatch]
    congr 1
    ext attr
    congr 1
    ext item
    rw [Query.Permutes.verdict_eq h (.ofElement item)]

theorem Group.Permutes.verdict_eq : ∀ {g g' : Group}, g.Permutes g' →
    ∀ s : Subject Id, g.verdict calls s = g'.verdict calls s
  -- a verdict asks every node, so their order is of no account
  | _, _, .nodes h, s => by
    rw [Group.verdict, Group.verdict, hasVerdict_eq_any, hasVerdict_eq_any, h.any_eq]
  | _, _, .node h, s => by
    rw [Group.verdict, Group.verdict, hasVerdict_eq_any, hasVerdict_eq_any]
    simp only [List.any_append, List.any_cons, Node.Permutes.verdict_eq h s]

theorem Query.Permutes.verdict_eq : ∀ {q q' : Query}, q.Permutes q' →
    ∀ s : Subject Id, q.verdict calls s = q'.verdict calls s
  | _, _, .groups h, s => by
    rw [Query.verdict_eq_all, Query.verdict_eq_all, h.all_eq]
  | _, _, .group h, s => by
    rw [Query.verdict_eq_all, Query.verdict_eq_all]
    simp only [List.all_append, List.all_cons, Group.Permutes.verdict_eq h s]

end

mutual

theorem Node.Permutes.neverFails : ∀ {node node' : Node}, node.Permutes node' →
    ∀ s : Subject Id, node.NeverFails calls s → node'.NeverFails calls s
  | _, _, .group h, s, hnode => Group.Permutes.neverFails h s hnode
  | _, _, .elements h, s, hnode => by
    obtain ⟨attr, hattr, hitems⟩ := hnode
    exact ⟨attr, hattr, fun item hitem =>
      Query.Permutes.neverFails h (.ofElement item) (hitems item hitem)⟩

theorem Group.Permutes.neverFails : ∀ {g g' : Group}, g.Permutes g' →
    ∀ s : Subject Id, g.NeverFails calls s → g'.NeverFails calls s
  | _, _, .nodes h, s, hg => by
    rw [Group.neverFails_iff] at hg ⊢
    exact fun node hnode => hg node (h.mem_iff.2 hnode)
  | _, _, .node h, s, hg => by
    rw [Group.neverFails_iff, List.forall_mem_append, List.forall_mem_cons] at hg ⊢
    exact ⟨hg.1, Node.Permutes.neverFails h s hg.2.1, hg.2.2⟩

theorem Query.Permutes.neverFails : ∀ {q q' : Query}, q.Permutes q' →
    ∀ s : Subject Id, q.NeverFails calls s → q'.NeverFails calls s
  | _, _, .groups h, s, hq => by
    rw [Query.neverFails_iff] at hq ⊢
    exact fun group hgroup => hq group (h.mem_iff.2 hgroup)
  | _, _, .group h, s, hq => by
    rw [Query.neverFails_iff, List.forall_mem_append, List.forall_mem_cons] at hq ⊢
    exact ⟨hq.1, Group.Permutes.neverFails h s hq.2.1, hq.2.2⟩

end

/-! ## Any number of permutations -/

theorem Query.Reordered.verdict_eq {q q' : Query} (h : q.Reordered q') (s : Subject Id) :
    q.verdict calls s = q'.verdict calls s := by
  -- on the number of permutations; the record stays the same throughout
  induction h with
  | refl => rfl
  | tail _ hstep ih => rw [ih, hstep.verdict_eq s]

theorem Query.Reordered.neverFails {q q' : Query} (h : q.Reordered q') (s : Subject Id)
    (hq : q.NeverFails calls s) : q'.NeverFails calls s := by
  induction h with
  | refl => exact hq
  | tail _ hstep ih => exact hstep.neverFails s ih

/-- Two orders of tests never give different answers, and if no call fails, both give one. -/
theorem Query.eval_of_reordered {ρ : Type} [Queryable Id ρ] {q q' : Query} (h : q.Reordered q')
    (calls : Callbacks Id) (getter : Getter Id ρ) (r : ρ) :
    (∀ b b', (q.eval calls (.of getter r)).run = .ok b →
      (q'.eval calls (.of getter r)).run = .ok b' → b = b') ∧
    (q.NeverFails calls (.of getter r) →
      ∃ b, (q.eval calls (.of getter r)).run = .ok b ∧
        (q'.eval calls (.of getter r)).run = .ok b) := by
  have hagree : ∀ b b', (q.eval calls (.of getter r)).run = .ok b →
      (q'.eval calls (.of getter r)).run = .ok b' → b = b' := by
    intro b b' hb hb'
    -- the two evaluations may have asked different nodes, but both answers are verdicts
    rw [← q.verdict_eq_of_eval _ hb, ← q'.verdict_eq_of_eval _ hb', h.verdict_eq]
  refine ⟨hagree, fun hq => ?_⟩
  obtain ⟨b, hb⟩ := q.exists_eval_of_neverFails _ hq
  obtain ⟨b', hb'⟩ := q'.exists_eval_of_neverFails _ (h.neverFails _ hq)
  obtain rfl := hagree b b' hb hb'
  exact ⟨b, hb, hb'⟩

theorem Query.eval_of_reordered_elements :
    let present (key : String) : Node := .condition (.ofKey key .present (.value (.bool true)))
    let items (nodes : List Node) : Node :=
      .condition (.ofKey "items" .elementMatch (.query ⟨[.ofNodes .and nodes]⟩))
    let q : Query := ⟨[.ofNodes .or [present "a", items [present "b", present "c"]]]⟩
    let q' : Query := ⟨[.ofNodes .or [items [present "c", present "b"], present "a"]]⟩
    let calls : Callbacks Id := fun _ _ _ => .error "none"
    let r : Record Id := .ofAttributes fun _ => some (.array 1 fun _ => .null)
    q.Reordered q' ∧ q.NeverFails calls (.of .property r) ∧
      ∃ b, (q.eval calls (.of .property r)).run = .ok b ∧
        (q'.eval calls (.of .property r)).run = .ok b := by
  intro present items q q' calls r
  have hinner : Query.Permutes ⟨[.ofNodes .and [present "b", present "c"]]⟩
      ⟨[.ofNodes .and [present "c", present "b"]]⟩ :=
    @Query.Permutes.group [] [] _ _ (.nodes (.swap ..))
  -- first the query under `$elemMatch`, then the two nodes of `$or`
  have h : q.Reordered q' :=
    .head (@Query.Permutes.group [] [] _ _
      (@Group.Permutes.node _ [present "a"] [] _ _ _ (.elements hinner)))
      (.single (@Query.Permutes.group [] [] _ _ (.nodes (.swap ..))))
  have hq : q.NeverFails calls (.of .property r) := by
    refine ⟨⟨⟨_, rfl, trivial⟩, ⟨_, rfl, fun item _ => ?_⟩, trivial⟩, trivial⟩
    exact ⟨⟨⟨_, rfl, trivial⟩, ⟨_, rfl, trivial⟩, trivial⟩, trivial⟩
  exact ⟨h, hq, (Query.eval_of_reordered h calls .property r).2 hq⟩

end RecordQuery
