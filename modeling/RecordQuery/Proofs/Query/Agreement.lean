import Mathlib.Algebra.Order.BigOperators.Group.List
import RecordQuery.Proofs.Query.Score

/-!
# Scores and answers

The answer of an `$and` group and its score come of the same nodes, but the answer stops at the
first node that does not pass and the score asks all of them. With integer boosts the score is one
exactly if every node of positive boost passes and zero exactly if none does (`ScoreAgrees`), and
the order of the nodes is of no account to it (`Query.run_score_of_perm`).
-/

namespace RecordQuery

/-! ## Sums over some items -/

section Weights

variable {α : Type} (p : α → Bool) (weight : α → Nat) (xs : List α)

theorem sum_filter_le : ((xs.filter p).map weight).sum ≤ (xs.map weight).sum :=
  (List.filter_sublist.map weight).sum_le_sum fun _ _ => Nat.zero_le _

theorem sum_filter_eq_sum_iff :
    ((xs.filter p).map weight).sum = (xs.map weight).sum ↔
      ∀ x ∈ xs, 0 < weight x → p x = true := by
  induction xs with
  | nil => simp
  | cons x xs ih =>
    rw [List.forall_mem_cons, ← ih, List.map_cons, List.sum_cons]
    cases hp : p x with
    | true =>
      rw [List.filter_cons_of_pos hp, List.map_cons, List.sum_cons]
      simp
    | false =>
      -- what does not pass may weigh nothing
      have hle := sum_filter_le p weight xs
      rw [List.filter_cons_of_neg (by simp [hp])]
      simp only [Bool.false_eq_true, imp_false]
      omega

theorem sum_filter_eq_zero_iff :
    ((xs.filter p).map weight).sum = 0 ↔ ∀ x ∈ xs, 0 < weight x → p x = false := by
  rw [List.sum_eq_zero_iff, List.forall_mem_map]
  simp only [List.mem_filter, and_imp]
  refine forall₂_congr fun x _ => ?_
  cases p x <;> simp

end Weights

variable {calls : Callbacks Id} {s : Subject Id} {nodes : List Node}

/-! ## Answers of `$and` groups -/

namespace Query

variable {q : Query} {weight : Binary64} (hq : q.groups = [⟨.and, nodes, weight⟩])
include hq

theorem run_eval_conjunction :
    (q.eval calls s).run = (settles calls s false nodes).run.map (! ·) := by
  obtain ⟨groups⟩ := q
  obtain rfl : groups = [⟨.and, nodes, weight⟩] := hq
  have hdecisive : Combinator.and.decisive = false := rfl
  rw [eval, allPass, Group.eval, hdecisive, ExceptT.run_bind, ExceptT.run_map]
  cases (settles calls s false nodes).run with
  | error e => rfl
  | ok settled => cases settled <;> rfl

/-- If no node fails, the answer is whether all of them pass. -/
theorem run_eval_of_passes {passes : Node → Bool}
    (h : ∀ node ∈ nodes, (node.eval calls s).run = .ok (passes node)) :
    (q.eval calls s).run = .ok (nodes.all passes) := by
  have hsettles := run_settles_append false h []
  rw [List.append_nil] at hsettles
  have hall : nodes.all passes = !nodes.any (passes · == false) := by
    rw [List.all_eq_not_any_not]
    simp only [beq_false]
  rw [run_eval_conjunction hq, hsettles, hall]
  cases nodes.any (passes · == false) <;> rfl

/-- If a node does not pass, the nodes after it may fail. -/
theorem run_eval_of_fails_after {before rest : List Node} (hnodes : nodes = before ++ rest)
    (h : ∀ node ∈ before, ∃ b, (node.eval calls s).run = .ok b)
    (hfalse : ∃ node ∈ before, (node.eval calls s).run = .ok false) :
    (q.eval calls s).run = .ok false := by
  have hpasses : ∀ node ∈ before, (node.eval calls s).run = .ok (node.verdict calls s) := by
    intro node hnode
    obtain ⟨b, hb⟩ := h node hnode
    rw [node.verdict_eq_of_eval s hb, hb]
  have hany : before.any (Node.verdict calls s · == false) = true := by
    obtain ⟨node, hnode, hb⟩ := hfalse
    exact List.any_eq_true.2 ⟨node, hnode, beq_iff_eq.2 (node.verdict_eq_of_eval s hb)⟩
  rw [run_eval_conjunction hq, hnodes, run_settles_append false hpasses, if_pos hany]
  rfl

end Query

/-! ## Scores with integer boosts -/

/-- The sum of the boosts of some nodes, given the boost of each as an integer. -/
def totalWeight (weight : Node → Nat) (nodes : List Node) : Nat :=
  (nodes.map weight).sum

theorem totalWeight_perm (weight : Node → Nat) {nodes nodes' : List Node}
    (h : nodes.Perm nodes') : totalWeight weight nodes = totalWeight weight nodes' :=
  (h.map weight).sum_eq

/-- How the answer and the score of an `$and` group go together, given which of its nodes pass. -/
structure ScoreAgrees (weight : Node → Nat) (nodes : List Node) (passes : Node → Bool)
    (answer : Bool) (score : Binary64) : Prop where
  quotient : 0 < totalWeight weight nodes → score =
    (Binary64.ofInt (totalWeight weight (nodes.filter passes))).div
      (.ofInt (totalWeight weight nodes))
  one : 0 < totalWeight weight nodes →
    (score = .one ↔ ∀ node ∈ nodes, 0 < weight node → passes node = true)
  zero : 0 < totalWeight weight nodes →
    (score.isZero = true ↔ ∀ node ∈ nodes, 0 < weight node → passes node = false)
  answer : 0 < totalWeight weight nodes → answer = true → score = .one
  /-- Without boost there is nothing to divide. -/
  nothing : totalWeight weight nodes = 0 → score = .zero

section Integers

variable {weight : Node → Nat} (hboosts : ∀ node ∈ nodes, node.boost.IsWeight)
  (hweight : ∀ node ∈ nodes, node.boost.units = (weight node * Binary64.unitsPerOne : Nat))
  (htotal : totalWeight weight nodes ≤ 2 ^ 53)
include hboosts hweight

theorem sum_boosts (h : totalWeight weight nodes ≤ 2 ^ 53) :
    Binary64.sum (nodes.map Node.boost) = .ofInt (totalWeight weight nodes) := by
  refine Binary64.sum_integers (List.forall_mem_map.2 hboosts) ?_ h
  rw [List.forall₂_map_left_iff, List.forall₂_map_right_iff, List.forall₂_same]
  exact hweight

include htotal

theorem Tally.ofPasses_eq (passes : Node → Bool) :
    ofPasses passes nodes =
      ⟨.ofInt (totalWeight weight nodes), .ofInt (totalWeight weight (nodes.filter passes))⟩ := by
  have hle : totalWeight weight (nodes.filter passes) ≤ totalWeight weight nodes :=
    sum_filter_le passes weight nodes
  have hmem : ∀ node ∈ nodes.filter passes, node ∈ nodes := fun node hnode =>
    List.mem_of_mem_filter hnode
  rw [ofPasses, sum_boosts hboosts hweight htotal,
    sum_boosts (fun node hnode => hboosts node (hmem node hnode))
      (fun node hnode => hweight node (hmem node hnode)) (Nat.le_trans hle htotal)]

theorem scoreAgrees (passes : Node → Bool) :
    ScoreAgrees weight nodes passes (nodes.all passes) (Tally.ofPasses passes nodes).score := by
  have hle : totalWeight weight (nodes.filter passes) ≤ totalWeight weight nodes :=
    sum_filter_le passes weight nodes
  have hscore : 0 < totalWeight weight nodes → (Tally.ofPasses passes nodes).score =
      (Binary64.ofInt (totalWeight weight (nodes.filter passes))).div
        (.ofInt (totalWeight weight nodes)) := by
    intro hpos
    rw [Tally.ofPasses_eq hboosts hweight htotal, Tally.score, Binary64.isZero_integer htotal,
      decide_eq_false (Nat.ne_of_gt hpos), if_neg Bool.false_ne_true]
  have hone : 0 < totalWeight weight nodes → ((Tally.ofPasses passes nodes).score = .one ↔
      ∀ node ∈ nodes, 0 < weight node → passes node = true) := by
    intro hpos
    rw [hscore hpos, Binary64.div_integers_eq_one_iff hle htotal hpos]
    exact sum_filter_eq_sum_iff passes weight nodes
  refine ⟨hscore, hone, fun hpos => ?_, fun hpos hanswer => ?_, fun hnothing => ?_⟩
  · rw [hscore hpos, Binary64.isZero_div_integers_iff hle htotal hpos]
    exact sum_filter_eq_zero_iff passes weight nodes
  · exact (hone hpos).2 fun node hnode _ => List.all_eq_true.1 hanswer node hnode
  · rw [Tally.ofPasses_eq hboosts hweight htotal, Tally.score, Binary64.isZero_integer htotal,
      decide_eq_true hnothing, if_pos rfl]

end Integers

/-! ## Scores and answers -/

/-- The order of the nodes is of no account to a score of integer boosts. -/
theorem Query.run_score_of_perm {q q' : Query} {boost boost' : Binary64} {nodes' : List Node}
    (hq : q.groups = [⟨.and, nodes, boost⟩]) (hq' : q'.groups = [⟨.and, nodes', boost'⟩])
    (hperm : nodes.Perm nodes') {weight : Node → Nat}
    (hboosts : ∀ node ∈ nodes, node.boost.IsWeight)
    (hweight : ∀ node ∈ nodes, node.boost.units = (weight node * Binary64.unitsPerOne : Nat))
    (htotal : totalWeight weight nodes ≤ 2 ^ 53) {x : Binary64}
    (h : (q.score calls s).run = .ok x) : (q'.score calls s).run = .ok x := by
  obtain ⟨passes, hpasses, rfl⟩ := exists_passes_of_run_score hq h
  have hsum := totalWeight_perm weight hperm
  have hpassed := totalWeight_perm weight (hperm.filter passes)
  rw [Tally.ofPasses_eq hboosts hweight htotal, hpassed, hsum,
    ← Tally.ofPasses_eq (fun node hnode => hboosts node (hperm.mem_iff.2 hnode))
      (fun node hnode => hweight node (hperm.mem_iff.2 hnode)) (hsum ▸ htotal)]
  exact run_score_of_passes hq' fun node hnode => hpasses node (hperm.mem_iff.2 hnode)

/-- An `$and` group has a node for each pair of its document. If it has a score, it has an answer
too, and the two agree; an answer that some node has settled does not need the nodes after it, of
which the score may fail. Reordering the document changes no score. -/
theorem Query.agrees_score {d : Document} {q : Query}
    (h : (Query.compile (m := Id) d).run = .ok q) {nodes : List Node} {boost : Binary64}
    (hq : q.groups = [⟨.and, nodes, boost⟩]) {weight : Node → Nat}
    (hweight : ∀ node ∈ nodes, node.boost.units = (weight node * Binary64.unitsPerOne : Nat))
    (htotal : totalWeight weight nodes ≤ 2 ^ 53) {ρ : Type} [Queryable Id ρ]
    (calls : Callbacks Id) (getter : Getter Id ρ) (r : ρ) :
    nodes.length = d.conjuncts.length ∧
    (∀ x, (q.score calls (.of getter r)).run = .ok x → ∃ b passes,
      (q.eval calls (.of getter r)).run = .ok b ∧
      (∀ node ∈ nodes, (node.eval calls (.of getter r)).run = .ok (passes node)) ∧
      ScoreAgrees weight nodes passes b x) ∧
    (∀ before node after, nodes = before ++ node :: after →
      (∀ node ∈ before, ∃ b, (node.eval calls (.of getter r)).run = .ok b) →
      (∃ node ∈ before, (node.eval calls (.of getter r)).run = .ok false) →
      (∃ e, (node.eval calls (.of getter r)).run = .error e) →
        (q.eval calls (.of getter r)).run = .ok false ∧
          ∃ e, (q.score calls (.of getter r)).run = .error e) ∧
    ∀ d', d.Reordered d' → ∃ q', (Query.compile (m := Id) d').run = .ok q' ∧
      ∀ x, (q'.score calls (.of getter r)).run = .ok x ↔
        (q.score calls (.of getter r)).run = .ok x := by
  have hboosts : ∀ node ∈ nodes, node.boost.IsWeight :=
    isWeight_boost_of_compile h (hq ▸ List.mem_singleton_self _)
  have hcompile : compileQuery (.ofDocument d) = .ok ⟨[⟨.and, nodes, boost⟩]⟩ := by
    obtain ⟨groups⟩ := q
    obtain rfl : groups = _ := hq
    exact compile_eq_ok_iff.1 h
  refine ⟨length_of_compileQuery hcompile, fun x hx => ?_, ?_, fun d' hreordered => ?_⟩
  · obtain ⟨passes, hpasses, rfl⟩ := exists_passes_of_run_score hq hx
    exact ⟨_, passes, run_eval_of_passes hq hpasses, hpasses,
      scoreAgrees hboosts hweight htotal passes⟩
  · intro before node after hnodes hanswered hfalse hfails
    have hnode : node ∈ nodes := by
      rw [hnodes]
      exact List.mem_append_right before List.mem_cons_self
    exact ⟨run_eval_of_fails_after hq hnodes hanswered hfalse, run_score_of_fails hq hnode hfails⟩
  · obtain ⟨nodes', hcompile', hperm⟩ := exists_compileQuery_of_reordered hcompile hreordered
    refine ⟨_, compile_eq_ok_iff.2 hcompile', fun x => ⟨fun hx => ?_, fun hx => ?_⟩⟩
    · exact run_score_of_perm rfl hq hperm.symm
        (fun node hnode => hboosts node (hperm.mem_iff.2 hnode))
        (fun node hnode => hweight node (hperm.mem_iff.2 hnode))
        (totalWeight_perm weight hperm ▸ htotal) hx
    · exact run_score_of_perm hq rfl hperm hboosts hweight htotal hx

/-- The first of two tests does not pass and the attribute of the second cannot be read. -/
theorem Query.agrees_score_unreadable :
    let two : Binary64 := ⟨0x4000000000000000⟩
    let nodes : List Node := [.weighing "a" .one, .weighing "b" two]
    let q : Query := ⟨[.ofNodes .and nodes]⟩
    let weight : Node → Nat := fun node => node.boost.units.toNat / Binary64.unitsPerOne
    let calls : Callbacks Id := fun _ _ _ => .error "none"
    let getter : Getter Id (Record Id) :=
      .function fun _ key => if key = "a" then .ok none else .error "unreadable"
    let r : Record Id := .ofAttributes fun _ => none
    (Query.compile (m := Id) (.weighing .one two)).run = .ok q ∧
      (∀ node ∈ nodes, node.boost.units = (weight node * Binary64.unitsPerOne : Nat)) ∧
      totalWeight weight nodes ≤ 2 ^ 53 ∧
      (q.eval calls (.of getter r)).run = .ok false ∧
      ∃ e, (q.score calls (.of getter r)).run = .error e := by
  intro two nodes q weight calls getter r
  have htwo : two.IsWeight := ⟨by decide, by decide +kernel⟩
  have h := Query.compile_weighing Binary64.isWeight_one htwo
  have hweight : ∀ node ∈ nodes,
      node.boost.units = (weight node * Binary64.unitsPerOne : Nat) := by
    rw [List.forall_mem_cons, List.forall_mem_singleton]
    exact ⟨by decide +kernel, by decide +kernel⟩
  have htotal : totalWeight weight nodes ≤ 2 ^ 53 := by decide +kernel
  have hfirst : (Node.eval calls (.of getter r) (.weighing "a" .one)).run = .ok false := rfl
  obtain ⟨-, -, hunreadable, -⟩ := Query.agrees_score h rfl hweight htotal calls getter r
  refine ⟨h, hweight, htotal, hunreadable [.weighing "a" .one] _ [] rfl ?_ ?_ ⟨_, rfl⟩⟩
  · exact List.forall_mem_singleton.2 ⟨_, hfirst⟩
  · exact ⟨_, List.mem_singleton_self _, hfirst⟩

end RecordQuery
