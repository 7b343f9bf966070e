import RecordQuery.Proofs.Compile.Conjunction
import RecordQuery.Proofs.Compile.WellFormed
import RecordQuery.Proofs.Query.Verdict
import RecordQuery.Query.Score

/-!
# Scores as fractions

A tally asks every node, so it gives what it counts only if none of them fails. The boosts of a
compiled query are finite and not negative: the sum of those of the nodes that pass is a part of the
sum of all, and the score lies between zero and one as long as that part has not run over
(`Tally.score_of_isWeight`). If it has, the score is not a number.
-/

namespace RecordQuery

/-! ## Tallies -/

namespace Tally

/-- What is counted if these nodes pass. -/
def ofPasses (passes : Node → Bool) (nodes : List Node) : Tally :=
  ⟨.sum (nodes.map Node.boost), .sum ((nodes.filter passes).map Node.boost)⟩

theorem foldl_count (passes : Node → Bool) (nodes : List Node) (t : Tally) :
    nodes.foldl (fun t node => t.count node.boost (passes node)) t =
      ⟨(nodes.map Node.boost).foldl .add t.total,
        ((nodes.filter passes).map Node.boost).foldl .add t.passed⟩ := by
  induction nodes generalizing t with
  | nil => rfl
  | cons node nodes ih =>
    rw [List.foldl_cons, ih, count]
    cases hpass : passes node with
    | true => rw [List.filter_cons_of_pos hpass]; rfl
    | false => rw [List.filter_cons_of_neg (by rw [hpass]; exact Bool.false_ne_true)]; rfl

end Tally

variable {calls : Callbacks Id} {s : Subject Id} {nodes : List Node}

theorem run_tally_of_passes {passes : Node → Bool}
    (h : ∀ node ∈ nodes, (node.eval calls s).run = .ok (passes node)) :
    (tally calls s nodes).run = .ok (.ofPasses passes nodes) := by
  have hcount : Tally.ofPasses passes nodes =
      nodes.foldl (fun t node => t.count node.boost (passes node)) .empty :=
    (Tally.foldl_count passes nodes .empty).symm
  rw [tally, hcount]
  generalize Tally.empty = start
  clear hcount
  induction nodes generalizing start with
  | nil => rfl
  | cons node nodes ih =>
    rw [List.forall_mem_cons] at h
    rw [List.foldlM_cons, run_bind_eq_ok_iff]
    exact ⟨_, run_bind_eq_ok_iff.2 ⟨_, h.1, rfl⟩, ih h.2 _⟩

/-- A tally fails if one of its nodes does. -/
theorem exists_passes_of_run_tally {t : Tally} (h : (tally calls s nodes).run = .ok t) :
    ∃ passes : Node → Bool, ∀ node ∈ nodes, (node.eval calls s).run = .ok (passes node) := by
  refine ⟨Node.verdict calls s, ?_⟩
  rw [tally] at h
  generalize Tally.empty = start at h
  induction nodes generalizing start with
  | nil => simp
  | cons node nodes ih =>
    rw [List.foldlM_cons, run_bind_eq_ok_iff] at h
    obtain ⟨next, hnext, h⟩ := h
    obtain ⟨answer, hanswer, -⟩ := run_bind_eq_ok_iff.1 hnext
    rw [List.forall_mem_cons, node.verdict_eq_of_eval s hanswer]
    exact ⟨hanswer, ih _ h⟩

/-! ## Scores of `$and` groups -/

namespace Query

variable {q : Query} {weight : Binary64} (hq : q.groups = [⟨.and, nodes, weight⟩])
include hq

theorem run_score_eq_ok_iff {x : Binary64} :
    (q.score calls s).run = .ok x ↔ ∃ t, (tally calls s nodes).run = .ok t ∧ t.score = x := by
  rw [score, scored?, hq]
  exact run_adapt_eq_ok_iff.trans run_map_eq_ok_iff

theorem run_score_of_passes {passes : Node → Bool}
    (h : ∀ node ∈ nodes, (node.eval calls s).run = .ok (passes node)) :
    (q.score calls s).run = .ok (Tally.ofPasses passes nodes).score :=
  (run_score_eq_ok_iff hq).2 ⟨_, run_tally_of_passes h, rfl⟩

/-- A score is that of a tally of nodes of which none has failed. -/
theorem exists_passes_of_run_score {x : Binary64} (h : (q.score calls s).run = .ok x) :
    ∃ passes : Node → Bool,
      (∀ node ∈ nodes, (node.eval calls s).run = .ok (passes node)) ∧
        x = (Tally.ofPasses passes nodes).score := by
  obtain ⟨t, ht, rfl⟩ := (run_score_eq_ok_iff hq).1 h
  obtain ⟨passes, hpasses⟩ := exists_passes_of_run_tally ht
  obtain rfl := Except.ok.inj (ht.symm.trans (run_tally_of_passes hpasses))
  exact ⟨passes, hpasses, rfl⟩

/-- Wherever in the `$and` group a node fails, there is no score. -/
theorem run_score_of_fails {node : Node} (hnode : node ∈ nodes)
    (hfails : ∃ e, (node.eval calls s).run = .error e) :
    ∃ e, (q.score calls s).run = .error e := by
  cases hscore : (q.score calls s).run with
  | error e => exact ⟨e, rfl⟩
  | ok x =>
    obtain ⟨passes, hpasses, -⟩ := exists_passes_of_run_score hq hscore
    obtain ⟨e, he⟩ := hfails
    have hanswer := hpasses node hnode
    rw [he] at hanswer
    cases hanswer

end Query

/-! ## The boosts of compiled nodes -/

theorem Node.isWeight_boost {node : Node}
    (h : node.Everywhere Condition.IsSound Group.IsRegular Query.IsRegular) :
    node.boost.IsWeight := by
  cases node with
  | condition c => exact ((Condition.everywhere_iff c).1 h).1.1.boost
  | group g => exact ((Group.everywhere_iff g).1 h).1.boost

theorem Query.isWeight_boost_of_compile {d : Document} {q : Query}
    (h : (Query.compile (m := Id) d).run = .ok q) {group : Group} (hgroup : group ∈ q.groups) :
    ∀ node ∈ group.nodes, node.boost.IsWeight := by
  have hq := (keptByCompiler_isRegular.kept (.ofDocument d)).query q (compile_eq_ok_iff.1 h)
  have hnodes := ((Group.everywhere_iff group).1 (((everywhere_iff q).1 hq).2 group hgroup)).2
  exact fun node hnode => node.isWeight_boost (hnodes node hnode)

/-! ## Scores as fractions -/

/-- The boosts of the nodes that pass sum up to no more than those of all nodes, since rounding
keeps the order of sums, so their quotient is a fraction unless both sums have run over. -/
theorem Tally.score_of_isWeight {passes : Node → Bool}
    (hboosts : ∀ node ∈ nodes, node.boost.IsWeight) :
    ((ofPasses passes nodes).passed.isFinite = true →
      (ofPasses passes nodes).score.IsFraction) ∧
    ((ofPasses passes nodes).passed.isFinite = false →
      (ofPasses passes nodes).score.isNaN = true) := by
  have hall : ∀ x ∈ nodes.map Node.boost, x.IsWeight := List.forall_mem_map.2 hboosts
  have hpart : ((nodes.filter passes).map Node.boost).Sublist (nodes.map Node.boost) :=
    List.filter_sublist.map _
  have hsome : ∀ x ∈ (nodes.filter passes).map Node.boost, x.IsWeight := fun x hx =>
    hall x (hpart.subset hx)
  have hle := Binary64.sumMagnitude_le_of_sublist hpart (Nat.le_refl 0) (Nat.zero_le _)
  rw [ofPasses, score, Binary64.sum_eq_ofParts hall, Binary64.sum_eq_ofParts hsome]
  have hp := Binary64.sumMagnitude_le_infinity (Nat.zero_le _)
    ((nodes.filter passes).map Node.boost)
  have ht := Binary64.sumMagnitude_le_infinity (Nat.zero_le _) (nodes.map Node.boost)
  generalize Binary64.sumMagnitude 0 ((nodes.filter passes).map Node.boost) = p at hle hp ⊢
  generalize Binary64.sumMagnitude 0 (nodes.map Node.boost) = t at hle ht ⊢
  rw [Binary64.isFinite_ofParts hp, Binary64.isZero_ofParts ht, decide_eq_true_eq,
    decide_eq_false_iff_not]
  by_cases hzero : t = 0
  · -- nothing of nothing is zero
    rw [if_pos (decide_eq_true hzero)]
    refine ⟨fun _ => Binary64.isFraction_ofParts (Nat.zero_le _), fun hinfinite => ?_⟩
    rw [hzero] at hle
    exact absurd (Nat.lt_of_le_of_lt hle (by decide)) hinfinite
  · rw [if_neg (by simpa using hzero)]
    refine ⟨fun hfinite => Binary64.isFraction_div hfinite ht hzero hle, fun hinfinite => ?_⟩
    have hpinfinite : p = Binary64.infinityMagnitude := by omega
    have htinfinite : t = Binary64.infinityMagnitude := by omega
    rw [hpinfinite, htinfinite]
    exact Binary64.isNaN_div_infinity

/-- If no node of an `$and` group fails, the group has a score. The score is a fraction unless the
sum of the boosts of the nodes that pass has run over. -/
theorem Query.isFraction_score {ρ : Type} [Queryable Id ρ] {d : Document} {q : Query}
    (h : (Query.compile (m := Id) d).run = .ok q) {weight : Binary64}
    (hq : q.groups = [⟨.and, nodes, weight⟩]) (calls : Callbacks Id) (getter : Getter Id ρ) (r : ρ)
    {passes : Node → Bool}
    (hpasses : ∀ node ∈ nodes, (node.eval calls (.of getter r)).run = .ok (passes node)) :
    ∃ x, (q.score calls (.of getter r)).run = .ok x ∧
      ((Binary64.sum ((nodes.filter passes).map Node.boost)).isFinite = true → x.IsFraction) ∧
      ((Binary64.sum ((nodes.filter passes).map Node.boost)).isFinite = false →
        x.isNaN = true) := by
  have hgroup : (⟨.and, nodes, weight⟩ : Group) ∈ q.groups := hq ▸ List.mem_singleton_self _
  exact ⟨_, run_score_of_passes hq hpasses,
    Tally.score_of_isWeight (isWeight_boost_of_compile h hgroup)⟩

section Instances

/-- The clause of `$exists` and `$boost`. -/
def Document.presence (boost : Binary64) : Document :=
  .ofList [("$exists", .bool true), (boostKey, .number (.real boost))]

/-- `$exists` of two attributes, each with a `$boost`. -/
def Document.weighing (first second : Binary64) : Document :=
  .ofList [("a", .ofDocument (.presence first)), ("b", .ofDocument (.presence second))]

/-- The condition of `$exists` with a `$boost`. -/
def Node.weighing (key : String) (boost : Binary64) : Node :=
  .condition { Condition.ofKey key .present (.value (.bool true)) with boost := boost }

theorem Document.isOperators_presence (boost : Binary64) : (presence boost).IsOperators where
  reserved := by
    show ∀ key ∈ ["$exists", "$boost"], key ≠ boostKey → isReserved key = true
    decide
  nonempty := ⟨"$exists", List.mem_cons_self, by decide, by decide⟩
  options := by
    show optionsKey ∈ ["$exists", "$boost"] → _
    exact fun h => absurd h (by decide)

theorem compilePair_presence {key : String} (hkey : Combinator.ofName? key = none)
    {boost : Binary64} (hboost : boost.IsWeight) :
    compilePair key (.ofDocument (.presence boost)) = .ok (.weighing key boost) := by
  have hunder : (Document.presence boost).compileUnder key =
      .ok (.condition (.ofKey key .present (.value (.bool true)))) :=
    (compileUnder_of_attribute hkey).2 (.inr ⟨Document.isOperators_presence boost, _, rfl, rfl⟩)
  exact compilePair_document.2 ⟨_, _, Document.boost?_of_isWeight rfl hboost, hunder, rfl⟩

theorem Query.compile_weighing {first second : Binary64} (hfirst : first.IsWeight)
    (hsecond : second.IsWeight) :
    (Query.compile (m := Id) (.weighing first second)).run =
      .ok ⟨[.ofNodes .and [.weighing "a" first, .weighing "b" second]]⟩ := by
  have hkeys : ∀ key ∈ (Document.weighing first second).keys, namesAttribute key = true := by
    show ∀ key ∈ ["a", "b"], namesAttribute key = true
    decide
  have hconjunction := Document.isConjunction_of_attributes hkeys (List.cons_ne_nil _ _)
  have hconjuncts : (Document.weighing first second).conjuncts =
      [("a", .ofDocument (.presence first)), ("b", .ofDocument (.presence second))] := rfl
  have htests : CompilesAll (Document.weighing first second).conjuncts
      [.weighing "a" first, .weighing "b" second] := by
    rw [hconjuncts]
    exact .cons (compilePair_presence rfl hfirst)
      (.cons (compilePair_presence rfl hsecond) .nil)
  exact compile_eq_ok_iff.2 (hconjunction.compileQuery_iff.2 ⟨_, htests, rfl⟩)

/-- The first of two tests passes, which has twice the boost of the other. -/
theorem Query.isFraction_score_first :
    let half : Binary64 := ⟨0x3fe0000000000000⟩
    let q : Query := ⟨[.ofNodes .and [.weighing "a" .one, .weighing "b" half]]⟩
    let calls : Callbacks Id := fun _ _ _ => .error "none"
    let r : Record Id := .ofAttributes fun key => if key = "a" then some (.bool true) else none
    (Query.compile (m := Id) (.weighing .one half)).run = .ok q ∧
      ∃ x, (q.score calls (.of .property r)).run = .ok x ∧ x.IsFraction := by
  intro half q calls r
  have hhalf : half.IsWeight := ⟨by decide, by decide +kernel⟩
  have h := Query.compile_weighing Binary64.isWeight_one hhalf
  have hpasses : ∀ node ∈ [Node.weighing "a" .one, .weighing "b" half],
      (node.eval calls (.of .property r)).run = .ok (node.verdict calls (.of .property r)) := by
    rw [List.forall_mem_cons, List.forall_mem_singleton]
    exact ⟨rfl, rfl⟩
  obtain ⟨x, hx, hfraction, -⟩ := Query.isFraction_score h rfl calls .property r hpasses
  exact ⟨h, x, hx, hfraction (by decide +kernel)⟩

/-- Both tests pass, and each has the boost `1e308`. -/
theorem Query.isNaN_score_huge :
    let huge : Binary64 := ⟨0x7fe1ccf385ebc8a0⟩
    let nodes : List Node := [.weighing "a" huge, .weighing "b" huge]
    let q : Query := ⟨[.ofNodes .and nodes]⟩
    let calls : Callbacks Id := fun _ _ _ => .error "none"
    let r : Record Id := .ofAttributes fun _ => some (.bool true)
    (Query.compile (m := Id) (.weighing huge huge)).run = .ok q ∧
      (∀ node ∈ nodes, (node.eval calls (.of .property r)).run = .ok true) ∧
      ∃ x, (q.score calls (.of .property r)).run = .ok x ∧ x.isNaN = true := by
  intro huge nodes q calls r
  have hhuge : huge.IsWeight := ⟨by decide, by decide +kernel⟩
  have hpasses : ∀ node ∈ nodes, (node.eval calls (.of .property r)).run = .ok true := by
    rw [List.forall_mem_cons, List.forall_mem_singleton]
    exact ⟨rfl, rfl⟩
  refine ⟨Query.compile_weighing hhuge hhuge, hpasses, _, run_score_of_passes rfl hpasses, ?_⟩
  decide +kernel

end Instances

end RecordQuery
