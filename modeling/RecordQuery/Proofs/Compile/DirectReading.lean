import RecordQuery.Proofs.Compile.Attribute
import RecordQuery.Proofs.Query.Leaves

/-!
# Direct readings

`$computed` makes the clause under it read its attribute from the record itself, and a query of
which every condition does so gives the same result under every getter (`Query.eval_eq_of_paths`).
It reaches a test that stands alone. Where a clause states several tests, or joins clauses, each of
them reads as its key calls for unless it is under a `$computed` of its own: `Value.ReadsDirectly`
says so of the clause as it is written (`Query.isDirect_computing_iff`).
-/

namespace RecordQuery

/-! ## Getters that are not asked -/

/-- If every condition follows a path, only the record is of account. -/
theorem Query.eval_eq_of_paths {m : Type → Type} [Monad m] {calls : Callbacks m}
    {s s' : Subject m} (hrecord : s.record = s'.record) {q : Query}
    (h : ∀ c ∈ q.leaves, c.path.isSome = true) : q.eval calls s = q.eval calls s' := by
  apply keptByEval_eq.eval_query_of_attrs (fun _ => rfl)
  · intro c hc
    obtain ⟨path, hpath⟩ := Option.isSome_iff_exists.1 (h c hc)
    rw [hpath, Subject.attr, Subject.attr, hrecord]
  · exact fun _ _ _ => hrecord

/-! ## What a clause states directly -/

namespace Value

/-- What stands under a name in a clause, given what is asked of it as a clause and of a list of
clauses, and whether a test that stands alone there is direct. -/
def OperandReadsDirectly (key name : String) (alone : Prop) (clause : Prop → Prop) (clauses : Prop)
    (v : Value) : Prop :=
  (∃ kind, Combinator.ofName? name = some kind ∧
    if v.isArray then clauses else clause (isDotted key = true)) ∨
  ∃ op, Operator.ofName? name = some op ∧ if op = .computed then clause True else alone

mutual

/-- Every test that the clause states of the attribute reads it from the record itself, given
whether a test that stands alone does. Tests that do not stand alone are direct if the key is a
path. -/
def ReadsDirectly (key : String) (alone : Prop) : Value → Prop
  | .object keys nodup value =>
    let d : Document := ⟨keys, nodup, value⟩
    d.IsLiteral ∧ alone ∨
    d.IsOperators ∧ ∀ i : Fin keys.length, keys.get i ≠ boostKey → keys.get i ≠ optionsKey →
      (value i).OperandReadsDirectly key (keys.get i)
        (if d.verbs.length = 1 then alone else isDotted key = true)
        (fun alone => (value i).ReadsDirectly key alone) ((value i).AllReadDirectly key)
  | _ => alone

/-- Every clause of the list does. -/
def AllReadDirectly (key : String) : Value → Prop
  | .array size item => ∀ i : Fin size, (item i).ReadsDirectly key (isDotted key = true)
  | _ => False

end

end Value

/-! ## What nodes read -/

/-- Every condition of the node reads the attribute from the record itself. -/
def Node.IsDirect (key : String) (node : Node) : Prop :=
  ∀ c ∈ node.leaves, c.path = some (.ofText key)

/-- When the node is direct, as it is and when `$computed` reaches it. -/
def Node.Reads (key : String) (direct : Prop → Prop) (node : Node) : Prop :=
  (node.IsDirect key ↔ direct (isDotted key = true)) ∧
    ((node.readDirectly key).IsDirect key ↔ direct True)

namespace Node

variable {key : String} {direct : Prop → Prop} {node : Node}

theorem reads_ofKey (op : Operator) (operand : Operand) :
    (Node.condition (.ofKey key op operand)).Reads key fun alone => alone := by
  have hpath : Path.ofKey? key = some (.ofText key) ↔ isDotted key = true := by
    rw [Path.ofKey?]
    cases isDotted key <;> simp
  refine ⟨?_, ?_⟩
  · rw [IsDirect, leaves, List.forall_mem_singleton]
    exact hpath
  · rw [IsDirect, readDirectly, leaves, List.forall_mem_singleton]
    exact iff_of_true rfl trivial

theorem reads_group {g : Group} {direct : Prop} (h : (Node.group g).IsDirect key ↔ direct) :
    (Node.group g).Reads key fun _ => direct :=
  ⟨h, h⟩

theorem Reads.readDirectly (h : node.Reads key direct) :
    (node.readDirectly key).Reads key fun _ => direct True := by
  have hidem : (node.readDirectly key).readDirectly key = node.readDirectly key := by
    cases node <;> rfl
  refine ⟨h.2, ?_⟩
  rw [hidem]
  exact h.2

@[simp]
theorem isDirect_withBoost (boost : Binary64) :
    (node.withBoost boost).IsDirect key ↔ node.IsDirect key := by
  cases node with
  | condition c => simp only [IsDirect, withBoost, leaves, List.forall_mem_singleton]
  | group g => simp only [IsDirect, withBoost, leaves, Group.leaves_eq_flatMap]

theorem Reads.withBoost (h : node.Reads key direct) (boost : Option Binary64) :
    (boost.elim node node.withBoost).Reads key direct := by
  cases boost with
  | none => exact h
  | some boost =>
    have hread : (node.withBoost boost).readDirectly key =
        (node.readDirectly key).withBoost boost := by
      cases node <;> rfl
    exact ⟨(isDirect_withBoost boost).trans h.1, hread ▸ (isDirect_withBoost boost).trans h.2⟩

theorem isDirect_ofTests_iff {kind : Combinator} {tests : List Node} :
    (Node.ofTests kind tests).IsDirect key ↔ ∀ test ∈ tests, test.IsDirect key := by
  simp only [IsDirect, ofTests, leaves, Group.leaves_eq_flatMap, Group.ofNodes, List.mem_flatMap,
    mem_arrange]
  constructor
  · exact fun h test htest c hc => h c ⟨test, htest, hc⟩
  · rintro h c ⟨test, htest, hc⟩
    exact h test htest c hc

/-- Operators of one clause do not stand alone beside each other. -/
theorem reads_ofClause {α : Type} {asks : α → Prop → Prop} {verbs : List α} {nodes : List Node}
    (h : List.Forall₂ (fun x node => node.Reads key (asks x)) verbs nodes) :
    (Node.ofClause nodes).Reads key fun alone =>
      ∀ x ∈ verbs, asks x (if verbs.length = 1 then alone else isDotted key = true) := by
  have hgroup : verbs.length ≠ 1 → (Node.ofTests .and nodes).Reads key fun alone =>
      ∀ x ∈ verbs, asks x (if verbs.length = 1 then alone else isDotted key = true) := by
    intro hlength
    simp only [if_neg hlength]
    exact reads_group (isDirect_ofTests_iff.trans
      (forall_mem_iff_of_forall₂ h fun x node _ hreads => hreads.1))
  match h with
  | .nil => exact hgroup (by simp)
  | .cons hnode .nil =>
    simp only [List.length_singleton, if_true, List.forall_mem_singleton]
    exact hnode
  | .cons _ (.cons _ _) => exact hgroup (by simp)

end Node

/-! ## What the compiler makes of the parts -/

section Verb

variable {key : String} {v : Value} {node : Node}

theorem reads_of_ofLiteral? {c : Condition} (h : Condition.ofLiteral? key v = .ok c) :
    (Node.condition c).Reads key fun alone => alone := by
  cases v with
  | function _ => cases h
  | _ =>
    obtain rfl := Except.ok.inj h
    exact Node.reads_ofKey _ _

theorem reads_of_ofOperator? {op : Operator} {options : Option Value} {c : Condition}
    (h : Condition.ofOperator? key op v options = .ok c) :
    (Node.condition c).Reads key fun alone => alone := by
  obtain ⟨operand, -, h⟩ := bind_eq_ok_iff.1 h
  obtain rfl := Except.ok.inj h
  exact Node.reads_ofKey _ _

variable {name : String} {options : Option Value} {clause : Prop → Prop} {clauses : Prop}
  (hclause : ∀ node, compilePair key v = .ok node → node.Reads key clause)
  (hclauses : ∀ nodes, v.isArray = true → compileClauses key v = .ok nodes →
    ((∀ node ∈ nodes, node.IsDirect key) ↔ clauses))
include hclause

include hclauses in
theorem reads_of_compileJoin {kind : Combinator} (h : compileJoin key kind v = .ok node) :
    node.Reads key fun _ => if v.isArray then clauses else clause (isDotted key = true) := by
  unfold compileJoin at h
  cases hlist : v.isArray with
  | true =>
    rw [if_pos hlist] at h
    obtain ⟨nodes, hnodes, rfl⟩ := map_eq_ok_iff.1 h
    simp only [if_true]
    exact Node.reads_group (Node.isDirect_ofTests_iff.trans (hclauses nodes hlist hnodes))
  | false =>
    rw [if_neg (by rw [hlist]; decide)] at h
    obtain ⟨node, hnode, rfl⟩ := map_eq_ok_iff.1 h
    simp only [Bool.false_eq_true, if_false]
    refine Node.reads_group (Node.isDirect_ofTests_iff.trans ?_)
    rw [List.forall_mem_singleton]
    exact (hclause node hnode).1

theorem reads_of_compileTest {op : Operator} (h : compileTest key op options v = .ok node) :
    node.Reads key fun alone => if op = .computed then clause True else alone := by
  unfold compileTest at h
  split at h
  · obtain ⟨node, hnode, rfl⟩ := map_eq_ok_iff.1 h
    simp only [if_true]
    exact (hclause node hnode).readDirectly
  · obtain ⟨q, -, rfl⟩ := map_eq_ok_iff.1 h
    exact Node.reads_ofKey _ _
  · rename_i hcomputed _
    obtain ⟨c, hc, rfl⟩ := map_eq_ok_iff.1 h
    simp only [if_neg hcomputed]
    exact reads_of_ofOperator? hc

include hclauses in
theorem reads_of_compileVerb (h : compileVerb key name options v = .ok node) :
    node.Reads key fun alone => v.OperandReadsDirectly key name alone clause clauses := by
  rcases compileVerb_eq_ok_iff.1 h with ⟨kind, hkind, h⟩ | ⟨op, hop, -, h⟩
  · simp only [Value.OperandReadsDirectly, hkind, Operator.ofName?_ne_some hkind, Option.some.injEq,
      exists_eq_left', false_and, exists_false, or_false]
    exact reads_of_compileJoin hclause hclauses h
  · have hkind := Combinator.ofName?_eq_none_of_operator hop
    simp only [Value.OperandReadsDirectly, hkind, hop, Option.some.injEq, reduceCtorEq,
      exists_eq_left', false_and, exists_false, false_or]
    exact reads_of_compileTest hclause h

end Verb

/-! ## From parts to whole clauses -/

/-- What the compiler makes of the value for an attribute is direct where the value says so. -/
structure Value.ReadsAsWritten (v : Value) : Prop where
  pair : ∀ key node, namesAttribute key = true → compilePair key v = .ok node →
    node.Reads key fun alone => v.ReadsDirectly key alone
  clauses : ∀ key nodes, namesAttribute key = true → v.isArray = true →
    compileClauses key v = .ok nodes →
      ((∀ node ∈ nodes, node.IsDirect key) ↔ v.AllReadDirectly key)

theorem Value.readsAsWritten_list {size : Nat} {item : Fin size → Value}
    (ih : ∀ i, (item i).ReadsAsWritten) : (Value.array size item).ReadsAsWritten where
  pair key node hkey h := by
    obtain rfl := (compilePair_list_of_attribute (namesAttribute_iff.1 hkey) size item).1 h
    simp only [ReadsDirectly]
    exact Node.reads_ofKey _ _
  clauses key nodes hkey _ h := by
    rw [AllReadDirectly, forall_mem_iff_of_forall₂ (mapM_eq_ok_iff.1 h) fun i node _ hnode =>
      ((ih i).pair key node hkey hnode).1]
    simp only [List.mem_finRange, forall_const]

theorem Value.readsAsWritten_document {d : Document} (ih : ∀ i, (d.value i).ReadsAsWritten) :
    (Value.ofDocument d).ReadsAsWritten where
  pair key node hkey h := by
    obtain ⟨boost, node, -, hunder, rfl⟩ := compilePair_document.1 h
    refine Node.Reads.withBoost ?_ boost
    simp only [ofDocument, ReadsDirectly]
    rcases (compileUnder_of_attribute (namesAttribute_iff.1 hkey)).1 hunder with
      ⟨hliteral, rfl⟩ | ⟨hoperators, nodes, hnodes, rfl⟩
    · have hoperators : ¬d.IsOperators := fun h => h.not_isLiteral hliteral
      simp only [hliteral, hoperators, true_and, false_and, or_false]
      exact Node.reads_ofKey _ _
    · have hverbs : List.Forall₂ (fun i node => node.Reads key fun alone =>
          (d.value i).OperandReadsDirectly key (d.keys.get i) alone
            (fun alone => (d.value i).ReadsDirectly key alone) ((d.value i).AllReadDirectly key))
          d.verbs nodes :=
        (mapM_eq_ok_iff.1 hnodes).imp fun i node hnode => reads_of_compileVerb
          (fun node => (ih i).pair key node hkey) (fun nodes => (ih i).clauses key nodes hkey) hnode
      have hreads := Node.reads_ofClause hverbs
      simp only [Document.mem_verbs, and_imp] at hreads
      simp only [hoperators, hoperators.not_isLiteral, true_and, false_and, false_or]
      exact hreads
  clauses key nodes _ h := by cases h

theorem Value.readsAsWritten_scalar {v : Value} (hlist : v.isArray = false)
    (hdocument : v.document? = none) : v.ReadsAsWritten where
  pair key node hkey h := by
    obtain ⟨-, c, hc, rfl⟩ := (compilePair_scalar hlist hdocument).1 h
    have hreads : ∀ alone, v.ReadsDirectly key alone ↔ alone := by
      intro alone
      cases v with
      | array _ _ => cases hlist
      | object _ _ _ => cases hdocument
      | _ => exact Iff.rfl
    simp only [hreads]
    exact reads_of_ofLiteral? hc
  clauses key nodes _ h := by rw [hlist] at h; cases h

/-- By induction on the value. -/
theorem Value.readsAsWritten (v : Value) : v.ReadsAsWritten := by
  induction v with
  | array size item ih => exact readsAsWritten_list ih
  | object keys nodup value ih => exact readsAsWritten_document (d := ⟨keys, nodup, value⟩) ih
  | _ => exact readsAsWritten_scalar rfl rfl

/-! ## Clauses under `$computed` -/

/-- The document that has the clause read from the record itself. -/
def Document.computing (clause : Value) : Document :=
  .singleton Operator.computed.name clause

/-- However the clause stands, `$computed` reaches a test that stands alone in it. -/
theorem Value.readsDirectly_computing {key : String} {alone : Prop} {clause : Value} :
    (Value.ofDocument (.computing clause)).ReadsDirectly key alone ↔
      clause.ReadsDirectly key True := by
  have hoperators : (Document.computing clause).IsOperators := Document.isOperators_asking
  have hoperand : ∀ alone, clause.OperandReadsDirectly key Operator.computed.name alone
      (fun alone => clause.ReadsDirectly key alone) (clause.AllReadDirectly key) ↔
        clause.ReadsDirectly key True := by
    intro alone
    simp [OperandReadsDirectly]
  rw [ofDocument, ReadsDirectly]
  constructor
  · rintro (⟨hliteral, -⟩ | ⟨-, h⟩)
    · exact absurd hliteral hoperators.not_isLiteral
    · exact (hoperand _).1
        (h ⟨0, Nat.one_pos⟩ (Operator.name_ne_boostKey _) (Operator.name_ne_optionsKey _))
  · intro h
    refine .inr ⟨hoperators, fun i _ _ => ?_⟩
    obtain rfl : i = ⟨0, Nat.one_pos⟩ := Subsingleton.elim (α := Fin 1) i _
    exact (hoperand _).2 h

@[simp]
theorem Query.leaves_ofTest (test : Node) : (ofTest test).leaves = test.leaves := by
  rw [ofTest, leaves, List.flatMap_singleton, Group.leaves_eq_flatMap, Group.ofNodes,
    List.flatMap_singleton]

theorem Query.isDirect_computing_iff {key : String} (hkey : namesAttribute key = true)
    {clause : Value} {d : Document} (hd : d = .singleton key (.ofDocument (.computing clause)))
    {q : Query} (h : compileQuery (.ofDocument d) = .ok q) :
    (∀ c ∈ q.leaves, c.path = some (.ofText key)) ↔ clause.ReadsDirectly key True := by
  rw [hd, compileQuery_attribute_iff (namesAttribute_iff.1 hkey)] at h
  obtain ⟨node, hnode, rfl⟩ := h
  have hreads : node.IsDirect key ↔ clause.ReadsDirectly key True :=
    ((Value.readsAsWritten _).pair key node hkey hnode).1.trans Value.readsDirectly_computing
  rw [Query.leaves_ofTest]
  exact hreads

/-- If the clause under `$computed` states its tests so that `$computed` reaches all of them, the
getter is of no account, and only then does every condition follow a path of its own. -/
theorem Query.eval_computing {key : String} (hkey : namesAttribute key = true) {clause : Value}
    {q : Query} (h : (Query.compile (m := Id)
      (.singleton key (.ofDocument (.singleton Operator.computed.name clause)))).run = .ok q) :
    ((∀ c ∈ q.leaves, c.path = some (.ofText key)) ↔ clause.ReadsDirectly key True) ∧
    (clause.ReadsDirectly key True →
      ∀ {m : Type → Type} [Monad m] {ρ : Type} [Queryable m ρ] (calls : Callbacks m)
        (getter getter' : Getter m ρ) (r : ρ),
        q.eval calls (.of getter r) = q.eval calls (.of getter' r)) := by
  have hdirect : _ ↔ clause.ReadsDirectly key True :=
    isDirect_computing_iff hkey rfl (compile_eq_ok_iff.1 h)
  refine ⟨hdirect, fun hclause m _ ρ _ calls getter getter' r => ?_⟩
  have hrecord : (Subject.of getter r).record = (Subject.of getter' r).record := rfl
  refine eval_eq_of_paths hrecord fun c hc => ?_
  rw [hdirect.2 hclause c hc]
  rfl

/-- Each of two clauses under `$or` has a `$computed` of its own. -/
theorem Query.eval_computing_alternatives :
    let outside (name : String) (bound : Int64) : Value := .ofDocument (.singleton
      Operator.computed.name (.ofDocument (.singleton name (.number (.signed bound)))))
    let clause : Value := .ofDocument
      (.singleton "$or" (.ofList [outside "$lt" 1, outside "$gt" 5]))
    let test (op : Operator) (bound : Int64) : Node :=
      .condition { Condition.ofKey "a" op (.value (.number (.signed bound))) with
        path := some (.ofText "a") }
    let q : Query := ⟨[.ofNodes .and [.ofTests .or [test .less 1, test .greater 5]]]⟩
    (Query.compile (m := Id)
        (.singleton "a" (.ofDocument (.singleton Operator.computed.name clause)))).run = .ok q ∧
      clause.ReadsDirectly "a" True ∧
      ∀ (calls : Callbacks Id) (getter : Getter Id Json) (r : Json),
        q.eval calls (.of getter r) = q.eval calls (.of .property r) := by
  have hsame : ∀ {clause : Value} {q : Query}, (Query.compile (m := Id)
      (.singleton "a" (.ofDocument (.singleton Operator.computed.name clause)))).run = .ok q →
      (∀ c ∈ q.leaves, c.path = some (.ofText "a")) →
      (Query.compile (m := Id)
          (.singleton "a" (.ofDocument (.singleton Operator.computed.name clause)))).run = .ok q ∧
        clause.ReadsDirectly "a" True ∧
        ∀ (calls : Callbacks Id) (getter : Getter Id Json) (r : Json),
          q.eval calls (.of getter r) = q.eval calls (.of .property r) := by
    intro clause q h hleaves
    obtain ⟨hdirect, heval⟩ := Query.eval_computing (by decide) h
    have hclause := hdirect.1 hleaves
    exact ⟨h, hclause, fun calls getter r => heval hclause calls getter .property r⟩
  exact hsame (Query.compile_eq_ok_iff.2 rfl)
    (List.forall_mem_cons.2 ⟨rfl, List.forall_mem_singleton.2 rfl⟩)

/-- Of the two tests of one clause neither stands alone, and both ask the getter. -/
theorem Query.eval_computing_several :
    let clause : Document := .ofList [("$gt", .number (.signed 1)), ("$lt", .number (.signed 5))]
    let d : Document := .singleton "a"
      (.ofDocument (.singleton Operator.computed.name (.ofDocument clause)))
    let calls : Callbacks Id := fun _ _ _ => .error "none"
    let r : Record Id := .ofAttributes fun _ =>
      some (.number (.integer 3 (by decide) (by decide)))
    ∃ q, (Query.compile (m := Id) d).run = .ok q ∧
      (q.eval calls (.of .property r)).run = .ok true ∧
      (q.eval calls (.of (.function fun _ _ => .ok none) r)).run = .ok false :=
  ⟨_, Query.compile_eq_ok_iff.2 rfl, rfl, rfl⟩

end RecordQuery
