import RecordQuery.Proofs.Compile.Conjunction

/-!
# Documents about one attribute

A document of one key that names an attribute compiles to one test, and the query gives what this
test gives (`Document.gives_attribute_iff`). Under the key may stand a clause of operators: if they
compile to conditions which look at nothing but the attribute (`StatesTest`), the document says of
the attribute what all of them say (`Document.gives_operators`).
-/

namespace RecordQuery

/-! ## One test -/

/-- The query of one test. -/
def Query.ofTest (test : Node) : Query :=
  ⟨[.ofNodes .and [test]]⟩

theorem Query.eval_ofTest {m : Type → Type} [Monad m] [LawfulMonad m] (calls : Callbacks m)
    (s : Subject m) (test : Node) : (ofTest test).eval calls s = test.eval calls s := by
  conv_rhs => rw [← bind_pure (test.eval calls s)]
  rw [ofTest, Query.eval, allPass, Group.ofNodes, Group.eval, settles, map_eq_pure_bind,
    bind_assoc, bind_assoc]
  refine bind_congr fun b => ?_
  -- a test that does not pass settles the group at once, one that passes is the last of it
  cases b with
  | true => simp [settles, allPass, Combinator.decisive, Combinator.passes]
  | false => simp [Combinator.decisive, Combinator.passes]

@[simp]
theorem Node.arrange_singleton (node : Node) : arrange [node] = [node] :=
  List.perm_singleton.1 (perm_arrange _)

theorem compileQuery_attribute_iff {key : String} (hkey : Combinator.ofName? key = none) {v : Value}
    {q : Query} :
    compileQuery (.ofDocument (.singleton key v)) = .ok q ↔
      ∃ test, compilePair key v = .ok test ∧ .ofTest test = q := by
  have hkeys : ∀ name ∈ (Fields.singleton key v).keys, namesAttribute name = true :=
    List.forall_mem_singleton.2 (namesAttribute_iff.2 hkey)
  have hconjuncts : Document.conjuncts (.singleton key v) = [(key, v)] :=
    Document.conjuncts_of_attributes hkeys
  rw [(Document.isConjunction_of_attributes hkeys (List.cons_ne_nil _ _)).compileQuery_iff,
    hconjuncts]
  simp only [CompilesAll, List.forall₂_cons_left_iff, List.forall₂_nil_left_iff]
  constructor
  · rintro ⟨_, ⟨test, _, htest, rfl, rfl⟩, rfl⟩
    exact ⟨test, htest, by simp [Query.ofTest]⟩
  · rintro ⟨test, htest, rfl⟩
    exact ⟨_, ⟨test, _, htest, rfl, rfl⟩, by simp [Query.ofTest]⟩

/-! ## What a document says of a record -/

/-- The document compiles, and `x` is what comes of asking its query about `s`. -/
def Document.Gives (d : Document) (calls : Callbacks Id) (s : Subject Id)
    (x : Except EvalError Bool) : Prop :=
  ∃ q, (Query.compile (m := Id) d).run = .ok q ∧ (q.eval calls s).run = x

/-- The document compiles, and its query answers `b` when it is asked about `s`. -/
def Document.Answers (d : Document) (calls : Callbacks Id) (s : Subject Id) (b : Bool) : Prop :=
  ∃ q, (Query.compile (m := Id) d).run = .ok q ∧ (q.eval calls s).run = .ok b

/-- A document has one answer. -/
theorem Document.Answers.eq {d : Document} {calls : Callbacks Id} {s : Subject Id} {b b' : Bool}
    (h : d.Answers calls s b) (h' : d.Answers calls s b') : b = b' := by
  obtain ⟨q, hq, hb⟩ := h
  obtain ⟨q', hq', hb'⟩ := h'
  obtain rfl : q = q' := Except.ok.inj (hq.symm.trans hq')
  exact Except.ok.inj (hb.symm.trans hb')

section Gives

variable {key : String} {calls : Callbacks Id} {s : Subject Id}

theorem Document.gives_attribute_iff (hkey : Combinator.ofName? key = none) {v : Value}
    {x : Except EvalError Bool} :
    Document.Gives (.singleton key v) calls s x ↔
      ∃ test, compilePair key v = .ok test ∧ (test.eval calls s).run = x := by
  simp only [Gives, Query.compile_eq_ok_iff, compileQuery_attribute_iff hkey]
  constructor
  · rintro ⟨_, ⟨test, htest, rfl⟩, hx⟩
    exact ⟨test, htest, by rwa [Query.eval_ofTest] at hx⟩
  · rintro ⟨test, htest, hx⟩
    exact ⟨_, ⟨test, htest, rfl⟩, by rwa [Query.eval_ofTest]⟩

/-- A condition that looks at nothing but the attribute says what its operator says of it. -/
theorem Document.answers_of_condition (hkey : Combinator.ofName? key = none) {v : Value}
    {c : Condition} (hcompile : compilePair key v = .ok (.condition c))
    (hplain : c.operand.IsPlain c.op) {attr : Option Json}
    (hattr : (s.attr c.key c.path).run = .ok attr) :
    Document.Answers (.singleton key v) calls s (c.matches attr) := by
  obtain ⟨name, path, op, operand, boost⟩ := c
  refine (gives_attribute_iff hkey).2 ⟨_, hcompile, ?_⟩
  rw [Node.eval, Condition.eval_plain hplain]
  exact run_map_eq_ok_iff.2 ⟨attr, hattr, rfl⟩

end Gives

/-! ## Operators -/

theorem compileVerb_operator {key : String} {op : Operator} {options : Option Value} {v : Value}
    {node : Node} : compileVerb key op.name options v = .ok node ↔
      op.accepts v = true ∧ compileTest key op options v = .ok node := by
  rw [compileVerb_test, ite_error_eq_ok_iff]
  simp

theorem Condition.matches_ofKey (key : String) (op : Operator) (operand : Operand)
    (attr : Option Json) :
    (Condition.ofKey key op operand).matches attr =
      (op.admits (.ofAttribute attr) && op.test operand attr) :=
  rfl

/-- The pair is an operator with an operand that it takes, and compiles to a condition that looks at
nothing but the attribute of the key. -/
structure StatesTest (key : String) (pair : String × Value) (c : Condition) : Prop where
  verb : ∃ op : Operator, op.name = pair.1 ∧ op.accepts pair.2 = true ∧
    compileTest key op none pair.2 = .ok (.condition c)
  key_eq : c.key = key
  path_eq : c.path = Path.ofKey? key
  plain : c.operand.IsPlain c.op

section States

variable {key : String} {op : Operator}

theorem statesTest_value (hshape : op.shape = .any) (hequal : op ≠ .equal)
    (hcomputed : op ≠ .computed) {v : Value} (hv : v.kind ≠ .function) :
    StatesTest key (op.name, v) (.ofKey key op (.value v)) where
  verb := by
    refine ⟨op, rfl, ?_, ?_⟩
    · rw [Operator.accepts, hshape]
      exact decide_eq_true hv
    · cases op with
      | equal => exact absurd rfl hequal
      | computed => exact absurd rfl hcomputed
      | less | lessEqual | greater | greaterEqual | present | has | kind | notEqual | contains
      | deepEqual | date => rfl
      | _ => cases hshape
  key_eq := rfl
  path_eq := rfl
  plain := trivial

/-- Scalar equality leaves what is structured to the equality of all values. -/
theorem statesTest_equal {v : Value} (hv : v.kind ≠ .function) :
    StatesTest key (Operator.equal.name, v)
      (.ofKey key (if v.isStructured then .deepEqual else .equal) (.value v)) where
  verb := ⟨.equal, rfl, decide_eq_true hv, rfl⟩
  key_eq := rfl
  path_eq := rfl
  plain := trivial

theorem statesTest_list (hshape : op.shape = .array) (vs : List Value) :
    StatesTest key (op.name, .ofList vs) (.ofKey key op (.list vs)) where
  verb := by
    refine ⟨op, rfl, ?_, ?_⟩
    · rw [Operator.accepts, hshape]
      rfl
    · have hitems : List.ofFn vs.get = vs := List.ofFn_get vs
      cases op with
      | isIn | notIn | containsAll | containsAny | containsNone =>
        conv_rhs => rw [← hitems]
        rfl
      | _ => cases hshape
  key_eq := rfl
  path_eq := rfl
  plain := trivial

theorem statesTest_pair (hshape : op.shape = .pair) (first second : Value) :
    StatesTest key (op.name, .ofList [first, second]) (.ofKey key op (.pair first second)) where
  verb := by
    refine ⟨op, rfl, ?_, ?_⟩
    · rw [Operator.accepts, hshape]
      rfl
    · cases op with
      | modulo | between | betweenEqual => rfl
      | _ => cases hshape
  key_eq := rfl
  path_eq := rfl
  plain := trivial

end States

/-! ## Clauses of operators -/

namespace Document

section Operators

variable {d : Document} (hne : d.keys ≠ [])
  (hnames : ∀ name ∈ d.keys, ∃ op : Operator, op.name = name)

include hne hnames in
theorem isOperators_of_names : d.IsOperators where
  reserved name hname _ := by
    obtain ⟨op, rfl⟩ := hnames name hname
    simp
  nonempty := by
    obtain ⟨name, hname⟩ := List.exists_mem_of_ne_nil _ hne
    obtain ⟨op, rfl⟩ := hnames name hname
    exact ⟨_, hname, by simp, by simp⟩
  options hmem := by
    obtain ⟨op, hop⟩ := hnames _ hmem
    exact absurd hop (by simp)

include hnames in
/-- There is neither `$boost` nor `$options` beside the operators. -/
theorem verbs_of_names : d.verbs = List.finRange d.keys.length := by
  have hname : ∀ i, d.keys.get i ≠ boostKey ∧ d.keys.get i ≠ optionsKey := by
    intro i
    obtain ⟨op, hop⟩ := hnames _ (List.get_mem d.keys i)
    exact hop ▸ ⟨op.name_ne_boostKey, op.name_ne_optionsKey⟩
  have hplaces : d.places = List.finRange d.keys.length :=
    List.filter_eq_self.2 fun i _ => decide_eq_true (hname i).1
  rw [verbs, hplaces]
  exact List.filter_eq_self.2 fun i _ => decide_eq_true (hname i).2

include hne hnames in
theorem compilePair_of_names {key : String} (hkey : Combinator.ofName? key = none) {node : Node} :
    compilePair key (.ofDocument d) = .ok node ↔
      ∃ nodes, List.Forall₂ (fun pair node => compileVerb key pair.1 none pair.2 = .ok node)
        d.entries nodes ∧ .ofClause nodes = node := by
  have hoperators : d.IsOperators := isOperators_of_names hne hnames
  have hboost : boostKey ∉ d.keys := fun hmem => by
    obtain ⟨op, hop⟩ := hnames _ hmem
    exact op.name_ne_boostKey hop
  have hoptions : d.get? optionsKey = none := Fields.get?_eq_none_iff.2 fun hmem => by
    obtain ⟨op, hop⟩ := hnames _ hmem
    exact op.name_ne_optionsKey hop
  rw [compilePair_unweighted hboost, compileUnder_of_attribute hkey, verbs_of_names hnames,
    hoptions, Fields.entries, List.ofFn_eq_map]
  simp only [hoperators.not_isLiteral, hoperators, false_and, true_and, false_or, mapM_eq_ok_iff,
    List.forall₂_map_left_iff]

end Operators

end Document

/-- Conditions that are each decided by one attribute say of it together what all of them say, and
fail only as the reading of it does. -/
theorem Node.run_eval_ofClause {calls : Callbacks Id} {s : Subject Id} {cs : List Condition}
    (hne : cs ≠ []) {x : Except EvalError (Option Json)}
    (h : ∀ c ∈ cs, (c.eval calls s).run = x.map c.matches) :
    ((ofClause (cs.map .condition)).eval calls s).run =
      x.map fun attr => cs.all (·.matches attr) := by
  have hgroup : ((ofTests .and (cs.map .condition)).eval calls s).run =
      x.map fun attr => cs.all (·.matches attr) := by
    have hperm : (arrange (cs.map .condition)).Perm (cs.map .condition) := perm_arrange _
    rw [ofTests, Node.eval, Group.ofNodes, Group.eval, ExceptT.run_map]
    cases x with
    | error e =>
      have hsome : arrange (cs.map .condition) ≠ [] := by
        intro hnil
        rw [hnil] at hperm
        exact hne (List.map_eq_nil_iff.1 hperm.nil_eq.symm)
      -- the first test fails already
      obtain ⟨first, rest, harrange⟩ := List.exists_cons_of_ne_nil hsome
      obtain ⟨c, hc, rfl⟩ := List.mem_map.1 (hperm.mem_iff.1 (harrange ▸ List.mem_cons_self))
      rw [harrange, settles, ExceptT.run_bind, Node.eval, h c hc]
      rfl
    | ok attr =>
      have hverdict : ∀ c ∈ cs, c.verdict calls s = c.matches attr := fun c hc =>
        c.verdict_eq_of_eval s (h c hc)
      have hnodes : ∀ node ∈ arrange (cs.map .condition),
          (node.eval calls s).run = .ok (node.verdict calls s) := by
        intro node hnode
        obtain ⟨c, hc, rfl⟩ := List.mem_map.1 (hperm.mem_iff.1 hnode)
        rw [Node.eval, Node.verdict, hverdict c hc]
        exact h c hc
      have hall : (cs.all fun c => c.matches attr) =
          !cs.any ((Node.verdict calls s · == false) ∘ .condition) := by
        rw [List.not_any_eq_all_not, Bool.eq_iff_iff, List.all_eq_true, List.all_eq_true]
        refine forall₂_congr fun c hc => ?_
        rw [Function.comp_apply, Node.verdict, hverdict c hc, beq_false, Bool.not_not]
      have hsettles := run_settles_append false hnodes []
      rw [List.append_nil, hperm.any_eq, List.any_map] at hsettles
      rw [show Combinator.and.decisive = false from rfl, hsettles]
      show _ = Except.ok (cs.all _)
      rw [hall]
      generalize cs.any _ = settled
      cases settled <;> rfl
  obtain ⟨c, rest, rfl⟩ := List.exists_cons_of_ne_nil hne
  cases rest with
  | nil =>
    simp only [List.map_cons, List.map_nil, ofClause, List.all_cons, List.all_nil, Bool.and_true]
    exact h c List.mem_cons_self
  | cons _ _ => exact hgroup

/-- A clause of operators that look at nothing but the attribute says of it what all of them say,
and fails only as the reading of the attribute does. -/
theorem Document.gives_operators {key : String} (hkey : Combinator.ofName? key = none)
    {d : Document} {cs : List Condition} (hne : cs ≠ [])
    (h : List.Forall₂ (StatesTest key) d.entries cs) (calls : Callbacks Id) (s : Subject Id) :
    Document.Gives (.singleton key (.ofDocument d)) calls s
      ((s.attr key (Path.ofKey? key)).run.map fun attr => cs.all (·.matches attr)) := by
  have hnames : ∀ name ∈ d.keys, ∃ op : Operator, op.name = name := by
    intro name hname
    obtain ⟨i, rfl⟩ := List.get_of_mem hname
    have hpair : (d.keys.get i, d.value i) ∈ d.entries := List.mem_ofFn.2 ⟨i, rfl⟩
    obtain ⟨c, -, hstates⟩ := exists_of_forall₂_left h hpair
    obtain ⟨op, hop, -⟩ := hstates.verb
    exact ⟨op, hop⟩
  have hkeys : d.keys ≠ [] := by
    intro hnil
    have hlength := h.length_eq
    rw [Fields.entries, List.length_ofFn, hnil] at hlength
    exact hne (List.length_eq_zero_iff.1 hlength.symm)
  refine (gives_attribute_iff hkey).2 ⟨.ofClause (cs.map .condition), ?_, ?_⟩
  · refine (compilePair_of_names hkeys hnames hkey).2 ⟨_, ?_, rfl⟩
    rw [List.forall₂_map_right_iff]
    refine h.imp fun pair c hc => ?_
    obtain ⟨op, hop, hverb⟩ := hc.verb
    rw [← hop]
    exact compileVerb_operator.2 hverb
  · refine Node.run_eval_ofClause hne fun c hc => ?_
    obtain ⟨pair, -, hstates⟩ := exists_of_forall₂_right h hc
    obtain ⟨name, path, op, operand, boost⟩ := c
    obtain rfl : name = key := hstates.key_eq
    obtain rfl : path = Path.ofKey? name := hstates.path_eq
    rw [Condition.eval_plain hstates.plain, ExceptT.run_map]
    rfl

/-! ## One operator -/

namespace Document

/-- The clause of one operator. -/
def asking (op : Operator) (v : Value) : Document :=
  .singleton op.name v

theorem isOperators_asking {op : Operator} {v : Value} : (asking op v).IsOperators :=
  isOperators_of_names (List.cons_ne_nil _ _) (List.forall_mem_singleton.2 ⟨op, rfl⟩)

/-- The document that tests one attribute with one operator. -/
def testing (key : String) (op : Operator) (v : Value) : Document :=
  .singleton key (.ofDocument (.asking op v))

section Testing

variable {key : String} (hkey : Combinator.ofName? key = none) {op : Operator} {v : Value}
  {c : Condition} (h : StatesTest key (op.name, v) c) (calls : Callbacks Id)
include hkey h

theorem gives_testing (s : Subject Id) :
    (testing key op v).Gives calls s ((s.attr key (Path.ofKey? key)).run.map c.matches) := by
  have hgives := gives_operators (d := asking op v) hkey (List.cons_ne_nil c []) (.cons h .nil)
    calls s
  simp only [List.all_cons, List.all_nil, Bool.and_true] at hgives
  exact hgives

/-- An operand that the operator accepts and reads as it stands makes the document answer as the
operator does. -/
theorem answers_testing {s : Subject Id} {attr : Option Json}
    (hattr : (s.attr key (Path.ofKey? key)).run = .ok attr) :
    (testing key op v).Answers calls s (c.matches attr) := by
  have hgives := gives_testing hkey h calls s
  rwa [hattr] at hgives

end Testing

end Document

end RecordQuery
