import RecordQuery.Proofs.Compile.Clauses
import RecordQuery.Proofs.Query.Verdict

/-!
# What documents mean

`Document.Holds` says of a record what a document asks, key by key, as the document is written:
there is no order of tests, no group and no test that is passed over. A compiled query gives the
answer that its document has by this reading (`Query.verdict_iff_of_compile`).
-/

namespace RecordQuery

/-! ## Joining -/

namespace Combinator

variable {α : Type}

/-- What a combinator asks of the pairs of one document in a list of documents. -/
def JoinsMember (kind : Combinator) (among holds : α → Prop) : Prop :=
  match kind with
  | .and => ∀ a, among a → holds a
  -- a document without pairs adds nothing to `$or`
  | .or => (∃ a, among a) ∧ ∀ a, among a → holds a
  | .not | .nor => ∀ a, among a → ¬holds a

/-- Whether some or all documents in a list have to do what a combinator asks of them. -/
def JoinsList (kind : Combinator) (among does : α → Prop) : Prop :=
  match kind with
  | .or => ∃ a, among a ∧ does a
  | .and | .not | .nor => ∀ a, among a → does a

end Combinator

/-! ## Tests -/

variable (calls : Callbacks Id)

/-- The attribute can be read, and it passes the guard and the test of the operator. -/
def Subject.Passes (s : Subject Id) (key : String) (path : Option Path) (op : Operator)
    (operand : Operand) : Prop :=
  ∃ attr, (s.attr key path).run = .ok attr ∧ op.admits (.ofAttribute attr) = true ∧
    op.test operand attr = true

namespace Value

/-- A value that stands for itself is what the attribute has to be. -/
def LiteralHolds (s : Subject Id) (key : String) (path : Option Path) : Value → Prop
  | .pattern p => s.Passes key path .regexp (.pattern p)
  | .date t => s.Passes key path .date (.value (.date t))
  | v => s.Passes key path (if v.isStructured then .deepEqual else .equal) (.value v)

/-- An operator that looks at nothing but the attribute and its operand, or `$cb`. -/
def TestHolds (s : Subject Id) (key : String) (path : Option Path) (op : Operator)
    (options : Option Value) (v : Value) : Prop :=
  match op, v with
  | .callback, .function c =>
    ∃ attr, (s.attr key path).run = .ok attr ∧ (calls.call c s attr).run = .ok true
  | op, v => ∃ operand, Operand.ofValue? op v options = .ok operand ∧
      s.Passes key path (if op = .equal && v.isStructured then .deepEqual else op) operand

/-- What stands under an operator, given what it says as a clause of an attribute that is found by a
path, for `$computed`, and as a query, for `$elemMatch`. -/
def OperatorHolds (s : Subject Id) (key : String) (path : Option Path) (options : Option Value)
    (op : Operator) (clause : Option Path → Prop) (query : Subject Id → Prop) (v : Value) : Prop :=
  match op with
  -- the same clause of the same key, read from the record itself and not by the getter
  | .computed => clause (some (.ofText key))
  | .elementMatch => ∃ attr, (s.attr key path).run = .ok attr ∧
      ∃ item ∈ elements attr, query (.ofElement item)
  | op => v.TestHolds calls s key path op options

/-- What stands under a combinator in a clause, given what it says as a clause and as a list of
clauses. -/
def JoinHolds (key : String) (kind : Combinator) (clause : Option Path → Prop)
    (clauses : Combinator → Prop) (v : Value) : Prop :=
  if v.isArray then clauses kind
  -- one clause alone, to be joined
  else kind.Joins (fun _ : Unit => True) fun _ => clause (Path.ofKey? key)

/-- What stands under a name in a clause. -/
def OperandHolds (s : Subject Id) (key : String) (path : Option Path) (options : Option Value)
    (name : String) (clause : Option Path → Prop) (clauses : Combinator → Prop)
    (query : Subject Id → Prop) (v : Value) : Prop :=
  (∃ kind, Combinator.ofName? name = some kind ∧ v.JoinHolds key kind clause clauses) ∨
  ∃ op, Operator.ofName? name = some op ∧ v.OperatorHolds calls s key path options op clause query

mutual

/-- What stands under the key holds of an attribute that is found by the path. Only a single test is
made on it: where there are several, each finds the attribute by the key. -/
def ClauseHolds (s : Subject Id) (key : String) (path : Option Path) : Value → Prop
  | .array size item =>
    match Combinator.ofName? key with
    | some kind => kind.JoinsList (fun _ : Fin size => True) fun i => (item i).MemberHolds s kind
    | none => LiteralHolds s key path (.array size item)
  | .object keys nodup value =>
    let d : Document := ⟨keys, nodup, value⟩
    match Combinator.ofName? key with
    -- `$boost` is no pair of the document that is joined
    | some kind => kind.Joins (fun i : Fin keys.length => keys.get i ≠ boostKey) fun i =>
        (value i).ClauseHolds s (keys.get i) (Path.ofKey? (keys.get i))
    | none =>
      d.IsLiteral ∧ LiteralHolds s key path (.ofDocument (d.erase boostKey)) ∨
      d.IsOperators ∧ ∀ i : Fin keys.length, keys.get i ≠ boostKey → keys.get i ≠ optionsKey →
        let path := if d.verbs.length = 1 then path else Path.ofKey? key
        (value i).OperandHolds calls s key path (d.get? optionsKey) (keys.get i)
          (fun path => (value i).ClauseHolds s key path)
          (fun kind => (value i).ClausesHold s key kind)
          (fun s => (value i).QueryHolds s)
  | v => namesAttribute key = true ∧ LiteralHolds s key path v

/-- The clauses of a list, each of the same key, hold as the combinator asks. -/
def ClausesHold (s : Subject Id) (key : String) (kind : Combinator) : Value → Prop
  | .array size item => kind.Joins (fun _ : Fin size => True) fun i =>
      (item i).ClauseHolds s key (Path.ofKey? key)
  | _ => False

/-- A document in a list does what the combinator of the list asks of it. -/
def MemberHolds (s : Subject Id) (kind : Combinator) : Value → Prop
  | .object keys _ value => kind.JoinsMember (fun _ : Fin keys.length => True) fun i =>
      (value i).ClauseHolds s (keys.get i) (Path.ofKey? (keys.get i))
  | _ => False

/-- What stands under a combinator of a whole query. -/
def MembersHold (s : Subject Id) (kind : Combinator) : Value → Prop
  | .array size item =>
    kind.JoinsList (fun _ : Fin size => True) fun i => (item i).MemberHolds s kind
  | .object keys _ value => kind.Joins (fun _ : Fin keys.length => True) fun i =>
      (value i).ClauseHolds s (keys.get i) (Path.ofKey? (keys.get i))
  | _ => False

/-- Every pair of a whole query holds. -/
def QueryHolds (s : Subject Id) : Value → Prop
  | .object keys _ value => ∀ i : Fin keys.length,
    match Combinator.ofName? (keys.get i) with
    | some kind => (value i).MembersHold s kind
    | none => (value i).ClauseHolds s (keys.get i) (Path.ofKey? (keys.get i))
  | _ => False

end

end Value

/-- The record is as the document says. -/
def Document.Holds (d : Document) (s : Subject Id) : Prop :=
  (Value.ofDocument d).QueryHolds calls s

/-! ## What nodes say -/

/-- The verdict of the node, as it is and when it is made to read its attribute directly. -/
def Node.Means (key : String) (holds : Subject Id → Option Path → Prop) (node : Node) : Prop :=
  ∀ s, (node.verdict calls s = true ↔ holds s (Path.ofKey? key)) ∧
    ((node.readDirectly key).verdict calls s = true ↔ holds s (some (.ofText key)))

variable {calls} {key : String} {holds : Subject Id → Option Path → Prop} {node : Node}

theorem Condition.verdict_iff_passes {s : Subject Id} {path : Option Path} {op : Operator}
    {operand : Operand} {boost : Binary64} (h : operand.IsPlain op) :
    (⟨key, path, op, operand, boost⟩ : Condition).verdict calls s = true ↔
      s.Passes key path op operand := by
  rw [Condition.verdict_plain h, Eval.holds_iff, Subject.Passes]
  simp only [Condition.matches, Bool.and_eq_true]

theorem Node.means_condition {op : Operator} {operand : Operand} (h : operand.IsPlain op) :
    (Node.condition (.ofKey key op operand)).Means calls key fun s path =>
      s.Passes key path op operand := by
  intro s
  rw [Node.readDirectly, Node.verdict, Node.verdict]
  exact ⟨Condition.verdict_iff_passes h, Condition.verdict_iff_passes h⟩

theorem Node.means_callback (c : Callback) :
    (Node.condition (.ofKey key .callback (.callback c))).Means calls key fun s path =>
      ∃ attr, (s.attr key path).run = .ok attr ∧ (calls.call c s attr).run = .ok true := by
  have h : ∀ s path boost,
      (⟨key, path, .callback, .callback c, boost⟩ : Condition).verdict calls s = true ↔
        ∃ attr, (s.attr key path).run = .ok attr ∧ (calls.call c s attr).run = .ok true := by
    intro s path boost
    simp only [Condition.verdict_callback, Eval.holds_iff, id, exists_eq_right]
  intro s
  rw [Node.readDirectly, Node.verdict, Node.verdict]
  exact ⟨h _ _ _, h _ _ _⟩

theorem Node.means_elementMatch {q : Query} {query : Subject Id → Prop}
    (hq : ∀ s, q.verdict calls s = true ↔ query s) :
    (Node.condition (.ofKey key .elementMatch (.query q))).Means calls key fun s path =>
      ∃ attr, (s.attr key path).run = .ok attr ∧
        ∃ item ∈ elements attr, query (.ofElement item) := by
  have h : ∀ s path boost,
      (⟨key, path, .elementMatch, .query q, boost⟩ : Condition).verdict calls s = true ↔
        ∃ attr, (s.attr key path).run = .ok attr ∧
          ∃ item ∈ elements attr, query (.ofElement item) := by
    intro s path boost
    simp only [Condition.verdict_elementMatch, Eval.holds_iff, List.any_eq_true, hq]
  intro s
  rw [Node.readDirectly, Node.verdict, Node.verdict]
  exact ⟨h _ _ _, h _ _ _⟩

/-- A group reads no attribute of its own. -/
theorem Node.means_group {g : Group} {holds : Subject Id → Prop}
    (h : ∀ s, g.verdict calls s = true ↔ holds s) :
    (Node.group g).Means calls key fun s _ => holds s := by
  intro s
  rw [Node.readDirectly, Node.verdict]
  exact ⟨h s, h s⟩

theorem Node.means_readDirectly (h : node.Means calls key holds) :
    (node.readDirectly key).Means calls key fun s _ => holds s (some (.ofText key)) := by
  have hidem : (node.readDirectly key).readDirectly key = node.readDirectly key := by
    cases node <;> rfl
  intro s
  rw [hidem]
  -- whichever way it is to be read, it is read directly
  exact ⟨(h s).2, (h s).2⟩

@[simp]
theorem Node.verdict_withBoost (node : Node) (boost : Binary64) (s : Subject Id) :
    (node.withBoost boost).verdict calls s = node.verdict calls s := by
  cases node with
  | condition c =>
    obtain ⟨key, path, op, operand, _⟩ := c
    rw [Node.withBoost, Node.verdict, Node.verdict, Condition.verdict, Condition.verdict]
  | group g =>
    obtain ⟨kind, nodes, _⟩ := g
    rw [Node.withBoost, Node.verdict, Node.verdict, Group.verdict, Group.verdict]

theorem Node.means_withBoost (h : node.Means calls key holds) (boost : Option Binary64) :
    (boost.elim node node.withBoost).Means calls key holds := by
  cases boost with
  | none => exact h
  | some boost =>
    have hread : (node.withBoost boost).readDirectly key =
        (node.readDirectly key).withBoost boost := by
      cases node <;> rfl
    intro s
    simp only [Option.elim, hread, Node.verdict_withBoost]
    exact h s

/-! ## Groups of what was compiled -/

theorem Node.verdict_ofTests_iff {kind : Combinator} {tests : List Node} {s : Subject Id} :
    (Node.ofTests kind tests).verdict calls s = true ↔
      kind.Joins (· ∈ tests) fun test => test.verdict calls s = true := by
  rw [Node.ofTests, Node.verdict, Group.verdict_iff]
  simp only [Group.ofNodes, Node.mem_arrange]

section Joins

variable {α β : Type} {R : α → β → Prop} {p : α → Prop} {q : β → Prop} {xs : List α} {ys : List β}
  (kind : Combinator) (h : List.Forall₂ R xs ys) (hR : ∀ x y, x ∈ xs → R x y → (q y ↔ p x))
include h hR

theorem Combinator.joins_iff_of_forall₂ : kind.Joins (· ∈ ys) q ↔ kind.Joins (· ∈ xs) p := by
  cases kind with
  | and => exact forall_mem_iff_of_forall₂ h hR
  | or => exact exists_mem_iff_of_forall₂ h hR
  | not | nor =>
    exact forall_mem_iff_of_forall₂ h fun x y hx hxy => not_congr (hR x y hx hxy)

theorem Combinator.joinsList_iff_of_forall₂ :
    kind.JoinsList (· ∈ ys) q ↔ kind.JoinsList (· ∈ xs) p := by
  cases kind with
  | or => exact exists_mem_iff_of_forall₂ h hR
  | and | not | nor => exact forall_mem_iff_of_forall₂ h hR

theorem Combinator.joinsMember_iff_of_forall₂ :
    kind.JoinsMember (· ∈ ys) q ↔ kind.JoinsMember (· ∈ xs) p := by
  cases kind with
  | and => exact forall_mem_iff_of_forall₂ h hR
  | or =>
    have hsome : (∃ y ∈ ys, True) ↔ ∃ x ∈ xs, True :=
      exists_mem_iff_of_forall₂ h fun _ _ _ _ => Iff.rfl
    simp only [and_true] at hsome
    exact and_congr hsome (forall_mem_iff_of_forall₂ h hR)
  | not | nor =>
    exact forall_mem_iff_of_forall₂ h fun x y hx hxy => not_congr (hR x y hx hxy)

end Joins

/-- Some test that a member adds to `$or` passes exactly if the member has tests and all of them
pass. -/
theorem Node.exists_membership_or_iff {tests : List Node} {s : Subject Id} :
    (∃ test ∈ Combinator.or.membership tests, test.verdict calls s = true) ↔
      (∃ test, test ∈ tests) ∧ ∀ test ∈ tests, test.verdict calls s = true := by
  -- no test adds nothing, one stands for itself and several become an `$and` group
  match tests with
  | [] => simp [Combinator.membership]
  | [test] => simp [Combinator.membership]
  | first :: second :: tests =>
    have hgroup : (Node.group (.ofNodes .and (first :: second :: tests))).verdict calls s = true ↔
        ∀ test ∈ first :: second :: tests, test.verdict calls s = true := by
      rw [Node.verdict, Group.verdict_iff]
      rfl
    simp only [Combinator.membership, List.length_cons, true_and]
    simp [hgroup]

/-- `$or` keeps together what one member of its list states; for the others the members are of no
account. -/
theorem Combinator.joins_membership_iff {kind : Combinator} {members : List (List Node)}
    {s : Subject Id} :
    kind.Joins (· ∈ members.flatMap kind.membership) (fun test => test.verdict calls s = true) ↔
      kind.JoinsList (· ∈ members) fun tests =>
        kind.JoinsMember (· ∈ tests) fun test => test.verdict calls s = true := by
  have hflat : kind ≠ .or → ∀ test, test ∈ members.flatMap kind.membership ↔
      ∃ tests ∈ members, test ∈ tests := by
    intro hor test
    simp only [List.mem_flatMap, Combinator.membership, hor, false_and, if_false]
  cases kind with
  | or =>
    constructor
    · rintro ⟨test, htest, h⟩
      obtain ⟨tests, htests, htest⟩ := List.mem_flatMap.1 htest
      exact ⟨tests, htests, Node.exists_membership_or_iff.1 ⟨test, htest, h⟩⟩
    · rintro ⟨tests, htests, h⟩
      obtain ⟨test, htest, h⟩ := Node.exists_membership_or_iff.2 h
      exact ⟨test, List.mem_flatMap.2 ⟨tests, htests, htest⟩, h⟩
  | and | not | nor =>
    have hmem := hflat (by decide)
    simp only [Combinator.Joins, Combinator.JoinsList, Combinator.JoinsMember, hmem]
    constructor
    · intro h tests htests test htest
      exact h test ⟨tests, htests, htest⟩
    · rintro h test ⟨tests, htests, htest⟩
      exact h tests htests test htest

/-! ## What the compiler makes of the parts -/

theorem Value.means_literal {v : Value} {c : Condition} (h : Condition.ofLiteral? key v = .ok c) :
    (Node.condition c).Means calls key fun s path => v.LiteralHolds s key path := by
  cases v with
  | pattern p | date t =>
    obtain rfl := Except.ok.inj h
    exact Node.means_condition trivial
  | function c => cases h
  | _ =>
    obtain rfl := Except.ok.inj h
    exact Node.means_condition trivial

theorem Operand.isPlain_of_ofValue? {op : Operator} {v : Value} {options : Option Value}
    {operand : Operand} (h : Operand.ofValue? op v options = .ok operand)
    (hv : op = .callback → v.kind ≠ .function) : operand.IsPlain op := by
  unfold Operand.ofValue? at h
  split at h
  case h_5 | h_6 =>
    obtain ⟨p, -, h⟩ := bind_eq_ok_iff.1 h
    obtain rfl := Except.ok.inj h
    trivial
  case h_16 => exact absurd rfl (hv rfl)
  all_goals
    obtain rfl := Except.ok.inj h
    trivial

theorem Value.testHolds_iff {op : Operator} {v : Value} {options : Option Value} {s : Subject Id}
    {path : Option Path} (hv : op = .callback → v.kind ≠ .function) :
    v.TestHolds calls s key path op options ↔
      ∃ operand, Operand.ofValue? op v options = .ok operand ∧
        s.Passes key path (if op = .equal && v.isStructured then .deepEqual else op) operand := by
  unfold TestHolds
  split
  · exact absurd rfl (hv rfl)
  · exact Iff.rfl

theorem Value.means_test {op : Operator} {v : Value} {options : Option Value} {c : Condition}
    (h : Condition.ofOperator? key op v options = .ok c) :
    (Node.condition c).Means calls key fun s path => v.TestHolds calls s key path op options := by
  -- the operand of `$cb` is called, and any other is compared
  by_cases hv : op = .callback → v.kind ≠ .function
  · obtain ⟨operand, hoperand, h⟩ := bind_eq_ok_iff.1 h
    obtain rfl := Except.ok.inj h
    have hplain : operand.IsPlain (if op = .equal && v.isStructured then .deepEqual else op) := by
      split
      · -- the other operator that the operand is given to makes no call either
        cases operand with
        | callback c => exact (by decide : Operator.deepEqual ≠ .callback)
        | query q => exact (by decide : Operator.deepEqual ≠ .elementMatch)
        | _ => trivial
      · exact Operand.isPlain_of_ofValue? hoperand hv
    intro s
    simp only [testHolds_iff hv, hoperand, Except.ok.injEq, exists_eq_left']
    exact Node.means_condition hplain s
  · rw [Classical.not_imp, not_not] at hv
    obtain ⟨rfl, hv⟩ := hv
    cases v with
    | function c' =>
      obtain rfl := Except.ok.inj h
      exact Node.means_callback c'
    | _ => cases hv

section Verb

variable {name : String} {options : Option Value} {v : Value}
  {clause : Subject Id → Option Path → Prop} {clauses : Subject Id → Combinator → Prop}
  {query : Subject Id → Prop}

theorem Node.means_join {kind : Combinator}
    (hclause : ∀ node, compilePair key v = .ok node → node.Means calls key clause)
    (hclauses : ∀ nodes, v.isArray = true → compileClauses key v = .ok nodes → ∀ s,
      (Node.ofTests kind nodes).verdict calls s = true ↔ clauses s kind)
    (h : compileJoin key kind v = .ok node) :
    node.Means calls key fun s _ => v.JoinHolds key kind (clause s) (clauses s) := by
  unfold compileJoin at h
  cases hlist : v.isArray with
  | true =>
    rw [if_pos hlist] at h
    obtain ⟨nodes, hnodes, rfl⟩ := map_eq_ok_iff.1 h
    simp only [Value.JoinHolds, if_pos hlist]
    exact Node.means_group fun s => hclauses nodes hlist hnodes s
  | false =>
    have hlist' : ¬v.isArray = true := by rw [hlist]; decide
    rw [if_neg hlist'] at h
    obtain ⟨node, hnode, rfl⟩ := map_eq_ok_iff.1 h
    simp only [Value.JoinHolds, if_neg hlist']
    refine Node.means_group fun s => ?_
    have hnode : node.verdict calls s = true ↔ _ := (hclause node hnode s).1
    refine Node.verdict_ofTests_iff.trans ?_
    cases kind <;> simp [Combinator.Joins, ← hnode]

theorem Node.means_operator {op : Operator}
    (hclause : ∀ node, compilePair key v = .ok node → node.Means calls key clause)
    (hquery : ∀ q, compileQuery v = .ok q → ∀ s, q.verdict calls s = true ↔ query s)
    (h : compileTest key op options v = .ok node) :
    node.Means calls key fun s path =>
      v.OperatorHolds calls s key path options op (clause s) query := by
  by_cases hcomputed : op = .computed
  · subst hcomputed
    obtain ⟨node, hnode, rfl⟩ := map_eq_ok_iff.1 h
    exact Node.means_readDirectly (hclause node hnode)
  · by_cases helement : op = .elementMatch
    · subst helement
      obtain ⟨q, hq, rfl⟩ := map_eq_ok_iff.1 h
      exact Node.means_elementMatch (hquery q hq)
    · rw [compileTest] at h
      · obtain ⟨c, hc, rfl⟩ := map_eq_ok_iff.1 h
        simp only [Value.OperatorHolds]
        exact Value.means_test hc
      · exact hcomputed
      · exact helement

theorem Node.means_verb
    (hclause : ∀ node, compilePair key v = .ok node → node.Means calls key clause)
    (hclauses : ∀ nodes, v.isArray = true → compileClauses key v = .ok nodes → ∀ kind s,
      (Node.ofTests kind nodes).verdict calls s = true ↔ clauses s kind)
    (hquery : ∀ q, compileQuery v = .ok q → ∀ s, q.verdict calls s = true ↔ query s)
    (h : compileVerb key name options v = .ok node) :
    node.Means calls key fun s path =>
      v.OperandHolds calls s key path options name (clause s) (clauses s) query := by
  rcases compileVerb_eq_ok_iff.1 h with ⟨kind, hkind, h⟩ | ⟨op, hop, -, h⟩
  · simp only [Value.OperandHolds, hkind, Operator.ofName?_ne_some hkind, Option.some.injEq,
      exists_eq_left', false_and, exists_false, or_false]
    exact Node.means_join hclause (fun nodes hlist hnodes => hclauses nodes hlist hnodes kind) h
  · have hkind := Combinator.ofName?_eq_none_of_operator hop
    simp only [Value.OperandHolds, hkind, hop, Option.some.injEq, reduceCtorEq, exists_eq_left',
      false_and, exists_false, false_or]
    exact Node.means_operator hclause hquery h

end Verb

/-- A clause of one operator is its test, so the path is of account only there. -/
theorem Node.means_ofClause {α : Type} {asks : α → Subject Id → Option Path → Prop}
    {verbs : List α} {nodes : List Node}
    (h : List.Forall₂ (fun x node => node.Means calls key (asks x)) verbs nodes) :
    (Node.ofClause nodes).Means calls key fun s path =>
      ∀ x ∈ verbs, asks x s (if verbs.length = 1 then path else Path.ofKey? key) := by
  have hgroup : verbs.length ≠ 1 → (Node.ofTests .and nodes).Means calls key fun s path =>
      ∀ x ∈ verbs, asks x s (if verbs.length = 1 then path else Path.ofKey? key) := by
    intro hlength
    simp only [if_neg hlength]
    refine Node.means_group fun s => Node.verdict_ofTests_iff.trans ?_
    exact forall_mem_iff_of_forall₂ h fun x node _ hmeans => (hmeans s).1
  match h with
  | .nil => exact hgroup (by simp)
  | .cons hnode .nil =>
    -- the only test, which a direct reading reaches
    intro s
    simp only [List.length_singleton, if_true, List.forall_mem_singleton]
    exact hnode s
  | .cons _ (.cons _ _) => exact hgroup (by simp)

/-! ## From parts to whole documents -/

variable (calls) in
/-- What the compiler makes of the value in each place says what the value says there. -/
structure Value.Faithful (v : Value) : Prop where
  pair : ∀ key node, compilePair key v = .ok node →
    node.Means calls key fun s path => v.ClauseHolds calls s key path
  clauses : ∀ key nodes, v.isArray = true → compileClauses key v = .ok nodes → ∀ kind s,
    (Node.ofTests kind nodes).verdict calls s = true ↔ v.ClausesHold calls s key kind
  member : ∀ nodes, compileMember v = .ok nodes → ∀ (kind : Combinator) s,
    kind.JoinsMember (· ∈ nodes) (fun node => node.verdict calls s = true) ↔
      v.MemberHolds calls s kind
  members : ∀ kind nodes, compileMembers kind v = .ok nodes → ∀ s,
    kind.Joins (· ∈ nodes) (fun node => node.verdict calls s = true) ↔ v.MembersHold calls s kind
  query : ∀ q, compileQuery v = .ok q → ∀ s, q.verdict calls s = true ↔ v.QueryHolds calls s

section List

variable {size : Nat} {item : Fin size → Value} (ih : ∀ i, (item i).Faithful calls)
include ih

theorem joins_members_iff {kind : Combinator} {members : List (List Node)}
    (h : (List.finRange size).mapM (fun i => compileMember (item i)) = .ok members)
    (s : Subject Id) :
    kind.Joins (· ∈ members.flatMap kind.membership) (fun node => node.verdict calls s = true) ↔
      kind.JoinsList (fun _ : Fin size => True) fun i => (item i).MemberHolds calls s kind := by
  refine Combinator.joins_membership_iff.trans
    ((kind.joinsList_iff_of_forall₂ (mapM_eq_ok_iff.1 h) fun i nodes _ hnodes =>
      (ih i).member nodes hnodes kind s).trans ?_)
  simp only [List.mem_finRange]

theorem Value.faithful_list : (Value.array size item).Faithful calls where
  pair key node h := by
    cases hkey : Combinator.ofName? key with
    | some kind =>
      obtain ⟨members, hmembers, rfl⟩ := (compilePair_list_of_join hkey size item).1 h
      simp only [ClauseHolds, hkey]
      exact Node.means_group fun s =>
        Node.verdict_ofTests_iff.trans (joins_members_iff ih hmembers s)
    | none =>
      obtain rfl := (compilePair_list_of_attribute hkey size item).1 h
      simp only [ClauseHolds, hkey]
      exact Node.means_condition trivial
  clauses key nodes _ h kind s := by
    have h := mapM_eq_ok_iff.1 h
    refine Node.verdict_ofTests_iff.trans ((kind.joins_iff_of_forall₂ h fun i node _ hnode =>
      ((ih i).pair key node hnode s).1).trans ?_)
    simp only [List.mem_finRange, ClausesHold]
  member nodes h := by cases h
  members kind nodes h s := by
    obtain ⟨members, hmembers, rfl⟩ := map_eq_ok_iff.1 h
    rw [MembersHold]
    exact joins_members_iff ih hmembers s
  query q h := by cases h

end List

section Document

variable {d : Document} (ih : ∀ i, (d.value i).Faithful calls)
include ih

/-- The verdict of the node of a pair is what the pair says. -/
theorem Document.pair_means {i : Fin d.keys.length}
    (h : compilePair (d.keys.get i) (d.value i) = .ok node) (s : Subject Id) :
    node.verdict calls s = true ↔
      (d.value i).ClauseHolds calls s (d.keys.get i) (Path.ofKey? (d.keys.get i)) :=
  ((ih i).pair (d.keys.get i) node h s).1

theorem Document.under_means (h : d.compileUnder key = .ok node) :
    node.Means calls key fun s path => (Value.ofDocument d).ClauseHolds calls s key path := by
  cases hkey : Combinator.ofName? key with
  | some kind =>
    obtain ⟨nodes, hnodes, rfl⟩ := (compileUnder_of_join hkey).1 h
    simp only [Value.ofDocument, Value.ClauseHolds, hkey]
    refine Node.means_group fun s => Node.verdict_ofTests_iff.trans
      ((kind.joins_iff_of_forall₂ (mapM_eq_ok_iff.1 hnodes) fun i node _ hnode =>
        Document.pair_means ih hnode s).trans ?_)
    simp only [Document.mem_places]
  | none =>
    simp only [Value.ofDocument, Value.ClauseHolds, hkey]
    rcases (compileUnder_of_attribute hkey).1 h with
      ⟨hliteral, rfl⟩ | ⟨hoperators, nodes, hnodes, rfl⟩
    · have hoperators : ¬d.IsOperators := fun h => h.not_isLiteral hliteral
      simp only [hliteral, hoperators, true_and, false_and, or_false]
      exact Value.means_literal rfl
    · have hverbs : List.Forall₂ (fun i node => node.Means calls key fun s path =>
          (d.value i).OperandHolds calls s key path (d.get? optionsKey) (d.keys.get i)
            (fun path => (d.value i).ClauseHolds calls s key path)
            (fun kind => (d.value i).ClausesHold calls s key kind)
            (fun s => (d.value i).QueryHolds calls s)) d.verbs nodes :=
        (mapM_eq_ok_iff.1 hnodes).imp fun i node hnode => Node.means_verb ((ih i).pair key)
          ((ih i).clauses key) (ih i).query hnode
      simp only [hoperators, hoperators.not_isLiteral, true_and, false_and, false_or]
      intro s
      have := Node.means_ofClause hverbs s
      simp only [Document.mem_verbs, and_imp] at this
      exact this

theorem Document.listed_holds_iff {kind : Combinator} {members : List Node}
    (h : d.compileListed kind = .ok members) (hkind : kind = .and ∨ kind.name ∈ d.keys)
    (s : Subject Id) :
    kind.Joins (· ∈ members) (fun node => node.verdict calls s = true) ↔
      ∀ i, d.keys.get i = kind.name → (d.value i).MembersHold calls s kind := by
  rw [forall_value_iff (p := fun v => v.MembersHold calls s kind)]
  unfold compileListed at h
  cases hget : d.get? kind.name with
  | some v =>
    obtain ⟨i, -, rfl⟩ := Fields.get?_eq_some_iff.1 hget
    rw [hget] at h
    simp only [(ih i).members kind members h s, Option.some.injEq, forall_eq']
  | none =>
    -- `$and` alone has a group without being written
    obtain rfl : kind = .and := hkind.resolve_right (Fields.get?_eq_none_iff.1 hget)
    rw [hget] at h
    obtain rfl := Except.ok.inj h
    simp [Combinator.Joins]

theorem Document.group_holds_iff {kind : Combinator} {group : Group}
    (h : d.compileGroup kind = .ok group) (hkind : kind ∈ d.kinds) (s : Subject Id) :
    group.verdict calls s = true ↔
      (∀ i, d.keys.get i = kind.name → (d.value i).MembersHold calls s kind) ∧
      (kind = .and → ∀ i, namesAttribute (d.keys.get i) = true →
        (d.value i).ClauseHolds calls s (d.keys.get i) (Path.ofKey? (d.keys.get i))) := by
  obtain ⟨members, hmembers, h⟩ := bind_eq_ok_iff.1 h
  obtain ⟨further, hfurther, h⟩ := bind_eq_ok_iff.1 h
  obtain rfl := Except.ok.inj h
  rw [Group.verdict_iff]
  simp only [Group.ofNodes, Node.mem_arrange, List.mem_append]
  unfold compileFurther at hfurther
  by_cases hand : kind = .and
  · -- the attributes of the document are members beside those that are listed
    subst hand
    rw [if_pos rfl] at hfurther
    rw [← Document.listed_holds_iff ih hmembers (.inl rfl)]
    have hattributes : (∀ node ∈ further, node.verdict calls s = true) ↔
        ∀ i, namesAttribute (d.keys.get i) = true →
          (d.value i).ClauseHolds calls s (d.keys.get i) (Path.ofKey? (d.keys.get i)) := by
      refine (forall_mem_iff_of_forall₂ (mapM_eq_ok_iff.1 hfurther) fun i node _ hnode =>
        Document.pair_means ih hnode s).trans ?_
      simp only [mem_attributes]
    rw [← hattributes]
    simp only [Combinator.Joins, or_imp, forall_and, true_implies]
  · rw [if_neg hand] at hfurther
    obtain rfl := Except.ok.inj hfurther
    rw [← Document.listed_holds_iff ih hmembers ((mem_kinds.1 hkind).imp id And.left).symm]
    simp [hand]

theorem Document.query_holds_iff {q : Query} (h : compileQuery (.ofDocument d) = .ok q)
    (s : Subject Id) : q.verdict calls s = true ↔ (Value.ofDocument d).QueryHolds calls s := by
  obtain ⟨-, groups, hgroups, rfl⟩ := compileQuery_eq_ok_iff.1 h
  rw [Query.verdict_eq_all, List.all_eq_true, Value.ofDocument, Value.QueryHolds]
  refine (forall_mem_iff_of_forall₂ (mapM_eq_ok_iff.1 hgroups) fun kind group hkind hgroup =>
    Document.group_holds_iff ih hgroup hkind s).trans Document.forall_kinds_iff

theorem Value.faithful_document : (Value.ofDocument d).Faithful calls where
  pair key node h := by
    -- `$boost` changes scores and no verdict
    obtain ⟨boost, unweighted, -, hunder, rfl⟩ := compilePair_document.1 h
    exact Node.means_withBoost (Document.under_means ih hunder) boost
  clauses key nodes h := by cases h
  member nodes h kind s := by
    obtain ⟨nodes, hnodes, rfl⟩ := map_eq_ok_iff.1 h
    simp only [Node.mem_arrange]
    refine (kind.joinsMember_iff_of_forall₂ (mapM_eq_ok_iff.1 hnodes) fun i node _ hnode =>
      Document.pair_means ih hnode s).trans ?_
    simp only [List.mem_finRange, ofDocument, MemberHolds]
  members kind nodes h s := by
    refine (kind.joins_iff_of_forall₂ (mapM_eq_ok_iff.1 h) fun i node _ hnode =>
      Document.pair_means ih hnode s).trans ?_
    simp only [List.mem_finRange, ofDocument, MembersHold]
  query q h := Document.query_holds_iff ih h

end Document

theorem Value.faithful_scalar {v : Value} (hlist : v.isArray = false)
    (hdocument : v.document? = none) : v.Faithful calls where
  pair key node h := by
    obtain ⟨hkey, c, hc, rfl⟩ := (compilePair_scalar hlist hdocument).1 h
    have hclause : ∀ s path, v.ClauseHolds calls s key path ↔
        namesAttribute key = true ∧ v.LiteralHolds s key path := by
      intro s path
      cases v with
      | array _ _ => cases hlist
      | object _ _ _ => cases hdocument
      | _ => exact Iff.rfl
    simp only [hclause, namesAttribute_iff, hkey, true_and]
    exact Value.means_literal hc
  clauses key nodes h := by rw [hlist] at h; cases h
  member nodes h := by
    cases v with
    | object _ _ _ => cases hdocument
    | _ => cases h
  members kind nodes h := by
    cases v with
    | array _ _ => cases hlist
    | object _ _ _ => cases hdocument
    | _ => cases h
  query q h := by
    cases v with
    | object _ _ _ => cases hdocument
    | _ => cases h

/-- By induction on the value, whatever its place. -/
theorem Value.faithful (v : Value) : v.Faithful calls := by
  induction v with
  | array size item ih => exact faithful_list ih
  | object keys nodup value ih => exact faithful_document (d := ⟨keys, nodup, value⟩) ih
  | _ => exact faithful_scalar rfl rfl

/-- The verdict of a compiled query is the meaning of the document that it was compiled from. -/
theorem Query.verdict_iff_of_compile {d : Document} {q : Query}
    (h : (Query.compile (m := Id) d).run = .ok q) (s : Subject Id) :
    q.verdict calls s = true ↔ d.Holds calls s :=
  (Value.faithful (.ofDocument d)).query q (Query.compile_eq_ok_iff.1 h) s

/-- An answer to a compiled query says whether the record is as the document says, and there is one
if no call fails. -/
theorem Query.eval_iff_holds {ρ : Type} [Queryable Id ρ] {d : Document} {q : Query}
    (h : (Query.compile (m := Id) d).run = .ok q) (calls : Callbacks Id) (getter : Getter Id ρ)
    (r : ρ) :
    (∀ b, (q.eval calls (.of getter r)).run = .ok b →
      (b = true ↔ d.Holds calls (.of getter r))) ∧
    (q.NeverFails calls (.of getter r) →
      ∃ b, (q.eval calls (.of getter r)).run = .ok b ∧
        (b = true ↔ d.Holds calls (.of getter r))) := by
  have hanswer : ∀ b, (q.eval calls (.of getter r)).run = .ok b →
      (b = true ↔ d.Holds calls (.of getter r)) := by
    intro b hb
    rw [← q.verdict_eq_of_eval _ hb]
    exact Query.verdict_iff_of_compile h _
  refine ⟨hanswer, fun hq => ?_⟩
  obtain ⟨b, hb⟩ := q.exists_eval_of_neverFails _ hq
  exact ⟨b, hb, hanswer b hb⟩

theorem Query.eval_iff_holds_between :
    let one : Value := .number (.signed 1)
    let nine : Value := .number (.signed 9)
    let d : Document := .ofList
      [("age", .ofDocument (.ofList [("$gt", one), ("$lt", nine)])),
       ("$or", .ofList [.ofDocument (.singleton "age" one), .ofDocument (.singleton "name" .null)])]
    let test (key : String) (op : Operator) (v : Value) : Node :=
      .condition (.ofKey key op (.value v))
    let q : Query :=
      ⟨[.ofNodes .and [.ofTests .and [test "age" .less nine, test "age" .greater one]],
        .ofNodes .or [test "age" .equal one, test "name" .equal .null]]⟩
    let calls : Callbacks Id := fun _ _ _ => .error "none"
    let r : Record Id := .ofAttributes fun key =>
      if key = "age" then some (.number (.integer 5 (by decide) (by decide))) else some .null
    (Query.compile (m := Id) d).run = .ok q ∧ (q.eval calls (.of .property r)).run = .ok true ∧
      d.Holds calls (.of .property r) := by
  have hholds : ∀ {d : Document} {q : Query} {calls : Callbacks Id} {r : Record Id},
      (Query.compile (m := Id) d).run = .ok q → (q.eval calls (.of .property r)).run = .ok true →
        (Query.compile (m := Id) d).run = .ok q ∧ (q.eval calls (.of .property r)).run = .ok true ∧
          d.Holds calls (.of .property r) := fun hq hb =>
    ⟨hq, hb, ((Query.eval_iff_holds hq _ .property _).1 true hb).1 rfl⟩
  exact hholds (Query.compile_eq_ok_iff.2 rfl) rfl

end RecordQuery
