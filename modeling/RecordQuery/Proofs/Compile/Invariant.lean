import RecordQuery.Proofs.Compile.Clauses

/-!
# What the compiler keeps

The compiler makes nodes in a few ways, each for a key, and puts nodes into queries in one way. What
all of these ways keep holds of everything that is compiled (`KeptByCompiler.kept`), so an invariant
of compiled queries needs no induction of its own.
-/

namespace RecordQuery

/-- Every way of making a node for a key keeps the property `keyed` of the two, and a query made of
such nodes has the property `whole`. -/
structure KeptByCompiler (keyed : String → Node → Prop) (whole : Query → Prop) : Prop where
  literal {key : String} {v : Value} {c : Condition} :
    Condition.ofLiteral? key v = .ok c → keyed key (.condition c)
  operator {key : String} {op : Operator} {v : Value} {options : Option Value} {c : Condition} :
    op ≠ .computed → op ≠ .elementMatch → op.accepts v = true →
      Condition.ofOperator? key op v options = .ok c → keyed key (.condition c)
  elements {key : String} {q : Query} :
    whole q → keyed key (.condition (.ofKey key .elementMatch (.query q)))
  readDirectly {key : String} {node : Node} :
    keyed key node → keyed key (node.readDirectly key)
  withBoost {key : String} {node : Node} {d : Document} {boost : Binary64} :
    d.boost? = .ok (some boost) → keyed key node → keyed key (node.withBoost boost)
  -- a group may be of tests for any keys
  tests {key : String} {kind : Combinator} {tests : List Node} :
    (∀ test ∈ tests, ∃ key, keyed key test) → keyed key (.ofTests kind tests)
  query {kinds : List Combinator} {groups : List Group} :
    kinds.Sublist Combinator.all →
      List.Forall₂ (fun kind group => ∃ tests, .ofNodes kind (Node.arrange tests) = group ∧
        ∀ test ∈ tests, ∃ key, keyed key test) kinds groups → whole ⟨groups⟩

variable {keyed : String → Node → Prop} {whole : Query → Prop}

variable (keyed whole) in
/-- What the compiler keeps of the value in each place where it may meet it. -/
structure Value.Keeps (v : Value) : Prop where
  pair : ∀ key node, compilePair key v = .ok node → keyed key node
  clauses : ∀ key nodes, compileClauses key v = .ok nodes → ∀ node ∈ nodes, keyed key node
  member : ∀ nodes, compileMember v = .ok nodes →
    ∃ tests, Node.arrange tests = nodes ∧ ∀ test ∈ tests, ∃ key, keyed key test
  members : ∀ kind nodes, compileMembers kind v = .ok nodes →
    ∀ node ∈ nodes, ∃ key, keyed key node
  query : ∀ q, compileQuery v = .ok q → whole q

/-- The nodes of some pairs of a document. -/
theorem exists_keyed_of_mem {d : Document} (ih : ∀ i, (d.value i).Keeps keyed whole)
    {positions : List (Fin d.keys.length)} {nodes : List Node}
    (hnodes : positions.mapM (fun i => compilePair (d.keys.get i) (d.value i)) = .ok nodes) :
    ∀ node ∈ nodes, ∃ key, keyed key node := by
  intro node hnode
  obtain ⟨i, -, hpair⟩ := exists_of_mem_mapM hnodes hnode
  exact ⟨_, (ih i).pair _ node hpair⟩

namespace KeptByCompiler

variable (h : KeptByCompiler keyed whole)
include h

theorem keyed_ofClause {key : String} {nodes : List Node}
    (hnodes : ∀ node ∈ nodes, keyed key node) : keyed key (.ofClause nodes) := by
  have htests : keyed key (.ofTests .and nodes) :=
    h.tests fun node hnode => ⟨key, hnodes node hnode⟩
  match nodes with
  | [node] => exact hnodes node List.mem_cons_self
  | [] | _ :: _ :: _ => exact htests

section List

variable {size : Nat} {item : Fin size → Value} (ih : ∀ i, (item i).Keeps keyed whole)
include ih

theorem exists_keyed_of_mem_membership {kind : Combinator} {members : List (List Node)}
    (hmembers : (List.finRange size).mapM (fun i => compileMember (item i)) = .ok members) :
    ∀ node ∈ members.flatMap kind.membership, ∃ key, keyed key node := by
  intro node hnode
  obtain ⟨nodes, hnodes, hnode⟩ := List.mem_flatMap.1 hnode
  obtain ⟨i, -, hmember⟩ := exists_of_mem_mapM hmembers hnodes
  obtain ⟨tests, rfl, htests⟩ := (ih i).member nodes hmember
  unfold Combinator.membership at hnode
  split at hnode
  · -- a member that is kept together is an `$and` group of its tests
    obtain rfl : node = .ofTests .and tests := List.mem_singleton.1 hnode
    exact ⟨"", h.tests htests⟩
  · exact htests node (Node.mem_arrange.1 hnode)

theorem keeps_list : (Value.array size item).Keeps keyed whole where
  pair key node hnode := by
    cases hkey : Combinator.ofName? key with
    | some kind =>
      obtain ⟨members, hmembers, rfl⟩ := (compilePair_list_of_join hkey size item).1 hnode
      exact h.tests (exists_keyed_of_mem_membership h ih hmembers)
    | none =>
      obtain rfl := (compilePair_list_of_attribute hkey size item).1 hnode
      exact h.literal (v := .array size item) rfl
  clauses key nodes hnodes node hnode := by
    obtain ⟨i, -, hpair⟩ := exists_of_mem_mapM hnodes hnode
    exact (ih i).pair key node hpair
  member nodes hnodes := by cases hnodes
  members kind nodes hnodes := by
    obtain ⟨members, hmembers, rfl⟩ := map_eq_ok_iff.1 hnodes
    exact exists_keyed_of_mem_membership h ih hmembers
  query q hq := by cases hq

end List

section Document

variable {d : Document} (ih : ∀ i, (d.value i).Keeps keyed whole)
include ih

theorem keyed_of_compileVerb {key name : String} {options : Option Value} {node : Node}
    (i : Fin d.keys.length) (hverb : compileVerb key name options (d.value i) = .ok node) :
    keyed key node := by
  rcases compileVerb_eq_ok_iff.1 hverb with ⟨kind, -, hjoin⟩ | ⟨op, -, haccepts, htest⟩
  · unfold compileJoin at hjoin
    split at hjoin
    · obtain ⟨nodes, hnodes, rfl⟩ := map_eq_ok_iff.1 hjoin
      exact h.tests fun node hnode => ⟨key, (ih i).clauses key nodes hnodes node hnode⟩
    · obtain ⟨node, hnode, rfl⟩ := map_eq_ok_iff.1 hjoin
      refine h.tests fun test htest => ⟨key, ?_⟩
      rw [List.mem_singleton.1 htest]
      exact (ih i).pair key node hnode
  · unfold compileTest at htest
    split at htest
    · obtain ⟨node, hnode, rfl⟩ := map_eq_ok_iff.1 htest
      exact h.readDirectly ((ih i).pair key node hnode)
    · obtain ⟨q, hq, rfl⟩ := map_eq_ok_iff.1 htest
      exact h.elements ((ih i).query q hq)
    · rename_i hcomputed helement
      obtain ⟨c, hc, rfl⟩ := map_eq_ok_iff.1 htest
      exact h.operator hcomputed helement haccepts hc

theorem keyed_of_compileUnder {key : String} {node : Node} (hunder : d.compileUnder key = .ok node) :
    keyed key node := by
  cases hkey : Combinator.ofName? key with
  | some kind =>
    obtain ⟨nodes, hnodes, rfl⟩ := (compileUnder_of_join hkey).1 hunder
    exact h.tests (exists_keyed_of_mem ih hnodes)
  | none =>
    rcases (compileUnder_of_attribute hkey).1 hunder with ⟨-, rfl⟩ | ⟨-, nodes, hnodes, rfl⟩
    · exact h.literal (v := .ofDocument (d.erase boostKey)) rfl
    · refine h.keyed_ofClause fun node hnode => ?_
      obtain ⟨i, -, hverb⟩ := exists_of_mem_mapM hnodes hnode
      exact keyed_of_compileVerb h ih i hverb

omit h in
theorem exists_tests_of_compileGroup {kind : Combinator} {group : Group}
    (hgroup : d.compileGroup kind = .ok group) :
    ∃ tests, .ofNodes kind (Node.arrange tests) = group ∧
      ∀ test ∈ tests, ∃ key, keyed key test := by
  obtain ⟨members, hmembers, hgroup⟩ := bind_eq_ok_iff.1 hgroup
  obtain ⟨further, hfurther, hgroup⟩ := bind_eq_ok_iff.1 hgroup
  obtain rfl := Except.ok.inj hgroup
  refine ⟨_, rfl, fun test htest => ?_⟩
  rcases List.mem_append.1 htest with htest | htest
  · unfold Document.compileListed at hmembers
    split at hmembers
    · rename_i v hget
      obtain ⟨i, -, rfl⟩ := Fields.get?_eq_some_iff.1 hget
      exact (ih i).members kind members hmembers test htest
    · obtain rfl := Except.ok.inj hmembers
      cases htest
  · unfold Document.compileFurther at hfurther
    split at hfurther
    · exact exists_keyed_of_mem ih hfurther test (Node.mem_arrange.1 htest)
    · obtain rfl := Except.ok.inj hfurther
      cases htest

theorem keeps_document : (Value.ofDocument d).Keeps keyed whole where
  pair key node hnode := by
    obtain ⟨boost, unweighted, hboost, hunder, rfl⟩ := compilePair_document.1 hnode
    cases boost with
    | none => exact keyed_of_compileUnder h ih hunder
    | some boost => exact h.withBoost hboost (keyed_of_compileUnder h ih hunder)
  clauses key nodes hnodes := by
    obtain rfl := Except.ok.inj hnodes
    simp
  member nodes hnodes := by
    obtain ⟨tests, htests, rfl⟩ := map_eq_ok_iff.1 hnodes
    exact ⟨tests, rfl, exists_keyed_of_mem ih htests⟩
  members kind nodes hnodes := exists_keyed_of_mem ih hnodes
  query q hq := by
    obtain ⟨-, groups, hgroups, rfl⟩ := compileQuery_eq_ok_iff.1 hq
    exact h.query List.filter_sublist
      ((mapM_eq_ok_iff.1 hgroups).imp fun kind group hgroup =>
        exists_tests_of_compileGroup ih hgroup)

end Document

theorem keeps_scalar {v : Value} (hlist : v.isArray = false) (hdocument : v.document? = none) :
    v.Keeps keyed whole where
  pair key node hnode := by
    obtain ⟨-, c, hc, rfl⟩ := (compilePair_scalar hlist hdocument).1 hnode
    exact h.literal hc
  clauses key nodes hnodes := by
    cases v with
    | array _ _ => cases hlist
    | _ =>
      obtain rfl := Except.ok.inj hnodes
      simp
  member nodes hnodes := by
    cases v with
    | object _ _ _ => cases hdocument
    | _ => cases hnodes
  members kind nodes hnodes := by
    cases v with
    | array _ _ => cases hlist
    | object _ _ _ => cases hdocument
    | _ => cases hnodes
  query q hq := by
    cases v with
    | object _ _ _ => cases hdocument
    | _ => cases hq

/-- By induction on the value, whatever its place. -/
theorem kept (v : Value) : v.Keeps keyed whole := by
  induction v with
  | array size item ih => exact keeps_list h ih
  | object keys nodup value ih => exact keeps_document h (d := ⟨keys, nodup, value⟩) ih
  | _ => exact keeps_scalar h rfl rfl

end KeptByCompiler

end RecordQuery
