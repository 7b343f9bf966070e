import RecordQuery.Proofs.Traversal
import RecordQuery.Query.Tester

/-!
# How clauses compile

The compiler of documents, one kind of clause at a time. A pair is a list or a document under a
combinator, or a clause for an attribute; `Document.places` are the keys of a clause other than
`$boost` and `Document.verbs` those that are operators. `compileVerb` is what an operator compiles
to.
-/

namespace RecordQuery

/-! ## The keys of a clause -/

@[simp]
theorem namesAttribute_iff {key : String} :
    namesAttribute key = true ↔ Combinator.ofName? key = none := by
  rw [namesAttribute, Option.isNone_iff_eq_none]

theorem Combinator.ofName?_eq_none_of_operator {name : String} {op : Operator}
    (h : Operator.ofName? name = some op) : Combinator.ofName? name = none := by
  obtain rfl := Operator.ofName?_eq_some_iff.1 h
  simp

theorem Operator.ofName?_ne_some {name : String} {kind : Combinator}
    (h : Combinator.ofName? name = some kind) (op : Operator) :
    Operator.ofName? name ≠ some op := by
  intro hop
  rw [Combinator.ofName?_eq_none_of_operator hop] at h
  cases h

theorem namesPattern_iff {name : String} :
    namesPattern name = true ↔ name = Operator.regex.name ∨ name = Operator.regexp.name := by
  rw [namesPattern, Option.any_eq_true]
  constructor
  · rintro ⟨op, hop, htakes⟩
    obtain rfl := Operator.ofName?_eq_some_iff.1 hop
    cases op <;> first | exact absurd htakes (by decide) | simp
  · rintro (rfl | rfl)
    · exact ⟨.regex, by simp, rfl⟩
    · exact ⟨.regexp, by simp, rfl⟩

namespace Document

variable {d : Document} {i : Fin d.keys.length}

/-- The positions of the keys other than `$boost`. -/
def places (d : Document) : List (Fin d.keys.length) :=
  (List.finRange d.keys.length).filter fun i => d.keys.get i ≠ boostKey

/-- The positions of the operators of a clause. -/
def verbs (d : Document) : List (Fin d.keys.length) :=
  d.places.filter fun i => d.keys.get i ≠ optionsKey

/-- The document is a literal: none of its keys but `$boost` begins with `$`. -/
def IsLiteral (d : Document) : Prop :=
  ∀ key ∈ d.keys, key ≠ boostKey → isReserved key = false

/-- The document is a clause of operators, and with `$options` it has `$regex` or `$regexp`. -/
structure IsOperators (d : Document) : Prop where
  reserved : ∀ key ∈ d.keys, key ≠ boostKey → isReserved key = true
  nonempty : ∃ key ∈ d.keys, key ≠ boostKey ∧ key ≠ optionsKey
  options : optionsKey ∈ d.keys →
    Operator.regex.name ∈ d.keys ∨ Operator.regexp.name ∈ d.keys

theorem IsOperators.not_isLiteral (h : d.IsOperators) : ¬d.IsLiteral := by
  intro hliteral
  obtain ⟨key, hkey, hboost, -⟩ := h.nonempty
  have := hliteral key hkey hboost
  rw [h.reserved key hkey hboost] at this
  cases this

@[simp]
theorem mem_places : i ∈ d.places ↔ d.keys.get i ≠ boostKey := by
  simp [places]

@[simp]
theorem mem_verbs : i ∈ d.verbs ↔ d.keys.get i ≠ boostKey ∧ d.keys.get i ≠ optionsKey := by
  simp [verbs]

theorem map_places (d : Document) :
    d.places.map (fun i => d.keys.get i) = d.keys.filter (· ≠ boostKey) := by
  conv_rhs => rw [← List.map_getElem_finRange d.keys, List.filter_map]
  rfl

theorem map_verbs (d : Document) :
    d.verbs.map (fun i => d.keys.get i) =
      (d.places.map fun i => d.keys.get i).filter (· ≠ optionsKey) := by
  rw [List.filter_map]
  rfl

end Document

section OperatorClause

variable {keys : List String} {b : Bool}

theorem isOperatorClause_of_plain {key : String} (hmem : key ∈ keys)
    (hkey : isReserved key = false) :
    isOperatorClause keys = .ok b ↔ b = false ∧ ∀ key ∈ keys, isReserved key = false := by
  obtain ⟨plain, hplain⟩ : ∃ plain, keys.find? (!isReserved ·) = some plain := by
    rw [← Option.isSome_iff_exists, List.find?_isSome]
    exact ⟨key, hmem, by rw [hkey]; rfl⟩
  have hany : ¬keys.any isReserved = true ↔ ∀ key ∈ keys, isReserved key = false := by
    simp only [List.any_eq_true, not_exists, not_and, Bool.not_eq_true]
  simp only [isOperatorClause, hplain, ite_error_eq_ok_iff, hany, Except.ok.injEq]
  rw [and_comm, eq_comm]

theorem isOperatorClause_of_reserved (hne : keys ≠ [])
    (hreserved : ∀ key ∈ keys, isReserved key = true) :
    isOperatorClause keys = .ok b ↔
      b = true ∧ keys.filter (· ≠ optionsKey) ≠ [] ∧
      (optionsKey ∈ keys → ∃ name ∈ keys.filter (· ≠ optionsKey), namesPattern name = true) ∧
      ∀ name, keys.filter (· ≠ optionsKey) = [name] → ∃ verb, Verb.ofName? name = .ok verb := by
  have hplain : keys.find? (!isReserved ·) = none := by
    rw [List.find?_eq_none]
    intro key hkey
    rw [hreserved key hkey]
    decide
  have hisEmpty : keys.isEmpty = false := by rwa [List.isEmpty_eq_false_iff]
  rw [isOperatorClause, hplain]
  generalize keys.filter (· ≠ optionsKey) = names
  -- a single name is looked up here already, several only where each of them is compiled
  match names with
  | [] => simp [hisEmpty]
  | [name] =>
    have hdiscard : (∃ u, discard (Verb.ofName? name) = .ok u) ↔
        ∃ verb, Verb.ofName? name = .ok verb := by
      show (∃ u, Function.const _ _ <$> Verb.ofName? name = .ok u) ↔ _
      simp only [map_eq_ok_iff]
      simp
    simp only [bind_eq_ok_iff, ite_error_eq_ok_iff, exists_and_right, hdiscard, pure, Except.pure,
      Except.ok.injEq]
    simp
    grind
  | first :: second :: names =>
    simp only [ite_error_eq_ok_iff]
    simp
    grind

/-- The checks of the compiler on keys that are all reserved, as what they say of the document. -/
theorem Document.isOperators_iff {d : Document}
    (hmem : ∀ key, key ∈ keys ↔ key ∈ d.keys ∧ key ≠ boostKey)
    (hreserved : ∀ key ∈ keys, isReserved key = true) :
    d.IsOperators ↔ keys.filter (· ≠ optionsKey) ≠ [] ∧
      (optionsKey ∈ keys → ∃ name ∈ keys.filter (· ≠ optionsKey), namesPattern name = true) := by
  have hnonempty : keys.filter (· ≠ optionsKey) ≠ [] ↔
      ∃ key ∈ d.keys, key ≠ boostKey ∧ key ≠ optionsKey := by
    simp only [ne_eq, List.filter_eq_nil_iff, decide_eq_true_eq, hmem, not_forall, exists_prop,
      and_assoc, not_not]
  have hoptions : optionsKey ∈ keys ↔ optionsKey ∈ d.keys :=
    (hmem optionsKey).trans (and_iff_left (by decide))
  have hpattern : (∃ name ∈ keys.filter (· ≠ optionsKey), namesPattern name = true) ↔
      Operator.regex.name ∈ d.keys ∨ Operator.regexp.name ∈ d.keys := by
    simp only [List.mem_filter, decide_eq_true_eq, hmem, namesPattern_iff]
    constructor
    · rintro ⟨name, ⟨⟨hname, -⟩, -⟩, rfl | rfl⟩
      · exact .inl hname
      · exact .inr hname
    · rintro (hname | hname)
      · exact ⟨_, ⟨⟨hname, by decide⟩, by decide⟩, .inl rfl⟩
      · exact ⟨_, ⟨⟨hname, by decide⟩, by decide⟩, .inr rfl⟩
  rw [hnonempty, hoptions, hpattern]
  exact ⟨fun h => ⟨h.nonempty, h.options⟩,
    fun h => ⟨fun key hkey hne => hreserved key ((hmem key).2 ⟨hkey, hne⟩), h.1, h.2⟩⟩

end OperatorClause

/-- The compiler takes a clause for a literal or for operators as its keys say. -/
theorem isOperatorClause_places {d : Document} {b : Bool} :
    isOperatorClause (d.places.map fun i => d.keys.get i) = .ok b ↔
      b = false ∧ d.IsLiteral ∨
      b = true ∧ d.IsOperators ∧
        ∀ i, d.verbs = [i] → ∃ verb, Verb.ofName? (d.keys.get i) = .ok verb := by
  have hverbs := d.map_verbs
  rw [d.map_places] at hverbs ⊢
  have hmem : ∀ key, key ∈ d.keys.filter (· ≠ boostKey) ↔ key ∈ d.keys ∧ key ≠ boostKey := by
    simp
  generalize d.keys.filter (· ≠ boostKey) = keys at hverbs hmem ⊢
  by_cases hplain : ∃ key ∈ keys, isReserved key = false
  · -- one key that is not reserved makes it a literal, and then no other may be
    obtain ⟨key, hkey, hunreserved⟩ := hplain
    have hoperators : ¬d.IsOperators := fun h => by
      have := h.reserved key ((hmem key).1 hkey).1 ((hmem key).1 hkey).2
      rw [this] at hunreserved
      cases hunreserved
    rw [isOperatorClause_of_plain hkey hunreserved, Document.IsLiteral]
    simp only [hmem, and_imp, hoperators, false_and, and_false, or_false]
  · have hreserved : ∀ key ∈ keys, isReserved key = true := by simpa using hplain
    by_cases hnil : keys = []
    · -- nothing but `$boost`, or nothing at all: an empty literal
      have hnone : ∀ key ∈ d.keys, ¬key ≠ boostKey := fun key hkey hne => by
        have := (hmem key).2 ⟨hkey, hne⟩
        rw [hnil] at this
        cases this
      have hliteral : d.IsLiteral := fun key hkey hne => absurd hne (hnone key hkey)
      have hoperators : ¬d.IsOperators := fun h => by
        obtain ⟨key, hkey, hne, -⟩ := h.nonempty
        exact hnone key hkey hne
      rw [hnil]
      show Except.ok false = Except.ok b ↔ _
      simp only [hliteral, hoperators, Except.ok.injEq, and_true, false_and, and_false, or_false]
      exact eq_comm
    · obtain ⟨key, hkey⟩ := List.exists_mem_of_ne_nil keys hnil
      have hliteral : ¬d.IsLiteral := fun h => by
        have := h key ((hmem key).1 hkey).1 ((hmem key).1 hkey).2
        rw [hreserved key hkey] at this
        cases this
      have hsingle : (∀ name, d.verbs.map (fun i => d.keys.get i) = [name] →
          ∃ verb, Verb.ofName? name = .ok verb) ↔
          ∀ i, d.verbs = [i] → ∃ verb, Verb.ofName? (d.keys.get i) = .ok verb := by
        simp only [List.map_eq_singleton_iff]
        constructor
        · intro h i hi
          exact h _ ⟨i, hi, rfl⟩
        · rintro h name ⟨i, hi, rfl⟩
          exact h i hi
      rw [isOperatorClause_of_reserved hnil hreserved, Document.isOperators_iff hmem hreserved,
        ← hverbs, hsingle]
      simp only [hliteral, and_false, false_or, and_assoc]

/-! ## The operators of a clause -/

/-- What a combinator in a clause compiles to. -/
def compileJoin (key : String) (kind : Combinator) (v : Value) : Except CompileError Node :=
  if v.isArray then Node.ofTests kind <$> compileClauses key v
  else (Node.ofTests kind [·]) <$> compilePair key v

/-- What an operator with an operand that it accepts compiles to. -/
def compileTest (key : String) (op : Operator) (options : Option Value) (v : Value) :
    Except CompileError Node :=
  match op with
  -- the clause of the same key again, but read from the record itself
  | .computed => (·.readDirectly key) <$> compilePair key v
  | .elementMatch => (.condition <| .ofKey key op <| .query ·) <$> compileQuery v
  | op => .condition <$> Condition.ofOperator? key op v options

/-- What a name in a clause and what stands under it compile to. -/
def compileVerb (key name : String) (options : Option Value) (v : Value) :
    Except CompileError Node := do
  match ← Verb.ofName? name with
  | .join kind => compileJoin key kind v
  | .test op =>
    if !op.accepts v then .error (.invalidOperand op v) else compileTest key op options v

section Verb

variable {key : String} {options : Option Value} {v : Value}

@[simp]
theorem compileVerb_join (kind : Combinator) :
    compileVerb key kind.name options v = compileJoin key kind v := by
  simp [compileVerb, Verb.ofName?, bind, Except.bind]

@[simp]
theorem compileVerb_test (op : Operator) :
    compileVerb key op.name options v =
      if !op.accepts v then .error (.invalidOperand op v) else compileTest key op options v := by
  simp [compileVerb, Verb.ofName?, bind, Except.bind]

theorem compileVerb_eq_ok_iff {name : String} {node : Node} :
    compileVerb key name options v = .ok node ↔
      (∃ kind, Combinator.ofName? name = some kind ∧ compileJoin key kind v = .ok node) ∨
      ∃ op, Operator.ofName? name = some op ∧ op.accepts v = true ∧
        compileTest key op options v = .ok node := by
  cases hkind : Combinator.ofName? name with
  | some kind =>
    rw [← Combinator.ofName?_eq_some_iff.1 hkind, compileVerb_join]
    simp [Operator.ofName?_ne_some (Combinator.ofName?_name kind)]
  | none =>
    cases hop : Operator.ofName? name with
    | none => simp [compileVerb, Verb.ofName?, hkind, hop, bind, Except.bind]
    | some op =>
      rw [← Operator.ofName?_eq_some_iff.1 hop, compileVerb_test]
      simp [ite_error_eq_ok_iff]

end Verb

/-! ## Pairs -/

/-- What the document under a key compiles to, its `$boost` apart. -/
def Document.compileUnder (key : String) (d : Document) : Except CompileError Node :=
  match Combinator.ofName? key with
  | some kind => Node.ofTests kind <$> d.places.mapM fun i => compilePair (d.keys.get i) (d.value i)
  | none => do
    if ← isOperatorClause (d.places.map fun i => d.keys.get i) then
      Node.ofClause <$> d.verbs.mapM fun i =>
        compileVerb key (d.keys.get i) (d.get? optionsKey) (d.value i)
    else .condition <$> Condition.ofLiteral? key (.ofDocument (d.erase boostKey))

section Pair

variable {key : String} {kind : Combinator} {node : Node} {d : Document}

theorem compilePair_list_of_join (hkey : Combinator.ofName? key = some kind) (size : Nat)
    (item : Fin size → Value) :
    compilePair key (.array size item) = .ok node ↔
      ∃ members, (List.finRange size).mapM (fun i => compileMember (item i)) = .ok members ∧
        Node.ofTests kind (members.flatMap kind.membership) = node := by
  rw [compilePair, hkey]
  simp only [bind_eq_ok_iff, pure, Except.pure, Except.ok.injEq]

theorem compilePair_list_of_attribute (hkey : Combinator.ofName? key = none) (size : Nat)
    (item : Fin size → Value) :
    compilePair key (.array size item) = .ok node ↔
      .condition (.ofKey key .deepEqual (.value (.array size item))) = node := by
  rw [compilePair, hkey]
  show Except.ok _ = Except.ok node ↔ _
  rw [Except.ok.injEq]
  rfl

/-- `$boost` is read first, whatever the key is. -/
theorem compilePair_ofDocument (key : String) (d : Document) :
    compilePair key (.ofDocument d) = d.boost? >>= fun boost =>
      d.compileUnder key >>= fun node => .ok (boost.elim node node.withBoost) := by
  rw [Value.ofDocument, compilePair, Document.compileUnder]
  cases Combinator.ofName? key with
  | some kind => rfl
  | none =>
    refine bind_congr fun boost => ?_
    rw [bind_assoc]
    refine bind_congr fun b => ?_
    cases b <;> rfl

theorem compilePair_document :
    compilePair key (.ofDocument d) = .ok node ↔
      ∃ boost unweighted, d.boost? = .ok boost ∧ d.compileUnder key = .ok unweighted ∧
        boost.elim unweighted unweighted.withBoost = node := by
  simp only [compilePair_ofDocument, bind_eq_ok_iff, Except.ok.injEq, exists_and_left]

theorem compilePair_unweighted (h : boostKey ∉ d.keys) :
    compilePair key (.ofDocument d) = .ok node ↔ d.compileUnder key = .ok node := by
  have hboost : d.boost? = .ok none := by
    rw [Document.boost?, Fields.get?_eq_none_iff.2 h]
  rw [compilePair_document, hboost]
  simp

theorem compileUnder_of_join (hkey : Combinator.ofName? key = some kind) :
    d.compileUnder key = .ok node ↔
      ∃ nodes, d.places.mapM (fun i => compilePair (d.keys.get i) (d.value i)) = .ok nodes ∧
        .ofTests kind nodes = node := by
  rw [Document.compileUnder, hkey, map_eq_ok_iff]

theorem compileUnder_of_attribute (hkey : Combinator.ofName? key = none) :
    d.compileUnder key = .ok node ↔
      d.IsLiteral ∧
          .condition (.ofKey key .deepEqual (.value (.ofDocument (d.erase boostKey)))) = node ∨
        d.IsOperators ∧ ∃ nodes,
          d.verbs.mapM (fun i => compileVerb key (d.keys.get i) (d.get? optionsKey) (d.value i)) =
            .ok nodes ∧ .ofClause nodes = node := by
  rw [Document.compileUnder, hkey]
  simp only [bind_eq_ok_iff]
  constructor
  · rintro ⟨b, hb, hnode⟩
    rcases isOperatorClause_places.1 hb with ⟨rfl, hliteral⟩ | ⟨rfl, hoperators, -⟩
    · exact .inl ⟨hliteral, Except.ok.inj hnode⟩
    · exact .inr ⟨hoperators, map_eq_ok_iff.1 hnode⟩
  · rintro (⟨hliteral, rfl⟩ | ⟨hoperators, nodes, hnodes, rfl⟩)
    · exact ⟨false, isOperatorClause_places.2 (.inl ⟨rfl, hliteral⟩), rfl⟩
    · refine ⟨true, isOperatorClause_places.2 (.inr ⟨rfl, hoperators, fun i hi => ?_⟩),
        map_eq_ok_iff.2 ⟨nodes, hnodes, rfl⟩⟩
      -- a single name was compiled, so it could be looked up
      have hverb := exists_mapM_eq_ok_iff.1 ⟨nodes, hnodes⟩ i (hi ▸ List.mem_singleton_self i)
      simp only [compileVerb, bind_eq_ok_iff] at hverb
      obtain ⟨_, verb, hname, -⟩ := hverb
      exact ⟨verb, hname⟩

theorem compilePair_scalar {v : Value} (hlist : v.isArray = false)
    (hdocument : v.document? = none) :
    compilePair key v = .ok node ↔
      Combinator.ofName? key = none ∧ ∃ c, Condition.ofLiteral? key v = .ok c ∧
        .condition c = node := by
  cases hkey : Combinator.ofName? key <;> cases v <;>
    simp_all [compilePair, map_eq_ok_iff, Value.isArray, Value.document?]

end Pair

/-! ## Whole documents -/

namespace Document

variable {d : Document} {i : Fin d.keys.length}

/-- The positions of the keys that name attributes. -/
def attributes (d : Document) : List (Fin d.keys.length) :=
  (List.finRange d.keys.length).filter fun i => namesAttribute (d.keys.get i)

/-- The kinds of the groups that a document compiles to. -/
def kinds (d : Document) : List Combinator :=
  Combinator.all.filter fun kind =>
    d.combinators.contains kind || kind = .and && !d.attributes.isEmpty

/-- A key has one position at most, so what is asked of all of them is asked of its value. -/
theorem forall_value_iff {key : String} {p : Value → Prop} :
    (∀ i, d.keys.get i = key → p (d.value i)) ↔ ∀ v, d.get? key = some v → p v := by
  simp only [Fields.get?_eq_some_iff]
  constructor
  · rintro h v ⟨i, hi, rfl⟩
    exact h i hi
  · intro h i hi
    exact h _ ⟨i, hi, rfl⟩

@[simp]
theorem mem_attributes : i ∈ d.attributes ↔ namesAttribute (d.keys.get i) = true := by
  simp [attributes]

@[simp]
theorem mem_combinators {kind : Combinator} : kind ∈ d.combinators ↔ kind.name ∈ d.keys := by
  simp [combinators, Fields.contains]

@[simp]
theorem mem_kinds {kind : Combinator} :
    kind ∈ d.kinds ↔ kind.name ∈ d.keys ∨
      kind = .and ∧ ∃ i : Fin d.keys.length, namesAttribute (d.keys.get i) = true := by
  have hattributes : (!d.attributes.isEmpty) = true ↔
      ∃ i : Fin d.keys.length, namesAttribute (d.keys.get i) = true := by
    rw [Bool.not_eq_true', List.isEmpty_eq_false_iff_exists_mem]
    simp only [mem_attributes]
  rw [kinds, List.mem_filter, and_iff_right kind.mem_all, Bool.or_eq_true, Bool.and_eq_true,
    List.contains_iff_mem, mem_combinators, decide_eq_true_iff, hattributes]

/-- The groups of a document are made of its keys: each combinator for its own group, and the
attributes for the `$and` group. -/
theorem forall_kinds_iff {listed : Combinator → Fin d.keys.length → Prop}
    {further : Fin d.keys.length → Prop} :
    (∀ kind ∈ d.kinds, (∀ i, d.keys.get i = kind.name → listed kind i) ∧
      (kind = .and → ∀ i, namesAttribute (d.keys.get i) = true → further i)) ↔
    ∀ i : Fin d.keys.length,
      match Combinator.ofName? (d.keys.get i) with
      | some kind => listed kind i
      | none => further i := by
  constructor
  · -- every key belongs to a group that the document has
    intro h i
    cases hkey : Combinator.ofName? (d.keys.get i) with
    | none =>
      have hattribute := namesAttribute_iff.2 hkey
      exact (h .and (mem_kinds.2 (.inr ⟨rfl, i, hattribute⟩))).2 rfl i hattribute
    | some kind =>
      have hname := (Combinator.ofName?_eq_some_iff.1 hkey).symm
      exact (h kind (mem_kinds.2 (.inl (hname ▸ List.get_mem d.keys i)))).1 i hname
  · refine fun h kind _ => ⟨fun i hi => ?_, fun _ i hattribute => ?_⟩
    · have := h i
      rwa [hi, Combinator.ofName?_name] at this
    · have := h i
      rwa [namesAttribute_iff.1 hattribute] at this

/-- The nodes that stand under a combinator. -/
def compileListed (d : Document) (kind : Combinator) : Except CompileError (List Node) :=
  match d.get? kind.name with
  | some v => compileMembers kind v
  | none => .ok []

/-- The nodes of the attributes, which are further members of `$and`. -/
def compileFurther (d : Document) (kind : Combinator) : Except CompileError (List Node) :=
  if kind = .and then d.attributes.mapM fun i => compilePair (d.keys.get i) (d.value i) else .ok []

/-- The group of a kind that a document compiles to. -/
def compileGroup (d : Document) (kind : Combinator) : Except CompileError Group := do
  let members ← d.compileListed kind
  let further ← d.compileFurther kind
  return .ofNodes kind (Node.arrange (members ++ Node.arrange further))

end Document

theorem Combinator.lacksArray_eq_false_iff {d : Document} {kind : Combinator} :
    kind.lacksArray d = false ↔
      ∀ i, d.keys.get i = kind.name → kind ≠ .not → (d.value i).isArray = true := by
  have hany : (d.get? kind.name).any (!·.isArray) = false ↔
      ∀ i, d.keys.get i = kind.name → (d.value i).isArray = true := by
    rw [Document.forall_value_iff (p := fun v => v.isArray = true)]
    cases d.get? kind.name <;> simp
  rw [Combinator.lacksArray, Bool.and_eq_false_iff, hany, Combinator.expectsArray,
    decide_eq_false_iff_not]
  by_cases hnot : kind = .not <;> simp [hnot]

/-- A list that is missing is found first, then each kind has its group. -/
theorem compileQuery_ofDocument (d : Document) :
    compileQuery (.ofDocument d) =
      match d.combinators.find? (·.lacksArray d) with
      | some kind => .error (.expectedArray kind)
      | none => Query.mk <$> d.kinds.mapM d.compileGroup := by
  rw [Value.ofDocument, compileQuery]
  cases d.combinators.find? (·.lacksArray d) with
  | some kind => rfl
  | none =>
    show (List.mapM _ d.kinds >>= _) = (Query.mk <$> d.kinds.mapM d.compileGroup)
    rw [map_eq_pure_bind]
    congr 2
    funext kind
    rw [Document.compileGroup, Document.compileListed, Document.compileFurther, Fields.get?]
    by_cases hand : kind = .and
    · cases d.keys.finIdxOf? kind.name <;> simp only [hand, if_true] <;> rfl
    · cases d.keys.finIdxOf? kind.name <;> simp only [hand, if_false] <;> rfl

theorem compileQuery_eq_ok_iff {d : Document} {q : Query} :
    compileQuery (.ofDocument d) = .ok q ↔
      (∀ kind : Combinator, kind.lacksArray d = false) ∧
        ∃ groups, d.kinds.mapM d.compileGroup = .ok groups ∧ ⟨groups⟩ = q := by
  have hlacks : d.combinators.find? (·.lacksArray d) = none ↔
      ∀ kind : Combinator, kind.lacksArray d = false := by
    rw [List.find?_eq_none]
    simp only [Bool.not_eq_true]
    refine ⟨fun h kind => ?_, fun h kind _ => h kind⟩
    rw [Combinator.lacksArray_eq_false_iff]
    intro i hi
    exact Combinator.lacksArray_eq_false_iff.1
      (h kind (Document.mem_combinators.2 (hi ▸ List.get_mem d.keys i))) i hi
  rw [compileQuery_ofDocument, ← hlacks]
  cases d.combinators.find? (·.lacksArray d) with
  | some kind => simp
  | none => simp only [map_eq_ok_iff, true_and]

/-- Where reports are dropped, `Query.compile` gives what the document states. -/
theorem Query.run_compile (d : Document) :
    (Query.compile (m := Id) d).run = (compileQuery (.ofDocument d)).mapError .compile := by
  rw [Query.compile, Query.ofDocument?]
  cases compileQuery (.ofDocument d) <;> rfl

theorem Query.compile_eq_ok_iff {d : Document} {q : Query} :
    (Query.compile (m := Id) d).run = .ok q ↔ compileQuery (.ofDocument d) = .ok q := by
  rw [run_compile]
  cases compileQuery (.ofDocument d) with
  | error e =>
    constructor
    · intro h; cases h
    · intro h; cases h
  | ok q' =>
    show Except.ok q' = Except.ok q ↔ _
    rw [Except.ok.injEq, Except.ok.injEq]

end RecordQuery
