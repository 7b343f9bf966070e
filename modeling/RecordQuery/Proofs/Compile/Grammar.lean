import RecordQuery.Proofs.Compile.Clauses

/-!
# The language of queries

`Document.IsWellFormed` says which documents are queries, by the shape of their parts alone. The
compiler accepts these and no others: the ways in which it takes a document, a member of a list, a
clause and an operator each fail on what is not of its shape.
-/

namespace RecordQuery

/-! ## `$boost` and `$options` -/

/-- The `$boost` of the document, if it has one, is a finite number that is not negative. -/
def Document.HasValidBoost (d : Document) : Prop :=
  ∀ v, d.get? boostKey = some v →
    ∃ n, v = .number n ∧ n.toBinary64.isFinite = true ∧ 0 ≤ n.toBinary64.units

/-- The letters that may stand in `$options`. -/
def optionLetters : List Char :=
  ['i', 'm', 's', 'x', 'u', 'g']

/-- The flags that some letters ask for. -/
def Pattern.Flags.ofLetters (letters : List Char) : Pattern.Flags :=
  { caseInsensitive := letters.contains 'i'
    multiLine := letters.contains 'm'
    dotMatchesNewLine := letters.contains 's'
    ignoreWhitespace := letters.contains 'x' }

/-- `$options`, which may be absent, are these letters. -/
def AreOptions (letters : List Char) : Option Value → Prop
  | none => letters = []
  | some (.string s) => letters = s.toList
  | some _ => False

/-- The value is a pattern or, read with `$options`, the text of one. -/
def Value.IsPattern (options : Option Value) : Value → Prop
  | .pattern _ => True
  | .string source => ∃ letters, AreOptions letters options ∧ letters ⊆ optionLetters ∧
      (Pattern.compile? (.ofLetters letters) source).isSome = true
  | _ => False

/-! ## Documents -/

namespace Value

/-- The value may stand under a name in a clause, given whether it is itself a clause, a list of
clauses and a query. -/
def IsOperand (options : Option Value) (name : String) (clause clauses query : Prop) (v : Value) :
    Prop :=
  -- a list is never one clause here, though it would be a literal elsewhere
  (∃ kind, Combinator.ofName? name = some kind ∧ (clauses ∨ v.isArray = false ∧ clause)) ∨
  ∃ op, Operator.ofName? name = some op ∧ op.accepts v = true ∧
    (op.takesOptions = true → v.IsPattern options) ∧
    (op = .computed → clause) ∧ (op = .elementMatch → query)

mutual

/-- The value may stand under the key. A key that names no attribute is a combinator, and a document
under it may have a `$boost`. -/
def IsClause (key : String) : Value → Prop
  | .array size item => namesAttribute key = true ∨ ∀ i : Fin size, (item i).IsMember
  | .object keys nodup value =>
    let d : Document := ⟨keys, nodup, value⟩
    d.HasValidBoost ∧
      if namesAttribute key then
        d.IsLiteral ∨
        d.IsOperators ∧ ∀ i : Fin keys.length, keys.get i ≠ boostKey → keys.get i ≠ optionsKey →
          (value i).IsOperand (d.get? optionsKey) (keys.get i) ((value i).IsClause key)
            ((value i).AreClauses key) (value i).IsQuery
      else ∀ i : Fin keys.length, keys.get i ≠ boostKey → (value i).IsClause (keys.get i)
  | v => namesAttribute key = true ∧ v.kind ≠ .function

/-- The value is a list of values that may stand under the key. -/
def AreClauses (key : String) : Value → Prop
  | .array size item => ∀ i : Fin size, (item i).IsClause key
  | _ => False

/-- The value is a document that may stand in a list under a combinator. -/
def IsMember : Value → Prop
  | .object keys _ value => ∀ i : Fin keys.length, (value i).IsClause (keys.get i)
  | _ => False

/-- The value may stand under a combinator of a whole query, if a document will do there. -/
def AreMembers : Value → Prop
  | .array size item => ∀ i : Fin size, (item i).IsMember
  | .object keys _ value => ∀ i : Fin keys.length, (value i).IsClause (keys.get i)
  | _ => False

/-- The value is a whole query. Its own combinators take no `$boost`, and `$not` alone takes a
document. -/
def IsQuery : Value → Prop
  | .object keys _ value => ∀ i : Fin keys.length,
    match Combinator.ofName? (keys.get i) with
    | some .not => (value i).AreMembers
    | some _ => (value i).isArray = true ∧ (value i).AreMembers
    | none => (value i).IsClause (keys.get i)
  | _ => False

end

end Value

/-- The document is a query. -/
def Document.IsWellFormed (d : Document) : Prop :=
  (Value.ofDocument d).IsQuery

/-! ## What the compiler makes of the parts -/

theorem Binary64.compare_zero_isGE {x : Binary64} (h : x.isFinite = true) :
    (x.compare .zero).any (·.isGE) = true ↔ 0 ≤ x.units := by
  have hnan : x.isNaN = false := by
    rw [Binary64.isFinite, decide_eq_true_iff] at h
    rw [Binary64.isNaN, decide_eq_false_iff_not]
    omega
  have hzero : Binary64.zero.isNaN = false ∧ Binary64.zero.units = 0 := by decide
  rw [Binary64.compare, hnan, hzero.1, hzero.2]
  simp [Std.isGE_compare]

theorem Document.exists_boost?_iff {d : Document} :
    (∃ boost, d.boost? = .ok boost) ↔ d.HasValidBoost := by
  rw [Document.boost?, Document.HasValidBoost]
  cases d.get? boostKey with
  | none => simp
  | some v =>
    simp only [Option.some.injEq, forall_eq']
    cases v with
    | number n =>
      constructor
      · rintro ⟨boost, hboost⟩
        simp only at hboost
        split at hboost
        · rename_i hvalid
          rw [Bool.and_eq_true] at hvalid
          exact ⟨n, rfl, hvalid.1, (Binary64.compare_zero_isGE hvalid.1).1 hvalid.2⟩
        · cases hboost
      · rintro ⟨n', hn, hfinite, hunits⟩
        obtain rfl : n = n' := by injection hn
        refine ⟨some n.toBinary64, if_pos ?_⟩
        rw [Bool.and_eq_true, Binary64.compare_zero_isGE hfinite]
        exact ⟨hfinite, hunits⟩
    | _ => simp

namespace Pattern.Flags

/-- The flags with those that some letters ask for. -/
def addLetters (flags : Flags) (letters : List Char) : Flags :=
  { flags with
    caseInsensitive := flags.caseInsensitive || letters.contains 'i'
    multiLine := flags.multiLine || letters.contains 'm'
    dotMatchesNewLine := flags.dotMatchesNewLine || letters.contains 's'
    ignoreWhitespace := flags.ignoreWhitespace || letters.contains 'x' }

variable {flags flags' : Flags}

theorem add?_eq_ok_iff {c : Char} :
    flags.add? c = .ok flags' ↔ c ∈ optionLetters ∧ flags.addLetters [c] = flags' := by
  by_cases hc : c ∈ optionLetters
  · rw [and_iff_right hc]
    simp only [optionLetters, List.mem_cons, List.not_mem_nil, or_false] at hc
    rcases hc with rfl | rfl | rfl | rfl | rfl | rfl <;> simp [add?, addLetters]
  · have hadd : flags.add? c = .error (.invalidFlag c) := by
      simp only [optionLetters, List.mem_cons, List.not_mem_nil, or_false, not_or] at hc
      unfold add?
      split <;> first | rfl | simp_all
    rw [hadd]
    simp [hc]

theorem foldlM_add?_eq_ok_iff {letters : List Char} :
    letters.foldlM add? flags = .ok flags' ↔
      letters ⊆ optionLetters ∧ flags.addLetters letters = flags' := by
  induction letters generalizing flags with
  | nil => simp [pure, Except.pure, addLetters]
  | cons c letters ih =>
    have hadd : (flags.addLetters [c]).addLetters letters = flags.addLetters (c :: letters) := by
      simp only [addLetters, List.contains_cons, List.contains_nil, Bool.or_false, Bool.or_assoc]
    simp only [List.foldlM_cons, bind_eq_ok_iff, add?_eq_ok_iff, ih, List.cons_subset]
    constructor
    · rintro ⟨_, ⟨hc, rfl⟩, hletters, h⟩
      exact ⟨⟨hc, hletters⟩, hadd ▸ h⟩
    · rintro ⟨⟨hc, hletters⟩, h⟩
      exact ⟨_, ⟨hc, rfl⟩, hletters, hadd ▸ h⟩

end Pattern.Flags

theorem Pattern.Flags.ofOptions?_eq_ok_iff {options : Option Value} {flags : Pattern.Flags} :
    Pattern.Flags.ofOptions? options = .ok flags ↔
      ∃ letters, AreOptions letters options ∧ letters ⊆ optionLetters ∧
        Pattern.Flags.ofLetters letters = flags := by
  have hadd : ∀ letters, Pattern.Flags.addLetters {} letters = .ofLetters letters := fun letters =>
    by simp only [addLetters, ofLetters, Bool.false_or]
  match options with
  | none => simp [ofOptions?, AreOptions, ← hadd, addLetters]
  | some (.string s) => simp [ofOptions?, AreOptions, foldlM_add?_eq_ok_iff, hadd]
  | some .null | some (.bool _) | some (.number _) | some (.array _ _) | some (.object _ _ _)
  | some (.pattern _) | some (.date _) | some (.function _) => simp [ofOptions?, AreOptions]

theorem Pattern.exists_ofOperand?_iff {v : Value} {options : Option Value} :
    (∃ p, Pattern.ofOperand? v options = .ok p) ↔ v.IsPattern options := by
  cases v with
  | pattern p => simp [Pattern.ofOperand?, Value.IsPattern]
  | string source =>
    rw [Value.IsPattern]
    simp only [Pattern.ofOperand?, bind_eq_ok_iff, Flags.ofOptions?_eq_ok_iff]
    constructor
    · rintro ⟨p, _, ⟨letters, hletters, hsubset, rfl⟩, hp⟩
      refine ⟨letters, hletters, hsubset, ?_⟩
      cases hcompile : Pattern.compile? (.ofLetters letters) source with
      | some p => rfl
      | none => rw [hcompile] at hp; cases hp
    · rintro ⟨letters, hletters, hsubset, hcompile⟩
      obtain ⟨p, hp⟩ := Option.isSome_iff_exists.1 hcompile
      exact ⟨p, _, ⟨letters, hletters, hsubset, rfl⟩, by rw [hp]; rfl⟩
  | _ => simp [Pattern.ofOperand?, Value.IsPattern]

/-- An operand of an accepted shape is refused only under `$regex` and `$regexp`. -/
theorem Operand.exists_ofValue?_iff {op : Operator} {v : Value} {options : Option Value} :
    (∃ operand, Operand.ofValue? op v options = .ok operand) ↔
      (op.takesOptions = true → v.IsPattern options) := by
  cases htakes : op.takesOptions with
  | true =>
    obtain rfl | rfl : op = .regex ∨ op = .regexp := by simpa [Operator.takesOptions] using htakes
    -- the two names of one operator
    all_goals
      rw [← Pattern.exists_ofOperand?_iff]
      simp only [Operand.ofValue?, bind_eq_ok_iff, forall_const, pure, Except.pure,
        Except.ok.injEq, exists_comm (α := Operand)]
      simp
  | false =>
    simp only [Bool.false_eq_true, false_implies, iff_true]
    unfold Operand.ofValue?
    split <;> first | exact ⟨_, rfl⟩ | cases htakes

theorem Condition.exists_ofOperator?_iff {key : String} {op : Operator} {v : Value}
    {options : Option Value} : (∃ c, Condition.ofOperator? key op v options = .ok c) ↔
      (op.takesOptions = true → v.IsPattern options) := by
  rw [← Operand.exists_ofValue?_iff]
  simp only [Condition.ofOperator?, bind_eq_ok_iff, pure, Except.pure, Except.ok.injEq]
  constructor
  · rintro ⟨_, operand, h, -⟩
    exact ⟨operand, h⟩
  · rintro ⟨operand, h⟩
    exact ⟨_, operand, h, rfl⟩

theorem exists_compileTest_iff {key : String} {op : Operator} {options : Option Value} {v : Value}
    (hpair : (∃ node, compilePair key v = .ok node) ↔ v.IsClause key)
    (hquery : (∃ q, compileQuery v = .ok q) ↔ v.IsQuery) :
    (∃ node, compileTest key op options v = .ok node) ↔
      (op.takesOptions = true → v.IsPattern options) ∧
      (op = .computed → v.IsClause key) ∧ (op = .elementMatch → v.IsQuery) := by
  by_cases hcomputed : op = .computed
  · subst hcomputed
    rw [compileTest, exists_map_eq_ok_iff, hpair]
    simp [Operator.takesOptions]
  · by_cases helement : op = .elementMatch
    · subst helement
      rw [compileTest, exists_map_eq_ok_iff, hquery]
      simp [Operator.takesOptions]
    · rw [compileTest, exists_map_eq_ok_iff, Condition.exists_ofOperator?_iff]
      · simp [hcomputed, helement]
      · exact hcomputed
      · exact helement

theorem exists_compileJoin_iff {key : String} {kind : Combinator} {v : Value}
    (hpair : (∃ node, compilePair key v = .ok node) ↔ v.IsClause key)
    (hclauses : v.isArray = true →
      ((∃ nodes, compileClauses key v = .ok nodes) ↔ v.AreClauses key)) :
    (∃ node, compileJoin key kind v = .ok node) ↔
      v.AreClauses key ∨ v.isArray = false ∧ v.IsClause key := by
  unfold compileJoin
  cases hlist : v.isArray with
  | true =>
    rw [if_pos rfl, exists_map_eq_ok_iff, hclauses hlist]
    simp
  | false =>
    rw [if_neg Bool.false_ne_true, exists_map_eq_ok_iff, hpair]
    -- clauses to be joined only come in a list
    have hno : ¬v.AreClauses key := by
      cases v with
      | array _ _ => cases hlist
      | _ => exact id
    simp [hno]

/-! ## What the compiler accepts -/

/-- The compiler takes the value in each place exactly if it is of the shape for it. -/
structure Value.Accepted (v : Value) : Prop where
  pair : ∀ key, (∃ node, compilePair key v = .ok node) ↔ v.IsClause key
  clauses : ∀ key, v.isArray = true →
    ((∃ nodes, compileClauses key v = .ok nodes) ↔ v.AreClauses key)
  member : (∃ nodes, compileMember v = .ok nodes) ↔ v.IsMember
  members : ∀ kind, (∃ nodes, compileMembers kind v = .ok nodes) ↔ v.AreMembers
  query : (∃ q, compileQuery v = .ok q) ↔ v.IsQuery

section Document

variable {d : Document} (ih : ∀ i, (d.value i).Accepted)
include ih

theorem exists_compileVerb_iff {key : String} (i : Fin d.keys.length) :
    (∃ node, compileVerb key (d.keys.get i) (d.get? optionsKey) (d.value i) = .ok node) ↔
      (d.value i).IsOperand (d.get? optionsKey) (d.keys.get i) ((d.value i).IsClause key)
        ((d.value i).AreClauses key) (d.value i).IsQuery := by
  simp only [compileVerb_eq_ok_iff, exists_or, exists_comm (α := Node), exists_and_left,
    exists_compileJoin_iff ((ih i).pair key) ((ih i).clauses key),
    exists_compileTest_iff ((ih i).pair key) (ih i).query]
  rfl

theorem exists_mapM_pairs_iff {positions : List (Fin d.keys.length)} :
    (∃ nodes, positions.mapM (fun i => compilePair (d.keys.get i) (d.value i)) = .ok nodes) ↔
      ∀ i ∈ positions, (d.value i).IsClause (d.keys.get i) := by
  simp only [exists_mapM_eq_ok_iff, (ih _).pair]

theorem exists_compilePair_document_iff (key : String) :
    (∃ node, compilePair key (.ofDocument d) = .ok node) ↔ (Value.ofDocument d).IsClause key := by
  have hpair : (∃ node, compilePair key (.ofDocument d) = .ok node) ↔
      (∃ boost, d.boost? = .ok boost) ∧ ∃ node, d.compileUnder key = .ok node := by
    simp only [compilePair_document]
    constructor
    · rintro ⟨_, boost, node, hboost, hnode, -⟩
      exact ⟨⟨boost, hboost⟩, node, hnode⟩
    · rintro ⟨⟨boost, hboost⟩, node, hnode⟩
      exact ⟨_, boost, node, hboost, hnode, rfl⟩
  rw [hpair, Document.exists_boost?_iff, Value.ofDocument, Value.IsClause]
  refine and_congr_right' ?_
  cases hkey : Combinator.ofName? key with
  | some kind =>
    have hattribute : ¬namesAttribute key = true := by simp [hkey]
    simp only [compileUnder_of_join hkey, if_neg hattribute]
    rw [exists_comm]
    simp only [exists_and_left, exists_eq', and_true, exists_mapM_pairs_iff ih,
      Document.mem_places]
  | none =>
    have hverbs : (∃ nodes, d.verbs.mapM (fun i =>
        compileVerb key (d.keys.get i) (d.get? optionsKey) (d.value i)) = .ok nodes) ↔
        ∀ i : Fin d.keys.length, d.keys.get i ≠ boostKey → d.keys.get i ≠ optionsKey →
          (d.value i).IsOperand (d.get? optionsKey) (d.keys.get i) ((d.value i).IsClause key)
            ((d.value i).AreClauses key) (d.value i).IsQuery := by
      simp only [exists_mapM_eq_ok_iff, exists_compileVerb_iff ih, Document.mem_verbs, and_imp]
    rw [if_pos (namesAttribute_iff.2 hkey)]
    simp only [compileUnder_of_attribute hkey]
    -- a literal compiles whatever its values are, operators only if each of them does
    constructor
    · rintro ⟨_, ⟨hliteral, -⟩ | ⟨hoperators, nodes, hnodes, -⟩⟩
      · exact .inl hliteral
      · exact .inr ⟨hoperators, hverbs.1 ⟨nodes, hnodes⟩⟩
    · rintro (hliteral | ⟨hoperators, h⟩)
      · exact ⟨_, .inl ⟨hliteral, rfl⟩⟩
      · obtain ⟨nodes, hnodes⟩ := hverbs.2 h
        exact ⟨_, .inr ⟨hoperators, nodes, hnodes, rfl⟩⟩

theorem exists_compileGroup_iff {kind : Combinator} :
    (∃ group, d.compileGroup kind = .ok group) ↔
      (∀ i, d.keys.get i = kind.name → (d.value i).AreMembers) ∧
      (kind = .and → ∀ i, namesAttribute (d.keys.get i) = true →
        (d.value i).IsClause (d.keys.get i)) := by
  have hlisted : (∃ members, d.compileListed kind = .ok members) ↔
      ∀ i, d.keys.get i = kind.name → (d.value i).AreMembers := by
    rw [Document.forall_value_iff (p := Value.AreMembers), Document.compileListed]
    cases hget : d.get? kind.name with
    | some v =>
      obtain ⟨i, -, rfl⟩ := Fields.get?_eq_some_iff.1 hget
      simp only [(ih i).members, Option.some.injEq, forall_eq']
    | none => simp
  have hfurther : (∃ further, d.compileFurther kind = .ok further) ↔
      (kind = .and → ∀ i, namesAttribute (d.keys.get i) = true →
        (d.value i).IsClause (d.keys.get i)) := by
    unfold Document.compileFurther
    by_cases hand : kind = .and
    · simp only [hand, if_true, exists_mapM_pairs_iff ih, Document.mem_attributes, forall_const]
    · simp only [hand, if_false, Except.ok.injEq, exists_eq', false_implies]
  rw [← hlisted, ← hfurther, Document.compileGroup]
  simp only [bind_eq_ok_iff, pure, Except.pure, Except.ok.injEq]
  constructor
  · rintro ⟨_, members, hmembers, further, h, -⟩
    exact ⟨⟨members, hmembers⟩, further, h⟩
  · rintro ⟨⟨members, hmembers⟩, further, h⟩
    exact ⟨_, members, hmembers, further, h, rfl⟩

theorem exists_compileQuery_document_iff :
    (∃ q, compileQuery (.ofDocument d) = .ok q) ↔ (Value.ofDocument d).IsQuery := by
  have hquery : (∃ q, compileQuery (.ofDocument d) = .ok q) ↔
      (∀ kind : Combinator, kind.lacksArray d = false) ∧
        ∀ kind ∈ d.kinds, ∃ group, d.compileGroup kind = .ok group := by
    simp only [compileQuery_eq_ok_iff, ← exists_mapM_eq_ok_iff]
    constructor
    · rintro ⟨_, hlacks, groups, h, -⟩
      exact ⟨hlacks, groups, h⟩
    · rintro ⟨hlacks, groups, h⟩
      exact ⟨_, hlacks, groups, h, rfl⟩
  have hisQuery := @Document.forall_kinds_iff d
    (fun kind i => (kind ≠ .not → (d.value i).isArray = true) ∧ (d.value i).AreMembers)
    fun i => (d.value i).IsClause (d.keys.get i)
  rw [hquery, Value.ofDocument, Value.IsQuery]
  refine (Iff.trans ?_ hisQuery).trans (forall_congr' fun i => ?_)
  · simp only [exists_compileGroup_iff ih, Combinator.lacksArray_eq_false_iff]
    -- the lists are checked before any group, but nothing is asked of a group that is not there
    constructor
    · rintro ⟨hlists, hgroups⟩ kind hkind
      exact ⟨fun i hi => ⟨hlists kind i hi, (hgroups kind hkind).1 i hi⟩, (hgroups kind hkind).2⟩
    · intro h
      refine ⟨fun kind i hi => ?_, fun kind hkind => ?_⟩
      · have hkind := Document.mem_kinds.2 (.inl (hi ▸ List.get_mem d.keys i))
        exact ((h kind hkind).1 i hi).1
      · exact ⟨fun i hi => ((h kind hkind).1 i hi).2, (h kind hkind).2⟩
  · cases Combinator.ofName? (d.keys.get i) with
    | none => rfl
    | some kind => cases kind <;> simp

end Document

theorem Value.accepted_list {size : Nat} {item : Fin size → Value}
    (ih : ∀ i, (item i).Accepted) : (Value.array size item).Accepted where
  pair key := by
    rw [IsClause, namesAttribute_iff]
    cases hkey : Combinator.ofName? key with
    | some kind =>
      simp only [compilePair_list_of_join hkey]
      rw [exists_comm]
      simp only [exists_and_left, exists_eq', and_true, exists_mapM_eq_ok_iff, (ih _).member]
      simp
    | none =>
      simp only [compilePair_list_of_attribute hkey]
      simp
  clauses key _ := by
    rw [compileClauses, AreClauses, exists_mapM_eq_ok_iff]
    simp only [List.mem_finRange, forall_const, (ih _).pair]
  member := by simp [compileMember, IsMember]
  members kind := by
    rw [compileMembers, AreMembers, exists_map_eq_ok_iff, exists_mapM_eq_ok_iff]
    simp only [List.mem_finRange, forall_const, (ih _).member]
  query := by simp [compileQuery, IsQuery]

theorem Value.accepted_document {d : Document} (ih : ∀ i, (d.value i).Accepted) :
    (Value.ofDocument d).Accepted where
  pair := exists_compilePair_document_iff ih
  clauses key h := by cases h
  member := by
    rw [ofDocument, compileMember, IsMember, exists_map_eq_ok_iff, exists_mapM_pairs_iff ih]
    simp only [List.mem_finRange, forall_const]
  members kind := by
    rw [ofDocument, compileMembers, AreMembers, exists_mapM_pairs_iff ih]
    simp only [List.mem_finRange, forall_const]
  query := exists_compileQuery_document_iff ih

theorem Value.accepted_scalar {v : Value} (hlist : v.isArray = false)
    (hdocument : v.document? = none) : v.Accepted where
  pair key := by
    have hliteral : (∃ c, Condition.ofLiteral? key v = .ok c) ↔ v.kind ≠ .function := by
      cases v <;> simp_all [Condition.ofLiteral?, kind]
    have hclause : v.IsClause key ↔ namesAttribute key = true ∧ v.kind ≠ .function := by
      cases v with
      | array _ _ => cases hlist
      | object _ _ _ => cases hdocument
      | _ => exact Iff.rfl
    rw [hclause, namesAttribute_iff, ← hliteral]
    simp only [compilePair_scalar hlist hdocument]
    constructor
    · rintro ⟨_, hkey, c, hc, -⟩
      exact ⟨hkey, c, hc⟩
    · rintro ⟨hkey, c, hc⟩
      exact ⟨_, hkey, c, hc, rfl⟩
  clauses key h := by rw [hlist] at h; cases h
  member := by cases v <;> simp_all [compileMember, IsMember, document?]
  members kind := by cases v <;> simp_all [compileMembers, AreMembers, document?, isArray]
  query := by cases v <;> simp_all [compileQuery, IsQuery, document?]

/-- By induction on the value, whatever its place. -/
theorem Value.accepted (v : Value) : v.Accepted := by
  induction v with
  | array size item ih => exact accepted_list ih
  | object keys nodup value ih => exact accepted_document (d := ⟨keys, nodup, value⟩) ih
  | _ => exact accepted_scalar rfl rfl

/-- A document compiles exactly if it is a well-formed query. -/
theorem Query.exists_compile_iff (d : Document) :
    (∃ q, (Query.compile (m := Id) d).run = .ok q) ↔ d.IsWellFormed := by
  simp only [Query.compile_eq_ok_iff]
  exact (Value.accepted (.ofDocument d)).query

end RecordQuery
