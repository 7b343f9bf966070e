import RecordQuery.Proofs.Binary64.Sum
import RecordQuery.Proofs.Compile.Grammar
import RecordQuery.Proofs.Compile.Reading
import RecordQuery.Query.Evaluate

/-!
# The form of compiled queries

Whatever document a query was compiled from, its conditions, its groups and the query itself are
regular, and so are those of the queries in it (`keptByCompiler_isRegular`). A regular condition has
an operand that its operator consumes, so what the evaluator falls back on for other operands makes
no difference to it (`Condition.IsRegular.neverFallsBack`).
-/

namespace RecordQuery

/-! ## Conditions, groups and queries by themselves -/

/-- The operand is of the form that the operator consumes. -/
def Operator.Consumes (op : Operator) (operand : Operand) : Prop :=
  match op with
  | .isIn | .notIn | .containsAll | .containsAny | .containsNone => ∃ items, operand = .list items
  | .between | .betweenEqual | .modulo => ∃ first second, operand = .pair first second
  | .size => ∃ n, operand = .size n
  | .startsWith | .endsWith | .like | .likeCaseless => ∃ s, operand = .text s
  | .regex | .regexp => ∃ p, operand = .pattern p
  | .callback => ∃ c, operand = .callback c
  | .elementMatch => ∃ q, operand = .query q
  | _ => ∃ v, operand = .value v ∧ v.kind ≠ .function

theorem Operator.eq_of_consumes_query {op : Operator} {q : Query} (h : op.Consumes (.query q)) :
    op = .elementMatch := by
  cases op <;> simp [Consumes] at h ⊢

structure Condition.IsRegular (c : Condition) : Prop where
  operator : c.op ≠ .computed
  operand : c.op.Consumes c.operand
  /-- Lists, objects and NaN are not left to scalar equality. -/
  equal : c.op = .equal → ∀ v, c.operand = .value v → v.isStructured = false
  boost : c.boost.IsWeight
  dotted : isDotted c.key = true → c.path.isSome = true
  path : ∀ p, c.path = some p → p.segments = (c.key.toList.splitOn '.').map .ofList

structure Group.IsRegular (g : Group) : Prop where
  ascending : g.nodes.Pairwise (·.precedence ≤ ·.precedence)
  boost : g.boost.IsWeight

/-- The groups are of different kinds, in the order in which groups are tested. -/
def Query.IsRegular (q : Query) : Prop :=
  (q.groups.map fun group => group.kind).Sublist [.and, .not, .or, .nor]

/-! ## All that is in a query -/

section Everywhere

variable (onCondition : Condition → Prop) (onGroup : Group → Prop) (onQuery : Query → Prop)

mutual

def Condition.Everywhere : Condition → Prop
  | ⟨key, path, op, operand, boost⟩ =>
    onCondition ⟨key, path, op, operand, boost⟩ ∧
      match operand with
      | .query q => q.Everywhere
      | _ => True

def Node.Everywhere : Node → Prop
  | .condition c => c.Everywhere
  | .group g => g.Everywhere

def Group.Everywhere : Group → Prop
  | ⟨kind, nodes, boost⟩ => onGroup ⟨kind, nodes, boost⟩ ∧ nodesEverywhere nodes

def nodesEverywhere : List Node → Prop
  | [] => True
  | node :: nodes => node.Everywhere ∧ nodesEverywhere nodes

/-- The properties hold of the conditions, the groups and the queries at any depth, those under
`$elemMatch` included. -/
def Query.Everywhere : Query → Prop
  | ⟨groups⟩ => onQuery ⟨groups⟩ ∧ groupsEverywhere groups

def groupsEverywhere : List Group → Prop
  | [] => True
  | group :: groups => group.Everywhere ∧ groupsEverywhere groups

end

variable {onCondition onGroup onQuery}

theorem Condition.everywhere_iff (c : Condition) :
    c.Everywhere onCondition onGroup onQuery ↔
      onCondition c ∧ ∀ q, c.operand = .query q → q.Everywhere onCondition onGroup onQuery := by
  obtain ⟨key, path, op, operand, boost⟩ := c
  unfold Condition.Everywhere
  refine and_congr_right' ?_
  cases operand <;> simp

theorem Group.everywhere_iff (g : Group) :
    g.Everywhere onCondition onGroup onQuery ↔
      onGroup g ∧ ∀ node ∈ g.nodes, node.Everywhere onCondition onGroup onQuery := by
  obtain ⟨kind, nodes, boost⟩ := g
  rw [Group.Everywhere]
  refine and_congr_right' ?_
  induction nodes with
  | nil => simp [nodesEverywhere]
  | cons node nodes ih => rw [nodesEverywhere, List.forall_mem_cons, ih]

theorem Query.everywhere_iff (q : Query) :
    q.Everywhere onCondition onGroup onQuery ↔
      onQuery q ∧ ∀ group ∈ q.groups, group.Everywhere onCondition onGroup onQuery := by
  obtain ⟨groups⟩ := q
  rw [Query.Everywhere]
  refine and_congr_right' ?_
  induction groups with
  | nil => simp [groupsEverywhere]
  | cons group groups ih => rw [groupsEverywhere, List.forall_mem_cons, ih]

end Everywhere

/-! ## What the evaluator falls back on -/

variable {m : Type → Type}

/-- What is taken in place of an operand that is not a list or not a text, and what is answered
where `$cb` has nothing to call or `$elemMatch` no list to go through. -/
structure Fallback (m : Type → Type) where
  items : List Value
  text : String
  answer : Eval m Bool

namespace Fallback

/-- The fallback of the evaluator. -/
def none [Monad m] : Fallback m :=
  ⟨[], "", pure false⟩

variable (f : Fallback m)

def itemsOf : Operand → List Value
  | .list items => items
  | _ => f.items

def textOf : Operand → String
  | .text s => s
  | _ => f.text

/-- The operand as the test of the operator finds it. -/
def found (op : Operator) (operand : Operand) : Operand :=
  match op with
  | .isIn | .notIn | .containsAll | .containsAny | .containsNone => .list (f.itemsOf operand)
  | .startsWith | .endsWith | .like | .likeCaseless => .text (f.textOf operand)
  | _ => operand

def anyElement [Monad m] (test : Json → Eval m Bool) : Option Json → Eval m Bool
  | some (.array _ item) => (List.ofFn item).anyM test
  | _ => f.answer

theorem test_found_none [Monad m] (op : Operator) (operand : Operand) (attr : Option Json) :
    op.test ((none (m := m)).found op operand) attr = op.test operand attr := by
  cases op <;> cases operand <;> rfl

theorem test_found_of_consumes {op : Operator} {operand : Operand} (h : op.Consumes operand)
    (attr : Option Json) : op.test (f.found op operand) attr = op.test operand attr := by
  have hfound : f.found op operand = operand := by
    cases op <;> first | rfl | (obtain ⟨_, rfl⟩ := h; rfl)
  rw [hfound]

end Fallback

namespace Condition

variable [Monad m]

/-- The evaluation of a condition with another fallback. -/
def evalOr (f : Fallback m) (calls : Callbacks m) (s : Subject m) : Condition → Eval m Bool
  | ⟨key, path, op, operand, _⟩ => do
    let attr ← s.attr key path
    if op.admits (.ofAttribute attr) then
      match op, operand with
      | .callback, .callback c => calls.call c s attr
      | .elementMatch, .query q => f.anyElement (fun item => q.eval calls (.ofElement item)) attr
      | .callback, _ | .elementMatch, _ => f.answer
      | op, operand => pure (op.test (f.found op operand) attr)
    else pure false

theorem evalOr_none (calls : Callbacks m) (s : Subject m) (c : Condition) :
    c.evalOr .none calls s = c.eval calls s := by
  obtain ⟨key, path, op, operand, boost⟩ := c
  rw [evalOr, eval]
  refine bind_congr fun attr => ?_
  congr 1
  cases op with
  | callback => cases operand <;> rfl
  | elementMatch =>
    cases operand with
    | query q => cases attr with
      | none => rfl
      | some a => cases a <;> rfl
    | _ => rfl
  | _ => exact congrArg pure (Fallback.test_found_none _ operand attr)

/-- The fallback makes no difference to the condition. -/
def NeverFallsBack (c : Condition) : Prop :=
  ∀ {m : Type → Type} [Monad m] (f : Fallback m) (calls : Callbacks m) (s : Subject m),
    c.evalOr f calls s = c.eval calls s

theorem IsRegular.neverFallsBack {c : Condition} (h : c.IsRegular) : c.NeverFallsBack := by
  intro m _ f calls s
  obtain ⟨key, path, op, operand, boost⟩ := c
  have hoperand : op.Consumes operand := h.operand
  rw [evalOr, eval]
  refine bind_congr fun attr => ?_
  cases hadmits : op.admits (.ofAttribute attr) with
  | false => rfl
  | true =>
    rw [if_pos rfl, if_pos rfl]
    cases op with
    | callback =>
      obtain ⟨c, rfl⟩ := hoperand
      rfl
    | elementMatch =>
      obtain ⟨q, rfl⟩ := hoperand
      -- the guard lets nothing but a list through
      cases attr with
      | none => cases hadmits
      | some a => cases a with
        | array size item => rfl
        | _ => cases hadmits
    | _ => exact congrArg pure (f.test_found_of_consumes hoperand attr)

end Condition

/-! ## What the compiler makes -/

theorem Binary64.isWeight_one : Binary64.one.IsWeight := by
  refine ⟨by decide, ?_⟩
  rw [Binary64.units, if_neg (by decide)]
  exact Int.natCast_nonneg _

theorem Document.isWeight_of_boost? {d : Document} {boost : Binary64}
    (h : d.boost? = .ok (some boost)) : boost.IsWeight := by
  unfold boost? at h
  split at h
  · cases h
  · simp only at h
    split at h
    · rename_i hvalid
      obtain rfl := Option.some.inj (Except.ok.inj h)
      rw [Bool.and_eq_true] at hvalid
      exact ⟨hvalid.1, (Binary64.compare_zero_isGE hvalid.1).1 hvalid.2⟩
    · cases h
  · cases h

theorem Document.boost?_of_isWeight {d : Document} {boost : Binary64}
    (hget : d.get? boostKey = some (.number (.real boost))) (h : boost.IsWeight) :
    d.boost? = .ok (some boost) := by
  have hvalid : (boost.isFinite && (boost.compare .zero).any (·.isGE)) = true :=
    Bool.and_eq_true_iff.2 ⟨h.1, (Binary64.compare_zero_isGE h.1).2 h.2⟩
  rw [boost?, hget]
  exact if_pos hvalid

theorem Operator.consumes_of_ofValue? {op : Operator} {v : Value} {options : Option Value}
    {operand : Operand} (hcomputed : op ≠ .computed) (helement : op ≠ .elementMatch)
    (haccepts : op.accepts v = true) (h : Operand.ofValue? op v options = .ok operand) :
    op.Consumes operand := by
  cases op with
  | isIn | notIn | containsAll | containsAny | containsNone =>
    cases v with
    | array size item =>
      obtain rfl := Except.ok.inj h
      exact ⟨_, rfl⟩
    | _ => cases haccepts
  | between | betweenEqual | modulo =>
    cases v with
    | array size item =>
      obtain rfl : size = 2 := of_decide_eq_true haccepts
      obtain rfl := Except.ok.inj h
      exact ⟨_, _, rfl⟩
    | _ => cases haccepts
  | size =>
    cases v with
    | number n =>
      obtain rfl := Except.ok.inj h
      exact ⟨n, rfl⟩
    | _ => cases haccepts
  | startsWith | endsWith | like | likeCaseless =>
    cases v with
    | string s =>
      obtain rfl := Except.ok.inj h
      exact ⟨_, rfl⟩
    | _ => cases haccepts
  | regex | regexp =>
    obtain ⟨p, -, h⟩ := bind_eq_ok_iff.1 h
    obtain rfl := Except.ok.inj h
    exact ⟨p, rfl⟩
  | callback =>
    cases v with
    | function c =>
      obtain rfl := Except.ok.inj h
      exact ⟨c, rfl⟩
    | _ => cases haccepts
  | elementMatch => exact absurd rfl helement
  | computed => exact absurd rfl hcomputed
  | _ =>
    obtain rfl := Except.ok.inj h
    exact ⟨v, rfl, of_decide_eq_true haccepts⟩

namespace Condition

variable {key : String} {op : Operator} {operand : Operand} {v : Value}

theorem isRegular_ofKey (hcomputed : op ≠ .computed) (hoperand : op.Consumes operand)
    (hequal : op = .equal → ∀ v, operand = .value v → v.isStructured = false) :
    (Condition.ofKey key op operand).IsRegular where
  operator := hcomputed
  operand := hoperand
  equal := hequal
  boost := Binary64.isWeight_one
  dotted hdotted := by
    have hdotted : isDotted key = true := hdotted
    show (Path.ofKey? key).isSome = true
    rw [Path.ofKey?, if_pos hdotted]
    rfl
  path p hp := by
    have hp : Path.ofKey? key = some p := hp
    rw [Path.ofKey?] at hp
    split at hp
    · obtain rfl := Option.some.inj hp
      exact Path.segments_ofText key
    · cases hp

/-- The operand that a value gives, which scalar equality takes from a scalar alone. -/
theorem isRegular_ofValue (hcomputed : op ≠ .computed) (hoperand : op.Consumes operand)
    (hvalue : op = .equal → operand = .value v) :
    (Condition.ofKey key (if op = .equal && v.isStructured then .deepEqual else op)
      operand).IsRegular := by
  cases hstructured : op = .equal && v.isStructured with
  | true =>
    obtain ⟨hequal, -⟩ := Bool.and_eq_true_iff.1 hstructured
    obtain rfl : op = .equal := of_decide_eq_true hequal
    rw [if_pos rfl]
    exact isRegular_ofKey (by decide) hoperand nofun
  | false =>
    rw [if_neg Bool.false_ne_true]
    refine isRegular_ofKey hcomputed hoperand fun hequal v' hv' => ?_
    obtain rfl : v = v' := by
      rw [hvalue hequal] at hv'
      injection hv'
    rw [decide_eq_true hequal, Bool.true_and] at hstructured
    exact hstructured

theorem isRegular_of_ofLiteral? {c : Condition} (h : Condition.ofLiteral? key v = .ok c) :
    c.IsRegular := by
  have hvalue : v.kind ≠ .function → (Condition.ofKey key
      (if v.isStructured then .deepEqual else .equal) (.value v)).IsRegular := by
    intro hkind
    have := @isRegular_ofValue key .equal (.value v) v (by decide) ⟨v, rfl, hkind⟩ fun _ => rfl
    rwa [decide_eq_true rfl, Bool.true_and] at this
  cases v with
  | pattern p =>
    obtain rfl := Except.ok.inj h
    exact isRegular_ofKey (by decide) ⟨p, rfl⟩ nofun
  | date t =>
    obtain rfl := Except.ok.inj h
    exact isRegular_ofKey (by decide) ⟨.date t, rfl, nofun⟩ nofun
  | function c => cases h
  | _ =>
    obtain rfl := Except.ok.inj h
    exact hvalue nofun

theorem isRegular_of_ofOperator? {options : Option Value} {c : Condition}
    (hcomputed : op ≠ .computed) (helement : op ≠ .elementMatch) (haccepts : op.accepts v = true)
    (h : Condition.ofOperator? key op v options = .ok c) : c.IsRegular := by
  obtain ⟨operand, hoperand, h⟩ := bind_eq_ok_iff.1 h
  obtain rfl := Except.ok.inj h
  refine isRegular_ofValue hcomputed
    (Operator.consumes_of_ofValue? hcomputed helement haccepts hoperand) ?_
  rintro rfl
  exact (Except.ok.inj hoperand).symm

theorem IsRegular.readDirectly {c : Condition} (h : c.IsRegular) :
    IsRegular { c with path := some (.ofText c.key) } where
  operator := h.operator
  operand := h.operand
  equal := h.equal
  boost := h.boost
  dotted _ := rfl
  path p hp := by
    obtain rfl := Option.some.inj hp
    exact Path.segments_ofText c.key

theorem IsRegular.withBoost {c : Condition} (h : c.IsRegular) {boost : Binary64}
    (hboost : boost.IsWeight) : IsRegular { c with boost := boost } :=
  { h with boost := hboost }

end Condition

/-! ## Compiled queries -/

namespace Condition

/-- The condition is regular and has no use for a fallback. -/
def IsSound (c : Condition) : Prop :=
  c.IsRegular ∧ c.NeverFallsBack

variable {key : String} {op : Operator} {v : Value} {c : Condition}

/-- Only `$elemMatch` has a query in its operand. -/
theorem IsRegular.everywhere (h : c.IsRegular) (helement : c.op ≠ .elementMatch) :
    c.Everywhere IsSound Group.IsRegular Query.IsRegular := by
  refine (everywhere_iff c).2 ⟨⟨h, h.neverFallsBack⟩, fun q hq => ?_⟩
  have hoperand : c.op.Consumes (.query q) := hq ▸ h.operand
  exact absurd (Operator.eq_of_consumes_query hoperand) helement

theorem op_ne_of_ofLiteral? (h : Condition.ofLiteral? key v = .ok c) : c.op ≠ .elementMatch := by
  have hvalue : (if v.isStructured then Operator.deepEqual else .equal) ≠ .elementMatch := by
    split <;> decide
  cases v with
  | pattern p | date t =>
    obtain rfl := Except.ok.inj h
    exact nofun
  | function c => cases h
  | _ =>
    obtain rfl := Except.ok.inj h
    exact hvalue

theorem op_ne_of_ofOperator? {options : Option Value} (helement : op ≠ .elementMatch)
    (h : Condition.ofOperator? key op v options = .ok c) : c.op ≠ .elementMatch := by
  have hvalue : (if op = .equal && v.isStructured then .deepEqual else op) ≠ .elementMatch := by
    split
    · decide
    · exact helement
  obtain ⟨operand, -, h⟩ := bind_eq_ok_iff.1 h
  obtain rfl := Except.ok.inj h
  exact hvalue

end Condition

theorem Group.everywhere_ofNodes (kind : Combinator) {tests : List Node}
    (h : ∀ test ∈ tests, test.Everywhere Condition.IsSound Group.IsRegular Query.IsRegular) :
    (Group.ofNodes kind (Node.arrange tests)).Everywhere Condition.IsSound Group.IsRegular
      Query.IsRegular := by
  refine (Group.everywhere_iff _).2
    ⟨⟨pairwise_arrangeBy _ _ _, Binary64.isWeight_one⟩, fun node hnode => ?_⟩
  exact h node (Node.mem_arrange.1 hnode)

theorem keptByCompiler_isRegular :
    KeptByCompiler
      (fun key node => node.ReadsBy key ∧
        node.Everywhere Condition.IsSound Group.IsRegular Query.IsRegular)
      fun q => q.Everywhere Condition.IsSound Group.IsRegular Query.IsRegular where
  literal h := ⟨readsBy_of_ofLiteral? h,
    (Condition.isRegular_of_ofLiteral? h).everywhere (Condition.op_ne_of_ofLiteral? h)⟩
  operator hcomputed helement haccepts h := ⟨readsBy_of_ofOperator? h,
    (Condition.isRegular_of_ofOperator? hcomputed helement haccepts h).everywhere
      (Condition.op_ne_of_ofOperator? helement h)⟩
  elements {key q} hq := by
    have hregular : (Condition.ofKey key .elementMatch (.query q)).IsRegular :=
      Condition.isRegular_ofKey (by decide) ⟨q, rfl⟩ nofun
    refine ⟨Node.readsBy_ofKey _ _, (Condition.everywhere_iff _).2
      ⟨⟨hregular, hregular.neverFallsBack⟩, fun q' hq' => ?_⟩⟩
    obtain rfl : q = q' := by injection hq'
    exact hq
  readDirectly {key node} h := by
    obtain ⟨hreads, h⟩ := h
    refine ⟨hreads.readDirectly, ?_⟩
    cases node with
    | condition c =>
      obtain rfl := hreads.1
      obtain ⟨hsound, hqueries⟩ := (Condition.everywhere_iff c).1 h
      have hregular := hsound.1.readDirectly
      exact (Condition.everywhere_iff _).2 ⟨⟨hregular, hregular.neverFallsBack⟩, hqueries⟩
    | group g => exact h
  withBoost {key node d boost} hboost h := by
    obtain ⟨hreads, h⟩ := h
    have hweight := Document.isWeight_of_boost? hboost
    refine ⟨hreads.withBoost boost, ?_⟩
    cases node with
    | condition c =>
      obtain ⟨hsound, hqueries⟩ := (Condition.everywhere_iff c).1 h
      have hregular := hsound.1.withBoost hweight
      exact (Condition.everywhere_iff _).2 ⟨⟨hregular, hregular.neverFallsBack⟩, hqueries⟩
    | group g =>
      obtain ⟨hregular, hnodes⟩ := (Group.everywhere_iff g).1 h
      exact (Group.everywhere_iff _).2 ⟨⟨hregular.ascending, hweight⟩, hnodes⟩
  tests {key kind tests} htests := by
    refine ⟨trivial, Group.everywhere_ofNodes kind fun test htest => ?_⟩
    obtain ⟨_, htest⟩ := htests test htest
    exact htest.2
  query {kinds groups} hkinds hgroups := by
    have hkind : groups.map (fun group => group.kind) = kinds := by
      rw [← List.forall₂_eq_eq_eq, List.forall₂_map_left_iff]
      refine hgroups.flip.imp ?_
      rintro group kind ⟨tests, rfl, -⟩
      rfl
    have hregular : Query.IsRegular ⟨groups⟩ := by
      show (groups.map _).Sublist _
      rw [hkind]
      exact hkinds
    refine (Query.everywhere_iff _).2 ⟨hregular, ?_⟩
    refine (forall_mem_iff_of_forall₂ (p := fun _ => True) hgroups fun kind group _ hgroup => ?_).2
      fun _ _ => trivial
    obtain ⟨tests, rfl, htests⟩ := hgroup
    refine iff_of_true (Group.everywhere_ofNodes kind fun test htest => ?_) trivial
    obtain ⟨_, htest⟩ := htests test htest
    exact htest.2

/-- A compiled query is regular at every depth and nothing in it has use for a fallback. -/
theorem Query.everywhere_of_compile {d : Document} {q : Query}
    (h : (Query.compile (m := Id) d).run = .ok q) :
    q.Everywhere (fun c => c.IsRegular ∧ c.NeverFallsBack) Group.IsRegular Query.IsRegular :=
  (keptByCompiler_isRegular.kept (.ofDocument d)).query q (Query.compile_eq_ok_iff.1 h)

/-- A dotted key without `$boost`, under `$elemMatch`. -/
theorem Query.everywhere_of_compile_elements :
    let clause : Document :=
      .ofList [("$gt", .number (.signed 1)), (boostKey, .number (.real .zero))]
    let d : Document :=
      .singleton "parts" (.ofDocument (.singleton "$elemMatch"
        (.ofDocument (.singleton "size.x" (.ofDocument clause)))))
    let test : Condition := .ofKey "size.x" .greater (.value (.number (.signed 1)))
    let q : Query :=
      ⟨[.ofNodes .and [.condition (.ofKey "parts" .elementMatch (.query
        ⟨[.ofNodes .and [.condition { test with boost := .zero }]]⟩))]]⟩
    (Query.compile (m := Id) d).run = .ok q ∧
      q.Everywhere (fun c => c.IsRegular ∧ c.NeverFallsBack) Group.IsRegular Query.IsRegular := by
  have hregular : ∀ {d : Document} {q : Query}, (Query.compile (m := Id) d).run = .ok q →
      (Query.compile (m := Id) d).run = .ok q ∧
        q.Everywhere (fun c => c.IsRegular ∧ c.NeverFallsBack) Group.IsRegular Query.IsRegular :=
    fun h => ⟨h, Query.everywhere_of_compile h⟩
  exact hregular (Query.compile_eq_ok_iff.2 rfl)

end RecordQuery
