import RecordQuery.Proofs.Traversal
import RecordQuery.Query.Evaluate

/-!
# Verdicts

`Query.verdict` is what a query says of a record when every node is asked, in whatever order, and a
call that fails counts as a test that is not passed. An evaluation that gives an answer gives the
verdict (`Query.verdict_eq_of_eval`), however much of the query it has passed over. It gives one if
`Query.NeverFails`, which looks at each condition by itself (`Query.exists_eval_of_neverFails`).
-/

namespace RecordQuery

/-- What `test` says of a result; nothing is said of a failure. -/
def Eval.holds {α : Type} (x : Eval Id α) (test : α → Bool) : Bool :=
  match x.run with
  | .error _ => false
  | .ok a => test a

/-- The elements of an attribute that is a list. -/
def elements : Option Json → List Json
  | some (.array _ item) => List.ofFn item
  | _ => []

/-- What a combinator asks of the items among some: that all of them, one or none hold. -/
def Combinator.Joins {α : Type} (kind : Combinator) (among holds : α → Prop) : Prop :=
  match kind with
  | .and => ∀ a, among a → holds a
  | .or => ∃ a, among a ∧ holds a
  | .not | .nor => ∀ a, among a → ¬holds a

variable (calls : Callbacks Id)

/-! ## Every node asked -/

mutual

def Condition.verdict (s : Subject Id) : Condition → Bool
  | ⟨key, path, op, operand, _⟩ =>
    -- an attribute that cannot be read and a `$cb` that fails both count as not passed
    (s.attr key path).holds fun attr =>
      op.admits (.ofAttribute attr) &&
        match op, operand with
        | .callback, .callback c => (calls.call c s attr).holds id
        | .elementMatch, .query q => (elements attr).any fun item => q.verdict (.ofElement item)
        | op, operand => op.test operand attr

def Node.verdict (s : Subject Id) : Node → Bool
  | .condition c => c.verdict s
  | .group g => g.verdict s

def Group.verdict (s : Subject Id) : Group → Bool
  | ⟨kind, nodes, _⟩ => kind.passes (hasVerdict s kind.decisive nodes)

/-- Whether some node has the verdict `decisive`. -/
def hasVerdict (s : Subject Id) (decisive : Bool) : List Node → Bool
  | [] => false
  | node :: nodes => node.verdict s == decisive || hasVerdict s decisive nodes

def Query.verdict (s : Subject Id) : Query → Bool
  | ⟨groups⟩ => allVerdicts s groups

def allVerdicts (s : Subject Id) : List Group → Bool
  | [] => true
  | group :: groups => group.verdict s && allVerdicts s groups

end

/-! ## Every call answered -/

mutual

/-- No call that the condition makes fails, those for the elements of a list included. -/
def Condition.NeverFails (s : Subject Id) : Condition → Prop
  | ⟨key, path, op, operand, _⟩ =>
    ∃ attr, (s.attr key path).run = .ok attr ∧
      match op, operand with
      | .callback, .callback c => ∃ answer, (calls.call c s attr).run = .ok answer
      -- every element counts, also those after the one that settles the match
      | .elementMatch, .query q => ∀ item ∈ elements attr, q.NeverFails (.ofElement item)
      | _, _ => True

def Node.NeverFails (s : Subject Id) : Node → Prop
  | .condition c => c.NeverFails s
  | .group g => g.NeverFails s

def Group.NeverFails (s : Subject Id) : Group → Prop
  | ⟨_, nodes, _⟩ => nodesNeverFail s nodes

def nodesNeverFail (s : Subject Id) : List Node → Prop
  | [] => True
  | node :: nodes => node.NeverFails s ∧ nodesNeverFail s nodes

def Query.NeverFails (s : Subject Id) : Query → Prop
  | ⟨groups⟩ => groupsNeverFail s groups

def groupsNeverFail (s : Subject Id) : List Group → Prop
  | [] => True
  | group :: groups => group.NeverFails s ∧ groupsNeverFail s groups

end

variable {calls} {s : Subject Id}

/-! ## Lists of nodes and groups -/

theorem hasVerdict_eq_any (decisive : Bool) (nodes : List Node) :
    hasVerdict calls s decisive nodes = nodes.any fun node => node.verdict calls s == decisive := by
  induction nodes with
  | nil => rfl
  | cons node nodes ih => rw [hasVerdict, List.any_cons, ih]

theorem Query.verdict_eq_all (q : Query) :
    q.verdict calls s = q.groups.all fun group => group.verdict calls s := by
  obtain ⟨groups⟩ := q
  unfold Query.verdict
  induction groups with
  | nil => rfl
  | cons group groups ih => rw [allVerdicts, List.all_cons, ih]

theorem Group.neverFails_iff (g : Group) :
    g.NeverFails calls s ↔ ∀ node ∈ g.nodes, node.NeverFails calls s := by
  obtain ⟨kind, nodes, boost⟩ := g
  unfold Group.NeverFails
  induction nodes with
  | nil => simp [nodesNeverFail]
  | cons node nodes ih => rw [nodesNeverFail, List.forall_mem_cons, ih]

theorem Query.neverFails_iff (q : Query) :
    q.NeverFails calls s ↔ ∀ group ∈ q.groups, group.NeverFails calls s := by
  obtain ⟨groups⟩ := q
  unfold Query.NeverFails
  induction groups with
  | nil => simp [groupsNeverFail]
  | cons group groups ih => rw [groupsNeverFail, List.forall_mem_cons, ih]

theorem Group.verdict_iff (g : Group) :
    g.verdict calls s = true ↔
      g.kind.Joins (· ∈ g.nodes) fun node => node.verdict calls s = true := by
  obtain ⟨kind, nodes, boost⟩ := g
  rw [Group.verdict, hasVerdict_eq_any, Combinator.passes, beq_iff_eq]
  cases kind with
  | and =>
    show _ = false ↔ ∀ node ∈ nodes, _
    simp [Combinator.decisive]
  | or =>
    show _ = true ↔ ∃ node ∈ nodes, _
    simp [Combinator.decisive]
  | not | nor =>
    show _ = false ↔ ∀ node ∈ nodes, ¬_
    simp [Combinator.decisive]

/-! ## One condition -/

section Condition

variable {key : String} {path : Option Path} {op : Operator} {operand : Operand} {boost : Binary64}

/-- Whether an operator with this operand looks at nothing but the attribute. -/
def Operand.IsPlain (op : Operator) : Operand → Prop
  | .callback _ => op ≠ .callback
  | .query _ => op ≠ .elementMatch
  | _ => True

theorem anyElement_eq_anyM (ask : Json → Eval Id Bool) (attr : Option Json) :
    anyElement ask attr = (elements attr).anyM ask := by
  match attr with
  | some (.array _ _) => rfl
  | none | some .null | some (.bool _) | some (.number _) | some (.string _)
  | some (.object _ _ _) => rfl

/-- An attribute that the guard turns away has no elements to ask. -/
theorem elements_of_not_admits {attr : Option Json}
    (h : Operator.elementMatch.admits (.ofAttribute attr) = false) : elements attr = [] := by
  match attr with
  | some (.array _ _) => cases h
  | none | some .null | some (.bool _) | some (.number _) | some (.string _)
  | some (.object _ _ _) => rfl

theorem Condition.eval_plain (h : operand.IsPlain op) :
    (⟨key, path, op, operand, boost⟩ : Condition).eval calls s =
      (⟨key, path, op, operand, boost⟩ : Condition).matches <$> s.attr key path := by
  rw [Condition.eval, map_eq_pure_bind]
  congr 1
  funext attr
  unfold Condition.matches
  cases op.admits (.ofAttribute attr) with
  | false => rfl
  | true => cases operand <;> cases op <;> first | rfl | exact absurd rfl h

theorem Condition.eval_callback (c : Callback) :
    (⟨key, path, .callback, .callback c, boost⟩ : Condition).eval calls s =
      s.attr key path >>= calls.call c s := by
  rw [Condition.eval]
  rfl

theorem Condition.eval_elementMatch (q : Query) :
    (⟨key, path, .elementMatch, .query q, boost⟩ : Condition).eval calls s =
      s.attr key path >>= fun attr =>
        (elements attr).anyM fun item => q.eval calls (.ofElement item) := by
  unfold Condition.eval
  congr 1
  ext attr
  cases hadmits : Operator.elementMatch.admits (.ofAttribute attr) with
  | true =>
    rw [if_pos rfl]
    exact anyElement_eq_anyM _ attr
  | false =>
    rw [if_neg Bool.false_ne_true, elements_of_not_admits hadmits]
    rfl

theorem Condition.verdict_plain (h : operand.IsPlain op) :
    (⟨key, path, op, operand, boost⟩ : Condition).verdict calls s =
      (s.attr key path).holds (⟨key, path, op, operand, boost⟩ : Condition).matches := by
  unfold Condition.verdict
  cases operand <;> cases op <;> first | rfl | exact absurd rfl h

theorem Condition.verdict_callback (c : Callback) :
    (⟨key, path, .callback, .callback c, boost⟩ : Condition).verdict calls s =
      (s.attr key path).holds fun attr => (calls.call c s attr).holds id := by
  rw [Condition.verdict]
  rfl

theorem Condition.verdict_elementMatch (q : Query) :
    (⟨key, path, .elementMatch, .query q, boost⟩ : Condition).verdict calls s =
      (s.attr key path).holds fun attr =>
        (elements attr).any fun item => q.verdict calls (.ofElement item) := by
  unfold Condition.verdict
  congr 1
  funext attr
  cases hadmits : Operator.elementMatch.admits (.ofAttribute attr) with
  | true => rw [Bool.true_and]
  | false => rw [Bool.false_and, elements_of_not_admits hadmits, List.any_nil]

end Condition

/-! ## Answers are verdicts -/

theorem Eval.holds_of_run {α : Type} {x : Eval Id α} {a : α} (h : x.run = .ok a)
    (test : α → Bool) : x.holds test = test a := by
  rw [Eval.holds, h]

theorem Eval.holds_iff {α : Type} {x : Eval Id α} {test : α → Bool} :
    x.holds test = true ↔ ∃ a, x.run = .ok a ∧ test a = true := by
  unfold Eval.holds
  cases x.run with
  | error e =>
    constructor
    · intro h; cases h
    · rintro ⟨a, ha, -⟩; cases ha
  | ok a =>
    constructor
    · intro h; exact ⟨a, rfl, h⟩
    · rintro ⟨a, ha, h⟩; cases ha; exact h

theorem any_eq_of_anyM {α : Type} {ask : α → Eval Id Bool} {verdict : α → Bool} {xs : List α}
    (h : ∀ x ∈ xs, ∀ b, (ask x).run = .ok b → verdict x = b) {b : Bool}
    (hb : (xs.anyM ask).run = .ok b) : xs.any verdict = b := by
  induction xs with
  | nil => exact Except.ok.inj hb
  | cons x xs ih =>
    rw [List.anyM_cons, run_bind_eq_ok_iff] at hb
    obtain ⟨answer, hanswer, hb⟩ := hb
    rw [List.any_cons, h x (by simp) answer hanswer]
    cases answer with
    -- the items after one that passes are not asked, so nothing is known of them
    | true => exact Except.ok.inj hb
    | false => exact ih (fun y hy => h y (by simp [hy])) hb

mutual

theorem Condition.verdict_eq_of_eval : ∀ (c : Condition) (s : Subject Id) {b : Bool},
    (c.eval calls s).run = .ok b → c.verdict calls s = b
  | ⟨key, path, op, operand, boost⟩, s, b, h => by
    -- only `$cb` and `$elemMatch` go beyond the attribute
    by_cases hplain : operand.IsPlain op
    · rw [Condition.eval_plain hplain, run_map_eq_ok_iff] at h
      obtain ⟨attr, hattr, h⟩ := h
      rw [Condition.verdict_plain hplain, Eval.holds_of_run hattr, h]
    · cases operand with
      | callback c =>
        obtain rfl : op = .callback := not_not.1 hplain
        rw [Condition.eval_callback, run_bind_eq_ok_iff] at h
        obtain ⟨attr, hattr, h⟩ := h
        rw [Condition.verdict_callback, Eval.holds_of_run hattr, Eval.holds_of_run h, id]
      | query q =>
        obtain rfl : op = .elementMatch := not_not.1 hplain
        rw [Condition.eval_elementMatch, run_bind_eq_ok_iff] at h
        obtain ⟨attr, hattr, h⟩ := h
        rw [Condition.verdict_elementMatch, Eval.holds_of_run hattr]
        exact any_eq_of_anyM (fun item _ _ hb => Query.verdict_eq_of_eval q (.ofElement item) hb) h
      | _ => exact absurd trivial hplain

theorem Node.verdict_eq_of_eval : ∀ (node : Node) (s : Subject Id) {b : Bool},
    (node.eval calls s).run = .ok b → node.verdict calls s = b
  | .condition c, s, b, h => by
    rw [Node.verdict]
    exact Condition.verdict_eq_of_eval c s h
  | .group g, s, b, h => by
    rw [Node.verdict]
    exact Group.verdict_eq_of_eval g s h

theorem Group.verdict_eq_of_eval : ∀ (g : Group) (s : Subject Id) {b : Bool},
    (g.eval calls s).run = .ok b → g.verdict calls s = b
  | ⟨kind, nodes, _⟩, s, b, h => by
    rw [Group.eval, run_map_eq_ok_iff] at h
    obtain ⟨settled, hsettled, rfl⟩ := h
    rw [Group.verdict, hasVerdict_eq_of_settles nodes s kind.decisive hsettled]

theorem hasVerdict_eq_of_settles : ∀ (nodes : List Node) (s : Subject Id) (decisive : Bool)
    {b : Bool}, (settles calls s decisive nodes).run = .ok b → hasVerdict calls s decisive nodes = b
  | [], s, decisive, b, h => Except.ok.inj h
  | node :: nodes, s, decisive, b, h => by
    rw [settles, run_bind_eq_ok_iff] at h
    obtain ⟨answer, hanswer, h⟩ := h
    rw [hasVerdict, Node.verdict_eq_of_eval node s hanswer]
    by_cases hdecisive : answer = decisive
    · -- this node settles the group, whatever the nodes after it say
      rw [if_pos hdecisive] at h
      rw [beq_iff_eq.2 hdecisive, Bool.true_or]
      exact Except.ok.inj h
    · rw [if_neg hdecisive] at h
      rw [beq_false_of_ne hdecisive, Bool.false_or]
      exact hasVerdict_eq_of_settles nodes s decisive h

/-- An answer is the verdict, whatever the evaluation has passed over. -/
theorem Query.verdict_eq_of_eval : ∀ (q : Query) (s : Subject Id) {b : Bool},
    (q.eval calls s).run = .ok b → q.verdict calls s = b
  | ⟨groups⟩, s, b, h => by
    rw [Query.verdict]
    exact allVerdicts_eq_of_allPass groups s h

theorem allVerdicts_eq_of_allPass : ∀ (groups : List Group) (s : Subject Id) {b : Bool},
    (allPass calls s groups).run = .ok b → allVerdicts calls s groups = b
  | [], s, b, h => Except.ok.inj h
  | group :: groups, s, b, h => by
    rw [allPass, run_bind_eq_ok_iff] at h
    obtain ⟨answer, hanswer, h⟩ := h
    rw [allVerdicts, Group.verdict_eq_of_eval group s hanswer]
    cases answer with
    | true => exact allVerdicts_eq_of_allPass groups s h
    -- the groups after one that does not pass are not asked
    | false => exact Except.ok.inj h

end

/-! ## Answers when no call fails -/

theorem exists_anyM_eq_ok {α : Type} {ask : α → Eval Id Bool} {xs : List α}
    (h : ∀ x ∈ xs, ∃ b, (ask x).run = .ok b) : ∃ b, (xs.anyM ask).run = .ok b := by
  induction xs with
  | nil => exact ⟨false, rfl⟩
  | cons x xs ih =>
    rw [List.forall_mem_cons] at h
    obtain ⟨⟨answer, hanswer⟩, h⟩ := h
    simp only [List.anyM_cons, run_bind_eq_ok_iff]
    cases answer with
    | true => exact ⟨true, true, hanswer, rfl⟩
    | false =>
      obtain ⟨b, hb⟩ := ih h
      exact ⟨b, false, hanswer, hb⟩

mutual

theorem Condition.exists_eval_of_neverFails : ∀ (c : Condition) (s : Subject Id),
    c.NeverFails calls s → ∃ b, (c.eval calls s).run = .ok b
  | ⟨key, path, op, operand, boost⟩, s, h => by
    unfold Condition.NeverFails at h
    obtain ⟨attr, hattr, h⟩ := h
    by_cases hplain : operand.IsPlain op
    · rw [Condition.eval_plain hplain]
      exact ⟨_, run_map_eq_ok_iff.2 ⟨attr, hattr, rfl⟩⟩
    · cases operand with
      | callback c =>
        obtain rfl : op = .callback := not_not.1 hplain
        obtain ⟨answer, hanswer⟩ := h
        rw [Condition.eval_callback]
        exact ⟨answer, run_bind_eq_ok_iff.2 ⟨attr, hattr, hanswer⟩⟩
      | query q =>
        obtain rfl : op = .elementMatch := not_not.1 hplain
        obtain ⟨b, hb⟩ := exists_anyM_eq_ok fun item hitem =>
          Query.exists_eval_of_neverFails q (.ofElement item) (h item hitem)
        rw [Condition.eval_elementMatch]
        exact ⟨b, run_bind_eq_ok_iff.2 ⟨attr, hattr, hb⟩⟩
      | _ => exact absurd trivial hplain

theorem Node.exists_eval_of_neverFails : ∀ (node : Node) (s : Subject Id),
    node.NeverFails calls s → ∃ b, (node.eval calls s).run = .ok b
  | .condition c, s, h => Condition.exists_eval_of_neverFails c s h
  | .group g, s, h => Group.exists_eval_of_neverFails g s h

theorem Group.exists_eval_of_neverFails : ∀ (g : Group) (s : Subject Id),
    g.NeverFails calls s → ∃ b, (g.eval calls s).run = .ok b
  | ⟨kind, nodes, _⟩, s, h => by
    obtain ⟨settled, hsettled⟩ := exists_settles_of_neverFail nodes s kind.decisive h
    exact ⟨kind.passes settled, run_map_eq_ok_iff.2 ⟨settled, hsettled, rfl⟩⟩

theorem exists_settles_of_neverFail : ∀ (nodes : List Node) (s : Subject Id) (decisive : Bool),
    nodesNeverFail calls s nodes → ∃ b, (settles calls s decisive nodes).run = .ok b
  | [], s, decisive, _ => ⟨false, rfl⟩
  | node :: nodes, s, decisive, h => by
    obtain ⟨answer, hanswer⟩ := Node.exists_eval_of_neverFails node s h.1
    simp only [settles, run_bind_eq_ok_iff]
    by_cases hdecisive : answer = decisive
    · exact ⟨true, answer, hanswer, by rw [if_pos hdecisive]; rfl⟩
    · obtain ⟨b, hb⟩ := exists_settles_of_neverFail nodes s decisive h.2
      exact ⟨b, answer, hanswer, by rw [if_neg hdecisive]; exact hb⟩

/-- A query of which no call fails has an answer. -/
theorem Query.exists_eval_of_neverFails : ∀ (q : Query) (s : Subject Id),
    q.NeverFails calls s → ∃ b, (q.eval calls s).run = .ok b
  | ⟨groups⟩, s, h => exists_allPass_of_neverFail groups s h

theorem exists_allPass_of_neverFail : ∀ (groups : List Group) (s : Subject Id),
    groupsNeverFail calls s groups → ∃ b, (allPass calls s groups).run = .ok b
  | [], s, _ => ⟨true, rfl⟩
  | group :: groups, s, h => by
    obtain ⟨answer, hanswer⟩ := Group.exists_eval_of_neverFails group s h.1
    simp only [allPass, run_bind_eq_ok_iff]
    cases answer with
    | true =>
      obtain ⟨b, hb⟩ := exists_allPass_of_neverFail groups s h.2
      exact ⟨b, true, hanswer, hb⟩
    | false => exact ⟨false, false, hanswer, rfl⟩

end

/-- The nodes after one that settles the group are not asked. -/
theorem run_settles_append {passes : Node → Bool} (decisive : Bool) {before : List Node}
    (h : ∀ node ∈ before, (node.eval calls s).run = .ok (passes node)) (rest : List Node) :
    (settles calls s decisive (before ++ rest)).run =
      if before.any (passes · == decisive) then .ok true
      else (settles calls s decisive rest).run := by
  induction before with
  | nil => rfl
  | cons node before ih =>
    rw [List.forall_mem_cons] at h
    rw [List.cons_append, settles, ExceptT.run_bind, h.1, List.any_cons]
    by_cases hdecisive : passes node = decisive
    · rw [beq_iff_eq.2 hdecisive, Bool.true_or, if_pos rfl]
      exact congrArg ExceptT.run (if_pos hdecisive)
    · rw [beq_false_of_ne hdecisive, Bool.false_or, ← ih h.2]
      exact congrArg ExceptT.run (if_neg hdecisive)

/-- If no call fails, the verdict is the answer. -/
theorem Node.eval_of_neverFails {node : Node} (h : node.NeverFails calls s) :
    (node.eval calls s).run = .ok (node.verdict calls s) := by
  obtain ⟨b, hb⟩ := node.exists_eval_of_neverFails s h
  rw [node.verdict_eq_of_eval s hb, hb]

theorem Query.eval_of_neverFails {q : Query} (h : q.NeverFails calls s) :
    (q.eval calls s).run = .ok (q.verdict calls s) := by
  obtain ⟨b, hb⟩ := q.exists_eval_of_neverFails s h
  rw [q.verdict_eq_of_eval s hb, hb]

end RecordQuery
