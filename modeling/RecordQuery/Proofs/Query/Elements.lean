import RecordQuery.Proofs.Path
import RecordQuery.Proofs.Query.Bounds

/-!
# Elements of lists

A list under an attribute can be asked in two ways for an element with a given scalar. A path leads
through the list and is spread over its elements; `$elemMatch` asks them one by one
(`Document.answers_elementMatch`). The two agree where no further list is met
(`Document.answers_through_list`). In a further list `$elemMatch` finds the scalar, while the path
compares it with the list as a whole.
-/

namespace RecordQuery

/-! ## Scalars -/

/-- The value is a truth value, a number or a text. -/
def Value.IsScalar : Value → Prop
  | .bool _ | .number _ | .string _ => True
  | _ => False

section Scalar

variable {v : Value} (hv : v.IsScalar)
include hv

theorem Value.isOrdered_of_isScalar : v.IsOrdered := by
  cases v with
  | bool _ | number _ | string _ => trivial
  | _ => cases hv

theorem Json.strictEq_null : Json.null.strictEq v = false := by
  cases v with
  | bool _ | number _ | string _ => rfl
  | _ => cases hv

theorem Json.strictEq_array (size : Nat) (item : Fin size → Json) :
    (Json.array size item).strictEq v = false := by
  cases v with
  | bool _ | number _ | string _ => rfl
  | _ => cases hv

/-- Only a NaN is not compared as a scalar, and nothing equals it. -/
theorem Json.strictEq_of_isStructured (h : v.isStructured = true) (a : Json) :
    a.strictEq v = false := by
  rw [strictEq_eq_order? (Value.isOrdered_of_isScalar hv), beq_eq_false_iff_ne]
  cases v with
  | number n =>
    cases a with
    | number m =>
      show m.toNumber.compare n ≠ some .eq
      rw [Number.compare_of_isNaN (.inr h)]
      nofun
    | _ => nofun
  | bool _ | string _ => cases h
  | _ => cases hv

section Matches

variable (key : String)

/-- A list is compared with a scalar element by element. -/
theorem Condition.matches_scalar_list (size : Nat) (item : Fin size → Json) :
    (Condition.ofKey key (if v.isStructured then .deepEqual else .equal) (.value v)).matches
      (some (.array size item)) = (List.ofFn item).any (·.strictEq v) := by
  cases hstructured : v.isStructured with
  | false => rfl
  | true =>
    -- a NaN is looked for in no list, and would not be found
    have hnone : ∀ a ∈ List.ofFn item, ¬a.strictEq v = true := by
      intro a _
      rw [Json.strictEq_of_isStructured hv hstructured]
      exact Bool.false_ne_true
    rw [List.any_eq_false.2 hnone, ← Json.strictEq_array hv size item]
    cases v with
    | bool _ | number _ | string _ => rfl
    | _ => cases hv

/-- An attribute equals the scalar or has it among its elements. -/
theorem Condition.matches_scalar (attr : Option Json) :
    (Condition.ofKey key (if v.isStructured then .deepEqual else .equal) (.value v)).matches attr =
      (attr.any (·.strictEq v) || (elements attr).any (·.strictEq v)) := by
  have hordered : v.IsOrdered := Value.isOrdered_of_isScalar hv
  cases attr with
  | none =>
    have hkind : Kind.ofAttribute none ≠ .array := by decide
    rw [matches_equal hordered hkind]
    rfl
  | some a =>
    cases a with
    | array size item =>
      rw [matches_scalar_list hv, Option.any_some, Json.strictEq_array hv, Bool.false_or]
      rfl
    | _ =>
      rw [matches_equal hordered (by intro hkind; cases hkind), Option.any_some,
        Json.strictEq_eq_order? hordered]
      exact (Bool.or_false _).symm

end Matches

end Scalar

namespace Document

variable {key : String} (hkey : Combinator.ofName? key = none) (calls : Callbacks Id)
include hkey

/-- A scalar under a key is looked for in the attribute and among its elements. -/
theorem answers_scalar {v : Value} (hv : v.IsScalar) {s : Subject Id} {attr : Option Json}
    (hattr : (s.attr key (Path.ofKey? key)).run = .ok attr) :
    Document.Answers (.singleton key v) calls s
      (attr.any (·.strictEq v) || (elements attr).any (·.strictEq v)) := by
  have hcompile : compilePair key v =
      .ok (.condition (.ofKey key (if v.isStructured then .deepEqual else .equal) (.value v))) := by
    cases v with
    | bool _ | number _ | string _ => exact (compilePair_scalar rfl rfl).2 ⟨hkey, _, rfl, rfl⟩
    | _ => cases hv
  rw [← Condition.matches_scalar hv key]
  exact answers_of_condition hkey hcompile trivial hattr

/-! ## `$elemMatch` -/

/-- `$elemMatch` asks each element of a list as a record of its own. -/
theorem answers_elementMatch {d : Document} {s : Subject Id} {attr : Option Json} {q : Query}
    (hcompile : (Query.compile (m := Id) d).run = .ok q)
    (hattr : (s.attr key (Path.ofKey? key)).run = .ok attr) {passes : Json → Bool}
    (hpasses : ∀ item ∈ elements attr, d.Answers calls (.ofElement item) (passes item)) :
    (testing key .elementMatch (.ofDocument d)).Answers calls s ((elements attr).any passes) := by
  have hverb : compileVerb key Operator.elementMatch.name none (.ofDocument d) =
      .ok (.condition (.ofKey key .elementMatch (.query q))) := by
    refine compileVerb_operator.2 ⟨rfl, ?_⟩
    rw [compileTest, Query.compile_eq_ok_iff.1 hcompile]
    rfl
  have htest : compilePair key (.ofDocument (.asking .elementMatch (.ofDocument d))) =
      .ok (.condition (.ofKey key .elementMatch (.query q))) :=
    (compilePair_of_names (List.cons_ne_nil _ _) (List.forall_mem_singleton.2 ⟨_, rfl⟩) hkey).2
      ⟨_, .cons hverb .nil, rfl⟩
  have hitems : ∀ item ∈ elements attr,
      (q.eval calls (.ofElement item)).run = .ok (passes item) := by
    intro item hitem
    obtain ⟨q', hq', hanswer⟩ := hpasses item hitem
    obtain rfl : q = q' := Except.ok.inj (hcompile.symm.trans hq')
    exact hanswer
  obtain ⟨b, hb⟩ := exists_anyM_eq_ok fun item hitem => ⟨_, hitems item hitem⟩
  have hany : (elements attr).any passes = b := by
    refine any_eq_of_anyM (fun item hitem b' hb' => ?_) hb
    exact Except.ok.inj ((hitems item hitem).symm.trans hb')
  rw [hany]
  refine (gives_attribute_iff hkey).2 ⟨_, htest, ?_⟩
  rw [Node.eval, Condition.ofKey, Condition.eval_elementMatch]
  exact run_bind_eq_ok_iff.2 ⟨attr, hattr, hb⟩

end Document

/-! ## Paths through a list -/

@[simp]
theorem isDotted_joined (a b : String) : isDotted (a ++ "." ++ b) = true := by
  simp [isDotted]

theorem Combinator.ofName?_of_isDotted {key : String} (h : isDotted key = true) :
    ofName? key = none := by
  cases hname : ofName? key with
  | none => rfl
  | some kind =>
    rw [← ofName?_eq_some_iff.1 hname] at h
    cases kind <;> revert h <;> decide

theorem Path.ofText_of_not_isDotted {key : String} (h : isDotted key = false) :
    ofText key = ⟨key, []⟩ := by
  have hsplit : key.toList.splitOn '.' = [key.toList] := by
    apply List.splitOn_eq_singleton
    rw [← List.contains_iff_mem]
    exact Bool.eq_false_iff.1 h
  simp only [ofText, hsplit, List.head_cons, List.tail_cons, List.map_nil, String.ofList_toList]

section Property

variable {ρ : Type} [Queryable Id ρ] (r : ρ) {a b : String} (ha : isDotted a = false)
include ha

/-- A key that is no path is read as it stands. -/
theorem Subject.run_attr_key : ((Subject.of (m := Id) .property r).attr a (Path.ofKey? a)).run =
    .ok ((Queryable.record (m := Id) r).attr a) := by
  rw [Path.ofKey?, ha]
  rfl

/-- A path of two segments leads to the attribute of an attribute. -/
theorem Subject.run_attr_joined (hb : isDotted b = false) :
    ((Subject.of (m := Id) .property r).attr (a ++ "." ++ b) (Path.ofKey? (a ++ "." ++ b))).run =
      .ok (((Queryable.record (m := Id) r).attr a).bind (·.attr b)) := by
  have hone : ∀ {key : String}, isDotted key = false → ∀ attr : String → Option Json,
      (Path.ofText key).resolve attr = attr key := by
    intro key hkey attr
    simp [Path.ofText_of_not_isDotted hkey, Path.resolve]
  rw [Path.ofKey?, if_pos (isDotted_joined a b)]
  show Except.ok ((Path.ofText (a ++ "." ++ b)).resolve _) = _
  rw [Path.resolve_ofText_append, hone ha]
  simp only [hone hb]
  rfl

end Property

/-! ## Paths and `$elemMatch` -/

theorem elements_eq_nil {attr : Option Json} (h : ∀ a, attr = some a → a.items? = none) :
    elements attr = [] := by
  cases attr with
  | none => rfl
  | some a =>
    have hitems := h a rfl
    cases a with
    | array _ _ => cases hitems
    | _ => rfl

namespace Document

/-- The path through a list and `$elemMatch` on it look for a scalar in the same places.
Elements that have nothing under the key, or are no objects, give `null` to the one and nothing to
the other. An element that is a list has a list under the key, so there is none. -/
theorem answers_through_list {ρ : Type} [Queryable Id ρ] {a b : String} (ha : isDotted a = false)
    (hb : isDotted b = false) (hakey : Combinator.ofName? a = none)
    (hbkey : Combinator.ofName? b = none) {v : Value} (hv : v.IsScalar) (calls : Callbacks Id)
    (r : ρ) {size : Nat} {item : Fin size → Json}
    (hlist : (Queryable.record (m := Id) r).attr a = some (.array size item))
    (hitems : ∀ i x, (item i).attr b = some x → x.items? = none) :
    ∃ answer : Bool,
      Document.Answers (.singleton (a ++ "." ++ b) v) calls (.of .property r) answer ∧
      (testing a .elementMatch (.ofDocument (.singleton b v))).Answers calls
        (.of .property r) answer ∧
      (answer = true ↔ ∃ i x, (item i).attr b = some x ∧ x.strictEq v = true) := by
  let under (x : Json) : Bool := (x.attr b).any (·.strictEq v)
  -- what is missing is filled up with `null`, which equals no scalar
  have hspread : (List.ofFn fun i => ((item i).attr b).getD .null).any (·.strictEq v) =
      (List.ofFn item).any under := by
    have hmap : (List.ofFn fun i => ((item i).attr b).getD .null) =
        (List.ofFn item).map fun x => (x.attr b).getD .null := by
      rw [List.map_ofFn]
      rfl
    rw [hmap, List.any_map]
    congr 1
    funext x
    show ((x.attr b).getD .null).strictEq v = (x.attr b).any _
    cases x.attr b with
    | none => exact Json.strictEq_null hv
    | some y => rfl
  have helement : ∀ x ∈ elements (some (.array size item)),
      Document.Answers (.singleton b v) calls (.ofElement x) (under x) := by
    intro x hx
    obtain ⟨i, rfl⟩ := List.mem_ofFn.1 hx
    have hscalar := answers_scalar hbkey calls hv (Subject.run_attr_key (item i) hb)
    rwa [show elements ((Queryable.record (m := Id) (item i)).attr b) = [] from
      elements_eq_nil (hitems i), List.any_nil, Bool.or_false] at hscalar
  obtain ⟨q, hcompile, -⟩ := answers_scalar hbkey calls hv (Subject.run_attr_key Json.null hb)
  refine ⟨(List.ofFn item).any under, ?_, ?_, ?_⟩
  · have hattr := Subject.run_attr_joined r ha hb
    rw [hlist, Option.bind_some, Json.attr] at hattr
    have hscalar := answers_scalar (Combinator.ofName?_of_isDotted (isDotted_joined a b)) calls hv
      hattr
    rw [Option.any_some, Json.strictEq_array hv, Bool.false_or] at hscalar
    rwa [← hspread]
  · have hattr := Subject.run_attr_key r ha
    rw [hlist] at hattr
    exact answers_elementMatch hakey calls hcompile hattr helement
  · simp only [under, List.any_eq_true, List.mem_ofFn, Option.any_eq_true]
    constructor
    · rintro ⟨_, ⟨i, rfl⟩, x, hx, heq⟩
      exact ⟨i, x, hx, heq⟩
    · rintro ⟨i, x, hx, heq⟩
      exact ⟨_, ⟨i, rfl⟩, x, hx, heq⟩

/-- Of the elements one is no object, one lacks the key, one has `null` under it, one an object and
the last the text. -/
theorem answers_through_list_mixed :
    let calls : Callbacks Id := fun _ _ _ => .error "none"
    let text : Json := .string "x"
    let items : List Json := [text, .ofFields .empty, .ofFields (.singleton "b" .null),
      .ofFields (.singleton "b" (.ofFields .empty)), .ofFields (.singleton "b" text)]
    let s : Subject Id := .of .property (Json.ofFields (.singleton "a" (.ofList items)))
    Document.Answers (.singleton ("a" ++ "." ++ "b") (.string "x")) calls s true ∧
      (testing "a" .elementMatch (.ofDocument (.singleton "b" (.string "x")))).Answers calls s
        true := by
  intro calls text items s
  have hitems : ∀ (i : Fin items.length) x, (items.get i).attr "b" = some x → x.items? = none := by
    have hall : ∀ item ∈ items, ∀ x, item.attr "b" = some x → x.items? = none := by
      simp only [items, List.forall_mem_cons]
      refine ⟨nofun, nofun, ?_, ?_, ?_, nofun⟩
      all_goals
        rintro x ⟨⟩
        rfl
    exact fun i => hall _ (List.get_mem items i)
  obtain ⟨answer, hpath, helements, hiff⟩ := answers_through_list (a := "a") (b := "b")
    (v := .string "x") rfl rfl rfl rfl trivial calls
    (Json.ofFields (.singleton "a" (.ofList items))) rfl hitems
  obtain rfl : answer = true := hiff.2 ⟨4, text, rfl, rfl⟩
  exact ⟨hpath, helements⟩

end Document

end RecordQuery
