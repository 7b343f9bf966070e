import RecordQuery.Proofs.Compile.Attribute

/-!
# Lists of values

`$in` and `$nin` ask an attribute about each value of a list as `$deepEqual` does about one, and
`$all`, `$any` and `$none` as `$contains` does (`Document.answers_list`). Which values there are in
the list is all that counts.
-/

namespace RecordQuery

section Conditions

variable {key : String} {vs vs' : List Value} {attr : Option Json}

/-! ## One value at a time -/

theorem Condition.matches_isIn :
    (Condition.ofKey key .isIn (.list vs)).matches attr =
      ((Condition.ofKey key .present (.value (.bool true))).matches attr &&
        vs.any fun v => (Condition.ofKey key .deepEqual (.value v)).matches attr) := by
  match attr with
  | none | some .null | some (.bool _) | some (.number _) | some (.string _) | some (.array _ _)
  | some (.object _ _ _) => rfl

theorem Condition.matches_notIn :
    (Condition.ofKey key .notIn (.list vs)).matches attr =
      ((Condition.ofKey key .present (.value (.bool true))).matches attr &&
        !(Condition.ofKey key .isIn (.list vs)).matches attr) := by
  match attr with
  | none | some .null | some (.bool _) | some (.number _) | some (.string _) | some (.array _ _)
  | some (.object _ _ _) => rfl

theorem Condition.matches_containsAll :
    (Condition.ofKey key .containsAll (.list vs)).matches attr =
      ((Condition.ofKey key .kind (.value (.string Kind.array.name))).matches attr &&
        vs.all fun v => (Condition.ofKey key .contains (.value v)).matches attr) := by
  match attr with
  | none | some .null | some (.bool _) | some (.number _) | some (.string _) | some (.array _ _)
  | some (.object _ _ _) => rfl

theorem Condition.matches_containsAny :
    (Condition.ofKey key .containsAny (.list vs)).matches attr =
      vs.any fun v => (Condition.ofKey key .contains (.value v)).matches attr := by
  match attr with
  | some (.array _ _) => rfl
  -- what is no list contains nothing
  | none | some .null | some (.bool _) | some (.number _) | some (.string _)
  | some (.object _ _ _) => exact (List.any_eq_false.2 fun _ _ => Bool.false_ne_true).symm

theorem Condition.matches_containsNone :
    (Condition.ofKey key .containsNone (.list vs)).matches attr =
      ((Condition.ofKey key .kind (.value (.string Kind.array.name))).matches attr &&
        !(Condition.ofKey key .containsAny (.list vs)).matches attr) := by
  match attr with
  | none | some .null | some (.bool _) | some (.number _) | some (.string _) | some (.array _ _)
  | some (.object _ _ _) => rfl

/-! ## Order and repetition -/

theorem any_congr_of_mem {α : Type} {xs ys : List α} (h : ∀ x, x ∈ xs ↔ x ∈ ys) (p : α → Bool) :
    xs.any p = ys.any p := by
  rw [Bool.eq_iff_iff, List.any_eq_true, List.any_eq_true]
  simp only [h]

theorem Condition.matches_list_congr {op : Operator} (hop : op.shape = .array)
    (h : ∀ v, v ∈ vs ↔ v ∈ vs') :
    (Condition.ofKey key op (.list vs)).matches attr =
      (Condition.ofKey key op (.list vs')).matches attr := by
  have hany := any_congr_of_mem h
  have hall : ∀ p : Value → Bool, vs.all p = vs'.all p := by
    intro p
    rw [List.all_eq_not_any_not, List.all_eq_not_any_not, hany]
  cases op with
  | isIn => rw [matches_isIn, matches_isIn, hany]
  | notIn => rw [matches_notIn, matches_notIn, matches_isIn, matches_isIn, hany]
  | containsAll => rw [matches_containsAll, matches_containsAll, hall]
  | containsAny => rw [matches_containsAny, matches_containsAny, hany]
  | containsNone =>
    rw [matches_containsNone, matches_containsNone, matches_containsAny, matches_containsAny, hany]
  | _ => cases hop

end Conditions

/-! ## What documents say -/

/-- `$in` and `$nin` come to `$deepEqual` of each value of the list, and `$all`, `$any` and `$none`
to `$contains`. Lists of the same values, in whatever order and however often repeated, are answered
alike. -/
theorem Document.answers_list {key : String} (hkey : Combinator.ofName? key = none)
    {vs : List Value} (hvs : ∀ v ∈ vs, v.kind ≠ .function) (calls : Callbacks Id) {s : Subject Id}
    {attr : Option Json} (hattr : (s.attr key (Path.ofKey? key)).run = .ok attr) :
    (∃ (present list isIn any : Bool) (equal contains : Value → Bool),
      (testing key .present (.bool true)).Answers calls s present ∧
      (testing key .kind (.string "array")).Answers calls s list ∧
      (∀ v ∈ vs, (testing key .deepEqual v).Answers calls s (equal v) ∧
        (testing key .contains v).Answers calls s (contains v)) ∧
      (testing key .isIn (.ofList vs)).Answers calls s isIn ∧
      isIn = (present && vs.any equal) ∧
      (testing key .notIn (.ofList vs)).Answers calls s (present && !isIn) ∧
      (testing key .containsAll (.ofList vs)).Answers calls s (list && vs.all contains) ∧
      (testing key .containsAny (.ofList vs)).Answers calls s any ∧
      any = vs.any contains ∧
      (testing key .containsNone (.ofList vs)).Answers calls s (list && !any)) ∧
    ∀ vs', (∀ v, v ∈ vs ↔ v ∈ vs') → ∀ op : Operator, op.shape = .array →
      ∃ b, (testing key op (.ofList vs)).Answers calls s b ∧
        (testing key op (.ofList vs')).Answers calls s b := by
  have hvalue : ∀ (op : Operator) (v : Value), op.shape = .any → op ≠ .equal → op ≠ .computed →
      v.kind ≠ .function → (testing key op v).Answers calls s
        ((Condition.ofKey key op (.value v)).matches attr) :=
    fun op v hshape hequal hcomputed hv =>
      answers_testing hkey (statesTest_value hshape hequal hcomputed hv) calls hattr
  have hlist : ∀ (op : Operator) (vs : List Value), op.shape = .array →
      (testing key op (.ofList vs)).Answers calls s
        ((Condition.ofKey key op (.list vs)).matches attr) :=
    fun op vs hshape => answers_testing hkey (statesTest_list hshape vs) calls hattr
  refine ⟨⟨_, _, _, _, fun v => _, fun v => _,
    hvalue .present (.bool true) rfl (by decide) (by decide) nofun,
    hvalue .kind (.string "array") rfl (by decide) (by decide) nofun, fun v hv => ⟨?_, ?_⟩,
    hlist .isIn vs rfl, Condition.matches_isIn, ?_, ?_, hlist .containsAny vs rfl,
    Condition.matches_containsAny, ?_⟩, ?_⟩
  · exact hvalue .deepEqual v rfl (by decide) (by decide) (hvs v hv)
  · exact hvalue .contains v rfl (by decide) (by decide) (hvs v hv)
  · rw [← Condition.matches_notIn]
    exact hlist .notIn vs rfl
  · have hall := hlist .containsAll vs rfl
    rwa [Condition.matches_containsAll] at hall
  · have hnone := hlist .containsNone vs rfl
    rwa [Condition.matches_containsNone] at hnone
  · intro vs' hmem op hop
    refine ⟨_, hlist op vs hop, ?_⟩
    rw [Condition.matches_list_congr hop hmem]
    exact hlist op vs' hop

theorem Document.answers_list_repeated :
    let calls : Callbacks Id := fun _ _ _ => .error "none"
    let s : Subject Id := .of .property (Json.ofFields (.singleton "a" (.ofList [.null])))
    let one : Value := .number (.signed 1)
    ∃ any null number : Bool,
      (testing "a" .contains .null).Answers calls s null ∧
      (testing "a" .contains one).Answers calls s number ∧
      (testing "a" .containsAny (.ofList [.null, one])).Answers calls s any ∧
      any = (null || number) ∧
      (testing "a" .containsAny (.ofList [one, .null, one])).Answers calls s any := by
  intro calls s one
  have hvs : ∀ v ∈ [.null, one], v.kind ≠ .function := by
    simp only [List.forall_mem_cons]
    exact ⟨nofun, nofun, nofun⟩
  have hmem : ∀ v, v ∈ [.null, one] ↔ v ∈ [one, .null, one] := by
    intro v
    simp only [List.mem_cons, List.not_mem_nil, or_false]
    exact ⟨.inr, fun h => h.elim .inr id⟩
  have hkey : Combinator.ofName? "a" = none := rfl
  have hattr : (s.attr "a" (Path.ofKey? "a")).run = .ok (some (.ofList [.null])) := rfl
  obtain ⟨⟨_, _, _, any, _, contains, -, -, hvalues, -, -, -, -, hany, hreduces, -⟩, hsame⟩ :=
    answers_list hkey hvs calls hattr
  obtain ⟨b, hb, hb'⟩ := hsame _ hmem .containsAny rfl
  obtain rfl : any = b := hany.eq hb
  refine ⟨any, contains .null, contains one, (hvalues .null List.mem_cons_self).2,
    (hvalues one (List.mem_cons_of_mem _ List.mem_cons_self)).2, hany, ?_, hb'⟩
  rw [hreduces, List.any_cons, List.any_cons, List.any_nil, Bool.or_false]

end RecordQuery
