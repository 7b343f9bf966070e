import RecordQuery.Proofs.Compile.Attribute
import RecordQuery.Proofs.Value.Equality

/-!
# Order, equality and bounds

What `$lt`, `$lte`, `$equal`, `$gte` and `$gt` ask of an attribute that is no list is asked of one
order of the attribute and the value (`Value.orderOf?`), so the five fit together, and `$between`
and `$betweene` ask what two of them ask (`Document.answers_coherent`).
-/

namespace RecordQuery

/-! ## The order of an attribute and a value -/

namespace Value

variable {v : Value} {attr : Option Json}

/-- The order of an attribute, which may be absent, and a value. -/
def orderOf? (v : Value) (attr : Option Json) : Option Ordering :=
  attr.bind (·.order? v)

/-- The attribute is of the kind of the value, which is no NaN, or gives an instant if the value is
one. -/
def Meets (v : Value) (attr : Option Json) : Prop :=
  match v with
  | .date _ => ∃ a t, attr = some a ∧ Timestamp.ofAttribute? a = some t
  | v => Kind.ofAttribute attr = v.kind ∧ v.isNaN = false

theorem kind_of_isOrdered (hv : v.IsOrdered) : v.kind ≠ .function := by
  cases v with
  | function _ => cases hv
  | _ => exact nofun

theorem isSome_orderOf?_iff (hv : v.IsOrdered) :
    (v.orderOf? attr).isSome = true ↔ v.Meets attr := by
  cases attr with
  | none => cases v <;> simp [orderOf?, Meets, Kind.ofAttribute, kind]
  | some a =>
    rw [orderOf?, Option.bind_some]
    cases v with
    | date t => simp [Json.order?_instant, Meets, Option.isSome_iff_exists]
    | number n =>
      cases a with
      | number m =>
        show (m.toNumber.compare n).isSome = true ↔ Kind.number = Kind.number ∧ n.isNaN = false
        rw [Option.isSome_iff_ne_none, ne_eq, Number.compare_eq_none_iff]
        simp
      | _ => simp [Json.order?, Meets, Kind.ofAttribute, kind]
    | bool _ | string _ => cases a <;> simp [Json.order?, Meets, Kind.ofAttribute, kind, isNaN]
    | _ => cases hv

end Value

/-! ## `$lt`, `$lte`, `$gt` and `$gte` -/

/-- The orders that `$lt`, `$lte`, `$gt` and `$gte` accept. -/
def Operator.order? : Operator → Option (Ordering → Bool)
  | less => some (·.isLT)
  | lessEqual => some (·.isLE)
  | greater => some (·.isGT)
  | greaterEqual => some (·.isGE)
  | _ => none

section Operators

variable {key : String} {op : Operator} {accept : Ordering → Bool} {v : Value} {attr : Option Json}

theorem statesTest_order (hop : op.order? = some accept) (hv : v.kind ≠ .function) :
    StatesTest key (op.name, v) (.ofKey key op (.value v)) := by
  cases op with
  | less | lessEqual | greater | greaterEqual =>
    exact statesTest_value rfl (by decide) (by decide) hv
  | _ => cases hop

theorem Condition.matches_order (hop : op.order? = some accept) :
    (Condition.ofKey key op (.value v)).matches attr = (Operand.value v).orders accept attr := by
  cases op with
  | less | lessEqual | greater | greaterEqual =>
    obtain rfl := Option.some.inj hop
    rfl
  | _ => cases hop

theorem Operand.orders_eq_any (hv : v.IsOrdered) (accept : Ordering → Bool) :
    (Operand.value v).orders accept attr = (v.orderOf? attr).any accept := by
  have hnull : v.isNull = false := by
    cases v with
    | null => cases hv
    | _ => rfl
  cases attr with
  | none => rfl
  | some a =>
    rw [orders, hnull]
    rfl

/-- Two bounds ask what each of them asks; a bound that is null is not met. -/
theorem Operand.bounds_eq_and (above below : Ordering → Bool) (low high : Value) :
    (Operand.pair low high).bounds above below attr =
      ((value low).orders above attr && (value high).orders below attr) := by
  cases attr with
  | none => rfl
  | some a =>
    rw [bounds, orders, orders]
    cases low.isNull <;> cases high.isNull <;> simp

/-- Whether it is left to `$deepEqual` or not, an ordered value equals what it is in the order of
equals with. -/
theorem Condition.matches_equal (hv : v.IsOrdered) (hattr : Kind.ofAttribute attr ≠ .array) :
    (Condition.ofKey key (if v.isStructured then .deepEqual else .equal) (.value v)).matches attr =
      (v.orderOf? attr == some .eq) := by
  cases attr with
  | none => split <;> rfl
  | some a =>
    have hscalar : (Operand.value v).equals (some a) = a.strictEq v ∧
        (Operand.value v).deepEquals (some a) = a.strictEq v := by
      cases v with
      | bool _ | number _ | string _ | date _ =>
        cases a with
        | array _ _ => exact absurd rfl hattr
        | _ => exact ⟨rfl, rfl⟩
      | _ => cases hv
    rw [Value.orderOf?, Option.bind_some, ← Json.strictEq_eq_order? hv a]
    split
    · exact hscalar.2
    · exact hscalar.1

end Operators

/-! ## What documents say -/

namespace Document

/-- The clause of a lower and an upper bound. -/
def bounding (above below : Operator) (low high : Value) : Document :=
  .ofList [(above.name, low), (below.name, high)]

section Answers

variable {key : String} (hkey : Combinator.ofName? key = none) (calls : Callbacks Id)
  {s : Subject Id}
include hkey

/-- An operator on two bounds asks what the operators on each of them ask. -/
theorem gives_bounds {op above below : Operator} {accept accept' : Ordering → Bool}
    (hop : op.shape = .pair) (habove : above.order? = some accept)
    (hbelow : below.order? = some accept') {low high : Value} (hlow : low.kind ≠ .function)
    (hhigh : high.kind ≠ .function)
    (hentries : (bounding above below low high).entries = [(above.name, low), (below.name, high)])
    (hmatches : ∀ attr, (Condition.ofKey key op (.pair low high)).matches attr =
      (Operand.pair low high).bounds accept accept' attr) :
    ∃ x, (testing key op (.ofList [low, high])).Gives calls s x ∧
      Document.Gives (.singleton key (.ofDocument (bounding above below low high))) calls s x := by
  have hstates : List.Forall₂ (StatesTest key) (bounding above below low high).entries
      [.ofKey key above (.value low), .ofKey key below (.value high)] := by
    rw [hentries]
    exact .cons (statesTest_order habove hlow) (.cons (statesTest_order hbelow hhigh) .nil)
  have hboth := gives_operators hkey (List.cons_ne_nil _ _) hstates calls s
  have hand : ∀ attr, (Condition.ofKey key op (.pair low high)).matches attr =
      ((Condition.ofKey key above (.value low)).matches attr &&
        (Condition.ofKey key below (.value high)).matches attr) := by
    intro attr
    rw [hmatches, Operand.bounds_eq_and, Condition.matches_order habove,
      Condition.matches_order hbelow]
  refine ⟨_, gives_testing hkey (statesTest_pair hop low high) calls s, ?_⟩
  simp only [List.all_cons, List.all_nil, Bool.and_true] at hboth
  rwa [funext hand]

variable {v : Value} (hv : v.IsOrdered) {attr : Option Json}
  (hattr : (s.attr key (Path.ofKey? key)).run = .ok attr)
include hv hattr

theorem answers_order {op : Operator} {accept : Ordering → Bool}
    (hop : op.order? = some accept) :
    (testing key op v).Answers calls s ((v.orderOf? attr).any accept) := by
  have hanswers :=
    answers_testing hkey (statesTest_order hop (Value.kind_of_isOrdered hv)) calls hattr
  rwa [Condition.matches_order hop, Operand.orders_eq_any hv] at hanswers

theorem answers_equal (hlist : Kind.ofAttribute attr ≠ .array) :
    (testing key .equal v).Answers calls s (v.orderOf? attr == some .eq) := by
  have hanswers :=
    answers_testing hkey (statesTest_equal (Value.kind_of_isOrdered hv)) calls hattr
  rwa [Condition.matches_equal hv hlist] at hanswers

end Answers

/-- `$between` gives the result of `$gt` and `$lt` in one clause and `$betweene` that of `$gte` and
`$lte`, whatever the bounds are. Of an attribute that is no list, at most one of `$lt`, `$equal` and
`$gt` is true, and one is if the two can be compared. `$lte` is true if `$lt` or `$equal` is, and
`$gte` if `$gt` or `$equal` is. -/
theorem answers_coherent {key : String} (hkey : Combinator.ofName? key = none)
    (calls : Callbacks Id) (s : Subject Id) :
    (∀ low high : Value, low.kind ≠ .function → high.kind ≠ .function →
      (∃ x, (testing key .between (.ofList [low, high])).Gives calls s x ∧
        Document.Gives (.singleton key (.ofDocument (bounding .greater .less low high)))
          calls s x) ∧
      ∃ x, (testing key .betweenEqual (.ofList [low, high])).Gives calls s x ∧
        Document.Gives (.singleton key (.ofDocument (bounding .greaterEqual .lessEqual low high)))
          calls s x) ∧
    ∀ (v : Value) (attr : Option Json), v.IsOrdered → Kind.ofAttribute attr ≠ .array →
      (s.attr key (Path.ofKey? key)).run = .ok attr →
      ∃ less equal greater : Bool,
        (testing key .less v).Answers calls s less ∧
        (testing key .equal v).Answers calls s equal ∧
        (testing key .greater v).Answers calls s greater ∧
        (testing key .lessEqual v).Answers calls s (less || equal) ∧
        (testing key .greaterEqual v).Answers calls s (greater || equal) ∧
        [less, equal, greater].count true ≤ 1 ∧
        ([less, equal, greater].count true = 1 ↔ v.Meets attr) := by
  refine ⟨fun low high hlow hhigh => ⟨?_, ?_⟩, fun v attr hv hlist hattr => ?_⟩
  · exact gives_bounds hkey calls rfl rfl rfl hlow hhigh rfl fun _ => rfl
  · exact gives_bounds hkey calls rfl rfl rfl hlow hhigh rfl fun _ => rfl
  · have hless := answers_order hkey calls hv hattr (show Operator.less.order? = _ from rfl)
    have hequal := answers_equal hkey calls hv hattr hlist
    have hgreater := answers_order hkey calls hv hattr (show Operator.greater.order? = _ from rfl)
    have hlessEqual :=
      answers_order hkey calls hv hattr (show Operator.lessEqual.order? = _ from rfl)
    have hgreaterEqual :=
      answers_order hkey calls hv hattr (show Operator.greaterEqual.order? = _ from rfl)
    refine ⟨_, _, _, hless, hequal, hgreater, ?_⟩
    rw [← Value.isSome_orderOf?_iff hv]
    -- all five are read off the order of the two, if they have one
    generalize v.orderOf? attr = order at hlessEqual hgreaterEqual ⊢
    match order with
    | none | some .lt | some .eq | some .gt =>
      exact ⟨hlessEqual, hgreaterEqual, by decide, by decide⟩

/-- An integer and a number that is none of it, and bounds of which the lower one is null. -/
theorem answers_coherent_mixed :
    let calls : Callbacks Id := fun _ _ _ => .error "none"
    let five : Json := .number (.integer 5 (by decide) (by decide))
    let s : Subject Id := .of .property (Json.ofFields (.singleton "a" five))
    let v : Value := .number (.real ⟨0x4014000000000000⟩)
    (∃ x, (testing "a" .between (.ofList [.null, v])).Gives calls s x ∧
      Document.Gives (.singleton "a" (.ofDocument (bounding .greater .less .null v))) calls s x) ∧
    ∃ less equal greater : Bool,
      (testing "a" .less v).Answers calls s less ∧
      (testing "a" .equal v).Answers calls s equal ∧
      (testing "a" .greater v).Answers calls s greater ∧
      [less, equal, greater].count true = 1 := by
  intro calls five s v
  have hkey : Combinator.ofName? "a" = none := rfl
  obtain ⟨hbounds, hthree⟩ := answers_coherent hkey calls s
  obtain ⟨less, equal, greater, hless, hequal, hgreater, -, -, -, hone⟩ :=
    hthree v (some five) trivial nofun rfl
  exact ⟨(hbounds .null v nofun nofun).1, less, equal, greater, hless, hequal, hgreater,
    hone.2 ⟨rfl, rfl⟩⟩

end Document

end RecordQuery
