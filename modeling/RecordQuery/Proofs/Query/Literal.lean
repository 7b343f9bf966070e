import RecordQuery.Proofs.Compile.Attribute
import RecordQuery.Proofs.Value.Equality

/-!
# Literals

A JSON value in a query stands for itself unless it is an object with a key that begins with `$`. It
compiles to one condition (`compilePair_ofJson`), and since equality is one relation on JSON values
(`Json.deepEq_isEquality`), the condition is true of the value itself.
-/

namespace RecordQuery

/-! ## Values that stand for themselves -/

/-- The value is no object with a key that begins with `$`. -/
def Json.IsLiteral : Json → Prop
  | .object keys _ _ => ∀ key ∈ keys, isReserved key = false
  | _ => True

/-- The operator that tests whether an attribute is the value. -/
def Json.literalOperator (a : Json) : Operator :=
  if (Value.ofJson a).isStructured then .deepEqual else .equal

theorem compilePair_ofJson {key : String} (hkey : Combinator.ofName? key = none) {a : Json}
    (ha : a.IsLiteral) :
    compilePair key (.ofJson a) =
      .ok (.condition (.ofKey key a.literalOperator (.value (.ofJson a)))) := by
  cases a with
  | array size item => exact (compilePair_list_of_attribute hkey _ _).2 rfl
  | object keys nodup value =>
    let d : Document := .ofFields ⟨keys, nodup, value⟩
    have hboost : boostKey ∉ d.keys := by
      intro hmem
      have hreserved := ha boostKey hmem
      revert hreserved
      decide
    show compilePair key (.ofDocument d) = _
    rw [compilePair_unweighted hboost, compileUnder_of_attribute hkey,
      Fields.erase_of_notMem hboost]
    exact .inl ⟨fun name hname _ => ha name hname, rfl⟩
  | _ => exact (compilePair_scalar rfl rfl).2 ⟨hkey, _, rfl, rfl⟩

theorem Json.test_literalOperator (a : Json) :
    a.literalOperator.test (.value (.ofJson a)) (some a) = a.deepEq (.ofJson a) := by
  cases a with
  | number n =>
    have hscalar : (Value.ofJson (number n)).isStructured = false := n.isNaN_toNumber
    rw [literalOperator, hscalar]
    rfl
  | _ => rfl

/-- A literal is true of an attribute that is the value. -/
theorem Document.answers_ofJson {key : String} (hkey : Combinator.ofName? key = none) {a : Json}
    (ha : a.IsLiteral) {calls : Callbacks Id} {s : Subject Id}
    (hattr : (s.attr key (Path.ofKey? key)).run = .ok (some a)) :
    Document.Answers (.singleton key (.ofJson a)) calls s true := by
  have hadmits : a.literalOperator.admits (.ofAttribute (some a)) = true := by
    unfold Json.literalOperator
    split <;> rfl
  have htest : a.literalOperator.test (.value (.ofJson a)) (some a) = true :=
    a.test_literalOperator.trans a.deepEq_self
  have hmatches : Condition.matches (.ofKey key a.literalOperator (.value (.ofJson a))) (some a) =
      true := Bool.and_eq_true_iff.2 ⟨hadmits, htest⟩
  rw [← hmatches]
  exact answers_of_condition hkey (compilePair_ofJson hkey ha) trivial hattr

/-! ## One equality -/

/-- Two objects with the same fields in another order. -/
theorem Json.rearranged_of_perm {d d' : Fields Json} (h : d.entries.Perm d'.entries) :
    (ofFields d).Rearranged (ofFields d') := by
  have hkeys : ∀ d : Fields Json, d.entries.map Prod.fst = d.keys := by
    intro d
    rw [Fields.entries, List.map_ofFn]
    exact List.ofFn_get d.keys
  have hperm : d.keys.Perm d'.keys := by
    rw [← hkeys d, ← hkeys d']
    exact h.map Prod.fst
  refine .object hperm fun i j hij => ?_
  have hvalue : some (d.value i) = some (d'.value j) := by
    rw [← d.get?_keys, ← d'.get?_keys, ← hij]
    exact Fields.get?_eq_of_perm h _
  rw [Option.some.inj hvalue]
  exact .refl _

/-- Equality of attributes and equality of values are one relation on JSON values. It does not see
the order of keys, and every value equals itself, so a record of one attribute passes the query that
is written as the record is. -/
theorem Json.deepEq_isEquality (a b : Json) :
    a.deepEq (.ofJson b) = (Value.ofJson a).equals (.ofJson b) ∧
    b.deepEq (.ofJson a) = a.deepEq (.ofJson b) ∧
    (∀ a' b' : Json, a.Rearranged a' → b.Rearranged b' →
      a'.deepEq (.ofJson b') = a.deepEq (.ofJson b)) ∧
    a.deepEq (.ofJson a) = true ∧
    ∀ key : String, isDotted key = false → Combinator.ofName? key = none → a.IsLiteral →
      ∀ calls : Callbacks Id, (Document.ofFields (.singleton key a)).Answers calls
        (.of .property (Json.ofFields (.singleton key a))) true := by
  refine ⟨a.deepEq_ofJson b, a.deepEq_comm b, fun a' b' => Rearranged.deepEq_congr,
    a.deepEq_self, ?_⟩
  intro key hdotted hkey ha calls
  apply Document.answers_ofJson hkey ha
  have hpath : Path.ofKey? key = none := by
    rw [Path.ofKey?, hdotted]
    rfl
  have hattr : (ofFields (.singleton key a)).attr key = some a :=
    Fields.get?_eq_some_iff.2 ⟨⟨0, Nat.one_pos⟩, rfl, rfl⟩
  rw [hpath, ← hattr]
  rfl

/-- The keys stand in another order, and a number in another representation. -/
theorem Json.deepEq_isEquality_mixed :
    let one : Json := .number (.integer 1 (by decide) (by decide))
    let a : Json := .ofFields (.ofList [("x", one), ("y", .ofList [.null])])
    let a' : Json := .ofFields (.ofList [("y", .ofList [.null]), ("x", one)])
    let b : Json := .ofFields (.ofList [("y", .ofList [.null]), ("x", .number (.real .one rfl))])
    let calls : Callbacks Id := fun _ _ _ => .error "none"
    a'.deepEq (.ofJson b) = true ∧ b.deepEq (.ofJson a) = true ∧
      (Value.ofJson a).equals (.ofJson b) = true ∧
      (Document.ofFields (.singleton "k" a)).Answers calls
        (.of .property (Json.ofFields (.singleton "k" a))) true := by
  intro one a a' b calls
  obtain ⟨hequals, hcomm, hrearranged, -, hanswers⟩ := Json.deepEq_isEquality a b
  have hab : a.deepEq (.ofJson b) = true := by decide +kernel
  have ha : a.Rearranged a' := Json.rearranged_of_perm (.swap _ _ _)
  refine ⟨?_, hcomm.trans hab, hequals.symm.trans hab, ?_⟩
  · exact (hrearranged a' b ha (.refl b)).trans hab
  · refine hanswers "k" rfl rfl ?_ calls
    show ∀ key ∈ ["x", "y"], isReserved key = false
    decide

end RecordQuery
