import Mathlib.Data.List.Perm.Subperm
import RecordQuery.Proofs.Value.Numbers

/-!
# One equality of values

An attribute is compared with a value by `Json.deepEq`, two values by `Value.equals`. Objects are
looked through by the keys of the one in the one case and by those of the other in the other; since
keys are distinct and equally many, both say that the keys are the same and stand over equal values
(`Matched`). So the two are one relation on JSON values, and the order of keys is of no account.
-/

namespace RecordQuery

/-! ## Keys -/

/-- Two lists have the same keys, and what belongs to equal keys is related. -/
def Matched (keys others : List String) (related : Fin keys.length → Fin others.length → Prop) :
    Prop :=
  keys.Perm others ∧ ∀ i j, keys.get i = others.get j → related i j

theorem matched_swap {keys others : List String}
    {related : Fin keys.length → Fin others.length → Prop} :
    Matched others keys (fun j i => related i j) ↔ Matched keys others related := by
  constructor
  · exact fun h => ⟨h.1.symm, fun i j hij => h.2 j i hij.symm⟩
  · exact fun h => ⟨h.1.symm, fun j i hji => h.2 i j hji.symm⟩

theorem matched_congr {keys keys' others : List String} (perm : keys.Perm keys')
    {related : Fin keys.length → Fin others.length → Prop}
    {related' : Fin keys'.length → Fin others.length → Prop}
    (h : ∀ i i' j, keys.get i = keys'.get i' → (related i j ↔ related' i' j)) :
    Matched keys others related ↔ Matched keys' others related' := by
  constructor
  · refine fun hmatched => ⟨perm.symm.trans hmatched.1, fun i' j hij => ?_⟩
    obtain ⟨i, hi⟩ := List.get_of_mem (perm.mem_iff.2 (List.get_mem keys' i'))
    exact (h i i' j hi).1 (hmatched.2 i j (hi.trans hij))
  · refine fun hmatched => ⟨perm.trans hmatched.1, fun i j hij => ?_⟩
    obtain ⟨i', hi⟩ := List.get_of_mem (perm.mem_iff.1 (List.get_mem keys i))
    exact (h i i' j hi.symm).2 (hmatched.2 i' j (hi.trans hij))

/-- Of equally many distinct keys it is enough to find those of one list in the other. -/
theorem matched_iff {keys others : List String} (nodup : keys.Nodup) (nodup' : others.Nodup)
    {related : Fin keys.length → Fin others.length → Prop} :
    Matched keys others related ↔
      keys.length = others.length ∧ ∀ j, ∃ i, keys.get i = others.get j ∧ related i j := by
  constructor
  · rintro ⟨hperm, hrelated⟩
    refine ⟨hperm.length_eq, fun j => ?_⟩
    obtain ⟨i, hi⟩ := List.get_of_mem (hperm.mem_iff.2 (List.get_mem others j))
    exact ⟨i, hi, hrelated i j hi⟩
  · rintro ⟨hlength, hfound⟩
    have hsubset : others ⊆ keys := by
      intro key hkey
      obtain ⟨j, rfl⟩ := List.get_of_mem hkey
      obtain ⟨i, hi, -⟩ := hfound j
      exact hi ▸ List.get_mem keys i
    have hperm : others.Perm keys :=
      (nodup'.subperm hsubset).perm_of_length_le (Nat.le_of_eq hlength)
    refine ⟨hperm.symm, fun i j hij => ?_⟩
    obtain ⟨i', hi', hrelated⟩ := hfound j
    -- keys are distinct, so the one that was found is the one at hand
    obtain rfl : i' = i := Fin.ext ((List.getElem_inj nodup).1 (hi'.trans hij.symm))
    exact hrelated

/-- A key of a list has one position, and a test of that position is all there is to a test of the
key. -/
theorem found_iff {keys : List String} (nodup : keys.Nodup) {key : String}
    {test : Fin keys.length → Bool} :
    (match keys.finIdxOf? key with
      | some i => test i
      | none => false) = true ↔ ∃ i, keys.get i = key ∧ test i = true := by
  simp only [← Fields.finIdxOf?_eq_some_iff nodup]
  cases keys.finIdxOf? key <;> simp

/-! ## Equality of attributes and values -/

namespace Json

variable {v : Value}

theorem deepEq_array_iff {n m : Nat} {a : Fin n → Json} {b : Fin m → Value} :
    (array n a).deepEq (.array m b) = true ↔
      ∃ h : n = m, ∀ i, (a i).deepEq (b (i.cast h)) = true := by
  rw [deepEq]
  split
  next h => simp [h]
  next h => simp [h]

theorem deepEq_object_iff {keys others : List String} {nodup : keys.Nodup} {nodup' : others.Nodup}
    {a : Fin keys.length → Json} {b : Fin others.length → Value} :
    (object keys nodup a).deepEq (.object others nodup' b) = true ↔
      Matched keys others fun i j => (a i).deepEq (b j) = true := by
  rw [matched_iff nodup nodup', deepEq, Bool.and_eq_true, beq_iff_eq, List.all_eq_true]
  simp only [List.mem_finRange, forall_const]
  exact and_congr_right fun _ => forall_congr' fun j => found_iff nodup

end Json

namespace Value

theorem equals_array_iff {n m : Nat} {a : Fin n → Value} {b : Fin m → Value} :
    (array n a).equals (.array m b) = true ↔
      ∃ h : n = m, ∀ i, (a i).equals (b (i.cast h)) = true := by
  rw [equals]
  split
  next h => simp [h]
  next h => simp [h]

theorem equals_object_iff {keys others : List String} {nodup : keys.Nodup}
    {nodup' : others.Nodup} {a : Fin keys.length → Value} {b : Fin others.length → Value} :
    (object keys nodup a).equals (.object others nodup' b) = true ↔
      Matched keys others fun i j => (a i).equals (b j) = true := by
  rw [← matched_swap, matched_iff nodup' nodup, equals, Bool.and_eq_true, beq_iff_eq,
    List.all_eq_true, eq_comm]
  simp only [List.mem_finRange, forall_const]
  exact and_congr_right fun _ => forall_congr' fun i => found_iff nodup'

end Value

/-! ## One relation -/

theorem Number.equals_comm (a b : Number) : a.equals b = b.equals a := by
  rw [equals, equals, compare_swap a b]
  cases a.compare b with
  | none => rfl
  | some o => cases o <;> rfl

theorem Number.equals_self {a : Number} (h : a.isNaN = false) : a.equals a = true := by
  have hform : a.SameForm a := by cases a <;> exact trivial
  rw [equals, compare_of_sameForm h h hform, Std.compare_self]
  rfl

/-- An attribute equals a JSON value as two values do. -/
theorem Json.deepEq_ofJson (a b : Json) :
    a.deepEq (.ofJson b) = (Value.ofJson a).equals (.ofJson b) := by
  induction a generalizing b with
  | array n a ih =>
    cases b with
    | array m b =>
      rw [Bool.eq_iff_iff, Value.ofJson, Value.ofJson, deepEq_array_iff, Value.equals_array_iff]
      simp only [ih]
    | _ => rfl
  | object keys nodup a ih =>
    cases b with
    | object others nodup' b =>
      rw [Bool.eq_iff_iff, Value.ofJson, Value.ofJson, deepEq_object_iff,
        Value.equals_object_iff]
      simp only [ih]
    | _ => rfl
  | _ => cases b <;> rfl

theorem Value.equals_comm (a b : Value) : a.equals b = b.equals a := by
  induction a generalizing b with
  | array n a ih =>
    cases b with
    | array m b =>
      rw [Bool.eq_iff_iff, equals_array_iff, equals_array_iff]
      constructor
      · rintro ⟨rfl, h⟩
        exact ⟨rfl, fun i => (ih i _).symm.trans (h i)⟩
      · rintro ⟨rfl, h⟩
        exact ⟨rfl, fun i => (ih i _).trans (h i)⟩
    | _ => rfl
  | object keys nodup a ih =>
    cases b with
    | object others nodup' b =>
      rw [Bool.eq_iff_iff, equals_object_iff, equals_object_iff, ← matched_swap]
      simp only [ih]
    | _ => rfl
  | number n =>
    cases b with
    | number m => exact n.equals_comm m
    | _ => rfl
  | bool x =>
    cases b with
    | bool y => exact Bool.beq_comm
    | _ => rfl
  | string s =>
    cases b with
    | string t => exact BEq.comm
    | _ => rfl
  | pattern p =>
    cases b with
    | pattern r => exact BEq.comm
    | _ => rfl
  | date t =>
    cases b with
    | date u => exact BEq.comm
    | _ => rfl
  | function c =>
    cases b with
    | function c' => exact BEq.comm
    | _ => rfl
  | null => cases b <;> rfl

/-- Both sides of an equality of JSON values may be the attribute. -/
theorem Json.deepEq_comm (a b : Json) : b.deepEq (.ofJson a) = a.deepEq (.ofJson b) := by
  rw [deepEq_ofJson, deepEq_ofJson, Value.equals_comm]

/-! ## The order of keys -/

/-- The values differ in nothing but the order of the keys of objects, at any depth. -/
inductive Json.Rearranged : Json → Json → Prop
  | refl (a : Json) : Rearranged a a
  | array {n : Nat} {a b : Fin n → Json} (items : ∀ i, Rearranged (a i) (b i)) :
      Rearranged (.array n a) (.array n b)
  | object {keys others : List String} {nodup : keys.Nodup} {nodup' : others.Nodup}
      {a : Fin keys.length → Json} {b : Fin others.length → Json} (perm : keys.Perm others)
      (values : ∀ i j, keys.get i = others.get j → Rearranged (a i) (b j)) :
      Rearranged (.object keys nodup a) (.object others nodup' b)

theorem Json.Rearranged.deepEq_eq {a a' : Json} (h : a.Rearranged a') (v : Value) :
    a.deepEq v = a'.deepEq v := by
  induction h generalizing v with
  | refl a => rfl
  | array items ih =>
    cases v with
    | array m b =>
      rw [Bool.eq_iff_iff, deepEq_array_iff, deepEq_array_iff]
      simp only [ih]
    | _ => rfl
  | object perm values ih =>
    cases v with
    | object others nodup' b =>
      rw [Bool.eq_iff_iff, deepEq_object_iff, deepEq_object_iff]
      refine matched_congr perm fun i i' j hi => ?_
      rw [ih i i' hi]
    | _ => rfl

/-- An equality of JSON values does not look at the order of keys. -/
theorem Json.Rearranged.deepEq_congr {a a' b b' : Json} (ha : a.Rearranged a')
    (hb : b.Rearranged b') : a'.deepEq (.ofJson b') = a.deepEq (.ofJson b) := by
  rw [← ha.deepEq_eq, ← deepEq_comm a b', ← hb.deepEq_eq, deepEq_comm]

@[simp]
theorem Numeral.isNaN_toNumber (n : Numeral) : n.toNumber.isNaN = false := by
  cases n with
  | integer n low high =>
    rw [toNumber]
    split <;> rfl
  | real x finite =>
    rw [Binary64.isFinite, decide_eq_true_iff] at finite
    show x.isNaN = false
    rw [Binary64.isNaN, decide_eq_false_iff_not]
    omega

/-- A JSON value holds no NaN, so it equals itself. -/
@[simp]
theorem Json.deepEq_self (a : Json) : a.deepEq (.ofJson a) = true := by
  induction a with
  | array n a ih => exact deepEq_array_iff.2 ⟨rfl, ih⟩
  | object keys nodup a ih =>
    refine deepEq_object_iff.2 ⟨List.Perm.refl keys, fun i j hij => ?_⟩
    obtain rfl : i = j := Fin.ext ((List.getElem_inj nodup).1 hij)
    exact ih i
  | number n => exact Number.equals_self n.isNaN_toNumber
  | bool b => exact beq_self_eq_true b
  | string s => exact beq_self_eq_true s
  | null => rfl

end RecordQuery
