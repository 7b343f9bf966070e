import RecordQuery.Index.Basic
import RecordQuery.Proofs.Binary64.Integers
import RecordQuery.Query.Condition

/-!
# Keys decide equality

Two scalars have the same key exactly if they are equal, as long as one of them can be looked up.
For numbers this is where the limit of `2 ^ 53` counts: below it an integer and its binary64 value
determine each other, so it makes no difference in which representation they are compared.
-/

namespace RecordQuery

namespace Binary64

variable {x y : Binary64}

theorem compare_eq_eq_iff :
    (x.compare y == some .eq) = true ↔ x.isNaN = false ∧ y.isNaN = false ∧ x.units = y.units := by
  unfold compare
  cases x.isNaN <;> cases y.isNaN <;> simp

/-- The number is closer to zero than the integers that share their binary64 values. -/
def IsSmall (x : Binary64) : Prop :=
  x.units.natAbs < 2 ^ 53 * unitsPerOne

theorem units_of_isSmall {n : Int} (h : (ofInt n).IsSmall) : (ofInt n).units = n * unitsPerOne := by
  refine units_ofInt (Nat.lt_of_not_le fun hn => ?_)
  exact absurd (le_natAbs_units_ofInt hn) (Nat.not_le_of_lt h)

theorem units_exactLimit : IndexKey.exactLimit.units = (2 ^ 53 * unitsPerOne : Nat) := by
  decide +kernel

theorem isSmall_iff_compare (hx : x.isNaN = false) :
    x.IsSmall ↔ ¬(x.abs.compare IndexKey.exactLimit).any (·.isGE) = true := by
  have hfinite : x.magnitude ≤ infinityMagnitude := by
    rw [isNaN, decide_eq_false_iff_not] at hx
    exact Nat.le_of_not_lt hx
  have hlimit : IndexKey.exactLimit.isNaN = false := isNaN_ofInt _
  have habs : x.abs.units = x.units.natAbs := by
    rw [abs, units_ofParts hfinite, natAbs_units]
    rfl
  have hnan : x.abs.isNaN = false := isNaN_ofParts hfinite
  -- the limit is kept as a variable, since it is not to be computed
  obtain ⟨limit, hvalue⟩ : ∃ limit, limit = 2 ^ 53 * unitsPerOne := ⟨_, rfl⟩
  rw [compare, hnan, hlimit, habs, units_exactLimit, IsSmall, ← hvalue]
  generalize x.units.natAbs = size
  simp [Std.isGE_compare]

/-- Of two integers with the same binary64 value, neither is large if the value is not. -/
theorem ofInt_units_eq_iff {a b : Int} (h : (ofInt b).IsSmall) :
    (ofInt a).units = (ofInt b).units ↔ a = b := by
  refine ⟨fun hunits => ?_, fun hab => hab ▸ rfl⟩
  have ha : (ofInt a).IsSmall := by
    rw [IsSmall, hunits]
    exact h
  rw [units_of_isSmall ha, units_of_isSmall h] at hunits
  exact Int.eq_of_mul_eq_mul_right (Int.natCast_ne_zero.2 (Nat.ne_of_gt unitsPerOne_pos)) hunits

end Binary64

theorem Number.equals_iff {a b : Number} (hnan : b.toBinary64.isNaN = false)
    (h : b.toBinary64.IsSmall) :
    a.equals b = true ↔
      a.toBinary64.isNaN = false ∧ a.toBinary64.units = b.toBinary64.units := by
  have hmixed : (a.toBinary64.compare b.toBinary64 == some .eq) = true ↔
      a.toBinary64.isNaN = false ∧ a.toBinary64.units = b.toBinary64.units := by
    rw [Binary64.compare_eq_eq_iff, hnan, eq_self, true_and]
  -- integers of one representation are compared as they are, all others as binary64 numbers
  cases a with
  | signed a =>
    cases b with
    | signed b =>
      simp only [toBinary64] at h ⊢
      simp [Binary64.ofInt_units_eq_iff h, equals, compare]
    | _ => exact hmixed
  | unsigned a =>
    cases b with
    | unsigned b =>
      simp only [toBinary64] at h ⊢
      simp [Binary64.ofInt_units_eq_iff h, Int.natCast_inj, equals, compare]
    | _ => exact hmixed
  | real _ => cases b <;> exact hmixed

namespace IndexKey

theorem exists_bits_of_ofNumber? {n : Number} {k : IndexKey} (h : ofNumber? n = some k) :
    n.toBinary64.isNaN = false ∧ ∃ bits, k = number bits := by
  unfold ofNumber? at h
  cases hnan : n.toBinary64.isNaN with
  | true =>
    simp only [hnan, if_true] at h
    cases h
  | false =>
    simp only [hnan, Bool.false_eq_true, if_false] at h
    split at h <;> exact ⟨rfl, _, (Option.some.inj h).symm⟩

theorem ofNumber?_eq_iff {a b : Number} (hnan : b.toBinary64.isNaN = false) :
    ofNumber? a = ofNumber? b ↔
      a.toBinary64.isNaN = false ∧ a.toBinary64.units = b.toBinary64.units := by
  rw [ofNumber?, ofNumber?]
  simp only [hnan]
  generalize a.toBinary64 = x
  generalize b.toBinary64 = y
  have hbits : ∀ {x y : Binary64}, x.bits = y.bits → x = y := fun {x y} h => by
    cases x
    cases y
    exact congrArg Binary64.mk h
  have hzero : ∀ {x : Binary64}, x.isZero = false → x.bits ≠ Binary64.zero.bits := fun hx h => by
    rw [hbits h] at hx
    exact absurd hx (by decide)
  have hunits : ∀ {x : Binary64}, x.isZero = false → x.units ≠ 0 := fun hx h => by
    rw [Binary64.isZero_iff.2 h] at hx
    cases hx
  -- a NaN has no key, and a zero has that of the positive one
  cases hx : x.isNaN with
  | true => cases y.isZero <;> simp
  | false =>
    cases hx0 : x.isZero with
    | false =>
      cases hy0 : y.isZero with
      | false =>
        simp only [Bool.false_eq_true, if_false, Option.some.injEq, number.injEq, true_and]
        exact ⟨fun h => congrArg _ (hbits h), fun h => congrArg _ (Binary64.eq_of_units_eq h hx0)⟩
      | true => simp [Binary64.isZero_iff.1 hy0, hzero hx0, hunits hx0]
    | true =>
      cases hy0 : y.isZero with
      | false => simp [Binary64.isZero_iff.1 hx0, (hzero hy0).symm, (hunits hy0).symm]
      | true => simp [Binary64.isZero_iff.1 hx0, Binary64.isZero_iff.1 hy0]

/-- A scalar equals a value that can be looked up exactly if it is found by the key of the value. -/
theorem strictEq_iff {a : Json} {v : Value} {k : IndexKey} (h : ofValue? v = some k) :
    a.strictEq v = true ↔ ofScalar? a = some k := by
  cases v with
  | number n =>
    rw [ofValue?] at h
    split at h
    · cases h
    · -- the value is below the limit, but nothing of the kind is known of the attribute
      rename_i hsmall
      obtain ⟨hnan, bits, rfl⟩ := exists_bits_of_ofNumber? h
      cases a with
      | number a =>
        rw [← h, Json.strictEq, ofScalar?, ofNumber?_eq_iff hnan,
          Number.equals_iff hnan ((Binary64.isSmall_iff_compare hnan).2 hsmall)]
      | _ => simp [Json.strictEq, ofScalar?]
  | null | bool b | string s =>
    obtain rfl := Option.some.inj h
    cases a with
    | number a =>
      simp only [Json.strictEq, ofScalar?, Bool.false_eq_true, false_iff]
      intro h
      obtain ⟨-, bits, hbits⟩ := exists_bits_of_ofNumber? h
      cases hbits
    | _ => simp [Json.strictEq, ofScalar?]
  | _ => cases h

theorem equals_iff {attr : Option Json} {v : Value} {k : IndexKey} (h : ofValue? v = some k) :
    (Operand.value v).equals attr = true ↔ k ∈ ofAttribute attr := by
  match attr with
  | none => simp [Operand.equals, ofAttribute]
  -- a list passes if one of its scalars does
  | some (.array size item) =>
    simp only [Operand.equals, ofAttribute, List.any_eq_true, List.mem_filterMap, strictEq_iff h]
  | some .null | some (.bool _) | some (.number _) | some (.string _) | some (.object _ _ _) =>
    simp only [Operand.equals, ofAttribute, strictEq_iff h, Option.mem_toList]

end IndexKey

end RecordQuery
