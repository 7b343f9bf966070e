import RecordQuery.Binary64.Arithmetic
import RecordQuery.Proofs.Binary64.Monotone

/-!
# Remainders are exact

The remainder of two numbers is a number itself, so it is not rounded (`units_rem`). What rounding
there is in the remainder of two integers comes of their conversion: `HoldsExactly` are the integers
that keep their value in it, among them all of magnitude `2 ^ 53` or less.
-/

namespace RecordQuery.Binary64

/-! ## Values of 53 digits -/

/-- The value of a magnitude has 53 digits before its zeros. -/
theorem exists_eq_unitsOfMagnitude (m : Nat) :
    ∃ q e, q < 2 ^ 53 ∧ unitsOfMagnitude m = q * 2 ^ e := by
  have hfraction : m % exponentWeight < 2 ^ 52 := by
    rw [← exponentWeight_eq]
    exact Nat.mod_lt _ (by decide)
  rw [unitsOfMagnitude_eq]
  split
  · exact ⟨m % exponentWeight, 0, by omega, (Nat.mul_one _).symm⟩
  · refine ⟨exponentWeight + m % exponentWeight, _, ?_, rfl⟩
    rw [exponentWeight_eq] at hfraction ⊢
    omega

/-- Any 53 digits with zeros after them are the value of a magnitude. -/
theorem exists_unitsOfMagnitude_eq {q : Nat} (hq : q < 2 ^ 53) (e : Nat) :
    ∃ m, unitsOfMagnitude m = q * 2 ^ e := by
  induction e generalizing q with
  | zero =>
    refine ⟨q, ?_⟩
    rw [Nat.pow_zero, Nat.mul_one, unitsOfMagnitude_eq]
    rw [exponentWeight_eq]
    have hparts := Nat.div_add_mod q (2 ^ 52)
    split
    · omega
    · have hone : q / 2 ^ 52 = 1 := by omega
      rw [hone, Nat.pow_zero, Nat.mul_one]
      omega
  | succ e ih =>
    by_cases hsmall : q < 2 ^ 52
    · -- one of the zeros is counted as a digit
      obtain ⟨m, hm⟩ := ih (show 2 * q < 2 ^ 53 by omega)
      refine ⟨m, ?_⟩
      rw [hm, Nat.pow_succ, Nat.mul_comm 2 q, Nat.mul_assoc, Nat.mul_comm 2]
    · have hexponent : ((e + 1) * exponentWeight + q) / exponentWeight = e + 2 := by
        rw [exponentWeight]
        omega
      have hfraction :
          exponentWeight + ((e + 1) * exponentWeight + q) % exponentWeight = q := by
        rw [exponentWeight]
        omega
      refine ⟨(e + 1) * exponentWeight + q, ?_⟩
      rw [unitsOfMagnitude_eq, hexponent, hfraction, if_neg (by omega)]
      rfl

/-- The remainder has no more digits than the divisor or than the dividend, whichever ends in more
zeros. -/
theorem exists_unitsOfMagnitude_mod (m n : Nat) :
    ∃ r, unitsOfMagnitude r = unitsOfMagnitude m % unitsOfMagnitude n := by
  obtain ⟨q, e, hq, hm⟩ := exists_eq_unitsOfMagnitude m
  obtain ⟨p, f, hp, hn⟩ := exists_eq_unitsOfMagnitude n
  rw [hm, hn]
  rcases Nat.le_total f e with hle | hle
  · have hpow : 2 ^ e = 2 ^ (e - f) * 2 ^ f := by rw [← Nat.pow_add, Nat.sub_add_cancel hle]
    by_cases hzero : p = 0
    · rw [hzero, Nat.zero_mul, Nat.mod_zero]
      exact exists_unitsOfMagnitude_eq hq e
    · have hrest : q * 2 ^ (e - f) % p < 2 ^ 53 :=
        Nat.lt_trans (Nat.mod_lt _ (Nat.pos_of_ne_zero hzero)) hp
      rw [hpow, ← Nat.mul_assoc, Nat.mul_mod_mul_right]
      exact exists_unitsOfMagnitude_eq hrest f
  · have hpow : 2 ^ f = 2 ^ (f - e) * 2 ^ e := by rw [← Nat.pow_add, Nat.sub_add_cancel hle]
    have hrest : q % (p * 2 ^ (f - e)) < 2 ^ 53 := Nat.lt_of_le_of_lt (Nat.mod_le _ _) hq
    rw [hpow, ← Nat.mul_assoc, Nat.mul_mod_mul_right]
    exact exists_unitsOfMagnitude_eq hrest e

/-! ## Remainders -/

section Remainder

variable {x y : Binary64} (hx : x.isFinite = true) (hy : y.isFinite = true)
include hx hy

theorem rem_of_isFinite (hzero : y.units ≠ 0) :
    x.rem y = ofQuotient x.isNegative (x.units.natAbs % y.units.natAbs) 1 := by
  have hkinds : ∀ {z : Binary64}, z.isFinite = true → z.isNaN = false ∧ z.isInfinite = false := by
    intro z hz
    rw [isFinite, decide_eq_true_iff] at hz
    rw [isNaN, isInfinite, decide_eq_false_iff_not, decide_eq_false_iff_not]
    omega
  have hy0 : y.isZero = false := by
    rw [Bool.eq_false_iff, ne_eq, isZero_iff]
    exact hzero
  rw [rem, (hkinds hx).1, (hkinds hy).1, (hkinds hx).2, (hkinds hy).2, hy0]
  rfl

/-- The remainder is that of the exact values. -/
theorem units_rem (hzero : y.units ≠ 0) :
    (x.rem y).isNaN = false ∧ (x.rem y).units = x.units.tmod y.units := by
  obtain ⟨r, hr⟩ := exists_unitsOfMagnitude_mod x.magnitude y.magnitude
  rw [← natAbs_units, ← natAbs_units] at hr
  have hlt : r < y.magnitude := by
    by_contra hle
    have hunits := unitsOfMagnitude_le_of_le (Nat.not_lt.1 hle)
    rw [hr, ← natAbs_units] at hunits
    exact absurd hunits (Nat.not_le_of_lt (Nat.mod_lt _ (Int.natAbs_pos.2 hzero)))
  have hfinite : r ≤ infinityMagnitude := by
    rw [isFinite, decide_eq_true_iff] at hy
    omega
  have hrem : x.rem y = ofParts x.isNegative r := by
    rw [rem_of_isFinite hx hy hzero, ofQuotient, ← hr, roundMagnitude_unitsOfMagnitude hfinite]
  rw [hrem]
  refine ⟨isNaN_ofParts hfinite, ?_⟩
  -- the remainder has the sign of the dividend, whatever that of the divisor is
  have htmod : ∀ k : Nat, (k : Int).tmod y.units = (k % y.units.natAbs : Nat) := by
    intro k
    rcases Int.natAbs_eq y.units with hdivisor | hdivisor
    · conv_lhs => rw [hdivisor]
      exact (Int.ofNat_tmod k _).symm
    · conv_lhs => rw [hdivisor, Int.tmod_neg]
      exact (Int.ofNat_tmod k _).symm
  have hsign : x.units = if x.isNegative then -(x.units.natAbs : Int) else x.units.natAbs := by
    rw [natAbs_units, units]
  rw [units_ofParts hfinite, hr]
  generalize x.isNegative = negative at hsign ⊢
  cases negative with
  | true =>
    rw [if_pos rfl] at hsign ⊢
    conv_rhs => rw [hsign, Int.neg_tmod, htmod]
  | false =>
    rw [if_neg Bool.false_ne_true] at hsign ⊢
    conv_rhs => rw [hsign, htmod]

/-- A number divided by zero leaves no remainder. -/
theorem rem_equals_iff {z : Binary64} (hz : z.isNaN = false) :
    (x.rem y).equals z = true ↔ y.units ≠ 0 ∧ x.units.tmod y.units = z.units := by
  by_cases hzero : y.units = 0
  · have hrem : x.rem y = nan := by
      rw [rem, isZero_iff.2 hzero, Bool.or_true, if_pos rfl]
    have hnan : nan.isNaN = true := by decide
    rw [hrem, equals, compare, hnan, Bool.true_or, if_pos rfl]
    simp [hzero]
  · obtain ⟨hnan, hunits⟩ := units_rem hx hy hzero
    rw [equals, compare, hnan, hz, hunits, Bool.or_self, if_neg Bool.false_ne_true, beq_iff_eq,
      Option.some.injEq, Int.compare_eq_eq]
    exact (and_iff_right hzero).symm

end Remainder

/-! ## Integers that are numbers -/

/-- The integer is a binary64 number, so it keeps its value as one. -/
def HoldsExactly (n : Int) : Prop :=
  (ofInt n).units = n * unitsPerOne

theorem holdsExactly_of_le {n : Int} (h : n.natAbs ≤ 2 ^ 53) : HoldsExactly n :=
  units_ofInt_of_le h

theorem magnitude_ofInt (n : Int) :
    (ofInt n).magnitude = roundMagnitude (n.natAbs * unitsPerOne) 1 := by
  rw [← unitsOfMagnitude_inj, ← natAbs_units, natAbs_units_ofInt]

theorem isFinite_ofInt {n : Int} (h : n.natAbs ≤ 2 ^ 64) : (ofInt n).isFinite = true := by
  have hlimit : unitsOfMagnitude (1087 * exponentWeight) = 2 ^ 64 * unitsPerOne := by
    decide +kernel
  have hle : n.natAbs * unitsPerOne ≤ unitsOfMagnitude (1087 * exponentWeight) * 1 := by
    rw [hlimit, Nat.mul_one]
    exact Nat.mul_le_mul_right _ h
  rw [isFinite, decide_eq_true_iff, magnitude_ofInt]
  calc roundMagnitude (n.natAbs * unitsPerOne) 1
      ≤ 1087 * exponentWeight := roundMagnitude_le_of_le_units (by decide) Nat.one_pos hle
    _ < infinityMagnitude := by decide

end RecordQuery.Binary64
