import Mathlib.Algebra.Order.Ring.Nat
import RecordQuery.Binary64.Rounding

/-!
# Integers as binary64 numbers

A number is determined by its value, the two zeros apart. An integer below `2 ^ 53` in magnitude is
its own nearest number, and the number nearest to a larger one is no smaller than `2 ^ 53`.
-/

namespace RecordQuery.Binary64

/-! ## Magnitudes and their values -/

theorem exponentWeight_eq : exponentWeight = 2 ^ 52 := by
  decide

/-- The exponent is kept as a variable, since the power is not to be computed. -/
theorem unitsPerOne_eq {e : Nat} (he : e = 1074) : unitsPerOne = 2 ^ e := by
  unfold unitsPerOne
  rw [← he, Nat.pow_eq]

theorem exists_unitsPerOne_eq : ∃ e, e = 1074 ∧ unitsPerOne = 2 ^ e := by
  obtain ⟨e, he⟩ : ∃ e, e = 1074 := ⟨_, rfl⟩
  exact ⟨e, he, unitsPerOne_eq he⟩

theorem unitsPerOne_pos : 0 < unitsPerOne := by
  obtain ⟨e, -, he⟩ := exists_unitsPerOne_eq
  rw [he]
  exact Nat.two_pow_pos e

theorem unitsOfMagnitude_eq (m : Nat) :
    unitsOfMagnitude m =
      if m / exponentWeight = 0 then m % exponentWeight
      else (exponentWeight + m % exponentWeight) * 2 ^ (m / exponentWeight - 1) := by
  unfold unitsOfMagnitude
  simp only [Nat.pow_eq]

@[simp]
theorem unitsOfMagnitude_zero : unitsOfMagnitude 0 = 0 := by
  decide

theorem unitsOfMagnitude_lt (m : Nat) :
    unitsOfMagnitude m < exponentWeight * 2 ^ (m / exponentWeight) := by
  have hfraction : m % exponentWeight < exponentWeight := Nat.mod_lt _ (by decide)
  rw [unitsOfMagnitude_eq]
  by_cases hexponent : m / exponentWeight = 0
  · rw [if_pos hexponent, hexponent]
    simpa using hfraction
  · obtain ⟨e, he⟩ := Nat.exists_eq_succ_of_ne_zero hexponent
    rw [if_neg hexponent, he, Nat.succ_sub_one, Nat.pow_succ, ← Nat.mul_assoc, Nat.mul_right_comm]
    exact Nat.mul_lt_mul_of_pos_right (by omega) (Nat.two_pow_pos e)

theorem le_unitsOfMagnitude {m : Nat} (h : m / exponentWeight ≠ 0) :
    exponentWeight * 2 ^ (m / exponentWeight - 1) ≤ unitsOfMagnitude m := by
  rw [unitsOfMagnitude_eq, if_neg h]
  exact Nat.mul_le_mul_right _ (Nat.le_add_right _ _)

/-- Larger magnitudes have larger values. -/
theorem unitsOfMagnitude_lt_of_lt {m n : Nat} (h : m < n) :
    unitsOfMagnitude m < unitsOfMagnitude n := by
  have hm := Nat.div_add_mod m exponentWeight
  have hn := Nat.div_add_mod n exponentWeight
  have hle : m / exponentWeight ≤ n / exponentWeight := Nat.div_le_div_right (Nat.le_of_lt h)
  rcases Nat.lt_or_eq_of_le hle with hlt | heq
  · -- the exponents differ, so there is a power of two between the values
    calc unitsOfMagnitude m
        < exponentWeight * 2 ^ (m / exponentWeight) := unitsOfMagnitude_lt m
      _ ≤ exponentWeight * 2 ^ (n / exponentWeight - 1) :=
        Nat.mul_le_mul_left _ (Nat.pow_le_pow_right (by decide) (Nat.le_sub_one_of_lt hlt))
      _ ≤ unitsOfMagnitude n := le_unitsOfMagnitude (Nat.ne_zero_of_lt hlt)
  · have hfraction : m % exponentWeight < n % exponentWeight := by
      rw [heq] at hm
      omega
    rw [unitsOfMagnitude_eq, unitsOfMagnitude_eq, heq]
    split
    · exact hfraction
    · exact Nat.mul_lt_mul_of_pos_right (by omega) (Nat.two_pow_pos _)

theorem unitsOfMagnitude_le_of_le {m n : Nat} (h : m ≤ n) :
    unitsOfMagnitude m ≤ unitsOfMagnitude n := by
  rcases Nat.lt_or_eq_of_le h with hlt | rfl
  · exact Nat.le_of_lt (unitsOfMagnitude_lt_of_lt hlt)
  · exact Nat.le_refl _

@[simp]
theorem unitsOfMagnitude_inj {m n : Nat} : unitsOfMagnitude m = unitsOfMagnitude n ↔ m = n := by
  refine ⟨fun h => ?_, fun h => h ▸ rfl⟩
  rcases Nat.lt_trichotomy m n with hlt | heq | hgt
  · have := unitsOfMagnitude_lt_of_lt hlt
    omega
  · exact heq
  · have := unitsOfMagnitude_lt_of_lt hgt
    omega

/-! ## Numbers and their parts -/

section Parts

variable {negative : Bool} {m : Nat} (h : m ≤ infinityMagnitude)
include h

theorem toNat_ofParts :
    (ofParts negative m).bits.toNat = (if negative then signWeight else 0) + m := by
  rw [ofParts, UInt64.toNat_ofNat']
  apply Nat.mod_eq_of_lt
  rw [infinityMagnitude] at h
  rw [signWeight]
  split <;> omega

theorem magnitude_ofParts : (ofParts negative m).magnitude = m := by
  rw [magnitude, toNat_ofParts h]
  rw [infinityMagnitude] at h
  rw [signWeight]
  split <;> omega

theorem isNegative_ofParts : (ofParts negative m).isNegative = negative := by
  rw [isNegative, toNat_ofParts h]
  rw [infinityMagnitude] at h
  cases negative with
  | true => simp
  | false =>
    simp only [Bool.false_eq_true, if_false, decide_eq_false_iff_not, signWeight]
    omega

theorem isNaN_ofParts : (ofParts negative m).isNaN = false := by
  rw [isNaN, magnitude_ofParts h, decide_eq_false_iff_not]
  omega

theorem units_ofParts :
    (ofParts negative m).units =
      if negative then -(unitsOfMagnitude m : Int) else unitsOfMagnitude m := by
  rw [units, isNegative_ofParts h, magnitude_ofParts h]

end Parts

@[simp]
theorem natAbs_units (x : Binary64) : x.units.natAbs = unitsOfMagnitude x.magnitude := by
  rw [units]
  split <;> simp

theorem isZero_iff {x : Binary64} : x.isZero = true ↔ x.units = 0 := by
  rw [isZero, decide_eq_true_iff, ← unitsOfMagnitude_inj, unitsOfMagnitude_zero, ← natAbs_units]
  exact Int.natAbs_eq_zero

/-- Numbers of equal value are the same, unless they are zero. -/
theorem eq_of_units_eq {x y : Binary64} (h : x.units = y.units) (hx : x.isZero = false) :
    x = y := by
  have hne : x.units ≠ 0 := fun hx0 => by
    rw [isZero_iff.2 hx0] at hx
    cases hx
  have hsign : x.isNegative = y.isNegative := by
    rw [units, units] at h
    rw [units] at hne
    cases hx : x.isNegative <;> cases hy : y.isNegative <;> simp [hx, hy] at h hne ⊢ <;> omega
  have hmagnitude : x.magnitude = y.magnitude := by
    -- the value determines its magnitude, since larger ones have larger values
    rw [← unitsOfMagnitude_inj, ← natAbs_units, ← natAbs_units, h]
  have hbits : x.bits.toNat = y.bits.toNat := by
    have hx := x.bits.toNat_lt
    have hy := y.bits.toNat_lt
    rw [magnitude, magnitude, signWeight] at hmagnitude
    rw [isNegative, isNegative, signWeight, decide_eq_decide] at hsign
    omega
  obtain ⟨x⟩ := x
  obtain ⟨y⟩ := y
  exact congrArg mk (UInt64.toNat_inj.1 hbits)

/-! ## The number nearest to an integer -/

theorem roundHalfEven_mul (q : Nat) {den : Nat} (hden : 0 < den) :
    roundHalfEven (q * den) den = q := by
  rw [roundHalfEven, Nat.mul_div_cancel _ hden, Nat.mul_mod_left]
  exact if_neg (by omega)

theorem le_roundHalfEven (num den : Nat) : num / den ≤ roundHalfEven num den := by
  rw [roundHalfEven]
  split <;> omega

theorem log2_mul_two_pow {k : Nat} (hk : k ≠ 0) (e : Nat) : (k * 2 ^ e).log2 = k.log2 + e := by
  have hpos : 0 < 2 ^ e := Nat.two_pow_pos e
  rw [Nat.log2_eq_iff (Nat.mul_ne_zero hk (Nat.ne_of_gt hpos))]
  constructor
  · rw [Nat.pow_add]
    exact Nat.mul_le_mul_right _ (Nat.log2_self_le hk)
  · rw [Nat.add_right_comm, Nat.pow_add]
    exact Nat.mul_lt_mul_of_pos_right Nat.lt_log2_self hpos

/-- The number nearest to a positive integer keeps 53 of its binary digits. -/
theorem roundMagnitude_integer {k : Nat} (hk : k ≠ 0) :
    roundMagnitude (k * unitsPerOne) 1 =
      min infinityMagnitude ((k.log2 + 1022) * exponentWeight +
        roundHalfEven (k * unitsPerOne) (2 ^ (k.log2 + 1022))) := by
  have hshift : (k * unitsPerOne / 1).log2 + 1 - 53 = k.log2 + 1022 := by
    obtain ⟨e, he, hone⟩ := exists_unitsPerOne_eq
    rw [Nat.div_one, hone, log2_mul_two_pow hk]
    omega
  rw [roundMagnitude, hshift, Nat.one_mul, Nat.pow_eq]

theorem ofInt_eq {n : Int} (hn : n ≠ 0) :
    ofInt n = ofParts (n < 0) (roundMagnitude (n.natAbs * unitsPerOne) 1) := by
  have hpos : 0 < (unitsPerOne : Int) := Int.natCast_pos.2 unitsPerOne_pos
  have hsign : n * unitsPerOne < 0 ↔ n < 0 := by
    rw [← Int.not_le, ← Int.not_le, Int.mul_nonneg_iff_of_pos_right hpos]
  rw [ofInt, ofUnits, ofQuotient, if_neg (Int.mul_ne_zero hn (Int.ne_of_gt hpos)), Int.natAbs_mul,
    Int.natAbs_natCast, decide_eq_decide.2 hsign]

theorem ofInt_zero : ofInt 0 = ofParts false 0 := by
  rw [ofInt, Int.zero_mul, ofUnits, if_pos rfl]

@[simp]
theorem isNaN_ofInt (n : Int) : (ofInt n).isNaN = false := by
  by_cases hn : n = 0
  · rw [hn, ofInt_zero]
    exact isNaN_ofParts (Nat.zero_le _)
  · rw [ofInt_eq hn]
    exact isNaN_ofParts (Nat.min_le_left _ _)

theorem unitsOfMagnitude_roundMagnitude {k : Nat} (hk : k ≠ 0) (h : k < 2 ^ 53) :
    unitsOfMagnitude (roundMagnitude (k * unitsPerOne) 1) = k * unitsPerOne := by
  have hlog : k.log2 ≤ 52 := by
    have := (Nat.log2_lt hk).2 h
    omega
  obtain ⟨e, he, hone⟩ := exists_unitsPerOne_eq
  -- the digits that rounding cuts off are all zero
  have hcut : k * unitsPerOne = k * 2 ^ (52 - k.log2) * 2 ^ (k.log2 + 1022) := by
    have hexponent : 52 - k.log2 + (k.log2 + 1022) = e := by omega
    rw [hone, Nat.mul_assoc, ← Nat.pow_add, hexponent]
  have hlow : exponentWeight ≤ k * 2 ^ (52 - k.log2) := by
    calc exponentWeight = 2 ^ k.log2 * 2 ^ (52 - k.log2) := by
          rw [exponentWeight_eq, ← Nat.pow_add, Nat.add_sub_cancel' hlog]
      _ ≤ k * 2 ^ (52 - k.log2) := Nat.mul_le_mul_right _ (Nat.log2_self_le hk)
  have hhigh : k * 2 ^ (52 - k.log2) < 2 * exponentWeight := by
    calc k * 2 ^ (52 - k.log2) < 2 ^ (k.log2 + 1) * 2 ^ (52 - k.log2) :=
          Nat.mul_lt_mul_of_pos_right Nat.lt_log2_self (Nat.two_pow_pos _)
      _ = 2 * exponentWeight := by
          rw [exponentWeight_eq, ← Nat.pow_add, Nat.add_right_comm, Nat.add_sub_cancel' hlog,
            Nat.pow_succ']
  rw [roundMagnitude_integer hk, hcut, roundHalfEven_mul _ (Nat.two_pow_pos _)]
  -- `q` has exactly 53 digits: the first is implied, the others are the fraction
  generalize k * 2 ^ (52 - k.log2) = q at hlow hhigh ⊢
  rw [exponentWeight] at hlow hhigh
  have hexponent : ((k.log2 + 1022) * exponentWeight + q) / exponentWeight = k.log2 + 1023 := by
    rw [exponentWeight]
    omega
  have hfraction :
      exponentWeight + ((k.log2 + 1022) * exponentWeight + q) % exponentWeight = q := by
    rw [exponentWeight]
    omega
  have hfinite : (k.log2 + 1022) * exponentWeight + q ≤ infinityMagnitude := by
    rw [exponentWeight, infinityMagnitude]
    omega
  rw [Nat.min_eq_right hfinite, unitsOfMagnitude_eq, hexponent, hfraction, if_neg (by omega)]
  rfl

/-- An integer of at most 53 binary digits is a binary64 number. -/
theorem units_ofInt {n : Int} (h : n.natAbs < 2 ^ 53) : (ofInt n).units = n * unitsPerOne := by
  have hzero : unitsOfMagnitude 0 = 0 := by decide
  by_cases hn : n = 0
  · rw [hn, ofInt_zero, units_ofParts (Nat.zero_le _), hzero, Int.zero_mul]
    rfl
  · have hround := unitsOfMagnitude_roundMagnitude (Int.natAbs_ne_zero.2 hn) h
    have hfinite : roundMagnitude (n.natAbs * unitsPerOne) 1 ≤ infinityMagnitude :=
      Nat.min_le_left _ _
    rw [ofInt_eq hn, units_ofParts hfinite, hround, Int.natCast_mul]
    by_cases hneg : n < 0
    · rw [if_pos (decide_eq_true hneg), ← Int.neg_mul,
        Int.ofNat_natAbs_of_nonpos (Int.le_of_lt hneg), Int.neg_neg]
    · rw [if_neg (by simpa using hneg), Int.natAbs_of_nonneg (Int.not_lt.1 hneg)]

/-- The magnitude of `2 ^ 53`. -/
theorem unitsOfMagnitude_limit :
    unitsOfMagnitude (1076 * exponentWeight) = 2 ^ 53 * unitsPerOne := by
  obtain ⟨e, he, hone⟩ := exists_unitsPerOne_eq
  have hexponent : 52 + (1076 - 1) = 53 + e := by omega
  rw [unitsOfMagnitude_eq, Nat.mul_div_cancel _ (by decide), Nat.mul_mod_left, Nat.add_zero,
    if_neg (by decide), hone, exponentWeight_eq, ← Nat.pow_add, ← Nat.pow_add, hexponent]

/-- The number nearest to any other integer is no closer to zero than `2 ^ 53`. -/
theorem le_natAbs_units_ofInt {n : Int} (h : 2 ^ 53 ≤ n.natAbs) :
    2 ^ 53 * unitsPerOne ≤ (ofInt n).units.natAbs := by
  have hn : n ≠ 0 := by
    rintro rfl
    exact absurd h (by decide)
  have hk : n.natAbs ≠ 0 := Int.natAbs_ne_zero.2 hn
  obtain ⟨e, he, hone⟩ := exists_unitsPerOne_eq
  have hlog : 53 ≤ n.natAbs.log2 := (Nat.le_log2 hk).2 h
  -- 53 digits are kept, so the first of them counts for `exponentWeight`
  have hdigits : exponentWeight ≤
      roundHalfEven (n.natAbs * unitsPerOne) (2 ^ (n.natAbs.log2 + 1022)) := by
    refine Nat.le_trans ?_ (le_roundHalfEven _ _)
    have hexponent : 52 + (n.natAbs.log2 + 1022) = n.natAbs.log2 + e := by omega
    rw [Nat.le_div_iff_mul_le (Nat.two_pow_pos _), exponentWeight_eq, hone, ← Nat.pow_add,
      hexponent, Nat.pow_add]
    exact Nat.mul_le_mul_right _ (Nat.log2_self_le hk)
  have hfinite : roundMagnitude (n.natAbs * unitsPerOne) 1 ≤ infinityMagnitude :=
    Nat.min_le_left _ _
  have hmagnitude : 1076 * exponentWeight ≤ roundMagnitude (n.natAbs * unitsPerOne) 1 := by
    rw [roundMagnitude_integer hk]
    refine Nat.le_min.2 ⟨by decide, ?_⟩
    rw [exponentWeight] at hdigits ⊢
    omega
  rw [ofInt_eq hn, natAbs_units, magnitude_ofParts hfinite, ← unitsOfMagnitude_limit]
  exact unitsOfMagnitude_le_of_le hmagnitude

end RecordQuery.Binary64
