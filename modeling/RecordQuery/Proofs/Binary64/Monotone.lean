import RecordQuery.Proofs.Binary64.Integers

/-!
# Rounding keeps order

Of two quotients with the same denominator the larger is never rounded to the smaller number
(`roundMagnitude_le_of_le`), and what is a number already is rounded to itself
(`roundMagnitude_unitsOfMagnitude`). The numbers nearest to integers are therefore in the order of
the integers, as far as they differ, and stand to other numbers as the integers do.
-/

namespace RecordQuery.Binary64

/-! ## One rounding -/

section Round

variable {num num' den shift : Nat}

theorem roundHalfEven_le_succ (num den : Nat) : roundHalfEven num den ≤ num / den + 1 := by
  rw [roundHalfEven]
  split <;> omega

theorem roundHalfEven_le_of_le (h : num ≤ num') :
    roundHalfEven num den ≤ roundHalfEven num' den := by
  have hwhole : num / den ≤ num' / den := Nat.div_le_div_right h
  rcases Nat.lt_or_eq_of_le hwhole with hlt | heq
  · calc roundHalfEven num den
        ≤ num / den + 1 := roundHalfEven_le_succ num den
      _ ≤ num' / den := hlt
      _ ≤ roundHalfEven num' den := le_roundHalfEven num' den
  · have hnum := Nat.div_add_mod num den
    have hnum' := Nat.div_add_mod num' den
    have hrest : num % den ≤ num' % den := by
      rw [heq] at hnum
      omega
    rw [roundHalfEven, roundHalfEven, heq]
    split <;> split <;> omega

/-- Of the digits that are kept there are at most 53, and rounding may carry to one more. -/
theorem roundHalfEven_kept_le (hshift : (num / den).log2 + 1 - 53 = shift) :
    roundHalfEven num (den * 2 ^ shift) ≤ 2 * exponentWeight := by
  have hdigits : num / den < 2 ^ 53 * 2 ^ shift := by
    calc num / den
        < 2 ^ ((num / den).log2 + 1) := Nat.lt_log2_self
      _ ≤ 2 ^ (53 + shift) := Nat.pow_le_pow_right (by decide) (by omega)
      _ = 2 ^ 53 * 2 ^ shift := Nat.pow_add 2 53 shift
  have hkept : num / (den * 2 ^ shift) < 2 ^ 53 := by
    rw [← Nat.div_div_eq_div_mul]
    exact Nat.div_lt_of_lt_mul (Nat.mul_comm _ _ ▸ hdigits)
  calc roundHalfEven num (den * 2 ^ shift)
      ≤ num / (den * 2 ^ shift) + 1 := roundHalfEven_le_succ _ _
    _ ≤ 2 ^ 53 := hkept
    _ = 2 * exponentWeight := by decide

/-- If digits are cut off, 53 of them are kept. -/
theorem le_roundHalfEven_kept (hshift : (num / den).log2 + 1 - 53 = shift) (hpos : 0 < shift) :
    exponentWeight ≤ roundHalfEven num (den * 2 ^ shift) := by
  have hne : num / den ≠ 0 := by
    intro hzero
    rw [hzero] at hshift
    simp at hshift
    omega
  have hdigits : 2 ^ 52 * 2 ^ shift ≤ num / den := by
    calc 2 ^ 52 * 2 ^ shift
        = 2 ^ (num / den).log2 := by
          rw [← Nat.pow_add]
          congr 1
          omega
      _ ≤ num / den := Nat.log2_self_le hne
  have hkept : 2 ^ 52 ≤ num / (den * 2 ^ shift) := by
    rw [← Nat.div_div_eq_div_mul]
    exact (Nat.le_div_iff_mul_le (Nat.two_pow_pos shift)).2 hdigits
  rw [exponentWeight_eq]
  exact Nat.le_trans hkept (le_roundHalfEven _ _)

theorem roundMagnitude_eq (hshift : (num / den).log2 + 1 - 53 = shift) :
    roundMagnitude num den =
      min infinityMagnitude (shift * exponentWeight + roundHalfEven num (den * 2 ^ shift)) := by
  rw [roundMagnitude, hshift, Nat.pow_eq]

theorem roundMagnitude_le_of_le (h : num ≤ num') :
    roundMagnitude num den ≤ roundMagnitude num' den := by
  have hwhole : num / den ≤ num' / den := Nat.div_le_div_right h
  have hlog : (num / den).log2 ≤ (num' / den).log2 := by
    by_cases hzero : num / den = 0
    · rw [hzero]
      exact Nat.zero_le _
    · have hzero' : num' / den ≠ 0 := fun h0 => hzero (Nat.le_zero.1 (h0 ▸ hwhole))
      exact (Nat.le_log2 hzero').2 (Nat.le_trans (Nat.log2_self_le hzero) hwhole)
  obtain ⟨shift, hshift⟩ : ∃ shift, (num / den).log2 + 1 - 53 = shift := ⟨_, rfl⟩
  obtain ⟨shift', hshift'⟩ : ∃ shift, (num' / den).log2 + 1 - 53 = shift := ⟨_, rfl⟩
  rw [roundMagnitude_eq hshift, roundMagnitude_eq hshift']
  refine inf_le_inf_left _ ?_
  rcases Nat.lt_or_eq_of_le (show shift ≤ shift' by omega) with hlt | rfl
  · -- with more digits to cut off, the number is past all those of the smaller shift
    have hupper := roundHalfEven_kept_le hshift
    have hlower := le_roundHalfEven_kept hshift' (Nat.zero_lt_of_lt hlt)
    have hstep : (shift + 1) * exponentWeight ≤ shift' * exponentWeight :=
      Nat.mul_le_mul_right _ hlt
    rw [Nat.add_mul] at hstep
    omega
  · exact Nat.add_le_add_left (roundHalfEven_le_of_le h) _

end Round

/-! ## Numbers are rounded to themselves -/

theorem log2_unitsOfMagnitude {m : Nat} (h : m / exponentWeight ≠ 0) :
    (unitsOfMagnitude m).log2 = 52 + (m / exponentWeight - 1) := by
  have hfraction : m % exponentWeight < exponentWeight := Nat.mod_lt _ (by decide)
  have hlog : (exponentWeight + m % exponentWeight).log2 = 52 := by
    rw [exponentWeight_eq] at hfraction ⊢
    exact (Nat.log2_eq_iff (by omega)).2 ⟨by omega, by omega⟩
  rw [unitsOfMagnitude_eq, if_neg h, log2_mul_two_pow (by omega), hlog]

theorem roundMagnitude_unitsOfMagnitude {m : Nat} (h : m ≤ infinityMagnitude) :
    roundMagnitude (unitsOfMagnitude m) 1 = m := by
  have hparts := Nat.div_add_mod m exponentWeight
  have hfraction : m % exponentWeight < exponentWeight := Nat.mod_lt _ (by decide)
  by_cases hexponent : m / exponentWeight = 0
  · -- below the first power of two that has an exponent of its own no digit is cut off
    have hunits : unitsOfMagnitude m = m := by
      rw [unitsOfMagnitude_eq, if_pos hexponent]
      rw [hexponent] at hparts
      omega
    have hsmall : m < 2 ^ 52 := by
      rw [← exponentWeight_eq]
      exact (Nat.div_eq_zero_iff_lt (by decide)).1 hexponent
    have hshift : (unitsOfMagnitude m / 1).log2 + 1 - 53 = 0 := by
      rw [Nat.div_one, hunits]
      by_cases hzero : m = 0
      · rw [hzero]
        decide
      · have := (Nat.log2_lt hzero).2 hsmall
        omega
    have hround : roundHalfEven m 1 = m := by
      have := roundHalfEven_mul m Nat.one_pos
      rwa [Nat.mul_one] at this
    rw [roundMagnitude_eq hshift, hunits, Nat.pow_zero, hround, Nat.zero_mul, Nat.zero_add]
    exact Nat.min_eq_right h
  · obtain ⟨e, he⟩ := Nat.exists_eq_succ_of_ne_zero hexponent
    have hshift : (unitsOfMagnitude m / 1).log2 + 1 - 53 = e := by
      rw [Nat.div_one, log2_unitsOfMagnitude hexponent]
      omega
    have hround : roundHalfEven (unitsOfMagnitude m) (2 ^ e) =
        exponentWeight + m % exponentWeight := by
      rw [unitsOfMagnitude_eq, if_neg hexponent, he, Nat.succ_sub_one]
      exact roundHalfEven_mul _ (Nat.two_pow_pos e)
    have hvalue : e * exponentWeight + (exponentWeight + m % exponentWeight) = m := by
      rw [he, Nat.mul_comm, Nat.succ_mul] at hparts
      omega
    rw [roundMagnitude_eq hshift, Nat.one_mul, hround, hvalue]
    exact Nat.min_eq_right h

@[simp]
theorem roundMagnitude_zero : roundMagnitude 0 1 = 0 :=
  roundMagnitude_unitsOfMagnitude (m := 0) (Nat.zero_le _)

theorem roundHalfEven_mul_right (num den : Nat) {k : Nat} (hk : 0 < k) :
    roundHalfEven (num * k) (den * k) = roundHalfEven num den := by
  have hhalf : den * k < 2 * (num % den * k) ↔ den < 2 * (num % den) := by
    rw [← Nat.mul_assoc, Nat.mul_lt_mul_right hk]
  have htie : 2 * (num % den * k) = den * k ↔ 2 * (num % den) = den := by
    rw [← Nat.mul_assoc, Nat.mul_left_inj (Nat.ne_of_gt hk)]
  simp only [roundHalfEven, Nat.mul_div_mul_right num den hk, Nat.mul_mod_mul_right, hhalf, htie]

theorem roundMagnitude_mul_right (num den : Nat) {k : Nat} (hk : 0 < k) :
    roundMagnitude (num * k) (den * k) = roundMagnitude num den := by
  rw [roundMagnitude, Nat.mul_div_mul_right num den hk, Nat.mul_right_comm,
    roundHalfEven_mul_right _ _ hk, roundMagnitude]

section Quotient

variable {m num den : Nat} (hm : m ≤ infinityMagnitude) (hden : 0 < den)
include hm hden

theorem roundMagnitude_unitsOfMagnitude_mul :
    roundMagnitude (unitsOfMagnitude m * den) den = m := by
  have h := roundMagnitude_mul_right (unitsOfMagnitude m) 1 hden
  rwa [Nat.one_mul, roundMagnitude_unitsOfMagnitude hm] at h

theorem roundMagnitude_le_of_le_units (h : num ≤ unitsOfMagnitude m * den) :
    roundMagnitude num den ≤ m := by
  calc roundMagnitude num den
      ≤ roundMagnitude (unitsOfMagnitude m * den) den := roundMagnitude_le_of_le h
    _ = m := roundMagnitude_unitsOfMagnitude_mul hm hden

theorem le_roundMagnitude_of_units_le (h : unitsOfMagnitude m * den ≤ num) :
    m ≤ roundMagnitude num den := by
  calc m
      = roundMagnitude (unitsOfMagnitude m * den) den :=
        (roundMagnitude_unitsOfMagnitude_mul hm hden).symm
    _ ≤ roundMagnitude num den := roundMagnitude_le_of_le h

end Quotient

/-! ## Integers in order -/

theorem units_ofInt_eq (n : Int) :
    (ofInt n).units =
      if n < 0 then -(unitsOfMagnitude (roundMagnitude (n.natAbs * unitsPerOne) 1) : Int)
      else unitsOfMagnitude (roundMagnitude (n.natAbs * unitsPerOne) 1) := by
  by_cases hn : n = 0
  · rw [hn, ofInt_zero, units_ofParts (Nat.zero_le _)]
    simp
  · have hfinite : roundMagnitude (n.natAbs * unitsPerOne) 1 ≤ infinityMagnitude :=
      Nat.min_le_left _ _
    rw [ofInt_eq hn, units_ofParts hfinite]
    simp only [decide_eq_true_eq]

/-- The numbers nearest to two integers are not in the opposite order. -/
theorem units_ofInt_le_of_le {a b : Int} (h : a ≤ b) : (ofInt a).units ≤ (ofInt b).units := by
  have hround : ∀ {k l : Nat}, k ≤ l →
      unitsOfMagnitude (roundMagnitude (k * unitsPerOne) 1) ≤
        unitsOfMagnitude (roundMagnitude (l * unitsPerOne) 1) := fun hkl =>
    unitsOfMagnitude_le_of_le (roundMagnitude_le_of_le (Nat.mul_le_mul_right _ hkl))
  rw [units_ofInt_eq, units_ofInt_eq]
  by_cases ha : a < 0
  · by_cases hb : b < 0
    · -- of negative integers the smaller is the larger in magnitude
      have := hround (show b.natAbs ≤ a.natAbs by omega)
      rw [if_pos ha, if_pos hb]
      omega
    · rw [if_pos ha, if_neg hb]
      omega
  · have := hround (show a.natAbs ≤ b.natAbs by omega)
    rw [if_neg ha, if_neg (by omega)]
    omega

theorem natAbs_units_ofInt (n : Int) :
    (ofInt n).units.natAbs = unitsOfMagnitude (roundMagnitude (n.natAbs * unitsPerOne) 1) := by
  rw [units_ofInt_eq]
  by_cases hn : n < 0
  · rw [if_pos hn, Int.natAbs_neg, Int.natAbs_natCast]
  · rw [if_neg hn, Int.natAbs_natCast]

theorem units_ofInt_neg (n : Int) : (ofInt (-n)).units = -(ofInt n).units := by
  rw [units_ofInt_eq, units_ofInt_eq, Int.natAbs_neg]
  by_cases hzero : n = 0
  · rw [hzero, Int.natAbs_zero, Nat.zero_mul, roundMagnitude_zero]
    decide
  · split <;> split <;> omega

theorem magnitude_le_infinity {x : Binary64} (hx : x.isNaN = false) :
    x.magnitude ≤ infinityMagnitude := by
  rw [isNaN, decide_eq_false_iff_not] at hx
  exact Nat.le_of_not_lt hx

/-- If an integer is not past the value of a number, neither is the number nearest to it. -/
theorem units_ofInt_le_of_le_units {n v : Int} {m : Nat} (hm : m ≤ infinityMagnitude)
    (hv : v.natAbs = unitsOfMagnitude m) (h : n * unitsPerOne ≤ v) : (ofInt n).units ≤ v := by
  have hpos : (0 : Int) < unitsPerOne := Int.natCast_pos.2 unitsPerOne_pos
  have hexact : (n * unitsPerOne).natAbs = n.natAbs * unitsPerOne := by
    rw [Int.natAbs_mul, Int.natAbs_natCast]
  have hround := natAbs_units_ofInt n
  by_cases hn : n < 0
  · have hneg : n * unitsPerOne < 0 := Int.mul_neg_of_neg_of_pos hn hpos
    have hsign : (ofInt n).units ≤ 0 := by
      rw [units_ofInt_eq, if_pos hn]
      omega
    by_cases hvneg : v < 0
    · -- of negative numbers the smaller is the larger in magnitude
      have hle : m ≤ roundMagnitude (n.natAbs * unitsPerOne) 1 :=
        le_roundMagnitude_of_units_le hm Nat.one_pos (by omega)
      have := unitsOfMagnitude_le_of_le hle
      omega
    · omega
  · have hnonneg : 0 ≤ n * unitsPerOne := Int.mul_nonneg (by omega) hpos.le
    have hle : roundMagnitude (n.natAbs * unitsPerOne) 1 ≤ m :=
      roundMagnitude_le_of_le_units hm Nat.one_pos (by omega)
    have := unitsOfMagnitude_le_of_le hle
    omega

section Mixed

variable {n : Int} {x : Binary64} (hx : x.isNaN = false)
include hx

theorem units_ofInt_le_units (h : n * unitsPerOne ≤ x.units) : (ofInt n).units ≤ x.units :=
  units_ofInt_le_of_le_units (magnitude_le_infinity hx) (natAbs_units x) h

theorem units_le_units_ofInt (h : x.units ≤ n * unitsPerOne) : x.units ≤ (ofInt n).units := by
  have hneg : -n * unitsPerOne ≤ -x.units := by
    rw [Int.neg_mul]
    omega
  have hsize : (-x.units).natAbs = unitsOfMagnitude x.magnitude := by
    rw [Int.natAbs_neg, natAbs_units]
  have := units_ofInt_le_of_le_units (magnitude_le_infinity hx) hsize hneg
  rw [units_ofInt_neg] at this
  omega

end Mixed

/-- An integer of magnitude `2 ^ 53` or less is a binary64 number. -/
theorem units_ofInt_of_le {n : Int} (h : n.natAbs ≤ 2 ^ 53) :
    (ofInt n).units = n * unitsPerOne := by
  rcases Nat.lt_or_eq_of_le h with hlt | heq
  · exact units_ofInt hlt
  · have hround : unitsOfMagnitude (roundMagnitude (n.natAbs * unitsPerOne) 1) =
        n.natAbs * unitsPerOne := by
      rw [heq, ← unitsOfMagnitude_limit, roundMagnitude_unitsOfMagnitude (by decide)]
    rw [units_ofInt_eq, hround]
    by_cases hneg : n < 0
    · rw [if_pos hneg, Int.natCast_mul, ← Int.neg_mul,
        Int.ofNat_natAbs_of_nonpos (Int.le_of_lt hneg), Int.neg_neg]
    · rw [if_neg hneg, Int.natCast_mul, Int.natAbs_of_nonneg (Int.not_lt.1 hneg)]

end RecordQuery.Binary64
