import RecordQuery.Binary64.Arithmetic
import RecordQuery.Proofs.Binary64.Monotone

/-!
# Sums of nonnegative numbers

`Binary64.sum` adds numbers in order, each time rounding. Since rounding keeps order, a sum of some
of the numbers is never above the sum of all of them (`sumMagnitude_le_of_sublist`), and as a part
of it lies between zero and one unless both have run over (`isFraction_div`). A sum of integers up
to `2 ^ 53` is exact (`sum_integers`).
-/

namespace RecordQuery.Binary64

/-- The numbers added up in order, starting from zero. -/
def sum (xs : List Binary64) : Binary64 :=
  xs.foldl add zero

/-- A finite number that is not negative. -/
def IsWeight (x : Binary64) : Prop :=
  x.isFinite = true ∧ 0 ≤ x.units

/-- A finite number from zero to one. -/
structure IsFraction (x : Binary64) : Prop where
  finite : x.isFinite = true
  nonneg : 0 ≤ x.units
  le_one : x.units ≤ unitsPerOne

/-! ## Nonnegative numbers by their magnitudes -/

section Magnitude

variable {m : Nat} (h : m ≤ infinityMagnitude)
include h

theorem isInfinite_ofParts (negative : Bool) :
    (ofParts negative m).isInfinite = decide (m = infinityMagnitude) := by
  rw [isInfinite, magnitude_ofParts h]

theorem isFinite_ofParts (negative : Bool) :
    (ofParts negative m).isFinite = decide (m < infinityMagnitude) := by
  rw [isFinite, magnitude_ofParts h]

theorem isZero_ofParts (negative : Bool) : (ofParts negative m).isZero = decide (m = 0) := by
  rw [isZero, magnitude_ofParts h]

end Magnitude

theorem IsWeight.isNaN_eq {x : Binary64} (h : x.IsWeight) : x.isNaN = false := by
  have hfinite := h.1
  rw [isFinite, decide_eq_true_iff] at hfinite
  exact decide_eq_false (by omega)

theorem IsWeight.isInfinite_eq {x : Binary64} (h : x.IsWeight) : x.isInfinite = false := by
  have hfinite := h.1
  rw [isFinite, decide_eq_true_iff] at hfinite
  exact decide_eq_false (by omega)

theorem roundMagnitude_le_infinity (num den : Nat) :
    roundMagnitude num den ≤ infinityMagnitude :=
  Nat.min_le_left _ _

/-- The number nearest to a nonnegative number of units. -/
theorem ofUnits_natCast (k : Nat) : ofUnits false k = ofParts false (roundMagnitude k 1) := by
  rw [ofUnits]
  by_cases hk : k = 0
  · rw [hk, roundMagnitude_zero]
    rfl
  · have hsign : decide ((k : Int) < 0) = false := decide_eq_false (by omega)
    rw [if_neg (by omega), ofQuotient, hsign, Int.natAbs_natCast]

/-- The magnitude of a sum, of which one number is given by its magnitude. -/
def addMagnitude (m : Nat) (x : Binary64) : Nat :=
  roundMagnitude (unitsOfMagnitude m + x.units.toNat) 1

section Add

variable {m m' : Nat} {x : Binary64}

theorem addMagnitude_le_infinity : addMagnitude m x ≤ infinityMagnitude := by
  rw [addMagnitude]
  exact roundMagnitude_le_infinity _ _

theorem le_addMagnitude (h : m ≤ infinityMagnitude) : m ≤ addMagnitude m x := by
  calc m
      = roundMagnitude (unitsOfMagnitude m) 1 := (roundMagnitude_unitsOfMagnitude h).symm
    _ ≤ roundMagnitude (unitsOfMagnitude m + x.units.toNat) 1 :=
        roundMagnitude_le_of_le (Nat.le_add_right _ _)
    _ = addMagnitude m x := by rw [addMagnitude]

theorem addMagnitude_le_of_le (h : m ≤ m') : addMagnitude m x ≤ addMagnitude m' x := by
  rw [addMagnitude, addMagnitude]
  exact roundMagnitude_le_of_le (Nat.add_le_add_right (unitsOfMagnitude_le_of_le h) _)

theorem add_ofParts (h : m ≤ infinityMagnitude) (hx : x.IsWeight) :
    (ofParts false m).add x = ofParts false (addMagnitude m x) := by
  rw [add, isNaN_ofParts h, hx.isNaN_eq, isInfinite_ofParts h, hx.isInfinite_eq,
    isNegative_ofParts h]
  simp only [Bool.or_self, Bool.false_and, Bool.false_eq_true, if_false, decide_eq_true_eq]
  split
  · -- infinity stays what it is
    rename_i hinfinite
    have hle := le_addMagnitude (x := x) h
    rw [hinfinite] at hle ⊢
    rw [Nat.le_antisymm addMagnitude_le_infinity hle]
  · have hsum : (ofParts false m).units + x.units =
        ((unitsOfMagnitude m + x.units.toNat : Nat) : Int) := by
      rw [units_ofParts h, if_neg Bool.false_ne_true, Int.natCast_add,
        Int.toNat_of_nonneg hx.2]
    rw [hsum, ofUnits_natCast, addMagnitude]

end Add

/-! ## Sums -/

/-- The magnitude of a sum that starts from a number of the given magnitude. -/
def sumMagnitude (m : Nat) (xs : List Binary64) : Nat :=
  xs.foldl addMagnitude m

@[simp]
theorem sumMagnitude_nil (m : Nat) : sumMagnitude m [] = m :=
  rfl

@[simp]
theorem sumMagnitude_cons (m : Nat) (x : Binary64) (xs : List Binary64) :
    sumMagnitude m (x :: xs) = sumMagnitude (addMagnitude m x) xs :=
  List.foldl_cons ..

theorem sumMagnitude_le_infinity {m : Nat} (h : m ≤ infinityMagnitude) (xs : List Binary64) :
    sumMagnitude m xs ≤ infinityMagnitude := by
  induction xs generalizing m with
  | nil => exact h
  | cons x xs ih =>
    simpa using ih addMagnitude_le_infinity

theorem foldl_add_ofParts {m : Nat} (h : m ≤ infinityMagnitude) {xs : List Binary64}
    (hxs : ∀ x ∈ xs, x.IsWeight) :
    xs.foldl add (ofParts false m) = ofParts false (sumMagnitude m xs) := by
  induction xs generalizing m with
  | nil => rfl
  | cons x xs ih =>
    rw [List.forall_mem_cons] at hxs
    simp [add_ofParts h hxs.1, ih addMagnitude_le_infinity hxs.2]

theorem sum_eq_ofParts {xs : List Binary64} (hxs : ∀ x ∈ xs, x.IsWeight) :
    sum xs = ofParts false (sumMagnitude 0 xs) :=
  foldl_add_ofParts (Nat.zero_le _) hxs

/-- By induction on how some of the numbers are taken from all of them: one that is left out makes
the other sum larger, and one that both add keeps their order. -/
theorem sumMagnitude_le_of_sublist {xs ys : List Binary64} (h : ys.Sublist xs) {m m' : Nat}
    (hm : m ≤ m') (hm' : m' ≤ infinityMagnitude) : sumMagnitude m ys ≤ sumMagnitude m' xs := by
  induction h generalizing m m' with
  | slnil => exact hm
  | cons x _ ih =>
    simpa using ih (Nat.le_trans hm (le_addMagnitude hm')) addMagnitude_le_infinity
  | cons_cons x _ ih =>
    simpa using ih (addMagnitude_le_of_le hm) addMagnitude_le_infinity

/-! ## Sums of integers -/

/-- The magnitude of the number nearest to a nonnegative integer. -/
def integerMagnitude (k : Nat) : Nat :=
  roundMagnitude (k * unitsPerOne) 1

theorem ofInt_natCast (k : Nat) : ofInt k = ofParts false (integerMagnitude k) := by
  rw [ofInt, ← Int.natCast_mul, ofUnits_natCast, integerMagnitude]

theorem integerMagnitude_le_infinity {k : Nat} : integerMagnitude k ≤ infinityMagnitude := by
  rw [integerMagnitude]
  exact roundMagnitude_le_infinity _ _

@[simp]
theorem integerMagnitude_zero : integerMagnitude 0 = 0 := by
  simp [integerMagnitude]

section Integer

variable {k : Nat} (hk : k ≤ 2 ^ 53)
include hk

theorem unitsOfMagnitude_integer : unitsOfMagnitude (integerMagnitude k) = k * unitsPerOne := by
  have hunits := units_ofInt_of_le (n := k) hk
  rw [ofInt_natCast, units_ofParts integerMagnitude_le_infinity, if_neg Bool.false_ne_true,
    ← Int.natCast_mul] at hunits
  exact Int.ofNat_inj.1 hunits

theorem integerMagnitude_lt_infinity : integerMagnitude k < infinityMagnitude := by
  have hle : integerMagnitude k ≤ 1076 * exponentWeight := by
    refine roundMagnitude_le_of_le_units (by decide) Nat.one_pos ?_
    rw [Nat.mul_one, unitsOfMagnitude_limit]
    exact Nat.mul_le_mul_right _ hk
  exact Nat.lt_of_le_of_lt hle (by decide)

theorem integerMagnitude_eq_zero_iff : integerMagnitude k = 0 ↔ k = 0 := by
  rw [← unitsOfMagnitude_inj, unitsOfMagnitude_integer hk, unitsOfMagnitude_zero, Nat.mul_eq_zero,
    or_iff_left (Nat.ne_of_gt unitsPerOne_pos)]

theorem isZero_integer : (ofInt k).isZero = decide (k = 0) := by
  rw [ofInt_natCast, isZero_ofParts integerMagnitude_le_infinity,
    decide_eq_decide.2 (integerMagnitude_eq_zero_iff hk)]

end Integer

theorem sumMagnitude_integers {xs : List Binary64} {ks : List Nat}
    (h : List.Forall₂ (fun (x : Binary64) k => x.units = (k * unitsPerOne : Nat)) xs ks) {k : Nat}
    (hk : k + ks.sum ≤ 2 ^ 53) :
    sumMagnitude (integerMagnitude k) xs = integerMagnitude (k + ks.sum) := by
  induction h generalizing k with
  | nil => rw [List.sum_nil, Nat.add_zero, sumMagnitude_nil]
  | @cons x l xs ks hx _ ih =>
    rw [List.sum_cons, ← Nat.add_assoc] at hk ⊢
    have hadd : addMagnitude (integerMagnitude k) x = integerMagnitude (k + l) := by
      rw [addMagnitude, unitsOfMagnitude_integer (by omega), hx, Int.toNat_natCast,
        integerMagnitude, Nat.add_mul]
    rw [sumMagnitude_cons, hadd, ih hk]

/-- A sum of integers up to `2 ^ 53` is exact. -/
theorem sum_integers {xs : List Binary64} {ks : List Nat} (hxs : ∀ x ∈ xs, x.IsWeight)
    (h : List.Forall₂ (fun (x : Binary64) k => x.units = (k * unitsPerOne : Nat)) xs ks)
    (hks : ks.sum ≤ 2 ^ 53) : sum xs = ofInt ks.sum := by
  have hsum : sumMagnitude 0 xs = integerMagnitude ks.sum := by
    simpa using sumMagnitude_integers h (k := 0) (by omega)
  rw [sum_eq_ofParts hxs, hsum, ofInt_natCast]

/-! ## Parts of a sum -/

theorem unitsOfMagnitude_one : unitsOfMagnitude one.magnitude = unitsPerOne := by
  decide +kernel

theorem unitsOfMagnitude_pos {m : Nat} (h : m ≠ 0) : 0 < unitsOfMagnitude m :=
  Nat.zero_lt_of_lt (unitsOfMagnitude_lt_of_lt (Nat.pos_of_ne_zero h))

/-- The magnitude of a quotient of two finite numbers given by theirs. -/
def divMagnitude (p t : Nat) : Nat :=
  roundMagnitude (unitsOfMagnitude p * unitsPerOne) (unitsOfMagnitude t)

section Quotient

variable {p t : Nat} (hp : p < infinityMagnitude) (ht : t ≤ infinityMagnitude)
include hp ht

theorem div_ofParts (hpos : t ≠ 0) (hfinite : t ≠ infinityMagnitude) :
    (ofParts false p).div (ofParts false t) = ofParts false (divMagnitude p t) := by
  have hp' := Nat.le_of_lt hp
  rw [div, isNaN_ofParts hp', isNaN_ofParts ht, isInfinite_ofParts hp', isInfinite_ofParts ht,
    isZero_ofParts ht, decide_eq_false (Nat.ne_of_lt hp), decide_eq_false hfinite,
    decide_eq_false hpos, isNegative_ofParts hp', isNegative_ofParts ht, natAbs_units, natAbs_units,
    magnitude_ofParts hp', magnitude_ofParts ht]
  simp only [Bool.or_self, Bool.false_eq_true, if_false, bne_self_eq_false, ofQuotient,
    divMagnitude]

theorem div_ofParts_infinity (hinfinite : t = infinityMagnitude) :
    (ofParts false p).div (ofParts false t) = ofParts false 0 := by
  have hp' := Nat.le_of_lt hp
  rw [div, isNaN_ofParts hp', isNaN_ofParts ht, isInfinite_ofParts hp', isInfinite_ofParts ht,
    decide_eq_false (Nat.ne_of_lt hp), decide_eq_true hinfinite, isNegative_ofParts hp',
    isNegative_ofParts ht]
  simp only [Bool.or_self, Bool.false_eq_true, if_false, if_true, bne_self_eq_false]

end Quotient

theorem isFraction_ofParts {m : Nat} (h : m ≤ one.magnitude) : (ofParts false m).IsFraction := by
  have hfinite : m < infinityMagnitude := Nat.lt_of_le_of_lt h (by decide)
  have hunits : (ofParts false m).units = unitsOfMagnitude m := by
    rw [units_ofParts (Nat.le_of_lt hfinite), if_neg Bool.false_ne_true]
  refine ⟨?_, ?_, ?_⟩
  · rw [isFinite_ofParts (Nat.le_of_lt hfinite)]
    exact decide_eq_true hfinite
  · rw [hunits]
    exact Int.natCast_nonneg _
  · rw [hunits, ← unitsOfMagnitude_one]
    exact Int.ofNat_le.2 (unitsOfMagnitude_le_of_le h)

/-- A part of a sum that has not run over is a fraction of the sum. -/
theorem isFraction_div {p t : Nat} (hp : p < infinityMagnitude) (ht : t ≤ infinityMagnitude)
    (hpos : t ≠ 0) (hpt : p ≤ t) : ((ofParts false p).div (ofParts false t)).IsFraction := by
  by_cases hinfinite : t = infinityMagnitude
  · -- anything finite is nothing of infinity
    rw [div_ofParts_infinity hp ht hinfinite]
    exact isFraction_ofParts (Nat.zero_le _)
  · rw [div_ofParts hp ht hpos hinfinite]
    refine isFraction_ofParts ?_
    refine roundMagnitude_le_of_le_units (by decide) (unitsOfMagnitude_pos hpos) ?_
    rw [unitsOfMagnitude_one, Nat.mul_comm]
    exact Nat.mul_le_mul_left _ (unitsOfMagnitude_le_of_le hpt)

/-- Nothing can be said of a part of a sum if both have run over. -/
theorem isNaN_div_infinity :
    ((ofParts false infinityMagnitude).div (ofParts false infinityMagnitude)).isNaN = true := by
  decide

/-! ## Parts of integers -/

/-- The magnitude of a part of an integer. -/
def partMagnitude (p t : Nat) : Nat :=
  roundMagnitude (p * unitsPerOne) t

theorem partMagnitude_le_infinity {p t : Nat} : partMagnitude p t ≤ infinityMagnitude := by
  rw [partMagnitude]
  exact roundMagnitude_le_infinity _ _

section Integers

variable {p t : Nat} (hpt : p ≤ t) (ht : t ≤ 2 ^ 53) (hpos : 0 < t)

include hpos in
theorem partMagnitude_self : partMagnitude t t = one.magnitude := by
  rw [partMagnitude, Nat.mul_comm, ← unitsOfMagnitude_one,
    roundMagnitude_unitsOfMagnitude_mul (by decide) hpos]

/-- What is less than one by `2 ^ -53` or more is not rounded to one. -/
theorem partMagnitude_lt (hlt : p < t) (ht : t ≤ 2 ^ 53) : partMagnitude p t < one.magnitude := by
  have hbelow : unitsOfMagnitude (one.magnitude - 1) * 2 ^ 53 = (2 ^ 53 - 1) * unitsPerOne := by
    decide +kernel
  have hparts : p * 2 ^ 53 ≤ (2 ^ 53 - 1) * t := by omega
  have hle : p * unitsPerOne ≤ unitsOfMagnitude (one.magnitude - 1) * t := by
    refine Nat.le_of_mul_le_mul_right ?_ (Nat.two_pow_pos 53)
    calc p * unitsPerOne * 2 ^ 53
        = p * 2 ^ 53 * unitsPerOne := Nat.mul_right_comm ..
      _ ≤ (2 ^ 53 - 1) * t * unitsPerOne := Nat.mul_le_mul_right _ hparts
      _ = unitsOfMagnitude (one.magnitude - 1) * t * 2 ^ 53 := by
        rw [Nat.mul_right_comm, ← hbelow, Nat.mul_right_comm]
  have hround : partMagnitude p t ≤ one.magnitude - 1 :=
    roundMagnitude_le_of_le_units (by decide) (Nat.zero_lt_of_lt hlt) hle
  have hone : 0 < one.magnitude := by decide
  omega

include ht hpos in
theorem partMagnitude_eq_zero_iff : partMagnitude p t = 0 ↔ p = 0 := by
  have hunit : unitsOfMagnitude 1 = 1 := by decide
  have hlimit : 2 ^ 53 ≤ unitsPerOne := by decide +kernel
  constructor
  · intro h
    by_contra hp
    -- one part already makes more than the smallest number
    have hle : unitsOfMagnitude 1 * t ≤ p * unitsPerOne := by
      rw [hunit]
      exact Nat.mul_le_mul (Nat.pos_of_ne_zero hp) (Nat.le_trans ht hlimit)
    have hround := le_roundMagnitude_of_units_le (by decide) hpos hle
    rw [partMagnitude] at h
    omega
  · rintro rfl
    rw [partMagnitude, Nat.zero_mul]
    have hround := roundMagnitude_unitsOfMagnitude_mul (m := 0) (Nat.zero_le _) hpos
    rwa [unitsOfMagnitude_zero, Nat.zero_mul] at hround

include hpt ht hpos

theorem div_integers : (ofInt p).div (ofInt t) = ofParts false (partMagnitude p t) := by
  have hp := Nat.le_trans hpt ht
  rw [ofInt_natCast, ofInt_natCast, div_ofParts (integerMagnitude_lt_infinity hp)
    integerMagnitude_le_infinity (mt (integerMagnitude_eq_zero_iff ht).1 (Nat.ne_of_gt hpos))
    (Nat.ne_of_lt (integerMagnitude_lt_infinity ht)), divMagnitude, unitsOfMagnitude_integer hp,
    unitsOfMagnitude_integer ht, roundMagnitude_mul_right _ _ unitsPerOne_pos, partMagnitude]

theorem div_integers_eq_one_iff : (ofInt p).div (ofInt t) = one ↔ p = t := by
  rw [div_integers hpt ht hpos]
  constructor
  · intro h
    have hmagnitude := congrArg magnitude h
    rw [magnitude_ofParts partMagnitude_le_infinity] at hmagnitude
    by_contra hne
    exact Nat.ne_of_lt (partMagnitude_lt (Nat.lt_of_le_of_ne hpt hne) ht) hmagnitude
  · rintro rfl
    rw [partMagnitude_self hpos]
    rfl

theorem isZero_div_integers_iff : ((ofInt p).div (ofInt t)).isZero = true ↔ p = 0 := by
  rw [div_integers hpt ht hpos, isZero_ofParts partMagnitude_le_infinity,
    decide_eq_true_iff, partMagnitude_eq_zero_iff ht hpos]

end Integers

end RecordQuery.Binary64
