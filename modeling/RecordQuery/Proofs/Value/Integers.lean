import RecordQuery.Proofs.Binary64.Monotone
import RecordQuery.Query.Condition

/-!
# Comparing integers

An integer attribute is compared with the integer of a value exactly, unless the two are held in
different ways and no binary64 number tells them apart, or the attribute is past the last instant
and the value is that instant. `Value.blurs` says when this is so; the two then count as equal.
-/

namespace RecordQuery

/-- The integer that a value stands for: a number that is held as one, or an instant in
milliseconds. -/
def Value.integer? : Value → Option Int
  | .number (.signed m) => some m.toInt
  | .number (.unsigned m) => some m.toNat
  | .date t => some t.millis.toInt
  | _ => none

/-- Whether the integer attribute `n` counts as equal to the value without being compared with it as
an integer. -/
def Value.blurs (n : Int) : Value → Bool
  -- an attribute is held with a sign exactly if it fits
  | .number (.signed m) => signedLimit ≤ n && Binary64.ofInt n = Binary64.ofInt m.toInt
  | .number (.unsigned m) => n < signedLimit && Binary64.ofInt n = Binary64.ofInt m.toNat
  | .date t => signedLimit ≤ n && t.millis.toInt = signedLimit - 1
  | _ => false

/-! ## Equality and order -/

/-- The value is of a kind that attributes are in an order with. -/
def Value.IsOrdered : Value → Prop
  | .bool _ | .number _ | .string _ | .date _ => True
  | _ => False

theorem Value.isOrdered_of_integer? {v : Value} {m : Int} (h : v.integer? = some m) :
    v.IsOrdered := by
  cases v with
  | number _ | date _ => trivial
  | _ => cases h

theorem Timestamp.compare_eq_eq_iff {t t' : Timestamp} : t.compare t' = .eq ↔ t = t' := by
  obtain ⟨millis⟩ := t
  obtain ⟨millis'⟩ := t'
  rw [Timestamp.compare, Int.compare_eq_eq, Int64.toInt_inj, Timestamp.mk.injEq]

/-- An attribute of any kind may give an instant. -/
theorem Json.order?_instant (a : Json) (t : Timestamp) :
    a.order? (.date t) = (Timestamp.ofAttribute? a).map (·.compare t) := by
  cases a <;> rfl

/-- What is in the order of equals is equal, and nothing else is. -/
theorem Json.strictEq_eq_order? {v : Value} (hv : v.IsOrdered) (a : Json) :
    a.strictEq v = (a.order? v == some .eq) := by
  cases v with
  | number _ => cases a <;> rfl
  | bool b =>
    cases a with
    | bool a =>
      rw [Json.strictEq, Json.order?, Bool.eq_iff_iff, beq_iff_eq, beq_iff_eq, Option.some.injEq,
        Std.compare_eq_iff_eq]
    | _ => rfl
  | string b =>
    cases a with
    | string a =>
      rw [Json.strictEq, Json.order?, Bool.eq_iff_iff, beq_iff_eq, beq_iff_eq, Option.some.injEq,
        Std.compare_eq_iff_eq]
    | _ => rfl
  | date t =>
    have hequal : a.strictEq (.date t) = (Timestamp.ofAttribute? a == some t) := by
      cases a <;> rfl
    rw [hequal, order?_instant]
    cases Timestamp.ofAttribute? a with
    | none => rfl
    | some instant =>
      rw [Option.map_some, Bool.eq_iff_iff, beq_iff_eq, beq_iff_eq, Option.some.injEq,
        Option.some.injEq, Timestamp.compare_eq_eq_iff]
  | _ => cases hv

/-! ## As binary64 numbers -/

namespace Binary64

/-- No other integer has zero for its binary64 number. -/
theorem eq_zero_of_units_ofInt {n : Int} (h : (ofInt n).units = 0) : n = 0 := by
  have hsmall : n.natAbs < 2 ^ 53 := by
    refine Nat.lt_of_not_le fun hlarge => ?_
    have hunits := le_natAbs_units_ofInt hlarge
    rw [h, Int.natAbs_zero] at hunits
    exact absurd hunits (Nat.not_le_of_lt (Nat.mul_pos (by decide) unitsPerOne_pos))
  rw [units_ofInt hsmall] at h
  exact (Int.mul_eq_zero.1 h).resolve_right
    (Int.natCast_ne_zero.2 (Nat.ne_of_gt unitsPerOne_pos))

theorem ofInt_eq_of_units_eq {a b : Int} (h : (ofInt a).units = (ofInt b).units) :
    ofInt a = ofInt b := by
  cases hzero : (ofInt a).isZero with
  | false => exact eq_of_units_eq h hzero
  | true =>
    have ha : (ofInt a).units = 0 := isZero_iff.1 hzero
    have hb : (ofInt b).units = 0 := h ▸ ha
    rw [eq_zero_of_units_ofInt ha, eq_zero_of_units_ofInt hb]

/-- Two integers are in the order of their binary64 numbers if these differ. -/
theorem compare_ofInt (a b : Int) :
    (ofInt a).compare (ofInt b) =
      some (if ofInt a = ofInt b then .eq else Ord.compare a b) := by
  rw [compare, isNaN_ofInt, isNaN_ofInt]
  by_cases hsame : ofInt a = ofInt b
  · rw [if_pos hsame, hsame]
    simp
  · have hunits : (ofInt a).units ≠ (ofInt b).units := fun h => hsame (ofInt_eq_of_units_eq h)
    rw [if_neg hsame]
    rcases Int.lt_trichotomy a b with hlt | rfl | hgt
    · have hle := units_ofInt_le_of_le (Int.le_of_lt hlt)
      rw [Int.compare_eq_lt.2 hlt, Int.compare_eq_lt.2 (by omega)]
      rfl
    · exact absurd rfl hsame
    · have hle := units_ofInt_le_of_le (Int.le_of_lt hgt)
      rw [Int.compare_eq_gt.2 hgt, Int.compare_eq_gt.2 (by omega)]
      rfl

/-- Different integers that share a binary64 number are both large. -/
theorem le_natAbs_of_ofInt_eq {a b : Int} (h : ofInt a = ofInt b) (hne : a ≠ b) :
    2 ^ 53 ≤ a.natAbs := by
  refine Nat.le_of_not_lt fun ha => hne ?_
  have hunits : a * unitsPerOne = (ofInt b).units := by rw [← h, units_ofInt ha]
  have hb : b.natAbs < 2 ^ 53 := by
    refine Nat.lt_of_not_le fun hlarge => ?_
    have := le_natAbs_units_ofInt hlarge
    rw [← hunits, Int.natAbs_mul, Int.natAbs_natCast] at this
    exact absurd (Nat.le_of_mul_le_mul_right this unitsPerOne_pos) (Nat.not_le_of_lt ha)
  rw [units_ofInt hb] at hunits
  exact Int.eq_of_mul_eq_mul_right (Int.natCast_ne_zero.2 (Nat.ne_of_gt unitsPerOne_pos)) hunits

theorem clampInt64_of_le {n : Int} (h : signedLimit ≤ n) :
    (clampInt64 n).toInt = signedLimit - 1 := by
  rw [signedLimit] at h
  have hclamp : max (-0x8000000000000000) (min 0x7fffffffffffffff n) = 0x7fffffffffffffff := by
    omega
  rw [clampInt64, hclamp]
  decide

theorem units_signedLimit : (ofInt signedLimit).units = signedLimit * unitsPerOne := by
  decide +kernel

/-- The integer part of a number past the 64-bit range is cut to the last one in it. -/
theorem toInt64_ofInt {n : Int} (h : signedLimit ≤ n) :
    (ofInt n).toInt64.toInt = signedLimit - 1 := by
  have hpos : (0 : Int) < unitsPerOne := Int.natCast_pos.2 unitsPerOne_pos
  have hunits : signedLimit * unitsPerOne ≤ (ofInt n).units := by
    rw [← units_signedLimit]
    exact units_ofInt_le_of_le h
  have hnonneg : 0 ≤ (ofInt n).units := Int.le_trans (Int.mul_nonneg (by decide) hpos.le) hunits
  rw [toInt64, isNaN_ofInt, if_neg Bool.false_ne_true]
  refine clampInt64_of_le ?_
  rw [Int.tdiv_eq_ediv_of_nonneg hnonneg]
  exact (Int.le_ediv_iff_mul_le hpos).2 hunits

end Binary64

/-! ## As integers and instants -/

section Attribute

variable {n m : Int} (low : -signedLimit ≤ n) (high : n < unsignedLimit)

theorem Numeral.toNumber_of_lt (h : n < signedLimit) :
    (Numeral.integer n low high).toNumber = .signed (.ofInt n) :=
  if_pos h

theorem Numeral.toNumber_of_le (h : signedLimit ≤ n) :
    (Numeral.integer n low high).toNumber = .unsigned (.ofNat n.toNat) :=
  if_neg (Int.not_lt.2 h)

include low in
theorem toInt_ofInt_of_lt (h : n < signedLimit) : (Int64.ofInt n).toInt = n := by
  rw [signedLimit] at low h
  exact Int64.toInt_ofInt_of_le (by omega) (by omega)

include high in
theorem toNat_ofNat_of_le (h : signedLimit ≤ n) : ((UInt64.ofNat n.toNat).toNat : Int) = n := by
  rw [unsignedLimit] at high
  rw [signedLimit] at h
  have hfits : n.toNat < UInt64.size := by
    show n.toNat < 2 ^ 64
    omega
  rw [UInt64.toNat_ofNat_of_lt' hfits]
  omega

/-- An attribute past the last instant counts as the last one. -/
theorem Timestamp.exists_ofAttribute?_integer :
    ∃ t, Timestamp.ofAttribute? (.number (.integer n low high)) = some t ∧
      t.millis.toInt = min n (signedLimit - 1) := by
  refine ⟨_, rfl, ?_⟩
  by_cases h : n < signedLimit
  · have hfits : (Numeral.integer n low high).toInt64? = some (.ofInt n) := if_pos h
    rw [hfits, Option.getD_some, toInt_ofInt_of_lt low h]
    omega
  · have h := Int.not_lt.1 h
    have hfits : (Numeral.integer n low high).toInt64? = none := if_neg (Int.not_lt.2 h)
    rw [hfits, Option.getD_none, Numeral.toNumber_of_le low high h, Number.toBinary64,
      toNat_ofNat_of_le high h, Binary64.toInt64_ofInt h]
    omega

/-! ## The order of integers -/

theorem Number.compare_signed_unsigned (a : Int64) (b : UInt64) :
    (Number.signed a).compare (.unsigned b) =
      (Binary64.ofInt a.toInt).compare (.ofInt b.toNat) :=
  rfl

theorem Number.compare_unsigned_signed (a : UInt64) (b : Int64) :
    (Number.unsigned a).compare (.signed b) =
      (Binary64.ofInt a.toNat).compare (.ofInt b.toInt) :=
  rfl

theorem Number.compare_unsigned (a b : UInt64) :
    (Number.unsigned a).compare (.unsigned b) = some (Ord.compare (a.toNat : Int) b.toNat) := by
  show some (Ord.compare a.toNat b.toNat) = _
  rcases Nat.lt_trichotomy a.toNat b.toNat with hlt | heq | hgt
  · rw [Nat.compare_eq_lt.2 hlt, Int.compare_eq_lt.2 (Int.ofNat_lt.2 hlt)]
  · rw [Nat.compare_eq_eq.2 heq, Int.compare_eq_eq.2 (congrArg _ heq)]
  · rw [Nat.compare_eq_gt.2 hgt, Int.compare_eq_gt.2 (Int.ofNat_lt.2 hgt)]

theorem Json.order?_signed (m : Int64) :
    (Json.number (.integer n low high)).order? (.number (.signed m)) =
      some (if (Value.number (.signed m)).blurs n then .eq else compare n m.toInt) := by
  rw [Json.order?]
  by_cases h : n < signedLimit
  · have hexact : (Value.number (.signed m)).blurs n = false := by
      simp [Value.blurs, Int.not_le.2 h]
    rw [Numeral.toNumber_of_lt low high h, Number.compare, toInt_ofInt_of_lt low h, hexact]
    rfl
  · have h := Int.not_lt.1 h
    rw [Numeral.toNumber_of_le low high h, Number.compare_unsigned_signed,
      toNat_ofNat_of_le high h, Binary64.compare_ofInt]
    simp [Value.blurs, h]

theorem Json.order?_unsigned (m : UInt64) :
    (Json.number (.integer n low high)).order? (.number (.unsigned m)) =
      some (if (Value.number (.unsigned m)).blurs n then .eq else compare n (m.toNat : Int)) := by
  rw [Json.order?]
  by_cases h : n < signedLimit
  · rw [Numeral.toNumber_of_lt low high h, Number.compare_signed_unsigned,
      toInt_ofInt_of_lt low h, Binary64.compare_ofInt]
    simp [Value.blurs, h]
  · have hexact : (Value.number (.unsigned m)).blurs n = false := by simp [Value.blurs, h]
    have h := Int.not_lt.1 h
    rw [Numeral.toNumber_of_le low high h, Number.compare_unsigned, toNat_ofNat_of_le high h,
      hexact]
    rfl

theorem Json.order?_date (t : Timestamp) :
    (Json.number (.integer n low high)).order? (.date t) =
      some (if (Value.date t).blurs n then .eq else compare n t.millis.toInt) := by
  obtain ⟨instant, hinstant, hmillis⟩ := Timestamp.exists_ofAttribute?_integer low high
  have hlast : t.millis.toInt < signedLimit := t.millis.toInt_lt
  rw [Json.order?, hinstant, Option.map_some, Timestamp.compare, hmillis]
  congr 1
  by_cases h : signedLimit ≤ n
  · rw [min_eq_right (by omega)]
    by_cases ht : t.millis.toInt = signedLimit - 1
    · simp [Value.blurs, h, ht]
    · rw [Int.compare_eq_gt.2 (by omega), Int.compare_eq_gt.2 (by omega)]
      simp [Value.blurs, ht]
  · rw [min_eq_left (by omega)]
    simp [Value.blurs, h]

variable {v : Value} (hv : v.integer? = some m)
include hv

theorem Json.order?_integer :
    (Json.number (.integer n low high)).order? v =
      some (if v.blurs n then .eq else compare n m) := by
  match v with
  | .number (.signed m) =>
    obtain rfl := Option.some.inj hv
    exact order?_signed low high m
  | .number (.unsigned m) =>
    obtain rfl := Option.some.inj hv
    exact order?_unsigned low high m
  | .date t =>
    obtain rfl := Option.some.inj hv
    exact order?_date low high t

theorem Json.strictEq_integer :
    (Json.number (.integer n low high)).strictEq v = true ↔ n = m ∨ v.blurs n = true := by
  rw [strictEq_eq_order? (Value.isOrdered_of_integer? hv), order?_integer low high hv, beq_iff_eq,
    Option.some.injEq]
  cases v.blurs n with
  | true => simp
  | false => simp

/-- Integers that count as equal without being so are both large. -/
theorem Value.large_of_blurs (h : v.blurs n = true) (hne : n ≠ m) :
    2 ^ 53 ≤ n.natAbs ∧ 2 ^ 53 ≤ m.natAbs := by
  match v with
  | .number (.signed m) | .number (.unsigned m) =>
    obtain rfl := Option.some.inj hv
    rw [blurs, Bool.and_eq_true, decide_eq_true_iff, decide_eq_true_iff] at h
    exact ⟨Binary64.le_natAbs_of_ofInt_eq h.2 hne, Binary64.le_natAbs_of_ofInt_eq h.2.symm hne.symm⟩
  | .date t =>
    obtain rfl := Option.some.inj hv
    rw [blurs, Bool.and_eq_true, decide_eq_true_iff, decide_eq_true_iff, signedLimit] at h
    omega

end Attribute

/-! ## Conditions on integers -/

/-- The value stands for the integer `m`, and an attribute `n` is compared with it exactly. -/
structure Value.StandsFor (n m : Int) (v : Value) : Prop where
  integer : v.integer? = some m
  exact : v.blurs n = false

/-- Conditions whose operands are integers and instants ask of the attribute what they ask of the
integer `n`. -/
structure Json.MatchesAs (a : Json) (n : Int) : Prop where
  equal {key : String} {v : Value} {m : Int} (h : v.StandsFor n m) :
    (Condition.ofKey key .equal (.value v)).matches (some a) = true ↔ n = m
  less {key : String} {v : Value} {m : Int} (h : v.StandsFor n m) :
    (Condition.ofKey key .less (.value v)).matches (some a) = true ↔ n < m
  lessEqual {key : String} {v : Value} {m : Int} (h : v.StandsFor n m) :
    (Condition.ofKey key .lessEqual (.value v)).matches (some a) = true ↔ n ≤ m
  greater {key : String} {v : Value} {m : Int} (h : v.StandsFor n m) :
    (Condition.ofKey key .greater (.value v)).matches (some a) = true ↔ m < n
  greaterEqual {key : String} {v : Value} {m : Int} (h : v.StandsFor n m) :
    (Condition.ofKey key .greaterEqual (.value v)).matches (some a) = true ↔ m ≤ n
  between {key : String} {low high : Value} {l h : Int} (hlow : low.StandsFor n l)
    (hhigh : high.StandsFor n h) :
    (Condition.ofKey key .between (.pair low high)).matches (some a) = true ↔ l < n ∧ n < h
  isIn {key : String} {items : List Value} (h : ∀ v ∈ items, ∃ m, v.StandsFor n m) :
    (Condition.ofKey key .isIn (.list items)).matches (some a) = true ↔
      ∃ v ∈ items, v.integer? = some n
  date {key : String} {t : Timestamp} (h : (Value.date t).StandsFor n t.millis.toInt) :
    (Condition.ofKey key .date (.value (.date t))).matches (some a) = true ↔ n = t.millis.toInt

section Conditions

variable {n m : Int} (low : -signedLimit ≤ n) (high : n < unsignedLimit) {v : Value}
  (h : v.StandsFor n m)
include h

theorem Value.StandsFor.order?_eq :
    (Json.number (.integer n low high)).order? v = some (compare n m) := by
  rw [Json.order?_integer low high h.integer, h.exact]
  rfl

theorem Value.StandsFor.strictEq_iff :
    (Json.number (.integer n low high)).strictEq v = true ↔ n = m := by
  rw [Json.strictEq_integer low high h.integer, h.exact]
  simp

theorem Value.StandsFor.isNull_eq : v.isNull = false := by
  have hv := h.integer
  cases v with
  | null => cases hv
  | _ => rfl

theorem Value.StandsFor.orders_eq (accept : Ordering → Bool) :
    (Operand.value v).orders accept (some (.number (.integer n low high))) =
      accept (compare n m) := by
  rw [Operand.orders, h.order?_eq low high, h.isNull_eq]
  rfl

end Conditions

/-- An integer attribute is compared with an integer or an instant as the two are, but for those
that count as equal, and these are large. -/
theorem Json.matchesAs_integer {n : Int} (low : -signedLimit ≤ n) (high : n < unsignedLimit) :
    let a : Json := .number (.integer n low high)
    (∀ (v : Value) (m : Int), v.integer? = some m →
      a.order? v = some (if v.blurs n then .eq else compare n m) ∧
      (a.strictEq v = true ↔ n = m ∨ v.blurs n = true) ∧
      (v.blurs n = true → n ≠ m → 2 ^ 53 ≤ n.natAbs ∧ 2 ^ 53 ≤ m.natAbs)) ∧
    a.MatchesAs n := by
  intro a
  refine ⟨fun v m hv => ⟨order?_integer low high hv, strictEq_integer low high hv,
    Value.large_of_blurs hv⟩, ?_⟩
  constructor
  case equal => exact fun h => h.strictEq_iff low high
  case less =>
    intro key v m h
    have htest := Bool.eq_iff_iff.1 (h.orders_eq low high (·.isLT))
    rwa [Ordering.isLT_iff_eq_lt, Int.compare_eq_lt] at htest
  case lessEqual =>
    intro key v m h
    exact (Bool.eq_iff_iff.1 (h.orders_eq low high (·.isLE))).trans Std.isLE_compare
  case greater =>
    intro key v m h
    have htest := Bool.eq_iff_iff.1 (h.orders_eq low high (·.isGT))
    rwa [Ordering.isGT_iff_eq_gt, Int.compare_eq_gt] at htest
  case greaterEqual =>
    intro key v m h
    exact (Bool.eq_iff_iff.1 (h.orders_eq low high (·.isGE))).trans Std.isGE_compare
  case between =>
    intro key low' high' l u hl hu
    show Operand.bounds _ _ (.pair low' high') (some a) = true ↔ _
    rw [Operand.bounds, hl.isNull_eq, hu.isNull_eq, hl.order?_eq low high, hu.order?_eq low high]
    simp [Ordering.isGT_iff_eq_gt, Ordering.isLT_iff_eq_lt, Int.compare_eq_gt, Int.compare_eq_lt]
  case isIn =>
    intro key items h
    show (items.any fun v => a.strictEq v) = true ↔ _
    rw [List.any_eq_true]
    refine exists_congr fun v => and_congr_right fun hv => ?_
    obtain ⟨m, hm⟩ := h v hv
    rw [hm.strictEq_iff low high, hm.integer, Option.some.injEq, eq_comm]
  case date =>
    intro key t h
    exact h.strictEq_iff low high

/-- One past `2 ^ 53` is told from `2 ^ 53`, which has the same binary64 number. -/
theorem Json.matchesAs_integer_odd :
    let n : Int := 0x20000000000001
    let m : Int := 0x20000000000000
    let v : Value := .number (.signed (.ofInt m))
    (-signedLimit ≤ n ∧ n < unsignedLimit ∧ v.integer? = some m) ∧
      Binary64.ofInt n = Binary64.ofInt m ∧
      ∀ (low : -signedLimit ≤ n) (high : n < unsignedLimit),
        (Json.number (.integer n low high)).order? v = some .gt ∧
          (Json.number (.integer n low high)).strictEq v = false ∧
          (Json.number (.integer n low high)).MatchesAs n := by
  intro n m v
  have hexact : v.blurs n = false := by decide
  refine ⟨⟨by decide, by decide, rfl⟩, by decide +kernel, fun low high => ?_⟩
  obtain ⟨hall, hmatches⟩ := Json.matchesAs_integer low high
  obtain ⟨horder, hequal, -⟩ := hall v m rfl
  rw [hexact] at horder hequal
  refine ⟨horder, Bool.eq_false_iff.2 fun h => ?_, hmatches⟩
  rcases hequal.1 h with h | h
  · exact absurd h (by decide)
  · cases h

/-- The last integer with a sign and the first without one share their binary64 number, and nothing
is later than the last instant. -/
theorem Json.order?_integer_blurred :
    let last : Json := .number (.integer (signedLimit - 1) (by decide) (by decide))
    let next : Json := .number (.integer signedLimit (by decide) (by decide))
    let v : Value := .number (.unsigned 0x8000000000000000)
    let t : Value := .date ⟨0x7fffffffffffffff⟩
    (v.integer? = some signedLimit ∧ last.order? v ≠ some (compare (signedLimit - 1) signedLimit) ∧
      last.strictEq v = true) ∧
    t.integer? = some (signedLimit - 1) ∧
      next.order? t ≠ some (compare signedLimit (signedLimit - 1)) ∧ next.strictEq t = true := by
  decide +kernel

end RecordQuery
