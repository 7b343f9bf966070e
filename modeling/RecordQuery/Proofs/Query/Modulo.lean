import RecordQuery.Proofs.Binary64.Remainder
import RecordQuery.Proofs.Compile.Attribute
import RecordQuery.Proofs.Value.Integers

/-!
# Remainders of integers

`$mod` divides the binary64 numbers that are nearest to its operands and to the attribute. The
division leaves an exact remainder, so integers that are binary64 numbers are divided as integers
(`Document.answers_modulo`); others may be replaced by a neighbour with another remainder.
-/

namespace RecordQuery

/-! ## Integers as binary64 numbers -/

theorem Number.toBinary64_of_integer? {a : Number} {m : Int}
    (h : (Value.number a).integer? = some m) : a.toBinary64 = .ofInt m := by
  cases a with
  | signed n | unsigned n =>
    obtain rfl := Option.some.inj h
    rfl
  | real x => cases h

theorem Number.natAbs_le_of_integer? {a : Number} {m : Int}
    (h : (Value.number a).integer? = some m) : m.natAbs ≤ 2 ^ 64 := by
  cases a with
  | signed n =>
    obtain rfl := Option.some.inj h
    have hlow := n.le_toInt
    have hhigh := n.toInt_lt
    omega
  | unsigned n =>
    obtain rfl := Option.some.inj h
    have hhigh := n.toNat_lt
    omega
  | real x => cases h

section Attribute

variable {n : Int} (low : -signedLimit ≤ n) (high : n < unsignedLimit)

theorem Numeral.toBinary64_toNumber :
    (Numeral.integer n low high).toNumber.toBinary64 = .ofInt n := by
  by_cases h : n < signedLimit
  · rw [toNumber_of_lt low high h, Number.toBinary64, toInt_ofInt_of_lt low h]
  · have h := Int.not_lt.1 h
    rw [toNumber_of_le low high h, Number.toBinary64, toNat_ofNat_of_le high h]

/-! ## Division -/

variable {d r : Int} {divisor remainder : Number} (hd : (Value.number divisor).integer? = some d)
  (hr : (Value.number remainder).integer? = some r)
include hd hr

/-- What is compared are the values of binary64 numbers. -/
theorem Operand.remains_iff :
    (Operand.pair (.number divisor) (.number remainder)).remains
        (some (.number (.integer n low high))) = true ↔
      d ≠ 0 ∧ (Binary64.ofInt n).units.tmod (Binary64.ofInt d).units =
        (Binary64.ofInt r).units := by
  have hfinite : (Binary64.ofInt n).isFinite = true := by
    rw [signedLimit] at low
    rw [unsignedLimit] at high
    exact Binary64.isFinite_ofInt (by omega)
  have hdfinite : (Binary64.ofInt d).isFinite = true :=
    Binary64.isFinite_ofInt (Number.natAbs_le_of_integer? hd)
  have hzero : (Binary64.ofInt d).units ≠ 0 ↔ d ≠ 0 := by
    refine not_congr ⟨Binary64.eq_zero_of_units_ofInt, ?_⟩
    rintro rfl
    exact (Binary64.holdsExactly_of_le (n := 0) (by decide)).trans (Int.zero_mul _)
  rw [remains, Numeral.toBinary64_toNumber low high, Number.toBinary64_of_integer? hd,
    Number.toBinary64_of_integer? hr,
    Binary64.rem_equals_iff hfinite hdfinite (Binary64.isNaN_ofInt r), hzero]

end Attribute

/-- Numbers that keep their value are divided as integers. -/
theorem Binary64.tmod_units_ofInt_iff {n d r : Int} (hn : HoldsExactly n) (hd : HoldsExactly d)
    (hr : HoldsExactly r) :
    (ofInt n).units.tmod (ofInt d).units = (ofInt r).units ↔ n.tmod d = r := by
  have hpos : (0 : Int) < unitsPerOne := Int.natCast_pos.2 unitsPerOne_pos
  rw [hn, hd, hr, Int.mul_comm n, Int.mul_comm d, Int.mul_comm r, Int.mul_tmod_mul_of_pos _ _ hpos]
  exact Int.mul_eq_mul_left_iff (Int.ne_of_gt hpos)

/-! ## What `$mod` answers -/

/-- An integer attribute is divided by an integer, if it is not zero, as the binary64 numbers of the
two are, and these are divided exactly. So integers that are binary64 numbers, as all are up to
`2 ^ 53`, have the remainder that they have as integers. -/
theorem Document.answers_modulo {key : String} (hkey : Combinator.ofName? key = none) {n d r : Int}
    {low : -signedLimit ≤ n} {high : n < unsignedLimit} {divisor remainder : Number}
    (hd : (Value.number divisor).integer? = some d)
    (hr : (Value.number remainder).integer? = some r) (calls : Callbacks Id) {s : Subject Id}
    (hattr : (s.attr key (Path.ofKey? key)).run =
      .ok (some (.number (.integer n low high)))) :
    (∃ b, (testing key .modulo (.ofList [.number divisor, .number remainder])).Answers calls s b ∧
      (b = true ↔ d ≠ 0 ∧ (Binary64.ofInt n).units.tmod (Binary64.ofInt d).units =
        (Binary64.ofInt r).units) ∧
      (Binary64.HoldsExactly n → Binary64.HoldsExactly d → Binary64.HoldsExactly r →
        (b = true ↔ d ≠ 0 ∧ n.tmod d = r))) ∧
    ∀ m : Int, m.natAbs ≤ 2 ^ 53 → Binary64.HoldsExactly m := by
  have hshape : Operator.modulo.shape = .pair := rfl
  have hanswers := answers_testing hkey
    (statesTest_pair hshape (.number divisor) (.number remainder)) calls hattr
  have hremains := Operand.remains_iff low high hd hr
  refine ⟨⟨_, hanswers, hremains, fun hn hd' hr' => ?_⟩, fun _ => Binary64.holdsExactly_of_le⟩
  rw [← Binary64.tmod_units_ofInt_iff hn hd' hr']
  exact hremains

/-- The least integer leaves the remainder `-2` if it is divided by three. -/
theorem Document.answers_modulo_negative :
    let calls : Callbacks Id := fun _ _ _ => .error "none"
    let n : Json := .number (.integer (-signedLimit) (by decide) (by decide))
    let s : Subject Id := .of .property (Json.ofFields (.singleton "a" n))
    (testing "a" .modulo (.ofList [.number (.signed 3), .number (.signed (-2))])).Answers calls s
      true := by
  intro calls n s
  have hkey : Combinator.ofName? "a" = none := rfl
  have hdivisor : (Value.number (.signed 3)).integer? = some 3 := rfl
  have hremainder : (Value.number (.signed (-2))).integer? = some (-2) := rfl
  have hattr : (s.attr "a" (Path.ofKey? "a")).run = .ok (some n) := rfl
  obtain ⟨⟨b, hb, hunits, -⟩, -⟩ := answers_modulo hkey hdivisor hremainder calls hattr
  have htrue : b = true := hunits.2 ⟨by decide, by decide +kernel⟩
  rwa [htrue] at hb

/-- The nearest binary64 number to an odd integer past `2 ^ 53` is even. -/
theorem Document.answers_modulo_odd :
    let calls : Callbacks Id := fun _ _ _ => .error "none"
    let n : Json := .number (.integer 0x20000000000001 (by decide) (by decide))
    let s : Subject Id := .of .property (Json.ofFields (.singleton "a" n))
    (0x20000000000001 : Int).tmod 2 = 1 ∧
      (testing "a" .modulo (.ofList [.number (.signed 2), .number (.signed 1)])).Answers calls s
        false := by
  intro calls n s
  have hkey : Combinator.ofName? "a" = none := rfl
  have hshape : Operator.modulo.shape = .pair := rfl
  have hattr : (s.attr "a" (Path.ofKey? "a")).run = .ok (some n) := rfl
  have hanswers := answers_testing hkey
    (statesTest_pair hshape (.number (.signed 2)) (.number (.signed 1))) calls hattr
  have hremains : (Operand.pair (.number (.signed 2)) (.number (.signed 1))).remains (some n) =
      false := by
    decide +kernel
  refine ⟨by decide, ?_⟩
  rw [← hremains]
  exact hanswers

end RecordQuery
