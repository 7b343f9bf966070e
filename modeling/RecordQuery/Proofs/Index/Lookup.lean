import RecordQuery.Proofs.Index.Transparency
import RecordQuery.Proofs.Value.Numbers

/-!
# Lookups

An index answers for the scalars that have a key of their own, and it leaves the others to the plain
test: a NaN equals nothing, and of the numbers from `2 ^ 53` on several have one binary64 value
(`Value.IsUnindexed`). Where it answers, it names exactly the records whose attribute equals the
value, each once and in order (`EqualityIndex.lookup?_of_build`).
-/

namespace RecordQuery

/-! ## Values without an answer -/

/-- The number is `2 ^ 53` or more away from zero. -/
def Number.IsLarge (n : Number) : Prop :=
  2 ^ 53 * Binary64.unitsPerOne ≤ n.units.natAbs

/-- The values that are not looked up. -/
def Value.IsUnindexed : Value → Prop
  | .null | .bool _ | .string _ => False
  | .number n => n.isNaN = true ∨ n.IsLarge
  | .array _ _ | .object _ _ _ | .pattern _ | .date _ | .function _ => True

/-- A number and its binary64 value are on the same side of the limit. -/
theorem Number.isSmall_toBinary64_iff (n : Number) : n.toBinary64.IsSmall ↔ ¬n.IsLarge := by
  have hinteger : ∀ k : Int, (Binary64.ofInt k).IsSmall ↔
      ¬2 ^ 53 * Binary64.unitsPerOne ≤ (k * Binary64.unitsPerOne).natAbs := by
    intro k
    rw [Int.natAbs_mul, Int.natAbs_natCast, Nat.mul_le_mul_right_iff Binary64.unitsPerOne_pos]
    constructor
    · intro h hk
      exact Nat.not_le_of_lt h (Binary64.le_natAbs_units_ofInt hk)
    · intro hk
      rw [Binary64.IsSmall, Binary64.units_ofInt (Nat.lt_of_not_le hk), Int.natAbs_mul,
        Int.natAbs_natCast]
      exact Nat.mul_lt_mul_of_pos_right (Nat.lt_of_not_le hk) Binary64.unitsPerOne_pos
  cases n with
  | signed n => exact hinteger n.toInt
  | unsigned n => exact hinteger n.toNat
  | real x => exact Nat.not_le.symm

namespace IndexKey

theorem ofNumber?_eq_none_iff (n : Number) : ofNumber? n = none ↔ n.isNaN = true := by
  unfold ofNumber?
  rw [← n.isNaN_toBinary64]
  cases hnan : n.toBinary64.isNaN with
  | true => simp [hnan]
  | false =>
    simp only [hnan, Bool.false_eq_true, if_false, iff_false]
    split <;> exact nofun

theorem ofValue?_eq_none_iff (v : Value) : ofValue? v = none ↔ v.IsUnindexed := by
  cases v with
  | number n =>
    show (if (n.toBinary64.abs.compare exactLimit).any (·.isGE) then none else ofNumber? n) = none ↔
      n.isNaN = true ∨ n.IsLarge
    cases hnan : n.isNaN with
    | true =>
      have hkey : ofNumber? n = none := (ofNumber?_eq_none_iff n).2 hnan
      simp [hkey]
    | false =>
      have hkey : ofNumber? n ≠ none := by simp [ofNumber?_eq_none_iff, hnan]
      have hlarge : (n.toBinary64.abs.compare exactLimit).any (·.isGE) = true ↔ n.IsLarge := by
        rw [← not_iff_not, ← n.isSmall_toBinary64_iff]
        exact (Binary64.isSmall_iff_compare (n.isNaN_toBinary64.trans hnan)).symm
      simp [hkey, hlarge]
  | null | bool b | string s => exact iff_of_false nofun not_false
  | _ => exact iff_of_true rfl trivial

end IndexKey

/-! ## Answers -/

variable {ρ : Type} [Queryable Id ρ] {key : String} {records : List ρ} {getter : Getter Id ρ}
  {index : EqualityIndex}

/-- An index that could be built answers for a value if the value can be indexed, and the answer is
the positions of the records that pass `$equal` with it, in ascending order. -/
theorem EqualityIndex.lookup?_of_build
    (h : (EqualityIndex.build (m := Id) key records getter).run = .ok index)
    (calls : Callbacks Id) (v : Value) :
    (index.lookup? v = none ↔ v.IsUnindexed) ∧
    ∀ positions, index.lookup? v = some positions → positions.Pairwise (· < ·) ∧
      ∀ i, i ∈ positions ↔ ∃ r, records[i]? = some r ∧
        ((Condition.ofKey key .equal (.value v)).eval calls (.of getter r)).run = .ok true := by
  have hcovers : index.Covers records getter := covers_of_build h
  have hkey : key = index.key := by
    obtain ⟨attrs, -, h⟩ := run_bind_eq_ok_iff.1 h
    rw [← Except.ok.inj h]
    rfl
  constructor
  · rw [lookup?, Option.map_eq_none_iff]
    exact IndexKey.ofValue?_eq_none_iff v
  · intro positions hlookup
    rw [hcovers.finds v positions hlookup]
    refine ⟨pairwise_positionsFrom, fun i => ?_⟩
    rw [mem_positionsFrom_zero]
    apply exists_congr
    intro r
    apply and_congr_right
    intro hr
    rw [Condition.ofKey, hkey, hcovers.run_eval_equal (List.mem_of_getElem? hr), Except.ok.injEq]

/-- Three representations of one number, twice in a list. -/
theorem EqualityIndex.lookup?_of_build_repeated :
    let one : Json := .number (.integer 1 (by decide) (by decide))
    let real : Json := .number (.real .one (by decide))
    let record (json : Json) : Record Id := .ofAttributes fun _ => some json
    let records := [record (.ofList [real, one, .null]), record .null, record real]
    let v : Value := .number (.unsigned 1)
    let limit : Value := .number (.signed 0x20000000000000)
    ∃ index positions, (EqualityIndex.build (m := Id) "count" records .property).run = .ok index ∧
      index.lookup? v = some positions ∧ positions.Pairwise (· < ·) ∧
      0 ∈ positions ∧ 1 ∉ positions ∧ 2 ∈ positions ∧ index.lookup? limit = none := by
  intro one real record records v limit
  let calls : Callbacks Id := fun _ _ _ => .error "none"
  have heval : ∀ json, ((Condition.ofKey "count" .equal (.value v)).eval calls
      (.of .property (record json))).run = .ok ((Operand.value v).equals (some json)) :=
    fun _ => rfl
  have hone : (Operand.value v).equals (some real) = true := by decide +kernel
  have hlist : (Operand.value v).equals (some (.ofList [real, one, .null])) = true := by
    decide +kernel
  have hsmall : ¬v.IsUnindexed := by
    show ¬(_ ∨ 2 ^ 53 * Binary64.unitsPerOne ≤ (Number.unsigned 1).units.natAbs)
    decide +kernel
  have hlarge : limit.IsUnindexed := by
    apply Or.inr
    show 2 ^ 53 * Binary64.unitsPerOne ≤ (Number.signed 0x20000000000000).units.natAbs
    decide +kernel
  obtain ⟨index, hindex⟩ : ∃ index,
      (EqualityIndex.build (m := Id) "count" records .property).run = .ok index := ⟨_, rfl⟩
  obtain ⟨hnone, hsome⟩ := EqualityIndex.lookup?_of_build hindex calls v
  have hlimit := (EqualityIndex.lookup?_of_build hindex calls limit).1.2 hlarge
  cases hlookup : index.lookup? v with
  | none => exact absurd (hnone.1 hlookup) hsmall
  | some positions =>
    obtain ⟨hascend, hmem⟩ := hsome positions hlookup
    refine ⟨index, positions, hindex, hlookup, hascend, ?_, ?_, ?_, hlimit⟩
    · exact (hmem 0).2 ⟨_, rfl, by rw [heval, hlist]⟩
    · intro h
      obtain ⟨r, hr, hpasses⟩ := (hmem 1).1 h
      obtain rfl : record .null = r := Option.some.inj hr
      cases hpasses
    · exact (hmem 2).2 ⟨_, rfl, by rw [heval, hone]⟩

end RecordQuery
