import RecordQuery.Proofs.Value.Integers

/-!
# Numbers of all representations in order

Numbers of one representation are compared by their exact values (`Number.units`), and numbers of
different ones after both have been rounded. Rounding never turns two numbers around, so the strict
order of numbers is transitive whatever their representations, and it never contradicts the exact
one: at worst two numbers count as equal.
-/

namespace RecordQuery

namespace Number

/-- The exact value in multiples of `2 ^ -1074`. The infinities are past all other numbers. -/
def units : Number → Int
  | .signed n => n.toInt * Binary64.unitsPerOne
  | .unsigned n => n.toNat * Binary64.unitsPerOne
  | .real x => x.units

/-- The value by which numbers of different representations are compared. -/
def roundedUnits (a : Number) : Int :=
  a.toBinary64.units

/-- The two numbers are held in the same representation. -/
def SameForm : Number → Number → Prop
  | .signed _, .signed _ | .unsigned _, .unsigned _ | .real _, .real _ => True
  | _, _ => False

/-- The number is no integer past `2 ^ 53`. -/
def IsExact : Number → Prop
  | .signed n => n.toInt.natAbs ≤ 2 ^ 53
  | .unsigned n => n.toNat ≤ 2 ^ 53
  | .real _ => True

variable {a b c : Number}

theorem SameForm.symm (h : a.SameForm b) : b.SameForm a := by
  cases a <;> cases b <;> exact h

theorem SameForm.trans (hab : a.SameForm b) (hbc : b.SameForm c) : a.SameForm c := by
  cases a <;> cases b <;> cases c <;> first | exact trivial | exact hab.elim | exact hbc.elim

@[simp]
theorem isNaN_toBinary64 (a : Number) : a.toBinary64.isNaN = a.isNaN := by
  cases a with
  | real x => rfl
  | signed n => exact Binary64.isNaN_ofInt _
  | unsigned n => exact Binary64.isNaN_ofInt _

/-! ## Exact and rounded values -/

@[simp]
theorem units_lt_units_iff {m n : Int} :
    m * Binary64.unitsPerOne < n * Binary64.unitsPerOne ↔ m < n :=
  Int.mul_lt_mul_right (Int.natCast_pos.2 Binary64.unitsPerOne_pos)

theorem compare_units (m n : Int) :
    Ord.compare (m * Binary64.unitsPerOne) (n * Binary64.unitsPerOne) = Ord.compare m n := by
  rcases Int.lt_trichotomy m n with hlt | rfl | hgt
  · rw [Int.compare_eq_lt.2 hlt, Int.compare_eq_lt.2 (units_lt_units_iff.2 hlt)]
  · rw [Std.compare_self, Std.compare_self]
  · rw [Int.compare_eq_gt.2 hgt, Int.compare_eq_gt.2 (units_lt_units_iff.2 hgt)]

theorem roundedUnits_eq (h : a.IsExact) : a.roundedUnits = a.units := by
  cases a with
  | signed n => exact Binary64.units_ofInt_of_le h
  | unsigned n => exact Binary64.units_ofInt_of_le h
  | real x => rfl

/-- Rounding keeps numbers in order. -/
theorem roundedUnits_le_of_le (ha : a.isNaN = false) (hb : b.isNaN = false)
    (h : a.units ≤ b.units) : a.roundedUnits ≤ b.roundedUnits := by
  have hintegers : ∀ {m n : Int}, m * Binary64.unitsPerOne ≤ n * Binary64.unitsPerOne →
      (Binary64.ofInt m).units ≤ (Binary64.ofInt n).units := fun h =>
    Binary64.units_ofInt_le_of_le (Int.not_lt.1 fun hlt =>
      absurd (units_lt_units_iff.2 hlt) (Int.not_lt.2 h))
  cases a with
  | real x =>
    cases b with
    | real y => exact h
    | signed n => exact Binary64.units_le_units_ofInt ha h
    | unsigned n => exact Binary64.units_le_units_ofInt ha h
  | signed m =>
    cases b with
    | real y => exact Binary64.units_ofInt_le_units hb h
    | signed n => exact hintegers h
    | unsigned n => exact hintegers h
  | unsigned m =>
    cases b with
    | real y => exact Binary64.units_ofInt_le_units hb h
    | signed n => exact hintegers h
    | unsigned n => exact hintegers h

/-! ## The order of two numbers -/

theorem compare_of_isNaN (h : a.isNaN = true ∨ b.isNaN = true) : a.compare b = none := by
  have hrounded : a.toBinary64.compare b.toBinary64 = none := by
    rw [Binary64.compare, if_pos (by simpa using h)]
  -- integers are compared as they are, but an integer is no NaN
  cases a with
  | real x => cases b <;> exact hrounded
  | signed m =>
    cases b with
    | signed n => exact absurd h (by simp [isNaN])
    | _ => exact hrounded
  | unsigned m =>
    cases b with
    | unsigned n => exact absurd h (by simp [isNaN])
    | _ => exact hrounded

section Order

variable (ha : a.isNaN = false) (hb : b.isNaN = false)
include ha hb

theorem compare_toBinary64 :
    a.toBinary64.compare b.toBinary64 = some (Ord.compare a.roundedUnits b.roundedUnits) := by
  simp [Binary64.compare, ha, hb, roundedUnits]

theorem compare_of_sameForm (h : a.SameForm b) :
    a.compare b = some (Ord.compare a.units b.units) := by
  cases a with
  | real x =>
    cases b with
    | real y => exact compare_toBinary64 ha hb
    | _ => exact h.elim
  | signed m =>
    cases b with
    | signed n => exact congrArg some (compare_units _ _).symm
    | _ => exact h.elim
  | unsigned m =>
    cases b with
    | unsigned n =>
      rw [compare_unsigned]
      exact congrArg some (compare_units _ _).symm
    | _ => exact h.elim

theorem compare_of_not_sameForm (h : ¬a.SameForm b) :
    a.compare b = some (Ord.compare a.roundedUnits b.roundedUnits) := by
  rw [← compare_toBinary64 ha hb]
  cases a <;> cases b <;> first | exact absurd trivial h | rfl

end Order

theorem compare_eq_none_iff : a.compare b = none ↔ a.isNaN = true ∨ b.isNaN = true := by
  refine ⟨fun h => ?_, compare_of_isNaN⟩
  by_contra hnan
  rw [not_or, Bool.not_eq_true, Bool.not_eq_true] at hnan
  by_cases hform : a.SameForm b
  · rw [compare_of_sameForm hnan.1 hnan.2 hform] at h
    cases h
  · rw [compare_of_not_sameForm hnan.1 hnan.2 hform] at h
    cases h

theorem isNaN_of_compare {o : Ordering} (h : a.compare b = some o) :
    a.isNaN = false ∧ b.isNaN = false := by
  rw [← Bool.not_eq_true, ← Bool.not_eq_true, ← not_or, ← compare_eq_none_iff, h]
  nofun

theorem compare_swap (a b : Number) : b.compare a = (a.compare b).map Ordering.swap := by
  by_cases hnan : a.isNaN = true ∨ b.isNaN = true
  · rw [compare_of_isNaN hnan, compare_of_isNaN hnan.symm]
    rfl
  · rw [not_or, Bool.not_eq_true, Bool.not_eq_true] at hnan
    by_cases hform : a.SameForm b
    · rw [compare_of_sameForm hnan.1 hnan.2 hform,
        compare_of_sameForm hnan.2 hnan.1 hform.symm, Option.map_some, Int.compare_swap]
    · have hform' : ¬b.SameForm a := fun h => hform h.symm
      rw [compare_of_not_sameForm hnan.1 hnan.2 hform,
        compare_of_not_sameForm hnan.2 hnan.1 hform', Option.map_some, Int.compare_swap]

/-- A number is less than another if its exact value is and rounding, where there is any, tells
the two apart. -/
theorem compare_eq_lt_iff (ha : a.isNaN = false) (hb : b.isNaN = false) :
    a.compare b = some .lt ↔
      a.units < b.units ∧ (a.SameForm b ∨ a.roundedUnits < b.roundedUnits) := by
  by_cases hform : a.SameForm b
  · rw [compare_of_sameForm ha hb hform, Option.some.injEq, Int.compare_eq_lt]
    exact (and_iff_left (.inl hform)).symm
  · rw [compare_of_not_sameForm ha hb hform, Option.some.injEq, Int.compare_eq_lt]
    constructor
    · intro hlt
      have hunits : a.units < b.units := Int.not_le.1 fun hle =>
        absurd (roundedUnits_le_of_le hb ha hle) (Int.not_le.2 hlt)
      exact ⟨hunits, .inr hlt⟩
    · exact fun h => h.2.resolve_left hform

theorem compare_trans (hab : a.compare b = some .lt) (hbc : b.compare c = some .lt) :
    a.compare c = some .lt := by
  obtain ⟨ha, hb⟩ := isNaN_of_compare hab
  obtain ⟨-, hc⟩ := isNaN_of_compare hbc
  rw [compare_eq_lt_iff ha hb] at hab
  rw [compare_eq_lt_iff hb hc] at hbc
  rw [compare_eq_lt_iff ha hc]
  have hab_le := roundedUnits_le_of_le ha hb (Int.le_of_lt hab.1)
  have hbc_le := roundedUnits_le_of_le hb hc (Int.le_of_lt hbc.1)
  refine ⟨Int.lt_trans hab.1 hbc.1, ?_⟩
  -- if rounding keeps two of the three apart, it keeps the outer two apart
  rcases hab.2 with habform | hablt
  · rcases hbc.2 with hbcform | hbclt
    · exact .inl (habform.trans hbcform)
    · exact .inr (Int.lt_of_le_of_lt hab_le hbclt)
  · exact .inr (Int.lt_of_lt_of_le hablt hbc_le)

theorem compare_ne_gt (ha : a.isNaN = false) (hb : b.isNaN = false) (h : a.units < b.units) :
    a.compare b ≠ some .gt := by
  by_cases hform : a.SameForm b
  · rw [compare_of_sameForm ha hb hform, Int.compare_eq_lt.2 h]
    nofun
  · have hle := roundedUnits_le_of_le ha hb (Int.le_of_lt h)
    rw [compare_of_not_sameForm ha hb hform, ne_eq, Option.some.injEq, Int.compare_eq_gt]
    exact Int.not_lt.2 hle

theorem compare_of_isExact (ha : a.isNaN = false) (hb : b.isNaN = false)
    (h : a.SameForm b ∨ a.IsExact ∧ b.IsExact) :
    a.compare b = some (Ord.compare a.units b.units) := by
  by_cases hform : a.SameForm b
  · exact compare_of_sameForm ha hb hform
  · obtain ⟨hexact, hexact'⟩ := h.resolve_left hform
    rw [compare_of_not_sameForm ha hb hform, roundedUnits_eq hexact, roundedUnits_eq hexact']

/-- Numbers of all representations are in one strict order, which NaN is not in. It never goes
against the exact values, and it is theirs where nothing is rounded. -/
theorem compare_isCoherent (a b c : Number) :
    b.compare a = (a.compare b).map Ordering.swap ∧
    (a.compare b = none ↔ a.isNaN = true ∨ b.isNaN = true) ∧
    (a.compare b = some .lt → b.compare c = some .lt → a.compare c = some .lt) ∧
    (a.isNaN = false → b.isNaN = false →
      (a.units < b.units → a.compare b ≠ some .gt) ∧
      (a.SameForm b ∨ a.IsExact ∧ b.IsExact →
        a.compare b = some (Ord.compare a.units b.units))) :=
  ⟨compare_swap a b, compare_eq_none_iff, compare_trans, fun ha hb =>
    ⟨compare_ne_gt ha hb, compare_of_isExact ha hb⟩⟩

/-- Three neighbours where the exact integers end, each in a representation of its own. -/
theorem compare_isCoherent_mixed :
    let a : Number := .signed 0x1fffffffffffff
    let b : Number := .unsigned 0x20000000000000
    let c : Number := .real ⟨0x4340000000000001⟩
    (a.compare b = some .lt ∧ b.compare c = some .lt ∧ a.compare c = some .lt) ∧
      (a.isNaN = false ∧ b.isNaN = false) ∧
      (a.units < b.units ∧ a.compare b ≠ some .gt) ∧
      (a.IsExact ∧ b.IsExact) ∧ a.compare b = some (Ord.compare a.units b.units) := by
  intro a b c
  have hab : a.compare b = some .lt := by decide +kernel
  have hbc : b.compare c = some .lt := by decide +kernel
  have hunits : a.units < b.units := by decide +kernel
  have hexact : a.IsExact ∧ b.IsExact := by
    constructor
    · show (Int64.toInt 0x1fffffffffffff).natAbs ≤ 2 ^ 53
      decide
    · show UInt64.toNat 0x20000000000000 ≤ 2 ^ 53
      decide
  obtain ⟨-, -, htrans, horder⟩ := compare_isCoherent a b c
  obtain ⟨hgt, hsame⟩ := horder rfl rfl
  exact ⟨⟨hab, hbc, htrans hab hbc⟩, ⟨rfl, rfl⟩, ⟨hunits, hgt hunits⟩, hexact,
    hsame (.inr hexact)⟩

end Number

end RecordQuery
