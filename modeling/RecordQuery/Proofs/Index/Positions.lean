import Mathlib.Data.List.Forall2
import RecordQuery.Index.Narrow
import RecordQuery.Run

/-!
# Positions of items

`positionsFrom n keep xs` are the positions of the items that pass, counted from `n`. An index holds
such a list for each key (`EqualityIndex.getD_ofAttributes`), the positions that two lists have in
common are those of the items that pass both tests, and the records at the positions are the records
that pass.
-/

namespace RecordQuery

variable {α β : Type}

def positionsFrom (n : Nat) (keep : α → Bool) (xs : List α) : List Nat :=
  ((xs.zipIdx n).filter fun item => keep item.1).map (·.2)

section Positions

variable {n i : Nat} {keep : α → Bool} {x : α} {xs : List α}

@[simp]
theorem positionsFrom_nil : positionsFrom n keep [] = [] :=
  rfl

@[simp]
theorem positionsFrom_cons :
    positionsFrom n keep (x :: xs) =
      if keep x then n :: positionsFrom (n + 1) keep xs else positionsFrom (n + 1) keep xs := by
  rw [positionsFrom, List.zipIdx_cons, List.filter_cons]
  split <;> rfl

theorem le_of_mem_positionsFrom (h : i ∈ positionsFrom n keep xs) : n ≤ i := by
  simp only [positionsFrom, List.mem_map, List.mem_filter] at h
  obtain ⟨⟨x, j⟩, ⟨hmem, -⟩, rfl⟩ := h
  exact List.le_snd_of_mem_zipIdx hmem

theorem mem_positionsFrom_zero :
    i ∈ positionsFrom 0 keep xs ↔ ∃ x, xs[i]? = some x ∧ keep x = true := by
  simp only [positionsFrom, List.mem_map, List.mem_filter, List.mem_zipIdx_iff_getElem?]
  constructor
  · intro h
    obtain ⟨⟨x, j⟩, ⟨hx, hkeep⟩, rfl⟩ := h
    exact ⟨x, hx, hkeep⟩
  · intro h
    obtain ⟨x, hx, hkeep⟩ := h
    exact ⟨(x, i), ⟨hx, hkeep⟩, rfl⟩

/-- Positions ascend, since those of all items do. -/
theorem pairwise_positionsFrom : (positionsFrom n keep xs).Pairwise (· < ·) := by
  have hall : ((xs.zipIdx n).map (·.2)).Pairwise (· < ·) := by
    rw [List.zipIdx_map_snd]
    exact List.pairwise_lt_range'
  exact hall.sublist (List.filter_sublist.map _)

/-- Tests that agree on the items one by one select the same positions. -/
theorem positionsFrom_congr {R : α → β → Prop} {keep' : β → Bool} {ys : List β}
    (h : List.Forall₂ R xs ys) (hR : ∀ x y, R x y → keep x = keep' y) :
    positionsFrom n keep xs = positionsFrom n keep' ys := by
  induction h generalizing n with
  | nil => rfl
  | cons hxy _ ih => rw [positionsFrom_cons, positionsFrom_cons, hR _ _ hxy, ih]

/-! ## What positions have in common -/

@[simp]
theorem intersect_nil (as : List Nat) : intersect as [] = [] := by
  cases as <;> rw [intersect] <;> simp

theorem intersect_cons_left {a : Nat} {as bs : List Nat} (h : ∀ b ∈ bs, a < b) :
    intersect (a :: as) bs = intersect as bs := by
  cases bs with
  | nil => simp
  | cons b bs => rw [intersect, if_pos (h b (by simp))]

theorem intersect_cons_right {b : Nat} {as bs : List Nat} (h : ∀ a ∈ as, b < a) :
    intersect as (b :: bs) = intersect as bs := by
  cases as with
  | nil => rw [intersect, intersect] <;> simp
  | cons a as =>
    have hlt := h a (by simp)
    rw [intersect, if_neg (Nat.lt_asymm hlt), if_pos hlt]

theorem intersect_positionsFrom (keep keep' : α → Bool) (xs : List α) (n : Nat) :
    intersect (positionsFrom n keep xs) (positionsFrom n keep' xs) =
      positionsFrom n (fun x => keep x && keep' x) xs := by
  induction xs generalizing n with
  | nil => simp
  | cons x xs ih =>
    have hlater : ∀ keep : α → Bool, ∀ i ∈ positionsFrom (n + 1) keep xs, n < i :=
      fun _ _ hi => le_of_mem_positionsFrom hi
    simp only [positionsFrom_cons]
    -- a position that one list alone has is less than all that are left in the other
    cases keep x <;> cases keep' x
    · exact ih (n + 1)
    · exact (intersect_cons_right (hlater keep)).trans (ih (n + 1))
    · exact (intersect_cons_left (hlater keep')).trans (ih (n + 1))
    · simp only [if_true, Bool.and_self]
      rw [intersect, if_neg (Nat.lt_irrefl n), if_neg (Nat.lt_irrefl n), ih]

/-! ## The records at some positions -/

theorem recordsAt_positionsFrom (keep : α → Bool) (records : List α) :
    recordsAt records (positionsFrom 0 keep records) = records.filter keep := by
  have hitem : ∀ item ∈ records.zipIdx.filter fun item => keep item.1,
      records.toArray[item.2]? = some item.1 := by
    intro item hitem
    rw [List.getElem?_toArray]
    exact List.mem_zipIdx_iff_getElem?.1 (List.mem_of_mem_filter hitem)
  calc recordsAt records (positionsFrom 0 keep records)
      = (records.zipIdx.filter fun item => keep item.1).filterMap fun item => some item.1 := by
        rw [recordsAt, positionsFrom, List.filterMap_map]
        exact List.filterMap_congr hitem
    _ = (records.zipIdx.map (·.1)).filter keep := by
        rw [List.filterMap_eq_map', List.filter_map]
        rfl
    _ = records.filter keep := by rw [List.zipIdx_map_fst]

end Positions

/-! ## What an index holds -/

namespace EqualityIndex

@[simp]
theorem consPosition_consPosition (position : Nat) (positions : List Nat) :
    consPosition position (consPosition position positions) = consPosition position positions := by
  unfold consPosition
  by_cases h : positions.head? = some position <;> simp [h]

theorem consPosition_of_lt {position : Nat} {positions : List Nat}
    (h : ∀ p ∈ positions, position < p) :
    consPosition position positions = position :: positions := by
  refine if_neg fun hhead => ?_
  exact Nat.lt_irrefl position (h position (List.mem_of_head? hhead))

/-- A position is entered once under each key, however often the key is given. -/
theorem getD_foldl_insert (position : Nat) (ks : List IndexKey)
    (index : Std.HashMap IndexKey (List Nat)) (k : IndexKey) :
    (ks.foldl (fun index k => index.insert k (consPosition position (index.getD k []))) index).getD
      k [] = if k ∈ ks then consPosition position (index.getD k []) else index.getD k [] := by
  induction ks generalizing index with
  | nil => simp
  | cons k' ks ih =>
    rw [List.foldl_cons, ih, Std.HashMap.getD_insert]
    by_cases hk : k' = k
    · -- the key may come again in the rest, where the position is in front already
      subst hk
      simp
    · simp [hk, Ne.symm hk]

/-- Under each key are the positions of the attributes that are found by it. -/
theorem getD_ofAttributes (key : String) (attrs : List (Option Json)) (k : IndexKey) :
    (ofAttributes key attrs).positions.getD k [] =
      positionsFrom 0 (fun attr => (IndexKey.ofAttribute attr).contains k) attrs := by
  unfold ofAttributes
  -- counted from anywhere, as the rest of a list is counted from further on
  generalize 0 = n
  induction attrs generalizing n with
  | nil => simp
  | cons attr attrs ih =>
    rw [List.zipIdx_cons, List.foldr_cons, getD_foldl_insert, ih, positionsFrom_cons,
      consPosition_of_lt fun _ hp => le_of_mem_positionsFrom hp]
    simp

/-- A value is found at the positions of the attributes that have its key. -/
theorem lookup?_ofAttributes (key : String) (attrs : List (Option Json)) (v : Value) :
    (ofAttributes key attrs).lookup? v = (IndexKey.ofValue? v).map fun k =>
      positionsFrom 0 (fun attr => (IndexKey.ofAttribute attr).contains k) attrs := by
  simp only [lookup?, getD_ofAttributes]

end EqualityIndex

end RecordQuery
