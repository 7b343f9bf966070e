/-!
# Lists in the order of a small key

`arrangeBy` sorts a list by a natural number below a bound. Items of equal key keep their order, so
the sorted list is determined by the items of each key, in order, and sorting it again changes
nothing.
-/

namespace RecordQuery

variable {α : Type} {key : α → Nat} {bound : Nat}

/-- The items in ascending order of their keys, those of equal key in the order they had. -/
def arrangeBy (key : α → Nat) (bound : Nat) (items : List α) : List α :=
  (List.range bound).flatMap fun k => items.filter (key · == k)

theorem arrangeBy_congr {xs ys : List α}
    (h : ∀ k < bound, xs.filter (key · == k) = ys.filter (key · == k)) :
    arrangeBy key bound xs = arrangeBy key bound ys := by
  simp only [arrangeBy, List.flatMap]
  congr 1
  exact List.map_congr_left fun k hk => h k (List.mem_range.1 hk)

theorem arrangeBy_succ (key : α → Nat) (bound : Nat) (items : List α) :
    arrangeBy key (bound + 1) items =
      arrangeBy key bound items ++ items.filter (key · == bound) := by
  simp [arrangeBy, List.range_succ]

theorem filter_arrangeBy (key : α → Nat) (items : List α) {k : Nat} (h : k < bound) :
    (arrangeBy key bound items).filter (key · == k) = items.filter (key · == k) := by
  induction bound with
  | zero => omega
  | succ bound ih =>
    rw [arrangeBy_succ, List.filter_append, List.filter_filter]
    by_cases hk : k = bound
    · subst hk
      -- the items of the last key all stand at the end
      have : (arrangeBy key k items).filter (key · == k) = [] := by
        simp only [List.filter_eq_nil_iff, arrangeBy, List.mem_flatMap, List.mem_filter]
        rintro x ⟨j, hj, _, hx⟩
        have := List.mem_range.1 hj
        simp only [beq_iff_eq] at hx ⊢
        omega
      rw [this, List.nil_append]
      exact List.filter_congr (by simp)
    · rw [ih (by omega)]
      have : items.filter (fun x => key x == k && key x == bound) = [] := by
        simp only [List.filter_eq_nil_iff, Bool.and_eq_true, beq_iff_eq]
        omega
      rw [this, List.append_nil]

@[simp]
theorem arrangeBy_arrangeBy (key : α → Nat) (bound : Nat) (items : List α) :
    arrangeBy key bound (arrangeBy key bound items) = arrangeBy key bound items :=
  arrangeBy_congr fun _ hk => filter_arrangeBy key items hk

theorem mem_arrangeBy {items : List α} {x : α} :
    x ∈ arrangeBy key bound items ↔ x ∈ items ∧ key x < bound := by
  simp only [arrangeBy, List.mem_flatMap, List.mem_range, List.mem_filter, beq_iff_eq]
  exact ⟨fun ⟨_, hk, hx, h⟩ => ⟨hx, h ▸ hk⟩, fun ⟨hx, hk⟩ => ⟨key x, hk, hx, rfl⟩⟩

theorem pairwise_arrangeBy (key : α → Nat) (bound : Nat) (items : List α) :
    (arrangeBy key bound items).Pairwise (key · ≤ key ·) := by
  induction bound with
  | zero => simp [arrangeBy]
  | succ bound ih =>
    rw [arrangeBy_succ, List.pairwise_append]
    -- items of the last key are equal in it, and all others are below
    refine ⟨ih, ?_, fun x hx y hy => ?_⟩
    · refine List.pairwise_filter.2 (List.pairwise_of_forall fun x y hx hy => ?_)
      simp only [beq_iff_eq] at hx hy
      omega
    · have hlt := (mem_arrangeBy.1 hx).2
      have heq : key y = bound := by simpa using (List.mem_filter.1 hy).2
      omega

/-- Items that pass either of two tests that exclude each other. -/
theorem filter_append_filter_perm {p q : α → Bool} (h : ∀ x, p x → q x = false) (items : List α) :
    (items.filter p ++ items.filter q).Perm (items.filter fun x => p x || q x) := by
  induction items with
  | nil => exact .nil
  | cons x items ih =>
    by_cases hp : p x = true
    · simpa [hp, h x hp] using ih.cons x
    · by_cases hq : q x = true
      · simpa [hp, hq] using List.perm_middle.trans (ih.cons x)
      · simpa [hp, hq] using ih

theorem perm_arrangeBy {items : List α} (h : ∀ x ∈ items, key x < bound) :
    (arrangeBy key bound items).Perm items := by
  -- for every bound, with the items that are below it
  suffices ∀ n, (arrangeBy key n items).Perm (items.filter (key · < n)) by
    have all := List.filter_eq_self.2 fun x hx => decide_eq_true (h x hx)
    exact (this bound).trans (.of_eq all)
  intro n
  induction n with
  | zero => simp [arrangeBy]
  | succ n ih =>
    rw [arrangeBy_succ]
    refine (ih.append_right _).trans ?_
    refine (filter_append_filter_perm (by simp; omega) items).trans (.of_eq ?_)
    refine List.filter_congr fun x _ => ?_
    rw [Bool.eq_iff_iff]
    simp
    omega

end RecordQuery
