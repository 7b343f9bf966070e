import Mathlib.Data.List.FinRange
import Mathlib.Data.List.Forall2
import Mathlib.Data.Nat.Init

/-!
# Traversals that may fail

A computation of several steps succeeds if every step does. `mapM_eq_ok_iff` describes the results
of a traversal of a list one by one, and two lemmas carry what holds of all or some of the results
back to the list. Two computations are `Alike` if their steps are.
-/

namespace RecordQuery

variable {α β ε : Type}

/-! ## One step after another -/

theorem bind_eq_ok_iff {x : Except ε α} {f : α → Except ε β} {b : β} :
    (x >>= f) = .ok b ↔ ∃ a, x = .ok a ∧ f a = .ok b := by
  cases x with
  | error e => simp [bind, Except.bind]
  | ok a => simp [bind, Except.bind]

theorem map_eq_ok_iff {x : Except ε α} {f : α → β} {b : β} :
    f <$> x = .ok b ↔ ∃ a, x = .ok a ∧ f a = b := by
  cases x with
  | error e => simp [Functor.map, Except.map]
  | ok a => simp [Functor.map, Except.map]

@[simp]
theorem exists_map_eq_ok_iff {x : Except ε α} {f : α → β} :
    (∃ b, f <$> x = .ok b) ↔ ∃ a, x = .ok a := by
  simp only [map_eq_ok_iff]
  constructor
  · rintro ⟨_, a, ha, -⟩
    exact ⟨a, ha⟩
  · rintro ⟨a, ha⟩
    exact ⟨f a, a, ha, rfl⟩

theorem ite_error_eq_ok_iff {c : Prop} [Decidable c] {e : ε} {x : Except ε α} {a : α} :
    (if c then .error e else x) = .ok a ↔ ¬c ∧ x = .ok a := by
  by_cases h : c <;> simp [h]

theorem run_bind_eq_ok_iff {x : ExceptT ε Id α} {f : α → ExceptT ε Id β} {b : β} :
    (x >>= f).run = .ok b ↔ ∃ a, x.run = .ok a ∧ (f a).run = .ok b := by
  rw [ExceptT.run_bind]
  cases x.run with
  | error e =>
    constructor
    · intro h; cases h
    · rintro ⟨a, ha, -⟩; cases ha
  | ok a =>
    constructor
    · intro h; exact ⟨a, rfl, h⟩
    · rintro ⟨a, ha, h⟩; cases ha; exact h

theorem run_map_eq_ok_iff {x : ExceptT ε Id α} {f : α → β} {b : β} :
    (f <$> x).run = .ok b ↔ ∃ a, x.run = .ok a ∧ f a = b := by
  rw [ExceptT.run_map]
  cases x.run with
  | error e =>
    constructor
    · intro h; cases h
    · rintro ⟨a, ha, -⟩; cases ha
  | ok a =>
    constructor
    · intro h; exact ⟨a, rfl, Except.ok.inj h⟩
    · rintro ⟨a, ha, rfl⟩; cases ha; rfl

theorem bind_eq_of_run {x : ExceptT ε Id α} {a : α} (h : x.run = .ok a)
    (f : α → ExceptT ε Id β) : x >>= f = f a := by
  obtain rfl : x = pure a := h
  rfl

/-- A computation of two steps fails in the first of them or in the second. -/
theorem run_bind_eq_error_iff {x : ExceptT ε Id α} {f : α → ExceptT ε Id β} {e : ε} :
    (x >>= f).run = .error e ↔
      x.run = .error e ∨ ∃ a, x.run = .ok a ∧ (f a).run = .error e := by
  rw [ExceptT.run_bind]
  cases x.run with
  | error e' =>
    constructor
    · intro h; cases h; exact .inl rfl
    · rintro (h | ⟨a, ha, -⟩)
      · cases h; rfl
      · cases ha
  | ok a =>
    constructor
    · intro h; exact .inr ⟨a, rfl, h⟩
    · rintro (h | ⟨a, ha, h⟩)
      · cases h
      · cases ha; exact h

@[simp]
theorem run_map_eq_error_iff {x : ExceptT ε Id α} {f : α → β} {e : ε} :
    (f <$> x).run = .error e ↔ x.run = .error e := by
  rw [ExceptT.run_map]
  cases x.run with
  | error e' =>
    constructor
    · intro h; cases h; rfl
    · intro h; cases h; rfl
  | ok a =>
    constructor
    · intro h; cases h
    · intro h; cases h

@[simp]
theorem run_adapt_eq_ok_iff {ε' : Type} {f : ε → ε'} {x : ExceptT ε Id α} {a : α} :
    (ExceptT.adapt f x).run = .ok a ↔ x.run = .ok a := by
  show x.run.mapError f = .ok a ↔ _
  cases x.run with
  | error e =>
    constructor
    · intro h; cases h
    · intro h; cases h
  | ok b => exact ⟨fun h => congrArg _ (Except.ok.inj h), fun h => congrArg _ (Except.ok.inj h)⟩

/-! ## A step for every item -/

theorem mapM_eq_ok_iff {f : α → Except ε β} {xs : List α} {ys : List β} :
    xs.mapM f = .ok ys ↔ List.Forall₂ (fun x y => f x = .ok y) xs ys := by
  induction xs generalizing ys with
  | nil => simp [pure, Except.pure, eq_comm]
  | cons x xs ih =>
    simp only [List.mapM_cons, bind_eq_ok_iff, ih, List.forall₂_cons_left_iff]
    constructor
    · rintro ⟨y, hy, ys', hys, h⟩
      cases h
      exact ⟨y, ys', hy, hys, rfl⟩
    · rintro ⟨y, ys', hy, hys, rfl⟩
      exact ⟨y, hy, ys', hys, rfl⟩

theorem run_mapM_eq_ok_iff {f : α → ExceptT ε Id β} {xs : List α} {ys : List β} :
    (xs.mapM f).run = .ok ys ↔ List.Forall₂ (fun x y => (f x).run = .ok y) xs ys := by
  induction xs generalizing ys with
  | nil =>
    rw [List.mapM_nil, List.forall₂_nil_left_iff]
    constructor
    · intro h; cases h; rfl
    · rintro rfl; rfl
  | cons x xs ih =>
    simp only [List.mapM_cons, run_bind_eq_ok_iff, ih, List.forall₂_cons_left_iff]
    constructor
    · rintro ⟨y, hy, ys', hys, h⟩
      cases h
      exact ⟨y, ys', hy, hys, rfl⟩
    · rintro ⟨y, ys', hy, hys, rfl⟩
      exact ⟨y, hy, ys', hys, rfl⟩

theorem exists_mapM_eq_ok_iff {f : α → Except ε β} {xs : List α} :
    (∃ ys, xs.mapM f = .ok ys) ↔ ∀ x ∈ xs, ∃ y, f x = .ok y := by
  simp only [mapM_eq_ok_iff]
  induction xs with
  | nil => simp
  | cons x xs ih =>
    simp only [List.forall₂_cons_left_iff, List.forall_mem_cons, ← ih]
    constructor
    · rintro ⟨_, y, ys, hy, hys, rfl⟩
      exact ⟨⟨y, hy⟩, ys, hys⟩
    · rintro ⟨⟨y, hy⟩, ys, hys⟩
      exact ⟨_, y, ys, hy, hys, rfl⟩

theorem exists_run_mapM_eq_ok_iff {f : α → ExceptT ε Id β} {xs : List α} :
    (∃ ys, (xs.mapM f).run = .ok ys) ↔ ∀ x ∈ xs, ∃ y, (f x).run = .ok y := by
  have hmapM : ∀ ys, (xs.mapM f).run = .ok ys ↔
      xs.mapM (m := Except ε) (fun x => (f x).run) = .ok ys := fun ys =>
    run_mapM_eq_ok_iff.trans mapM_eq_ok_iff.symm
  rw [exists_congr hmapM]
  exact exists_mapM_eq_ok_iff

theorem mapM_finRange_get (f : α → Except ε β) (xs : List α) :
    (List.finRange xs.length).mapM (fun i => f (xs.get i)) = xs.mapM f := by
  conv_rhs => rw [← List.map_getElem_finRange xs, List.mapM_map]
  rfl

/-- Every item is related to some other one. -/
theorem exists_of_forall₂_left {R : α → β → Prop} {xs : List α} {ys : List β}
    (h : List.Forall₂ R xs ys) {x : α} (hx : x ∈ xs) : ∃ y ∈ ys, R x y := by
  induction h with
  | nil => cases hx
  | cons hxy _ ih =>
    rcases List.mem_cons.1 hx with rfl | hx
    · exact ⟨_, List.mem_cons_self, hxy⟩
    · obtain ⟨y, hy, hxy⟩ := ih hx
      exact ⟨y, List.mem_cons_of_mem _ hy, hxy⟩

theorem exists_of_forall₂_right {R : α → β → Prop} {xs : List α} {ys : List β}
    (h : List.Forall₂ R xs ys) {y : β} (hy : y ∈ ys) : ∃ x ∈ xs, R x y :=
  exists_of_forall₂_left h.flip hy

/-- Every result is that of some item. -/
theorem exists_of_mem_mapM {f : α → Except ε β} {xs : List α} {ys : List β}
    (h : xs.mapM f = .ok ys) {y : β} (hy : y ∈ ys) : ∃ x ∈ xs, f x = .ok y :=
  exists_of_forall₂_right (mapM_eq_ok_iff.1 h) hy

theorem forall_mem_iff_of_forall₂ {R : α → β → Prop} {p : α → Prop} {q : β → Prop}
    {xs : List α} {ys : List β} (h : List.Forall₂ R xs ys)
    (hR : ∀ x y, x ∈ xs → R x y → (q y ↔ p x)) : (∀ y ∈ ys, q y) ↔ ∀ x ∈ xs, p x := by
  induction h with
  | nil => simp
  | cons hxy _ ih =>
    rw [List.forall_mem_cons, List.forall_mem_cons, hR _ _ (by simp) hxy,
      ih fun x y hx => hR x y (by simp [hx])]

theorem exists_mem_iff_of_forall₂ {R : α → β → Prop} {p : α → Prop} {q : β → Prop}
    {xs : List α} {ys : List β} (h : List.Forall₂ R xs ys)
    (hR : ∀ x y, x ∈ xs → R x y → (q y ↔ p x)) : (∃ y ∈ ys, q y) ↔ ∃ x ∈ xs, p x := by
  -- the negation of what holds of all items
  have hn := forall_mem_iff_of_forall₂ h fun x y hx hxy => not_congr (hR x y hx hxy)
  simpa using not_congr hn

/-! ## Lists of lists -/

section Lists

variable {γ : Type} {R : α → β → Prop}

/-- What relates items to images of others relates them to others. -/
theorem forall₂_exists_map_iff {f : β → γ} {xs : List α} {zs : List γ} :
    List.Forall₂ (fun x z => ∃ y, R x y ∧ f y = z) xs zs ↔
      ∃ ys, List.Forall₂ R xs ys ∧ ys.map f = zs := by
  constructor
  · intro h
    induction h with
    | nil => exact ⟨[], .nil, rfl⟩
    | cons hxz _ ih =>
      obtain ⟨y, hy, rfl⟩ := hxz
      obtain ⟨ys, hys, rfl⟩ := ih
      exact ⟨y :: ys, .cons hy hys, rfl⟩
  · rintro ⟨ys, hys, rfl⟩
    rw [List.forall₂_map_right_iff]
    exact hys.imp fun x y hxy => ⟨y, hxy, rfl⟩

theorem forall₂_append_left_iff {xs xs' : List α} {ys : List β} :
    List.Forall₂ R (xs ++ xs') ys ↔
      ∃ zs zs', List.Forall₂ R xs zs ∧ List.Forall₂ R xs' zs' ∧ zs ++ zs' = ys := by
  constructor
  · intro h
    induction xs generalizing ys with
    | nil => exact ⟨[], ys, .nil, h, rfl⟩
    | cons x xs ih =>
      obtain ⟨y, ys, hxy, hys, rfl⟩ := List.forall₂_cons_left_iff.1 h
      obtain ⟨zs, zs', hzs, hzs', rfl⟩ := ih hys
      exact ⟨y :: zs, zs', .cons hxy hzs, hzs', rfl⟩
  · rintro ⟨zs, zs', hzs, hzs', rfl⟩
    exact List.rel_append hzs hzs'

theorem forall₂_flatMap_left_iff {f : γ → List α} {xs : List γ} {ys : List β} :
    List.Forall₂ R (xs.flatMap f) ys ↔
      ∃ zss, List.Forall₂ (fun x zs => List.Forall₂ R (f x) zs) xs zss ∧ zss.flatten = ys := by
  induction xs generalizing ys with
  | nil =>
    simp only [List.flatMap_nil, List.forall₂_nil_left_iff, exists_eq_left, List.flatten_nil]
    exact eq_comm
  | cons x xs ih =>
    simp only [List.flatMap_cons, forall₂_append_left_iff, ih, List.forall₂_cons_left_iff]
    constructor
    · rintro ⟨zs, _, hzs, ⟨zss, hzss, rfl⟩, rfl⟩
      exact ⟨zs :: zss, ⟨zs, zss, hzs, hzss, rfl⟩, rfl⟩
    · rintro ⟨_, ⟨zs, zss, hzs, hzss, rfl⟩, rfl⟩
      exact ⟨zs, zss.flatten, hzs, ⟨zss, hzss, rfl⟩, rfl⟩

end Lists

/-! ## Two computations side by side -/

section Alike

/-- Both computations succeed, with related results, or both fail. -/
inductive Alike (R : α → β → Prop) : Except ε α → Except ε β → Prop
  | ok {a : α} {b : β} : R a b → Alike R (.ok a) (.ok b)
  | error {e e' : ε} : Alike R (.error e) (.error e')

namespace Alike

variable {α' β' : Type} {R : α → β → Prop} {S : α' → β' → Prop} {x x' : Except ε α}
  {y y' : Except ε β}

theorem refl {R : α → α → Prop} (hR : ∀ a, R a a) : ∀ x : Except ε α, Alike R x x
  | .ok a => .ok (hR a)
  | .error _ => .error

theorem exists_iff (h : Alike R x y) {p : α → Prop} {q : β → Prop}
    (hpq : ∀ a b, R a b → (p a ↔ q b)) :
    (∃ a, x = .ok a ∧ p a) ↔ ∃ b, y = .ok b ∧ q b := by
  cases h with
  | ok h => simp [hpq _ _ h]
  | error => simp

theorem of_ne_ok (hx : ∀ a, x ≠ .ok a) (hy : ∀ b, y ≠ .ok b) : Alike R x y := by
  cases x with
  | ok a => exact absurd rfl (hx a)
  | error e =>
    cases y with
    | ok b => exact absurd rfl (hy b)
    | error e' => exact .error

theorem iff_related : Alike R x y ↔
    ((∃ a, x = .ok a) ↔ ∃ b, y = .ok b) ∧ ∀ a b, x = .ok a → y = .ok b → R a b := by
  constructor
  · intro h
    cases h with
    | ok h => simpa using h
    | error => simp
  · rintro ⟨hsucceeds, hrelated⟩
    cases x with
    | ok a =>
      obtain ⟨b, rfl⟩ := hsucceeds.1 ⟨a, rfl⟩
      exact .ok (hrelated a b rfl rfl)
    | error e =>
      cases y with
      | ok b => simp at hsucceeds
      | error e' => exact .error

/-- Nothing depends on which failure it is. -/
theorem congr (h : Alike R x' y') (hx : ∀ a, x = .ok a ↔ x' = .ok a)
    (hy : ∀ b, y = .ok b ↔ y' = .ok b) : Alike R x y := by
  cases h with
  | ok h =>
    rw [(hx _).2 rfl, (hy _).2 rfl]
    exact .ok h
  | error =>
    cases x with
    | ok a => cases (hx a).1 rfl
    | error e =>
      cases y with
      | ok b => cases (hy b).1 rfl
      | error e' => exact .error

theorem map {f : α → α'} {g : β → β'} (h : Alike R x y) (hfg : ∀ a b, R a b → S (f a) (g b)) :
    Alike S (f <$> x) (g <$> y) := by
  cases h with
  | ok h => exact .ok (hfg _ _ h)
  | error => exact .error

theorem bind {f : α → Except ε α'} {g : β → Except ε β'} (h : Alike R x y)
    (hfg : ∀ a b, R a b → Alike S (f a) (g b)) : Alike S (x >>= f) (y >>= g) := by
  cases h with
  | ok h => exact hfg _ _ h
  | error => exact .error

theorem mapM {f : α → Except ε α'} {g : β → Except ε β'} {xs : List α} {ys : List β}
    (h : List.Forall₂ (fun x y => Alike S (f x) (g y)) xs ys) :
    Alike (List.Forall₂ S) (xs.mapM f) (ys.mapM g) := by
  induction h with
  | nil => exact .ok .nil
  | cons hxy _ ih =>
    rw [List.mapM_cons, List.mapM_cons]
    exact hxy.bind fun a b hab => ih.bind fun as bs habs => .ok (.cons hab habs)

end Alike

end Alike

end RecordQuery
