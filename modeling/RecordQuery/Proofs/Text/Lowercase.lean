import Mathlib.Data.List.Infix
import RecordQuery.Text.Lowercase

/-!
# Lower-casing a part of a text

A part of a text has its lower-case form within that of the text, except where a capital sigma ends
a word of the part and none of the text, or the other way round (`Text.KeepsSigmas`). The form of a
beginning or an end of the text has only one place to be, so there it is found exactly if the part
keeps its sigmas.
-/

namespace RecordQuery.Text

/-- Whether a sigma that stands between the two texts ends a word. -/
def endsWord (before after : List Char) : Bool :=
  meetsCased before.reverse && !meetsCased after

/-- The capital sigmas of `t` end words within `before ++ t ++ after` as they do in `t` alone. -/
def KeepsSigmas (before t after : List Char) : Prop :=
  ∀ first rest, t = first ++ 'Σ' :: rest →
    endsWord (before ++ first) (rest ++ after) = endsWord first rest

/-- The lower-case form of a part of a text, given what stands before and after it. -/
def lowerWithin (before : List Char) : List Char → List Char → List Char
  | [], _ => []
  | c :: rest, after =>
    (if c = 'Σ' then [if endsWord before (rest ++ after) then 'ς' else 'σ'] else lowerChar c) ++
      lowerWithin (before ++ [c]) rest after

variable {before before' t after after' : List Char}

theorem keepsSigmas_of_notMem (h : 'Σ' ∉ t) : KeepsSigmas before t after := by
  rintro first rest rfl
  exact absurd (List.mem_append_right first List.mem_cons_self) h

/-! ## Parts of the form -/

theorem lowerAfter_append (before t after : List Char) :
    lowerAfter before.reverse (t ++ after) =
      lowerWithin before t after ++ lowerAfter (before ++ t).reverse after := by
  induction t generalizing before with
  | nil => rw [List.append_nil]; rfl
  | cons c rest ih =>
    have hbefore : c :: before.reverse = (before ++ [c]).reverse := by simp
    rw [List.cons_append, lowerAfter, lowerWithin, hbefore, ih, List.append_assoc,
      List.append_assoc, List.singleton_append, endsWord]

theorem lowercase_eq (t : List Char) : lowercase t = lowerWithin [] t [] := by
  have h := lowerAfter_append [] t []
  rwa [List.append_nil, lowerAfter, List.append_nil] at h

theorem lowercase_append (before t after : List Char) :
    lowercase (before ++ t ++ after) =
      lowerWithin [] before (t ++ after) ++ lowerWithin before t after ++
        lowerAfter (before ++ t).reverse after := by
  calc lowercase (before ++ t ++ after)
      = lowerAfter [].reverse (before ++ (t ++ after)) := by rw [List.append_assoc]; rfl
    _ = lowerWithin [] before (t ++ after) ++ lowerWithin before t after ++
          lowerAfter (before ++ t).reverse after := by
      rw [lowerAfter_append, List.nil_append, lowerAfter_append, List.append_assoc]

/-- What stands around a part is of no account to the length of its form. -/
theorem length_lowerWithin :
    (lowerWithin before t after).length = (lowerWithin before' t after').length := by
  induction t generalizing before before' with
  | nil => rfl
  | cons c rest ih =>
    rw [lowerWithin, lowerWithin, List.length_append, List.length_append, @ih _ (before' ++ [c])]
    by_cases hc : c = 'Σ'
    · rw [if_pos hc, if_pos hc, List.length_singleton, List.length_singleton]
    · rw [if_neg hc, if_neg hc]

/-- The places of a character in a text are the first place, if it stands there, and those in the
rest. -/
theorem forall_places_cons_iff {c d : Char} {p : List Char → List Char → Prop} :
    (∀ first rest, c :: t = first ++ d :: rest → p first rest) ↔
      (c = d → p [] t) ∧ ∀ first rest, t = first ++ d :: rest → p (c :: first) rest := by
  constructor
  · intro h
    refine ⟨?_, fun first rest ht => h (c :: first) rest (by rw [ht, List.cons_append])⟩
    rintro rfl
    exact h [] t rfl
  · rintro ⟨hhead, htail⟩ first rest ht
    cases first with
    | nil =>
      obtain ⟨rfl, rfl⟩ := List.cons.inj ht
      exact hhead rfl
    | cons c' first =>
      obtain ⟨rfl, rfl⟩ := List.cons.inj ht
      exact htail first rest rfl

theorem lowerWithin_eq_iff :
    lowerWithin before t after = lowerWithin before' t after' ↔
      ∀ first rest, t = first ++ 'Σ' :: rest →
        endsWord (before ++ first) (rest ++ after) =
          endsWord (before' ++ first) (rest ++ after') := by
  induction t generalizing before before' with
  | nil => simp [lowerWithin]
  | cons c t ih =>
    have hfirst : (if c = 'Σ' then [if endsWord before (t ++ after) then 'ς' else 'σ']
          else lowerChar c) =
        (if c = 'Σ' then [if endsWord before' (t ++ after') then 'ς' else 'σ']
          else lowerChar c) ↔
        (c = 'Σ' → endsWord before (t ++ after) = endsWord before' (t ++ after')) := by
      by_cases hc : c = 'Σ'
      · simp only [hc, if_true, List.cons.injEq, and_true, true_implies]
        cases endsWord before (t ++ after) <;> cases endsWord before' (t ++ after') <;> simp
      · simp only [hc, if_false, false_implies]
    have hrest := @ih (before ++ [c]) (before' ++ [c])
    simp only [List.append_assoc, List.singleton_append] at hrest
    rw [forall_places_cons_iff, List.append_nil, List.append_nil, ← hfirst, ← hrest, lowerWithin,
      lowerWithin]
    -- the forms of the first character are of one length, so the two parts can be told apart
    refine ⟨fun h => List.append_inj' h length_lowerWithin, fun h => ?_⟩
    rw [h.1, h.2]

/-- A part has its form within the text exactly if it keeps its sigmas. -/
theorem lowerWithin_eq_lowercase_iff :
    lowerWithin before t after = lowercase t ↔ KeepsSigmas before t after := by
  rw [lowercase_eq, lowerWithin_eq_iff]
  simp only [List.nil_append, List.append_nil]
  rfl

/-! ## Beginnings, ends and other parts of a text -/

theorem infix_lowercase (h : KeepsSigmas before t after) :
    lowercase t <:+: lowercase (before ++ t ++ after) := by
  rw [lowercase_append, lowerWithin_eq_lowercase_iff.2 h]
  exact ⟨_, _, rfl⟩

theorem prefix_lowercase_iff :
    lowercase t <+: lowercase (t ++ after) ↔ KeepsSigmas [] t after := by
  have hform := lowercase_append [] t after
  rw [List.nil_append, lowerWithin, List.nil_append] at hform
  rw [← lowerWithin_eq_lowercase_iff, hform]
  constructor
  · rintro ⟨rest, hrest⟩
    rw [lowercase_eq] at hrest ⊢
    exact (List.append_inj_left hrest length_lowerWithin).symm
  · intro h
    rw [h]
    exact List.prefix_append _ _

theorem suffix_lowercase_iff :
    lowercase t <:+ lowercase (before ++ t) ↔ KeepsSigmas before t [] := by
  have hform := lowercase_append before t []
  rw [List.append_nil, lowerAfter, List.append_nil] at hform
  rw [← lowerWithin_eq_lowercase_iff, hform]
  constructor
  · rintro ⟨rest, hrest⟩
    rw [lowercase_eq] at hrest ⊢
    exact (List.append_inj_right' hrest length_lowerWithin).symm
  · intro h
    rw [h]
    exact List.suffix_append _ _

theorem reverseLower_prefix_iff {s : List Char} :
    reverseLower t <+: reverseLower s ↔ lowercase t <:+ lowercase s :=
  List.reverse_prefix

end RecordQuery.Text
