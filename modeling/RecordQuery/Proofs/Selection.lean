import RecordQuery.Proofs.Query.Verdict
import RecordQuery.Run

/-!
# Selections

What `selectAll` and `selectFirst` find of some records, in terms of what the test says of each of
them. A selection of all records tests every record (`selectAll_eq_ok_iff`); one of the first goes
as far as the record that it finds (`selectFirst_eq_some_iff`). Neither loses anything if records
that do not pass are left out beforehand (`select_filter`).
-/

namespace RecordQuery

variable {ρ : Type} {test test' : ρ → Eval Id Bool} {keep : ρ → Bool} {records : List ρ}

/-! ## All records -/

section Answered

variable (h : ∀ r ∈ records, (test r).run = .ok (keep r))
include h

theorem selectAll_eq_filter : (selectAll test records).run = .ok (records.filter keep) := by
  induction records with
  | nil => rfl
  | cons r records ih =>
    rw [List.forall_mem_cons] at h
    rw [selectAll, run_bind_eq_ok_iff]
    refine ⟨keep r, h.1, ?_⟩
    rw [List.filter_cons]
    cases keep r with
    | true =>
      rw [if_pos rfl, if_pos rfl]
      exact run_bind_eq_ok_iff.2 ⟨_, ih h.2, rfl⟩
    | false => exact ih h.2

theorem selectFirst_eq_head? :
    (selectFirst test records).run = .ok (records.filter keep).head? := by
  induction records with
  | nil => rfl
  | cons r records ih =>
    rw [List.forall_mem_cons] at h
    rw [selectFirst, run_bind_eq_ok_iff]
    refine ⟨keep r, h.1, ?_⟩
    rw [List.filter_cons]
    cases keep r with
    | true => rfl
    | false => exact ih h.2

end Answered

theorem exists_answer_of_selectAll {found : List ρ}
    (h : (selectAll test records).run = .ok found) : ∀ r ∈ records, ∃ b, (test r).run = .ok b := by
  induction records generalizing found with
  | nil => nofun
  | cons r records ih =>
    rw [selectAll, run_bind_eq_ok_iff] at h
    obtain ⟨b, hb, h⟩ := h
    rw [List.forall_mem_cons]
    cases b with
    | true =>
      obtain ⟨found', hfound', -⟩ := run_bind_eq_ok_iff.1 h
      exact ⟨⟨true, hb⟩, ih hfound'⟩
    | false => exact ⟨⟨false, hb⟩, ih h⟩

theorem selectAll_eq_ok_iff {found : List ρ} :
    (selectAll test records).run = .ok found ↔
      (∀ r ∈ records, (test r).run = .ok ((test r).holds id)) ∧
        found = records.filter fun r => (test r).holds id := by
  constructor
  · intro h
    have hanswers : ∀ r ∈ records, (test r).run = .ok ((test r).holds id) := by
      intro r hr
      obtain ⟨b, hb⟩ := exists_answer_of_selectAll h r hr
      rw [Eval.holds_of_run hb, id, hb]
    exact ⟨hanswers, Except.ok.inj (h.symm.trans (selectAll_eq_filter hanswers))⟩
  · intro h
    rw [h.2]
    exact selectAll_eq_filter h.1

/-! ## The first record -/

theorem selectFirst_eq_none_iff :
    (selectFirst test records).run = .ok none ↔ ∀ r ∈ records, (test r).run = .ok false := by
  induction records with
  | nil => exact iff_of_true rfl nofun
  | cons r records ih =>
    rw [selectFirst, List.forall_mem_cons, run_bind_eq_ok_iff, ← ih]
    constructor
    · intro h
      obtain ⟨b, hb, h⟩ := h
      cases b with
      | true => cases h
      | false => exact ⟨hb, h⟩
    · exact fun h => ⟨false, h⟩

theorem selectFirst_eq_some_iff {r : ρ} :
    (selectFirst test records).run = .ok (some r) ↔
      ∃ before after, records = before ++ r :: after ∧
        (∀ x ∈ before, (test x).run = .ok false) ∧ (test r).run = .ok true := by
  induction records with
  | nil =>
    constructor
    · intro h; cases h
    · intro h
      obtain ⟨before, after, hrecords, -⟩ := h
      cases before <;> cases hrecords
  | cons x records ih =>
    rw [selectFirst, run_bind_eq_ok_iff]
    constructor
    · intro h
      obtain ⟨b, hb, h⟩ := h
      cases b with
      | true =>
        cases h
        exact ⟨[], records, rfl, nofun, hb⟩
      | false =>
        obtain ⟨before, after, rfl, hbefore, hr⟩ := ih.1 h
        exact ⟨x :: before, after, rfl, List.forall_mem_cons.2 ⟨hb, hbefore⟩, hr⟩
    · intro h
      obtain ⟨before, after, hrecords, hbefore, hr⟩ := h
      cases before with
      | nil =>
        cases hrecords
        exact ⟨true, hr, rfl⟩
      | cons y before =>
        cases hrecords
        rw [List.forall_mem_cons] at hbefore
        exact ⟨false, hbefore.1, ih.2 ⟨before, after, rfl, hbefore.2, hr⟩⟩

/-- If all records can be tested, the first one that passes is the first of all that do. -/
theorem selectFirst_of_selectAll {found : List ρ} (h : (selectAll test records).run = .ok found) :
    (selectFirst test records).run = .ok found.head? := by
  rw [selectAll_eq_ok_iff] at h
  rw [h.2]
  exact selectFirst_eq_head? h.1

/-- A search that finds nothing has tested all records. -/
theorem selectAll_of_selectFirst_none (h : (selectFirst test records).run = .ok none) :
    (selectAll test records).run = .ok [] := by
  have hall : (selectAll test records).run = .ok (records.filter fun _ => false) :=
    selectAll_eq_filter (selectFirst_eq_none_iff.1 h)
  rw [hall, List.filter_false]

theorem mem_of_selectFirst {r : ρ} (h : (selectFirst test records).run = .ok (some r)) :
    r ∈ records := by
  obtain ⟨before, after, rfl, -⟩ := selectFirst_eq_some_iff.1 h
  exact List.mem_append_right before List.mem_cons_self

/-- What comes after the record that is found, at the earliest place where it stands, has no part
in the search. -/
theorem selectFirst_of_take_eq {r : ρ} (h : (selectFirst test records).run = .ok (some r)) {i : Nat}
    (hi : records[i]? = some r) {records' : List ρ}
    (htake : records'.take (i + 1) = records.take (i + 1)) :
    (selectFirst test records').run = .ok (some r) := by
  obtain ⟨before, after, rfl, hbefore, hr⟩ := selectFirst_eq_some_iff.1 h
  -- the records before the one found do not pass, so it is none of them
  have hle : before.length ≤ i := by
    apply Nat.le_of_not_lt
    intro hlt
    rw [List.getElem?_append_left hlt] at hi
    cases hr.symm.trans (hbefore r (List.mem_of_getElem? hi))
  have hprefix : (before ++ r :: after).take (i + 1) =
      before ++ r :: after.take (i - before.length) := by
    rw [List.take_append, List.take_of_length_le (by omega), Nat.sub_add_comm hle,
      List.take_succ_cons]
  have hrecords' : records' =
      before ++ r :: (after.take (i - before.length) ++ records'.drop (i + 1)) := by
    rw [← List.cons_append, ← List.append_assoc, ← hprefix, ← htake, List.take_append_drop]
  exact selectFirst_eq_some_iff.2 ⟨before, _, hrecords', hbefore, hr⟩

/-! ## Records left out -/

theorem select_congr (h : ∀ r ∈ records, test r = test' r) (firstOnly : Bool) :
    select test firstOnly records = select test' firstOnly records := by
  have hall : selectAll test records = selectAll test' records := by
    induction records with
    | nil => rfl
    | cons r records ih =>
      rw [List.forall_mem_cons] at h
      rw [selectAll, selectAll, h.1, ih h.2]
  have hfirst : selectFirst test records = selectFirst test' records := by
    clear hall
    induction records with
    | nil => rfl
    | cons r records ih =>
      rw [List.forall_mem_cons] at h
      rw [selectFirst, selectFirst, h.1, ih h.2]
  rw [select, select, hall, hfirst]

section LeftOut

variable (h : ∀ r ∈ records, keep r = false → (test r).holds id = false)
include h

theorem filter_holds_filter :
    ((records.filter keep).filter fun r => (test r).holds id) =
      records.filter fun r => (test r).holds id := by
  rw [List.filter_filter]
  apply List.filter_congr
  intro r hr
  cases hkeep : keep r with
  | true => exact Bool.and_true _
  | false => rw [h r hr hkeep, Bool.false_and]

theorem selectAll_filter {found : List ρ} (hfound : (selectAll test records).run = .ok found) :
    (selectAll test (records.filter keep)).run = .ok found := by
  rw [selectAll_eq_ok_iff] at hfound ⊢
  rw [filter_holds_filter h]
  exact ⟨fun r hr => hfound.1 r (List.mem_of_mem_filter hr), hfound.2⟩

theorem selectFirst_filter {found : Option ρ}
    (hfound : (selectFirst test records).run = .ok found) :
    (selectFirst test (records.filter keep)).run = .ok found := by
  cases found with
  | none =>
    rw [selectFirst_eq_none_iff] at hfound ⊢
    exact fun r hr => hfound r (List.mem_of_mem_filter hr)
  | some r =>
    obtain ⟨before, after, rfl, hbefore, hr⟩ := selectFirst_eq_some_iff.1 hfound
    have hkeep : keep r = true := by
      cases hkeep : keep r with
      | true => rfl
      | false =>
        have hpasses : (test r).holds id = true := Eval.holds_of_run hr id
        rw [h r (List.mem_append_right before List.mem_cons_self) hkeep] at hpasses
        cases hpasses
    rw [List.filter_append, List.filter_cons_of_pos hkeep]
    refine selectFirst_eq_some_iff.2 ⟨_, _, rfl, fun x hx => ?_, hr⟩
    exact hbefore x (List.mem_of_mem_filter hx)

/-- What is found of some records is found of those among them that may pass. -/
theorem select_filter {firstOnly : Bool} {out : Outcome ρ}
    (hout : (select test firstOnly records).run = .ok out) :
    (select test firstOnly (records.filter keep)).run = .ok out := by
  cases firstOnly with
  | true =>
    obtain ⟨found, hfound, rfl⟩ := run_map_eq_ok_iff.1 hout
    exact run_map_eq_ok_iff.2 ⟨found, selectFirst_filter h hfound, rfl⟩
  | false =>
    obtain ⟨found, hfound, rfl⟩ := run_map_eq_ok_iff.1 hout
    exact run_map_eq_ok_iff.2 ⟨found, selectAll_filter h hfound, rfl⟩

end LeftOut

end RecordQuery
