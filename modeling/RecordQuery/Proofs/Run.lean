import RecordQuery.Proofs.Index.Transparency

/-!
# Runs for all records and for the first

Whatever records are tested by, a run selects among them by one test (`Criteria.test?`), and so do
runs with indexes, which leave out records that do not pass. A run for all records and one for the
first therefore agree, and the one for the first has nothing to do with the records after the one
that it finds (`first_agrees_filter`).
-/

namespace RecordQuery

variable {ρ : Type} [Queryable Id ρ] {calls : Callbacks Id} {records : List ρ}
  {getter : Getter Id ρ} {criteria : Criteria Id ρ} {indexes : List EqualityIndex} {mode : Mode}

/-! ## The test of a run -/

/-- The test that the criteria put records to, if they are not a document that does not compile. -/
def Criteria.test? (calls : Callbacks Id) (getter : Getter Id ρ) :
    Criteria Id ρ → Except QueryError (ρ → Eval Id Bool)
  | .document d => (Query.compile (m := Id) d).run.map fun q r => q.eval calls (.of getter r)
  | .query q => .ok fun r => q.eval calls (.of getter r)
  | .predicate test => .ok fun r => ExceptT.mk (Except.mapError .predicate (test r))

/-- Whether the record matches. One that cannot be tested does not. -/
def Criteria.passes (calls : Callbacks Id) (getter : Getter Id ρ) (criteria : Criteria Id ρ)
    (r : ρ) : Bool :=
  match criteria.test? calls getter with
  | .error _ => false
  | .ok test => (test r).holds id

theorem exists_test_of_runIndexed {out : Outcome ρ}
    (h : (runIndexed calls records criteria getter mode indexes).run = .ok out) :
    ∃ test, criteria.test? calls getter = .ok test := by
  cases criteria with
  | document d =>
    obtain ⟨q, hq, -⟩ := run_bind_eq_ok_iff.1 h
    exact ⟨_, map_eq_ok_iff.2 ⟨q, hq, rfl⟩⟩
  | query q => exact ⟨_, rfl⟩
  | predicate test => exact ⟨_, rfl⟩

theorem Query.isReadable_of_compile {d : Document} {q : Query}
    (h : (Query.compile (m := Id) d).run = .ok q) :
    ∀ group ∈ q.groups, ∀ node ∈ group.nodes, node.IsReadable := by
  intro group hgroup node hnode
  exact isReadable_of_compileQuery (Query.compile_eq_ok_iff.1 h) hgroup hnode

section Test

variable {test : ρ → Eval Id Bool} (htest : criteria.test? calls getter = .ok test)
include htest

theorem Criteria.passes_eq (r : ρ) : criteria.passes calls getter r = (test r).holds id := by
  rw [passes, htest]

theorem run_eq_select (records : List ρ) (hmode : mode ≠ .score) :
    run calls records criteria getter mode =
      ExceptT.adapt .eval (select test (mode = .first) records) := by
  cases criteria with
  | document d =>
    obtain ⟨q, hq, rfl⟩ := map_eq_ok_iff.1 htest
    exact (bind_eq_of_run hq _).trans (Query.run_nil calls records q getter hmode)
  | query q =>
    cases htest
    exact Query.run_nil calls records q getter hmode
  | predicate ask =>
    cases htest
    exact if_neg hmode

/-- A run with indexes selects among some of the records, and no other record matches. -/
theorem exists_runIndexed_eq_select (hindexes : ∀ index ∈ indexes, index.Covers records getter)
    (hcriteria : criteria.IsCompiled) :
    ∃ keep : ρ → Bool, (∀ r ∈ records, keep r = false → (test r).holds id = false) ∧
      ∀ mode, mode ≠ .score → runIndexed calls records criteria getter mode indexes =
        ExceptT.adapt .eval (select test (mode = .first) (records.filter keep)) := by
  cases criteria with
  | document d =>
    obtain ⟨q, hq, rfl⟩ := map_eq_ok_iff.1 htest
    obtain ⟨keep, hkeep, hrun⟩ :=
      Query.exists_run_eq calls hindexes (Query.isReadable_of_compile hq)
    exact ⟨keep, hkeep, fun mode hmode => (bind_eq_of_run hq _).trans (hrun mode hmode)⟩
  | query q =>
    obtain ⟨d, hq⟩ := hcriteria
    cases htest
    exact Query.exists_run_eq calls hindexes (Query.isReadable_of_compile hq)
  | predicate ask =>
    refine ⟨fun _ => true, nofun, fun mode hmode => ?_⟩
    rw [List.filter_true]
    exact run_eq_select htest records hmode

end Test

/-! ## All records and the first -/

/-- A run that finds all records that match decides what a run for the first gives, and one for the
first that finds nothing decides what a run for all gives. Without indexes a run for the first gives
the same over all lists of records that begin alike up to the record that it finds. -/
theorem first_agrees_filter (calls : Callbacks Id)
    (hindexes : ∀ index ∈ indexes, ∃ key,
      (EqualityIndex.build (m := Id) key records getter).run = .ok index)
    (hcriteria : criteria.IsCompiled) :
    (∀ out, (runIndexed calls records criteria getter .filter indexes).run = .ok out →
      out = .all (records.filter (criteria.passes calls getter)) ∧
        (runIndexed calls records criteria getter .first indexes).run =
          .ok (.first (records.filter (criteria.passes calls getter)).head?)) ∧
    ((runIndexed calls records criteria getter .first indexes).run = .ok (.first none) →
      (runIndexed calls records criteria getter .filter indexes).run = .ok (.all [])) ∧
    ∀ r, (run calls records criteria getter .first).run = .ok (.first (some r)) →
      r ∈ records ∧ ∀ i, records[i]? = some r →
        ∀ records', records'.take (i + 1) = records.take (i + 1) →
          (run calls records' criteria getter .first).run = .ok (.first (some r)) := by
  have hcovers : ∀ index ∈ indexes, index.Covers records getter := by
    intro index hindex
    obtain ⟨key, hbuild⟩ := hindexes index hindex
    exact EqualityIndex.covers_of_build hbuild
  refine ⟨fun out hout => ?_, fun hnone => ?_, fun r hfirst => ?_⟩
  · obtain ⟨test, htest⟩ := exists_test_of_runIndexed hout
    obtain ⟨keep, hkeep, hrun⟩ := exists_runIndexed_eq_select htest hcovers hcriteria
    rw [hrun .filter (by decide), run_adapt_eq_ok_iff] at hout
    obtain ⟨found, hfound, rfl⟩ := run_map_eq_ok_iff.1 hout
    have hmatching : found = records.filter (criteria.passes calls getter) := by
      rw [(selectAll_eq_ok_iff.1 hfound).2, filter_holds_filter hkeep,
        funext (Criteria.passes_eq htest)]
    refine ⟨by rw [hmatching], ?_⟩
    rw [hrun .first (by decide), run_adapt_eq_ok_iff, ← hmatching]
    exact run_map_eq_ok_iff.2 ⟨_, selectFirst_of_selectAll hfound, rfl⟩
  · obtain ⟨test, htest⟩ := exists_test_of_runIndexed hnone
    obtain ⟨keep, -, hrun⟩ := exists_runIndexed_eq_select htest hcovers hcriteria
    rw [hrun .first (by decide), run_adapt_eq_ok_iff] at hnone
    obtain ⟨found, hfound, h⟩ := run_map_eq_ok_iff.1 hnone
    cases h
    rw [hrun .filter (by decide), run_adapt_eq_ok_iff]
    exact run_map_eq_ok_iff.2 ⟨_, selectAll_of_selectFirst_none hfound, rfl⟩
  · obtain ⟨test, htest⟩ := exists_test_of_runIndexed hfirst
    rw [run_eq_select htest records (by decide), run_adapt_eq_ok_iff] at hfirst
    obtain ⟨found, hfound, h⟩ := run_map_eq_ok_iff.1 hfirst
    cases h
    refine ⟨mem_of_selectFirst hfound, fun i hi records' htake => ?_⟩
    rw [run_eq_select htest records' (by decide), run_adapt_eq_ok_iff]
    exact run_map_eq_ok_iff.2 ⟨_, selectFirst_of_take_eq hfound hi htake, rfl⟩

/-- Two records with an index, and a third one that cannot be read. -/
theorem first_agrees_filter_unreadable :
    let record (n : Numeral) : Record Id := .ofAttributes fun _ => some (.number n)
    let first := record (.integer 1 (by decide) (by decide))
    let second := record (.integer 2 (by decide) (by decide))
    let third : Record Id := .ofAttributes fun _ => none
    let q : Query :=
      ⟨[.ofNodes .and [.condition (.ofKey "age" .equal (.value (.number (.signed 2))))]]⟩
    let calls : Callbacks Id := fun _ _ _ => .error "none"
    let getter : Getter Id (Record Id) := .function fun r key =>
      if (r.attr key).isNone then .error "unreadable" else .ok (r.attr key)
    (Query.compile (m := Id) (.singleton "age" (.number (.signed 2)))).run = .ok q ∧
      ∃ index, (EqualityIndex.build (m := Id) "age" [first, second] getter).run = .ok index ∧
      (runIndexed calls [first, second] (.query q) getter .filter [index]).run =
        .ok (.all [second]) ∧
      (runIndexed calls [first, second] (.query q) getter .first [index]).run =
        .ok (.first (some second)) ∧
      (run calls [first, second, third] (.query q) getter .filter).run =
        .error (.eval (.getter "age" "unreadable")) ∧
      (run calls [first, second, third] (.query q) getter .first).run =
        .ok (.first (some second)) := by
  intro record first second third q calls getter
  have hq : (Query.compile (m := Id) (.singleton "age" (.number (.signed 2)))).run = .ok q := rfl
  obtain ⟨index, hindex⟩ : ∃ index,
      (EqualityIndex.build (m := Id) "age" [first, second] getter).run = .ok index := ⟨_, rfl⟩
  have hcovers : ∀ index' ∈ [index], index'.Covers [first, second] getter :=
    List.forall_mem_singleton.2 (EqualityIndex.covers_of_build hindex)
  have hfound : (runIndexed calls [first, second] (.query q) getter .filter [index]).run =
      .ok (.all [second]) :=
    Query.run_of_run_nil calls hcovers (Query.isReadable_of_compile hq) (by decide) rfl
  have hcompiled : (Criteria.query q : Criteria Id (Record Id)).IsCompiled := ⟨_, hq⟩
  obtain ⟨hfilter, -, hbegin⟩ := first_agrees_filter calls
    (List.forall_mem_singleton.2 ⟨_, hindex⟩ : ∀ index' ∈ [index], ∃ key,
      (EqualityIndex.build (m := Id) key [first, second] getter).run = .ok index') hcompiled
  obtain ⟨hall, hfirst⟩ := hfilter _ hfound
  rw [← Outcome.all.inj hall] at hfirst
  obtain ⟨-, hprefix⟩ := hbegin second rfl
  exact ⟨hq, index, hindex, hfound, hfirst, rfl, hprefix 1 rfl [first, second, third] rfl⟩

end RecordQuery
