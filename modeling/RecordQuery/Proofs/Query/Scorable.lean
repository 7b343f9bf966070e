import RecordQuery.Proofs.Compile.Conjunction
import RecordQuery.Run

/-!
# Queries without a score

A query has a score if it is one `$and` group. This is settled by the keys of its document, but
asked for each record: scoring refuses every other query as soon as there is a record to score
(`score_refuses_iff`), and has nothing against it if there is none.
-/

namespace RecordQuery

/-! ## One record -/

theorem Query.scored?_eq_error_iff {q : Query} {e : CompileError} :
    q.scored? = .error e ↔
      q.groups.map (·.kind) ≠ [.and] ∧ e = .scoreRequiresSingleAnd (q.groups.map (·.kind)) := by
  have hrefused : ∀ kinds, (Except.error (.scoreRequiresSingleAnd kinds) : Except _ (List Node)) =
      .error e ↔ e = .scoreRequiresSingleAnd kinds := fun kinds => by
    rw [Except.error.injEq, eq_comm]
  obtain ⟨groups⟩ := q
  cases groups with
  | nil => exact (hrefused _).trans (and_iff_right nofun).symm
  | cons group rest =>
    obtain ⟨kind, nodes, boost⟩ := group
    cases rest with
    | nil =>
      cases kind with
      | and => exact iff_of_false nofun fun h => h.1 rfl
      | not | or | nor => exact (hrefused _).trans (and_iff_right nofun).symm
    | cons other rest =>
      have hkinds : kind :: other.kind :: rest.map (·.kind) ≠ [.and] := nofun
      cases kind <;> exact (hrefused _).trans (and_iff_right hkinds).symm

/-- Scoring a record fails with a compile error only for the kinds of the query's groups. -/
theorem Query.run_score_eq_compile_error_iff {calls : Callbacks Id} {s : Subject Id} {q : Query}
    {e : CompileError} :
    (q.score calls s).run = .error (.compile e) ↔ q.scored? = .error e := by
  unfold Query.score
  cases q.scored? with
  | error e' =>
    show Except.error (QueryError.compile e') = .error (.compile e) ↔ _
    rw [Except.error.injEq, Except.error.injEq, QueryError.compile.injEq]
  | ok nodes =>
    refine iff_of_false ?_ nofun
    show (Tally.score <$> tally calls s nodes).run.mapError QueryError.eval ≠ .error (.compile e)
    cases (Tally.score <$> tally calls s nodes).run with
    | error e' => nofun
    | ok x => nofun

/-! ## All records -/

/-- Where every item fails with one error, so does the traversal of them, if there is an item. -/
theorem run_mapM_eq_error_iff_of_forall {α β ε : Type} {f : α → ExceptT ε Id β} {e : ε} {p : Prop}
    (h : ∀ x, (f x).run = .error e ↔ p) {xs : List α} :
    (xs.mapM f).run = .error e ↔ xs ≠ [] ∧ p := by
  induction xs with
  | nil => exact iff_of_false nofun fun hnil => hnil.1 rfl
  | cons x xs ih =>
    rw [List.mapM_cons, run_bind_eq_error_iff, h]
    constructor
    · rintro (hp | ⟨y, -, hrest⟩)
      · exact ⟨List.cons_ne_nil _ _, hp⟩
      · -- what fails later has failed before
        rw [run_bind_eq_error_iff, ih] at hrest
        rcases hrest with ⟨-, hp⟩ | ⟨ys, -, hpure⟩
        · exact ⟨List.cons_ne_nil _ _, hp⟩
        · cases hpure
    · exact fun hp => .inl hp.2

section Records

variable {ρ : Type} [Queryable Id ρ] {calls : Callbacks Id} {records : List ρ}
  {getter : Getter Id ρ}

theorem Query.run_scoreAll_eq_compile_error_iff {q : Query} {e : CompileError} :
    (q.scoreAll calls records getter).run = .error (.compile e) ↔
      records ≠ [] ∧ q.scored? = .error e := by
  refine run_mapM_eq_error_iff_of_forall fun r => ?_
  rw [run_bind_eq_error_iff, run_score_eq_compile_error_iff]
  exact or_iff_left fun ⟨x, _, hpure⟩ => by cases hpure

/-! ## Documents -/

theorem Document.map_kind_of_compile {d : Document} {q : Query}
    (h : (Query.compile (m := Id) d).run = .ok q) : q.groups.map (·.kind) = d.kinds := by
  obtain ⟨-, groups, hgroups, rfl⟩ := compileQuery_eq_ok_iff.1 (Query.compile_eq_ok_iff.1 h)
  have hkinds : List.Forall₂ (fun kind group => group.kind = kind) d.kinds groups :=
    (mapM_eq_ok_iff.1 hgroups).imp fun _ _ hgroup => kind_of_compileGroup hgroup
  exact List.forall₂_eq_eq_eq ▸ List.forall₂_map_left_iff.2 hkinds.flip

/-- Scoring refuses a document that is empty or has another combinator than `$and` among its keys,
and names the kinds of its groups, if there is a record to score. Without records no document is
refused. -/
theorem score_refuses_iff {d : Document} {q : Query}
    (h : (Query.compile (m := Id) d).run = .ok q) (calls : Callbacks Id) (records : List ρ)
    (getter : Getter Id ρ) (found : List Combinator) :
    ((score calls records d getter).run = .error (.compile (.scoreRequiresSingleAnd found)) ↔
      records ≠ [] ∧ (d.keys = [] ∨ ∃ kind : Combinator, kind ≠ .and ∧ kind.name ∈ d.keys) ∧
        found = d.kinds) ∧
    (score calls [] d getter).run = .ok [] := by
  have hscore : ∀ records : List ρ,
      score calls records d getter = q.scoreAll calls records getter := fun records =>
    bind_eq_of_run h _
  have hshape : d.kinds ≠ [.and] ↔
      d.keys = [] ∨ ∃ kind : Combinator, kind ≠ .and ∧ kind.name ∈ d.keys := by
    rw [Ne, Document.kinds_eq_and_iff, not_and_or, not_ne_iff]
    simp only [not_forall, exists_prop, and_comm]
  rw [hscore, hscore, Query.run_scoreAll_eq_compile_error_iff, Query.scored?_eq_error_iff,
    Document.map_kind_of_compile h, hshape, CompileError.scoreRequiresSingleAnd.injEq]
  exact ⟨Iff.rfl, rfl⟩

end Records

section Instances

/-- `$or` of one test. -/
def Document.alternative : Document :=
  .joining .or [.ofDocument (.singleton "a" (.bool true))]

/-- One record is enough for `$or` to be refused. -/
theorem score_refuses_iff_record :
    let calls : Callbacks Id := fun _ _ _ => .error "none"
    let r : Json := Json.ofFields (.singleton "a" (.bool true))
    ∃ q, (Query.compile (m := Id) .alternative).run = .ok q ∧
      (score calls [r] .alternative .property).run =
        .error (.compile (.scoreRequiresSingleAnd [.or])) := by
  have hcompile : (Query.compile (m := Id) .alternative).run = .ok ⟨[.ofNodes .or
      [.condition (.ofKey "a" .equal (.value (.bool true)))]]⟩ := rfl
  intro calls r
  have hrefused := (score_refuses_iff hcompile calls [r] .property [.or]).1.2
  have hor : Combinator.or.name ∈ Document.alternative.keys := List.mem_cons_self
  exact ⟨_, hcompile, hrefused ⟨List.cons_ne_nil _ _, .inr ⟨.or, by decide, hor⟩, rfl⟩⟩

/-- `$or` is not refused as long as there is no record. -/
theorem score_alternative_nil :
    let calls : Callbacks Id := fun _ _ _ => .error "none"
    let records : List Json := []
    (∃ q, (Query.compile (m := Id) .alternative).run = .ok q) ∧
      Combinator.or.name ∈ Document.alternative.keys ∧
      (score calls records .alternative .property).run = .ok [] :=
  ⟨⟨⟨[.ofNodes .or [.condition (.ofKey "a" .equal (.value (.bool true)))]]⟩, rfl⟩,
    List.mem_cons_self, rfl⟩

end Instances

end RecordQuery
