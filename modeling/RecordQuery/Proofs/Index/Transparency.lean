import RecordQuery.Proofs.Compile.Reading
import RecordQuery.Proofs.Index.Keys
import RecordQuery.Proofs.Index.Narrowing
import RecordQuery.Proofs.Selection

/-!
# Runs with indexes

An index that was built over some records answers a condition of a compiled query with the positions
of the records that pass it (`EqualityIndex.answer?_spec`). What is left of the query is evaluated
on those records as the query would be, and the query passes no others (`Query.narrow?_spec`), so a
run puts fewer records to the same test (`Query.exists_run_eq`) and finds the same.
-/

namespace RecordQuery

variable {ρ : Type}

variable [Queryable Id ρ] {records : List ρ} {getter : Getter Id ρ}

/-! ## One index -/

/-- The attribute that an index reads. -/
def EqualityIndex.attr (getter : Getter Id ρ) (index : EqualityIndex) (r : ρ) :
    Eval Id (Option Json) :=
  (Subject.of getter r).attr index.key (Path.ofKey? index.key)

/-- The index could read every record and looks values up among what it read. -/
structure EqualityIndex.Covers (records : List ρ) (getter : Getter Id ρ) (index : EqualityIndex) :
    Prop where
  reads : ∀ r ∈ records, ∃ attr, (index.attr getter r).run = .ok attr
  finds : ∀ v positions, index.lookup? v = some positions →
    positions = positionsFrom 0
      (fun r => (index.attr getter r).holds fun attr => (Operand.value v).equals attr) records

theorem EqualityIndex.covers_of_build {key : String} {index : EqualityIndex}
    (h : (EqualityIndex.build key records getter).run = .ok index) :
    index.Covers records getter := by
  obtain ⟨attrs, hattrs, h⟩ := run_bind_eq_ok_iff.1 h
  obtain rfl : ofAttributes key attrs = index := Except.ok.inj h
  rw [run_mapM_eq_ok_iff] at hattrs
  constructor
  · -- the index is there, so no record failed to be read
    refine (forall_mem_iff_of_forall₂ hattrs fun r attr _ hattr => ?_).1 fun _ _ => trivial
    exact iff_of_true trivial ⟨attr, hattr⟩
  · intro v positions hv
    rw [lookup?_ofAttributes, Option.map_eq_some_iff] at hv
    obtain ⟨k, hk, rfl⟩ := hv
    refine (positionsFrom_congr hattrs fun r attr hattr => ?_).symm
    have hattr : ((ofAttributes key attrs).attr getter r).run = .ok attr := hattr
    rw [Eval.holds_of_run hattr, Bool.eq_iff_iff, IndexKey.equals_iff hk, List.contains_iff_mem]

/-- An equality test of what the index has read has an answer. -/
theorem EqualityIndex.Covers.run_eval_equal {index : EqualityIndex}
    (h : index.Covers records getter) {r : ρ} (hr : r ∈ records) (calls : Callbacks Id) (v : Value)
    (boost : Binary64) :
    ((⟨index.key, Path.ofKey? index.key, .equal, .value v, boost⟩ : Condition).eval calls
      (.of getter r)).run =
        .ok ((index.attr getter r).holds fun attr => (Operand.value v).equals attr) := by
  obtain ⟨attr, hattr⟩ := h.reads r hr
  have hplain : (Operand.value v).IsPlain .equal := trivial
  rw [Eval.holds_of_run hattr, Condition.eval_plain hplain, run_map_eq_ok_iff]
  exact ⟨attr, hattr, rfl⟩

/-- A condition that is answered from an index never fails, and it passes for the positions in the
answer. -/
theorem EqualityIndex.answer?_spec {indexes : List EqualityIndex} (calls : Callbacks Id)
    (hindexes : ∀ index ∈ indexes, index.Covers records getter) {node : Node}
    (hnode : node.IsReadable) {positions : List Nat} (h : answer? indexes node = some positions) :
    ∃ keep : ρ → Bool, positions = positionsFrom 0 keep records ∧
      ∀ r ∈ records, (node.eval calls (.of getter r)).run = .ok (keep r) := by
  obtain ⟨hdirect, hmem, -, hkey, hlookup⟩ := answer?_eq_some_iff.1 h
  rename_i key path v boost before after index
  have hcovers : index.Covers records getter := hindexes index (hmem ▸ by simp)
  -- a path that the key does not call for is left to the plain run
  have hpath : path = Path.ofKey? key := by
    obtain ⟨key', rfl, hpath | hpath⟩ := hnode
    · exact hpath
    · rcases hdirect with rfl | hdotted
      · cases hpath
      · rw [Path.ofKey?, if_pos hdotted]
        exact hpath
  refine ⟨_, hcovers.finds v positions hlookup, fun r hr => ?_⟩
  rw [Node.eval, hpath, ← hkey]
  exact hcovers.run_eval_equal hr calls v boost

/-! ## One query -/

section Query

variable {indexes : List EqualityIndex} (calls : Callbacks Id)
  (hindexes : ∀ index ∈ indexes, index.Covers records getter)
include hindexes

/-- The nodes of an `$and` group that indexes answer: what their positions have in common, and what
is left to ask there. -/
theorem settles_answered (nodes : List Node) (hnodes : ∀ node ∈ nodes, node.IsReadable) :
    ∃ keep : ρ → Bool,
      (∀ init : ρ → Bool, (nodes.filterMap (EqualityIndex.answer? indexes)).foldl intersect
        (positionsFrom 0 init records) = positionsFrom 0 (fun r => init r && keep r) records) ∧
      ∀ r ∈ records,
        (keep r = false → ∀ b, (settles calls (.of getter r) false nodes).run = .ok b → b = true) ∧
        (keep r = true → settles calls (.of getter r) false (nodes.filter fun node =>
          (EqualityIndex.answer? indexes node).isNone) =
            settles calls (.of getter r) false nodes) := by
  induction nodes with
  | nil => exact ⟨fun _ => true, by simp, fun r _ => ⟨nofun, fun _ => rfl⟩⟩
  | cons node nodes ih =>
    rw [List.forall_mem_cons] at hnodes
    obtain ⟨keep, hfold, hsettles⟩ := ih hnodes.2
    cases hanswer : EqualityIndex.answer? indexes node with
    | none =>
      simp only [List.filterMap_cons, hanswer, List.filter_cons, Option.isNone_none, if_true]
      -- the node is left to ask, before the same nodes as in the plain run
      refine ⟨keep, hfold, fun r hr => ⟨fun hkeep b hb => ?_, fun hkeep => ?_⟩⟩
      · rw [settles, run_bind_eq_ok_iff] at hb
        obtain ⟨answer, -, hb⟩ := hb
        cases answer with
        | false => exact (Except.ok.inj hb).symm
        | true => exact (hsettles r hr).1 hkeep b hb
      · rw [settles, settles, (hsettles r hr).2 hkeep]
    | some positions =>
      obtain ⟨passes, rfl, hpasses⟩ :=
        EqualityIndex.answer?_spec calls hindexes hnodes.1 hanswer
      simp only [List.filterMap_cons, hanswer, List.filter_cons, Option.isNone_some,
        Bool.false_eq_true, if_false, List.foldl_cons]
      -- the node is answered: where it passes it would have settled nothing, and elsewhere
      -- it settles the `$and` group however the rest turns out
      refine ⟨fun r => passes r && keep r, fun init => ?_, fun r hr => ?_⟩
      · rw [intersect_positionsFrom, hfold]
        simp only [Bool.and_assoc]
      · rw [settles, bind_eq_of_run (hpasses r hr)]
        cases hpass : passes r with
        | false => exact ⟨fun _ b hb => (Except.ok.inj hb).symm, by simp [hpass]⟩
        | true =>
          simp only [hpass, Bool.true_and, Bool.true_eq_false, if_false]
          exact hsettles r hr

theorem Query.narrow?_spec {q : Query}
    (hq : ∀ group ∈ q.groups, ∀ node ∈ group.nodes, node.IsReadable) {narrowed : Narrowed}
    (h : q.narrow? indexes = some narrowed) :
    ∃ keep : ρ → Bool, narrowed.candidates = positionsFrom 0 keep records ∧
      ∀ r ∈ records,
        (keep r = false → (q.eval calls (.of getter r)).holds id = false) ∧
        (keep r = true → narrowed.rest.eval calls (.of getter r) =
          q.eval calls (.of getter r)) := by
  obtain ⟨nodes, boost, after, answer, answers, left, rfl, hnodes, rfl⟩ := narrow?_eq_some_iff.1 h
  obtain ⟨hanswers, rfl⟩ := splitsInto_iff.1 hnodes
  obtain ⟨keep, hfold, hsettles⟩ :=
    settles_answered calls hindexes nodes (hq _ List.mem_cons_self)
  refine ⟨keep, ?_, fun r hr => ⟨fun hkeep => ?_, fun hkeep => ?_⟩⟩
  · -- the fold starts at the first answer, which counts once more among them all
    have hmem : answer ∈ nodes.filterMap (EqualityIndex.answer? indexes) := by
      rw [hanswers]
      exact List.mem_cons_self
    obtain ⟨node, hnode, hanswer⟩ := List.mem_filterMap.1 hmem
    obtain ⟨passes, hpasses, -⟩ := EqualityIndex.answer?_spec calls hindexes
      (hq _ List.mem_cons_self node hnode) hanswer
    have := hfold fun _ => true
    rw [hanswers, List.foldl_cons, hpasses, intersect_positionsFrom] at this
    simpa [hpasses] using this
  · apply Bool.eq_false_iff.2
    intro hholds
    obtain ⟨b, hb, rfl⟩ := Eval.holds_iff.1 hholds
    rw [Query.eval, allPass, run_bind_eq_ok_iff] at hb
    obtain ⟨passed, hpassed, hb⟩ := hb
    rw [Group.eval, run_map_eq_ok_iff] at hpassed
    obtain ⟨settled, hsettled, rfl⟩ := hpassed
    rw [(hsettles r hr).1 hkeep settled hsettled] at hb
    cases hb
  · rw [Query.eval, Query.eval, allPass, allPass, Group.eval, Group.eval]
    show _ <$> settles calls (.of getter r) false _ >>= _ = _
    rw [(hsettles r hr).2 hkeep]
    rfl

end Query

/-! ## One run -/

@[simp]
theorem EqualityIndex.answer?_nil (node : Node) : answer? [] node = none := by
  unfold answer?
  split
  · split <;> rfl
  · rfl

/-- Without indexes a query is run as it is. -/
@[simp]
theorem Query.narrow?_nil (q : Query) : q.narrow? [] = none := by
  unfold narrow?
  split
  · simp
  · rfl

theorem Query.run_nil (calls : Callbacks Id) (records : List ρ) (q : Query) (getter : Getter Id ρ)
    {mode : Mode} (hmode : mode ≠ .score) :
    q.run calls records getter mode [] = ExceptT.adapt .eval
      (select (fun r => q.eval calls (.of getter r)) (mode = .first) records) := by
  rw [Query.run, if_neg hmode, Query.narrow?_nil]

/-- A run with indexes puts to the query some of the records, among them all that pass. -/
theorem Query.exists_run_eq {indexes : List EqualityIndex} (calls : Callbacks Id)
    (hindexes : ∀ index ∈ indexes, index.Covers records getter) {q : Query}
    (hq : ∀ group ∈ q.groups, ∀ node ∈ group.nodes, node.IsReadable) :
    ∃ keep : ρ → Bool,
      (∀ r ∈ records, keep r = false → (q.eval calls (.of getter r)).holds id = false) ∧
      ∀ mode, mode ≠ .score → q.run calls records getter mode indexes = ExceptT.adapt .eval
        (select (fun r => q.eval calls (.of getter r)) (mode = .first) (records.filter keep)) := by
  cases hnarrow : q.narrow? indexes with
  | none =>
    refine ⟨fun _ => true, nofun, fun mode hmode => ?_⟩
    rw [Query.run, if_neg hmode, hnarrow, List.filter_true]
  | some narrowed =>
    obtain ⟨keep, hcandidates, hkeep⟩ := Query.narrow?_spec calls hindexes hq hnarrow
    refine ⟨keep, fun r hr => (hkeep r hr).1, fun mode hmode => ?_⟩
    have hrest : ∀ r ∈ records.filter keep,
        q.eval calls (.of getter r) = narrowed.rest.eval calls (.of getter r) := by
      intro r hr
      rw [List.mem_filter] at hr
      exact ((hkeep r hr.1).2 hr.2).symm
    rw [Query.run, if_neg hmode, hnarrow, select_congr hrest, ← recordsAt_positionsFrom,
      ← hcandidates]
    rfl

theorem Query.run_of_run_nil {indexes : List EqualityIndex} (calls : Callbacks Id)
    (hindexes : ∀ index ∈ indexes, index.Covers records getter) {q : Query}
    (hq : ∀ group ∈ q.groups, ∀ node ∈ group.nodes, node.IsReadable) {mode : Mode}
    (hmode : mode ≠ .score) {out : Outcome ρ}
    (h : (q.run calls records getter mode []).run = .ok out) :
    (q.run calls records getter mode indexes).run = .ok out := by
  obtain ⟨keep, hkeep, hrun⟩ := Query.exists_run_eq calls hindexes hq
  rw [Query.run_nil calls records q getter hmode, run_adapt_eq_ok_iff] at h
  rw [hrun mode hmode, run_adapt_eq_ok_iff]
  exact select_filter hkeep h

/-- The criteria are a document, a query that was compiled from one, or a test of the caller. -/
def Criteria.IsCompiled : Criteria Id ρ → Prop
  | .query q => ∃ d, (Query.compile (m := Id) d).run = .ok q
  | .document _ | .predicate _ => True

/-- What a run gives, it gives with indexes too; and scores leave the indexes aside. -/
theorem runIndexed_of_run (calls : Callbacks Id) {keys : List String} {indexes : List EqualityIndex}
    (hindexes : (keys.mapM fun key => EqualityIndex.build (m := Id) key records getter).run =
      .ok indexes) :
    (∀ (criteria : Criteria Id ρ) (mode : Mode) (out : Outcome ρ), criteria.IsCompiled →
      mode ≠ .score → (run calls records criteria getter mode).run = .ok out →
        (runIndexed calls records criteria getter mode indexes).run = .ok out) ∧
    ∀ (criteria : Criteria Id ρ) (indexes' : List EqualityIndex),
      runIndexed calls records criteria getter .score indexes' =
        run calls records criteria getter .score := by
  have hcovers : ∀ index ∈ indexes, index.Covers records getter := by
    refine (forall_mem_iff_of_forall₂ (p := fun _ => True) (run_mapM_eq_ok_iff.1 hindexes)
      fun key index _ hindex => ?_).2 fun _ _ => trivial
    exact iff_of_true (EqualityIndex.covers_of_build hindex) trivial
  have hreadable : ∀ {d : Document} {q : Query}, (Query.compile (m := Id) d).run = .ok q →
      ∀ group ∈ q.groups, ∀ node ∈ group.nodes, node.IsReadable := fun hq _ hgroup _ hnode =>
    isReadable_of_compileQuery (Query.compile_eq_ok_iff.1 hq) hgroup hnode
  constructor
  · intro criteria mode out hcriteria hmode h
    cases criteria with
    | document d =>
      obtain ⟨q, hq, h⟩ := run_bind_eq_ok_iff.1 h
      exact run_bind_eq_ok_iff.2
        ⟨q, hq, Query.run_of_run_nil calls hcovers (hreadable hq) hmode h⟩
    | query q =>
      obtain ⟨d, hq⟩ := hcriteria
      exact Query.run_of_run_nil calls hcovers (hreadable hq) hmode h
    | predicate test => exact h
  · intro criteria indexes'
    cases criteria <;> rfl

theorem runIndexed_of_run_second :
    let record (n : Numeral) : Record Id := .ofAttributes fun _ => some (.number n)
    let first := record (.integer 1 (by decide) (by decide))
    let second := record (.integer 2 (by decide) (by decide))
    let d : Document := .singleton "age" (.number (.signed 2))
    let calls : Callbacks Id := fun _ _ _ => .error "none"
    ∃ index, (["age"].mapM fun key =>
        EqualityIndex.build (m := Id) key [first, second] .property).run = .ok [index] ∧
      (run calls [first, second] (.document d) .property .filter).run = .ok (.all [second]) ∧
      (runIndexed calls [first, second] (.document d) .property .filter [index]).run =
        .ok (.all [second]) := by
  have hfound : ∀ {records out : List (Record Id)} {d : Document} {calls : Callbacks Id}
      {index : EqualityIndex},
      (["age"].mapM fun key => EqualityIndex.build (m := Id) key records .property).run =
        .ok [index] →
      (run calls records (.document d) .property .filter).run = .ok (.all out) →
      (runIndexed calls records (.document d) .property .filter [index]).run = .ok (.all out) :=
    fun hindex hrun =>
      (runIndexed_of_run _ hindex).1 (.document _) .filter _ trivial (by decide) hrun
  refine ⟨_, rfl, rfl, hfound rfl rfl⟩

end RecordQuery
