import Mathlib.Data.List.Induction
import RecordQuery.Builder
import RecordQuery.Proofs.Compile.Members
import RecordQuery.Proofs.Index.Transparency

/-!
# What builders run

A builder is used by a list of calls. Of these it keeps the fragments under each combinator, in
order, and the last getter (`Builder.fragments_ofSteps`, `Builder.getter_ofSteps`), so calls of
different kinds may come in any order. What it finds are the records that its tester passes
(`Builder.finds_of_neverFails`), whatever indexes it was asked for.
-/

namespace RecordQuery

/-! ## Calls -/

namespace Builder

/-- A call of a builder. -/
inductive Step (m : Type → Type) (ρ : Type) where
  | add (kind : Combinator) (fragment : Value)
  | addWhere (kind : Combinator) (key : String) (clause : Value)
  | withGetter (getter : Getter m ρ)
  | withIndex (key : String)

namespace Step

variable {m : Type → Type} {ρ : Type}

/-- The fragment that the call adds under the combinator. -/
def fragment? (kind : Combinator) : Step m ρ → Option Value
  | add k fragment => if k = kind then some fragment else none
  | addWhere k key clause => if k = kind then some (.ofDocument (.singleton key clause)) else none
  | withGetter _ | withIndex _ => none

def getter? : Step m ρ → Option (Getter m ρ)
  | withGetter getter => some getter
  | add _ _ | addWhere _ _ _ | withIndex _ => none

/-- The fragments that some calls add under the combinator. -/
def fragments (steps : List (Step m ρ)) (kind : Combinator) : List Value :=
  steps.filterMap (fragment? kind)

/-- The getter that some calls settle on. -/
def getter (steps : List (Step m ρ)) : Getter m ρ :=
  (steps.filterMap getter?).getLastD .property

end Step

variable {m : Type → Type} {ρ : Type}

def apply (b : Builder m ρ) : Step m ρ → Builder m ρ
  | .add kind fragment => b.add kind fragment
  | .addWhere kind key clause => b.addWhere kind key clause
  | .withGetter getter => b.withGetter getter
  | .withIndex key => b.withIndex key

/-- The builder over some records after some calls. -/
def ofSteps (records : List ρ) (steps : List (Step m ρ)) : Builder m ρ :=
  steps.foldl apply (ofRecords records)

section Apply

variable (b : Builder m ρ)

theorem fragments_add (kind k : Combinator) (fragment : Value) :
    (b.add kind fragment).fragments k =
      b.fragments k ++ (if kind = k then some fragment else none).toList := by
  by_cases h : kind = k
  · subst h
    simp [add]
  · simp [add, h, Ne.symm h]

@[simp]
theorem fragments_withIndex (key : String) : (b.withIndex key).fragments = b.fragments := by
  unfold withIndex
  split <;> rfl

@[simp]
theorem getter_withIndex (key : String) : (b.withIndex key).getter = b.getter := by
  unfold withIndex
  split <;> rfl

@[simp]
theorem records_withIndex (key : String) : (b.withIndex key).records = b.records := by
  unfold withIndex
  split <;> rfl

@[simp]
theorem fragments_apply (step : Step m ρ) (kind : Combinator) :
    (b.apply step).fragments kind = b.fragments kind ++ (step.fragment? kind).toList := by
  cases step with
  | add k fragment => exact b.fragments_add k kind fragment
  | addWhere k key clause => exact b.fragments_add k kind _
  | withGetter getter => exact (List.append_nil _).symm
  | withIndex key =>
    rw [apply, fragments_withIndex]
    exact (List.append_nil _).symm

@[simp]
theorem getter_apply (step : Step m ρ) : (b.apply step).getter = step.getter?.getD b.getter := by
  cases step with
  | withIndex key => exact b.getter_withIndex key
  | _ => rfl

@[simp]
theorem records_apply (step : Step m ρ) : (b.apply step).records = b.records := by
  cases step with
  | withIndex key => exact b.records_withIndex key
  | _ => rfl

theorem fragments_foldl_apply (steps : List (Step m ρ)) (kind : Combinator) :
    (steps.foldl apply b).fragments kind = b.fragments kind ++ Step.fragments steps kind := by
  induction steps generalizing b with
  | nil => exact (List.append_nil _).symm
  | cons step steps ih =>
    rw [List.foldl_cons, ih, fragments_apply, List.append_assoc, Step.fragments, Step.fragments,
      List.filterMap_cons]
    cases step.fragment? kind <;> rfl

theorem getter_foldl_apply (steps : List (Step m ρ)) :
    (steps.foldl apply b).getter = (steps.filterMap Step.getter?).getLastD b.getter := by
  induction steps generalizing b with
  | nil => rfl
  | cons step steps ih =>
    rw [List.foldl_cons, ih, getter_apply, List.filterMap_cons]
    cases step.getter? with
    | none => rfl
    | some getter => rw [List.getLastD_cons]; rfl

theorem records_foldl_apply (steps : List (Step m ρ)) :
    (steps.foldl apply b).records = b.records := by
  induction steps generalizing b with
  | nil => rfl
  | cons step steps ih => rw [List.foldl_cons, ih, records_apply]

end Apply

section OfSteps

variable (records : List ρ) (steps : List (Step m ρ))

@[simp]
theorem fragments_ofSteps : (ofSteps records steps).fragments = Step.fragments steps :=
  funext fun kind => (ofRecords records).fragments_foldl_apply steps kind

@[simp]
theorem getter_ofSteps : (ofSteps records steps).getter = Step.getter steps :=
  (ofRecords records).getter_foldl_apply steps

@[simp]
theorem records_ofSteps : (ofSteps records steps).records = records :=
  (ofRecords records).records_foldl_apply steps

end OfSteps

theorem document_congr {b b' : Builder m ρ} (h : b.fragments = b'.fragments) :
    b.document = b'.document := by
  rw [document, document, h]

end Builder

/-! ## The document of the fragments -/

theorem Fields.mem_entries_ofList_iff {α : Type} {entries : List (String × α)}
    (h : (entries.map Prod.fst).Nodup) {pair : String × α} :
    pair ∈ (ofList entries).entries ↔ pair ∈ entries := by
  obtain ⟨key, v⟩ := pair
  rw [mem_entries_iff]
  induction entries using List.reverseRecOn with
  | nil => simp [ofList, empty, get?]
  | append_singleton entries last ih =>
    obtain ⟨other, w⟩ := last
    rw [List.map_append, List.nodup_append] at h
    obtain ⟨hnodup, -, hnew⟩ := h
    have hinsert : ofList (entries ++ [(other, w)]) = (ofList entries).insert other w :=
      List.foldl_append
    rw [hinsert, List.mem_append, List.mem_singleton, Prod.mk.injEq]
    by_cases hkey : key = other
    · subst hkey
      have habsent : (key, v) ∉ entries := fun hmem =>
        hnew key (List.mem_map_of_mem hmem) key (by simp) rfl
      simp [habsent, eq_comm]
    · rw [get?_insert_of_ne _ _ hkey, ih hnodup]
      simp [hkey]

namespace Builder

/-- Some pairs pass as the fragments under the combinators ask. -/
structure Asks (fragments : Combinator → List Value) (passes : String × Value → Prop) : Prop where
  and : ∀ v ∈ fragments .and, ∀ pair ∈ v.pairs, passes pair
  or : fragments .or ≠ [] →
    ∃ v ∈ fragments .or, (∃ pair, pair ∈ v.pairs) ∧ ∀ pair ∈ v.pairs, passes pair
  not : ∀ v ∈ fragments .not, ∀ pair ∈ v.pairs, ¬passes pair
  nor : ∀ v ∈ fragments .nor, ∀ pair ∈ v.pairs, ¬passes pair

theorem Asks.congr {fragments : Combinator → List Value} {passes passes' : String × Value → Prop}
    (h : Asks fragments passes)
    (hpasses : ∀ kind, ∀ v ∈ fragments kind, ∀ pair ∈ v.pairs, passes pair ↔ passes' pair) :
    Asks fragments passes' where
  and v hv pair hpair := (hpasses .and v hv pair hpair).1 (h.and v hv pair hpair)
  or hor := by
    obtain ⟨v, hv, hsome, hall⟩ := h.or hor
    exact ⟨v, hv, hsome, fun pair hpair => (hpasses .or v hv pair hpair).1 (hall pair hpair)⟩
  not v hv pair hpair := fun hp => h.not v hv pair hpair ((hpasses .not v hv pair hpair).2 hp)
  nor v hv pair hpair := fun hp => h.nor v hv pair hpair ((hpasses .nor v hv pair hpair).2 hp)

variable {ρ : Type} {b : Builder Id ρ} {q : Query} {calls : Callbacks Id} {s : Subject Id}

theorem forall_entries_document_iff {p : String × Value → Prop} :
    (∀ pair ∈ b.document.entries, p pair) ↔
      ∀ kind, b.fragments kind ≠ [] → p (kind.name, .ofList (b.fragments kind)) := by
  have hnames : (Combinator.all.map Combinator.name).Nodup := by decide
  have hnodup : (((Combinator.all.filter fun kind => !(b.fragments kind).isEmpty).map fun kind =>
      (kind.name, Value.ofList (b.fragments kind))).map Prod.fst).Nodup := by
    rw [List.map_map]
    exact hnames.sublist (List.filter_sublist.map _)
  simp only [document, Fields.mem_entries_ofList_iff hnodup, List.forall_mem_map, List.mem_filter,
    Combinator.mem_all, true_and, Bool.not_eq_true', List.isEmpty_eq_false_iff]

theorem hasUnweightedNot_document : b.document.HasUnweightedNot :=
  Document.hasUnweightedNot_of_lists (forall_entries_document_iff.2 fun _ _ => rfl)

section Compiled

variable (h : compileQuery (.ofDocument b.document) = .ok q)
include h

theorem exists_compilePair_fragments {kind : Combinator} (hkind : b.fragments kind ≠ []) :
    ∃ node, compilePair kind.name (.ofList (b.fragments kind)) = .ok node :=
  forall_entries_document_iff.1 (fun _ => Query.exists_compilePair hasUnweightedNot_document h)
    kind hkind

theorem neverFails_iff :
    q.NeverFails calls s ↔
      ∀ kind, ∀ v ∈ b.fragments kind, ∀ pair ∈ v.pairs, PairNeverFails calls s pair := by
  rw [Query.neverFails_iff_pairs hasUnweightedNot_document h, forall_entries_document_iff]
  constructor
  · intro hfails kind v hv
    have hkind := List.ne_nil_of_mem hv
    obtain ⟨node, hnode⟩ := exists_compilePair_fragments h hkind
    exact (pairNeverFails_list_iff hnode).1 (hfails kind hkind) v hv
  · intro hfails kind hkind
    obtain ⟨node, hnode⟩ := exists_compilePair_fragments h hkind
    exact (pairNeverFails_list_iff hnode).2 (hfails kind)

theorem verdict_iff_asks :
    q.verdict calls s = true ↔ Asks b.fragments (PairHolds calls s) := by
  have hlists : q.verdict calls s = true ↔ ∀ kind : Combinator, b.fragments kind ≠ [] →
      kind.JoinsList (· ∈ b.fragments kind) fun v =>
        kind.JoinsMember (· ∈ v.pairs) (PairHolds calls s) := by
    rw [Query.verdict_iff_pairs hasUnweightedNot_document h, forall_entries_document_iff]
    refine forall_congr' fun kind => forall_congr' fun hkind => ?_
    obtain ⟨node, hnode⟩ := exists_compilePair_fragments h hkind
    exact pairHolds_list_iff hnode
  rw [hlists]
  constructor
  · intro hall
    -- under no combinator but `$or` does it matter whether there are fragments
    exact ⟨fun v hv => hall .and (List.ne_nil_of_mem hv) v hv, hall .or,
      fun v hv => hall .not (List.ne_nil_of_mem hv) v hv,
      fun v hv => hall .nor (List.ne_nil_of_mem hv) v hv⟩
  · rintro ⟨hand, hor, hnot, hnor⟩ kind hkind
    cases kind with
    | and => exact hand
    | or => exact hor hkind
    | not => exact hnot
    | nor => exact hnor

/-- Where no call fails, a pair passes if its node answers that it does. -/
theorem verdict_iff_asks_eval (hq : q.NeverFails calls s) :
    q.verdict calls s = true ↔
      Asks b.fragments (CompilesTo fun node => (node.eval calls s).run = .ok true) := by
  have hpasses : ∀ kind, ∀ v ∈ b.fragments kind, ∀ pair ∈ v.pairs,
      PairHolds calls s pair ↔ CompilesTo (fun node => (node.eval calls s).run = .ok true) pair := by
    intro kind v hv pair hpair
    obtain ⟨node, hnode, hfails⟩ := (neverFails_iff h).1 hq kind v hv pair hpair
    rw [PairHolds, compilesTo_iff hnode, compilesTo_iff hnode, Node.eval_of_neverFails hfails,
      Except.ok.injEq]
  rw [verdict_iff_asks h]
  exact ⟨fun hasks => hasks.congr hpasses, fun hasks => hasks.congr fun kind v hv pair hpair =>
    (hpasses kind v hv pair hpair).symm⟩

end Compiled

end Builder

/-! ## Running -/

namespace Builder

variable {ρ : Type} [Queryable Id ρ] {b : Builder Id ρ} {q : Query} {calls : Callbacks Id}

variable (b) in
/-- The indexes that the builder was asked for can be built. -/
def CanIndex : Prop :=
  ∀ key ∈ b.indexes, ∃ index, (EqualityIndex.build (m := Id) key b.records b.getter).run = .ok index

/-- Indexes change nothing in what a run gives. -/
theorem execute_of_run (hq : b.compile.run = .ok q) (hindexes : b.CanIndex) {mode : Mode}
    (hmode : mode ≠ .score) {out : Outcome ρ}
    (h : (q.run calls b.records b.getter mode []).run = .ok out) :
    (b.execute calls mode).run = .ok out := by
  obtain ⟨indexes, hbuilt⟩ : ∃ indexes, (b.indexes.mapM fun key => ExceptT.adapt QueryError.eval
      (EqualityIndex.build (m := Id) key b.records b.getter)).run = .ok indexes := by
    refine exists_run_mapM_eq_ok_iff.2 fun key hkey => ?_
    obtain ⟨index, hindex⟩ := hindexes key hkey
    exact ⟨index, run_adapt_eq_ok_iff.2 hindex⟩
  have hcovers : ∀ index ∈ indexes, index.Covers b.records b.getter := by
    refine (forall_mem_iff_of_forall₂ (p := fun _ => True) (run_mapM_eq_ok_iff.1 hbuilt)
      fun key index _ hindex => ?_).2 fun _ _ => trivial
    exact iff_of_true (EqualityIndex.covers_of_build (run_adapt_eq_ok_iff.1 hindex)) trivial
  have hreadable : ∀ group ∈ q.groups, ∀ node ∈ group.nodes, node.IsReadable :=
    fun _ hgroup _ hnode => isReadable_of_compileQuery (Query.compile_eq_ok_iff.1 hq) hgroup hnode
  refine run_bind_eq_ok_iff.2 ⟨q, hq, run_bind_eq_ok_iff.2 ⟨indexes, ?_, ?_⟩⟩
  · rw [if_neg hmode]
    exact hbuilt
  · exact Query.run_of_run_nil calls hcovers hreadable hmode h

/-- If no call fails, the records that are found are those that the query passes. -/
theorem finds_of_neverFails (hq : b.compile.run = .ok q) (hindexes : b.CanIndex)
    (hfails : ∀ r ∈ b.records, q.NeverFails calls (.of b.getter r)) :
    let found := b.records.filter fun r => q.verdict calls (.of b.getter r)
    (b.all calls).run = .ok found ∧ (b.first calls).run = .ok found.head? ∧
      (b.count calls).run = .ok found.length := by
  have heval : ∀ r ∈ b.records, (q.eval calls (.of b.getter r)).run =
      .ok (q.verdict calls (.of b.getter r)) := fun r hr => Query.eval_of_neverFails (hfails r hr)
  have hall : (b.execute calls .filter).run =
      .ok (.all (b.records.filter fun r => q.verdict calls (.of b.getter r))) := by
    refine execute_of_run hq hindexes (by decide) ?_
    rw [Query.run_nil _ _ _ _ (by decide), run_adapt_eq_ok_iff]
    exact run_map_eq_ok_iff.2 ⟨_, selectAll_eq_filter heval, rfl⟩
  have hfirst : (b.execute calls .first).run =
      .ok (.first (b.records.filter fun r => q.verdict calls (.of b.getter r)).head?) := by
    refine execute_of_run hq hindexes (by decide) ?_
    rw [Query.run_nil _ _ _ _ (by decide), run_adapt_eq_ok_iff]
    exact run_map_eq_ok_iff.2 ⟨_, selectFirst_eq_head? heval, rfl⟩
  have hrecords : (b.all calls).run =
      .ok (b.records.filter fun r => q.verdict calls (.of b.getter r)) :=
    run_bind_eq_ok_iff.2 ⟨_, hall, rfl⟩
  refine ⟨hrecords, run_bind_eq_ok_iff.2 ⟨_, hfirst, ?_⟩, run_bind_eq_ok_iff.2 ⟨_, hrecords, rfl⟩⟩
  exact congrArg Except.ok Option.head?_toList

/-- The tester of a builder passes a record if the pairs of the fragments pass as they are asked. -/
theorem test_iff_asks {records : List ρ} {steps : List (Step Id ρ)}
    (hq : (ofSteps records steps).compile.run = .ok q) {r : ρ}
    (hfails : q.NeverFails calls (.of (Step.getter steps) r)) :
    ((⟨q, Step.getter steps⟩ : Tester Id ρ).test calls r).run = .ok true ↔
      Asks (Step.fragments steps) (CompilesTo fun node =>
        (node.eval calls (.of (Step.getter steps) r)).run = .ok true) := by
  rw [Tester.test, Query.eval_of_neverFails hfails, Except.ok.injEq,
    ← fragments_ofSteps records steps]
  exact verdict_iff_asks_eval (Query.compile_eq_ok_iff.1 hq) hfails

/-- What a builder finds is what its tester passes. -/
theorem finds_ofSteps {records : List ρ} {steps : List (Step Id ρ)}
    (hq : (ofSteps records steps).compile.run = .ok q)
    (hfails : ∀ r ∈ records, q.NeverFails calls (.of (Step.getter steps) r)) :
    let tester : Tester Id ρ := ⟨q, Step.getter steps⟩
    (ofSteps records steps).tester.run = .ok tester ∧ ((ofSteps records steps).CanIndex →
      let found := records.filter fun r => (tester.test calls r).holds id
      ((ofSteps records steps).all calls).run = .ok found ∧
        ((ofSteps records steps).first calls).run = .ok found.head? ∧
        ((ofSteps records steps).count calls).run = .ok found.length) := by
  intro tester
  refine ⟨run_bind_eq_ok_iff.2 ⟨q, hq, by rw [getter_ofSteps]; rfl⟩, fun hindexes => ?_⟩
  have hfound : (records.filter fun r => q.verdict calls (.of (Step.getter steps) r)) =
      records.filter fun r => (tester.test calls r).holds id := by
    refine List.filter_congr fun r hr => ?_
    rw [Tester.test, Eval.holds_of_run (Query.eval_of_neverFails (hfails r hr)), id]
  have hfinds := finds_of_neverFails hq hindexes (by simpa using hfails)
  simpa [hfound] using hfinds

/-- What builders find depends on the fragments that they collected and on the getter that they
settled on, not on how the calls came in between. -/
theorem finds_of_steps {records : List ρ} {steps steps' : List (Step Id ρ)}
    (hfragments : ∀ kind, Step.fragments steps kind = Step.fragments steps' kind)
    (hgetter : Step.getter steps = Step.getter steps') :
    let b := ofSteps records steps
    let b' := ofSteps records steps'
    b.document = b'.document ∧ b.compile = b'.compile ∧
    ∀ calls q, b.compile.run = .ok q →
      (∀ r ∈ records, q.NeverFails calls (.of (Step.getter steps) r)) →
      ∃ tester : Tester Id ρ,
        (∀ r ∈ records, (tester.test calls r).run = .ok true ↔
          Asks (Step.fragments steps) (CompilesTo fun node =>
            (node.eval calls (.of (Step.getter steps) r)).run = .ok true)) ∧
        ∀ builder ∈ [b, b'], builder.tester.run = .ok tester ∧ (builder.CanIndex →
          let found := records.filter fun r => (tester.test calls r).holds id
          (builder.all calls).run = .ok found ∧ (builder.first calls).run = .ok found.head? ∧
            (builder.count calls).run = .ok found.length) := by
  intro b b'
  have hsame : b.fragments = b'.fragments := by
    rw [fragments_ofSteps, fragments_ofSteps]
    exact funext hfragments
  have hdocument : b.document = b'.document := document_congr hsame
  have hcompile : b.compile = b'.compile := congrArg Query.compile hdocument
  refine ⟨hdocument, hcompile, fun calls q hq hfails => ?_⟩
  refine ⟨⟨q, Step.getter steps⟩, fun r hr => test_iff_asks hq (hfails r hr), ?_⟩
  simp only [List.forall_mem_cons]
  refine ⟨finds_ofSteps hq hfails, ?_, nofun⟩
  rw [hgetter] at hfails ⊢
  exact finds_ofSteps (hcompile ▸ hq) hfails

theorem finds_of_steps_indexed :
    let alternative : Value := .ofDocument (.singleton "a" .null)
    let steps : List (Step Id (Record Id)) :=
      [.addWhere .and "b" (.bool true), .withGetter .property, .add .or alternative]
    let steps' : List (Step Id (Record Id)) :=
      [.add .or alternative, .withIndex "b", .addWhere .and "b" (.bool true)]
    let calls : Callbacks Id := fun _ _ _ => .error "none"
    let first : Record Id := .ofAttributes fun _ => none
    let second : Record Id :=
      .ofAttributes fun key => if key = "a" then some .null else some (.bool true)
    let b := ofSteps [first, second] steps
    let b' := ofSteps [first, second] steps'
    b.indexes = [] ∧ b'.indexes = ["b"] ∧ b.document = b'.document ∧
      (b.all calls).run = .ok [second] ∧ (b'.all calls).run = .ok [second] := by
  have hsame : ∀ {records out : List (Record Id)} {steps steps' : List (Step Id (Record Id))}
      {calls : Callbacks Id} {q : Query},
      (∀ kind, Step.fragments steps kind = Step.fragments steps' kind) →
      Step.getter steps = Step.getter steps' →
      (ofSteps records steps).compile.run = .ok q →
      (∀ r ∈ records, q.NeverFails calls (.of (Step.getter steps) r)) →
      (ofSteps records steps).CanIndex → (ofSteps records steps').CanIndex →
      ((ofSteps records steps).all calls).run = .ok out →
      (ofSteps records steps).document = (ofSteps records steps').document ∧
        ((ofSteps records steps).all calls).run = .ok out ∧
        ((ofSteps records steps').all calls).run = .ok out := by
    intro records out steps steps' calls q hfragments hgetter hq hfails hindex hindex' hout
    obtain ⟨hdocument, -, hfinds⟩ := @finds_of_steps _ _ records _ _ hfragments hgetter
    obtain ⟨tester, -, hbuilders⟩ := hfinds calls q hq hfails
    have hall := ((hbuilders _ (by simp)).2 hindex).1
    have hall' := ((hbuilders _ (by simp)).2 hindex').1
    rw [← Except.ok.inj (hout.symm.trans hall)] at hall'
    exact ⟨hdocument, hout, hall'⟩
  refine ⟨rfl, rfl, hsame ?_ rfl (Query.compile_eq_ok_iff.2 rfl) ?_ nofun ?_ rfl⟩
  · intro kind
    cases kind <;> rfl
  · simp only [List.forall_mem_cons]
    exact ⟨⟨⟨⟨_, rfl, trivial⟩, trivial⟩, ⟨⟨_, rfl, trivial⟩, trivial⟩, trivial⟩,
      ⟨⟨⟨_, rfl, trivial⟩, trivial⟩, ⟨⟨_, rfl, trivial⟩, trivial⟩, trivial⟩, nofun⟩
  · intro key hkey
    obtain rfl : key = "b" := List.mem_singleton.1 hkey
    exact ⟨_, rfl⟩

end Builder

end RecordQuery
