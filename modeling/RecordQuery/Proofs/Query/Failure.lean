import RecordQuery.Proofs.Query.Leaves
import RecordQuery.Proofs.Query.Verdict

/-!
# Failures

An evaluation fails in what the caller supplies and nowhere else: the getter fails for the key of a
condition that follows no path, or a `$cb` fails, of the record or of an element
(`Query.fails_of_run`). A failure ends the evaluation, so it has no part in an answer, and a getter
that reads what another reads, and perhaps more, gives every answer that the other gives
(`Query.run_eval_of_extends`).
-/

namespace RecordQuery

variable {calls : Callbacks Id} {s s' : Subject Id}

/-! ## Getters that read more -/

/-- What is read of the one is read of the other. -/
def Subject.Extends (s s' : Subject Id) : Prop :=
  s.record = s'.record ∧ ∀ key attr, (s.read key).run = .ok attr → (s'.read key).run = .ok attr

/-- The second run gives what the first gives, if it gives anything. -/
def Eval.Extends (α : Type) (x y : Eval Id α) : Prop :=
  ∀ a, x.run = .ok a → y.run = .ok a

theorem keptByEval_extends : KeptByEval Eval.Extends where
  ofPure _ _ h := h
  ofMap f hxy b h := by
    obtain ⟨a, ha, hb⟩ := run_map_eq_ok_iff.1 h
    exact run_map_eq_ok_iff.2 ⟨a, hxy a ha, hb⟩
  ofBind hxy hfg b h := by
    obtain ⟨a, ha, hb⟩ := run_bind_eq_ok_iff.1 h
    exact run_bind_eq_ok_iff.2 ⟨a, hxy a ha, hfg a b hb⟩

theorem Subject.Extends.attr (h : s.Extends s') (key : String) (path : Option Path) :
    Eval.Extends _ (s.attr key path) (s'.attr key path) := by
  cases path with
  | none => exact h.2 key
  | some path =>
    rw [Subject.attr, Subject.attr, h.1]
    exact fun _ hattr => hattr

theorem Query.run_eval_of_extends (h : s.Extends s') {q : Query} {b : Bool}
    (hb : (q.eval calls s).run = .ok b) : (q.eval calls s').run = .ok b :=
  keptByEval_extends.eval_query_of_attrs (fun _ _ ha => ha) (fun c _ => h.attr c.key c.path)
    (fun _ _ _ => h.1) b hb

theorem Query.run_score_of_extends (h : s.Extends s') {q : Query} {x : Binary64}
    (hx : (q.score calls s).run = .ok x) : (q.score calls s').run = .ok x := by
  unfold score at hx ⊢
  cases hnodes : q.scored? with
  | error e =>
    rw [hnodes] at hx
    cases hx
  | ok nodes =>
    rw [hnodes] at hx
    have htally : Eval.Extends _ (tally calls s nodes) (tally calls s' nodes) :=
      keptByEval_extends.tally_of_attrs (fun _ _ ha => ha) (fun c _ => h.attr c.key c.path)
        (fun _ _ _ => h.1) hnodes
    rw [run_adapt_eq_ok_iff, run_map_eq_ok_iff] at hx ⊢
    obtain ⟨t, ht, hx⟩ := hx
    exact ⟨t, htally t ht, hx⟩

/-! ## Where failures come from -/

/-- A `$cb` of the query fails in this way, of the record or of an element that an `$elemMatch` of
the query asks. -/
inductive Query.CallFails (calls : Callbacks Id) : Subject Id → Query → EvalError → Prop
  | record {s : Subject Id} {q : Query} {c : Condition} {f : Callback} {attr : Option Json}
      {text : String} : c ∈ q.leaves → c.op = .callback → c.operand = .callback f →
        (s.attr c.key c.path).run = .ok attr → calls f s.record attr = .error text →
          CallFails calls s q (.callback text)
  | element {s : Subject Id} {q q' : Query} {c : Condition} {attr : Option Json} {item : Json}
      {e : EvalError} : c ∈ q.leaves → c.op = .elementMatch → c.operand = .query q' →
        (s.attr c.key c.path).run = .ok attr → item ∈ elements attr →
          CallFails calls (.ofElement item) q' e → CallFails calls s q e

/-- The getter fails in this way for the key of a condition without a path, or a `$cb` does. -/
def Query.Fails (calls : Callbacks Id) (s : Subject Id) (q : Query) (e : EvalError) : Prop :=
  (∃ c ∈ q.leaves, c.path = none ∧ (s.read c.key).run = .error e) ∨ q.CallFails calls s e

theorem Query.CallFails.exists_standsIn {q : Query} {e : EvalError} (h : q.CallFails calls s e) :
    ∃ c : Condition, c.StandsIn q ∧ c.op = .callback := by
  induction h with
  | record hc hop _ _ _ => exact ⟨_, .leaf hc, hop⟩
  | element hc hop hq _ _ _ ih =>
    obtain ⟨c, hstands, hcallback⟩ := ih
    exact ⟨c, .elements hc hop hq hstands, hcallback⟩

theorem exists_text_of_run_call {f : Callback} {attr : Option Json} {e : EvalError}
    (h : (calls.call f s attr).run = .error e) :
    ∃ text, calls f s.record attr = .error text ∧ e = .callback text := by
  have h : (calls f s.record attr).run.mapError EvalError.callback = .error e := h
  cases hcall : (calls f s.record attr).run with
  | error text =>
    rw [hcall] at h
    exact ⟨text, hcall, (Except.error.inj h).symm⟩
  | ok answer =>
    rw [hcall] at h
    cases h

theorem exists_of_run_anyM {α : Type} {ask : α → Eval Id Bool} {xs : List α} {e : EvalError}
    (h : (xs.anyM ask).run = .error e) : ∃ x ∈ xs, (ask x).run = .error e := by
  induction xs with
  | nil => cases h
  | cons x xs ih =>
    rw [List.anyM_cons, run_bind_eq_error_iff] at h
    cases h with
    | inl h => exact ⟨x, List.mem_cons_self, h⟩
    | inr h =>
      obtain ⟨answer, -, h⟩ := h
      cases answer with
      | true => cases h
      | false =>
        obtain ⟨y, hy, h⟩ := ih h
        exact ⟨y, List.mem_cons_of_mem x hy, h⟩

theorem read_of_run_attr {key : String} {path : Option Path} {e : EvalError}
    (h : (s.attr key path).run = .error e) : path = none ∧ (s.read key).run = .error e := by
  cases path with
  | none => exact ⟨rfl, h⟩
  | some path => cases h

theorem Condition.fails_of_run {q : Query} {c : Condition} (hc : c ∈ q.leaves)
    (ih : ∀ q', c.operand = .query q' → ∀ (s : Subject Id) (e : EvalError),
      (q'.eval calls s).run = .error e → q'.Fails calls s e) {e : EvalError}
    (h : (c.eval calls s).run = .error e) : q.Fails calls s e := by
  have hread : (s.attr c.key c.path).run = .error e → q.Fails calls s e := by
    intro hattr
    exact .inl ⟨c, hc, read_of_run_attr hattr⟩
  obtain ⟨key, path, op, operand, boost⟩ := c
  by_cases hplain : operand.IsPlain op
  · rw [Condition.eval_plain hplain, run_map_eq_error_iff] at h
    exact hread h
  · cases operand with
    | callback f =>
      obtain rfl : op = .callback := not_not.1 hplain
      rw [Condition.eval_callback, run_bind_eq_error_iff] at h
      cases h with
      | inl h => exact hread h
      | inr h =>
        obtain ⟨attr, hattr, h⟩ := h
        obtain ⟨text, hcall, rfl⟩ := exists_text_of_run_call h
        exact .inr (.record hc rfl rfl hattr hcall)
    | query q' =>
      obtain rfl : op = .elementMatch := not_not.1 hplain
      rw [Condition.eval_elementMatch, run_bind_eq_error_iff] at h
      cases h with
      | inl h => exact hread h
      | inr h =>
        obtain ⟨attr, hattr, h⟩ := h
        obtain ⟨item, hitem, h⟩ := exists_of_run_anyM h
        -- an element is read by its own attributes, which does not fail
        cases ih q' rfl (.ofElement item) e h with
        | inl hfails =>
          obtain ⟨c', -, -, hread⟩ := hfails
          cases hread
        | inr hfails => exact .inr (.element hc rfl rfl hattr hitem hfails)
    | _ => exact absurd trivial hplain

theorem keptByEval_fails (origin : EvalError → Prop) :
    KeptByEval fun α (x _ : Eval Id α) => ∀ e, x.run = .error e → origin e where
  ofPure _ _ h := by cases h
  ofMap f hx e h := hx e (run_map_eq_error_iff.1 h)
  ofBind hx hf e h := by
    cases run_bind_eq_error_iff.1 h with
    | inl h => exact hx e h
    | inr h =>
      obtain ⟨a, -, h⟩ := h
      exact hf a e h

theorem Query.fails_of_run : ∀ (q : Query) (s : Subject Id) (e : EvalError),
    (q.eval calls s).run = .error e → q.Fails calls s e := by
  apply Query.induction_elements
  intro q ih s
  apply (keptByEval_fails (q.Fails calls s)).eval_query (t := s)
  exact fun c hc e h => Condition.fails_of_run hc (ih c hc) h

/-- The record's own attributes are there to be read, so a query without `$cb` has an answer. -/
theorem Query.exists_eval_property {ρ : Type} [Queryable Id ρ] {q : Query}
    (h : ∀ c : Condition, c.StandsIn q → c.op ≠ .callback) (calls : Callbacks Id) (r : ρ) :
    ∃ b, (q.eval calls (.of .property r)).run = .ok b := by
  cases hrun : (q.eval calls (.of .property r)).run with
  | ok b => exact ⟨b, rfl⟩
  | error e =>
    cases Query.fails_of_run q _ e hrun with
    | inl hfails =>
      obtain ⟨c, -, -, hread⟩ := hfails
      cases hread
    | inr hfails =>
      obtain ⟨c, hstands, hcallback⟩ := hfails.exists_standsIn
      exact absurd hcallback (h c hstands)

/-- An answer and a score stay what they are under a getter that also answers where the first one
fails. A failure is one of the getter, for a condition that follows no path, or of a `$cb`. With the
getter `property` a query without `$cb`, also under `$elemMatch`, has an answer. -/
theorem Query.failures_of_caller {ρ : Type} [Queryable Id ρ] (calls : Callbacks Id)
    (getter : Getter Id ρ) (r : ρ) (q : Query) :
    (∀ getter' : Getter Id ρ,
      (∀ key attr, (getter.read r key).run = .ok attr → (getter'.read r key).run = .ok attr) →
        (∀ b, (q.eval calls (.of getter r)).run = .ok b →
          (q.eval calls (.of getter' r)).run = .ok b) ∧
        ∀ x, (q.score calls (.of getter r)).run = .ok x →
          (q.score calls (.of getter' r)).run = .ok x) ∧
    (∀ e, (q.eval calls (.of getter r)).run = .error e →
      (∃ c ∈ q.leaves, c.path = none ∧ (getter.read r c.key).run = .error e) ∨
        q.CallFails calls (.of getter r) e) ∧
    ((∀ c : Condition, c.StandsIn q → c.op ≠ .callback) →
      ∃ b, (q.eval calls (.of .property r)).run = .ok b) := by
  refine ⟨fun getter' h => ?_, Query.fails_of_run q _, fun h => q.exists_eval_property h calls r⟩
  have hextends : Subject.Extends (.of getter r) (.of getter' r) := ⟨rfl, h⟩
  exact ⟨fun b => q.run_eval_of_extends hextends, fun x => q.run_score_of_extends hextends⟩

/-- One of two attributes cannot be read. `$or` is settled by the other one if that is tested first;
it fails if not. -/
theorem Query.failures_of_caller_unreadable :
    let present : String → Node := fun key => .condition (.ofKey key .present (.value (.bool true)))
    let q : Query := ⟨[.ofNodes .or [present "a", present "b"]]⟩
    let swapped : Query := ⟨[.ofNodes .or [present "b", present "a"]]⟩
    let calls : Callbacks Id := fun _ _ _ => .error "none"
    let r : Record Id := .ofAttributes fun _ => some (.bool true)
    let getter : Getter Id (Record Id) :=
      .function fun r key => if key = "b" then .error "unreadable" else .ok (r.attr key)
    (∀ key attr, (getter.read r key).run = .ok attr →
      (Getter.property.read r key : Eval Id _).run = .ok attr) ∧
      (q.eval calls (.of getter r)).run = .ok true ∧
      (q.eval calls (.of .property r)).run = .ok true ∧
      (swapped.eval calls (.of getter r)).run = .error (.getter "b" "unreadable") ∧
      (∃ c ∈ swapped.leaves, c.path = none ∧
        (getter.read r c.key).run = .error (.getter "b" "unreadable")) ∧
      ∃ b, (swapped.eval calls (.of .property r)).run = .ok b := by
  intro present q swapped calls r getter
  have hread : ∀ key attr, (getter.read r key).run = .ok attr →
      (Getter.property.read r key : Eval Id _).run = .ok attr := by
    intro key attr h
    by_cases hkey : key = "b"
    · rw [hkey] at h
      cases h
    · have h : (if key = "b" then .error "unreadable" else .ok (r.attr key) :
          Except String _).mapError (EvalError.getter key) = .ok attr := h
      rw [if_neg hkey] at h
      exact h
  have hleaves : ∀ c ∈ swapped.leaves, c.op = .present := by
    intro c hc
    cases List.mem_pair.1 hc with
    | inl h => rw [h]; rfl
    | inr h => rw [h]; rfl
  have hpresent : ∀ c : Condition, c.StandsIn swapped → c.op ≠ .callback := by
    intro c hc hcallback
    cases hc with
    | leaf hc => cases (hleaves c hc).symm.trans hcallback
    | elements hc hop _ _ => cases (hleaves _ hc).symm.trans hop
  have hfailing : (swapped.eval calls (.of getter r)).run = .error (.getter "b" "unreadable") := rfl
  have htrue : (q.eval calls (.of getter r)).run = .ok true := rfl
  obtain ⟨hkept, -, -⟩ := Query.failures_of_caller calls getter r q
  obtain ⟨-, horigin, hanswers⟩ := Query.failures_of_caller calls getter r swapped
  refine ⟨hread, htrue, (hkept .property hread).1 true htrue, hfailing, ?_, hanswers hpresent⟩
  cases horigin _ hfailing with
  | inl hfails => exact hfails
  | inr hfails =>
    obtain ⟨c, hstands, hcallback⟩ := hfails.exists_standsIn
    exact absurd hcallback (hpresent c hstands)

end RecordQuery
