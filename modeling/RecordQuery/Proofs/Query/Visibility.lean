import RecordQuery.Proofs.Query.Leaves

/-!
# What a query sees of a record

An evaluation reads the record where a condition says, and nowhere else. Two records that give the
same at the first segments of the paths and for the keys that the getter is asked for are one record
to a query without `$cb` (`Query.eval_of_visible`): what the caller's code does while it is read,
the answer or the failure at the end and the score are the same.
-/

namespace RecordQuery

variable {m : Type → Type} [Monad m] {ρ : Type} [Queryable m ρ] {getter : Getter m ρ} {r r' : ρ}

/-- A path leads to the same from the same attribute. -/
theorem Path.resolve_congr {p : Path} {attr attr' : String → Option Json}
    (h : attr p.first = attr' p.first) : p.resolve attr = p.resolve attr' := by
  unfold resolve
  rw [h]

theorem Condition.attr_eq_of_visible {c : Condition}
    (hpath : ∀ path, c.path = some path →
      (Queryable.record (m := m) r).attr path.first =
        (Queryable.record (m := m) r').attr path.first)
    (hread : c.path = none → getter.read r c.key = getter.read r' c.key) :
    Subject.attr (.of getter r) c.key c.path = Subject.attr (.of getter r') c.key c.path := by
  cases hc : c.path with
  | none => exact hread hc
  | some path =>
    show pure _ = pure _
    rw [Subject.of, Subject.of, Path.resolve_congr (hpath path hc)]

/-- A query gives the same, failures included, of records that are the same where it reads. -/
theorem Query.eval_of_visible {q : Query} (hcallback : ∀ c ∈ q.leaves, c.op ≠ .callback)
    (hpath : ∀ c ∈ q.leaves, ∀ path, c.path = some path →
      (Queryable.record (m := m) r).attr path.first =
        (Queryable.record (m := m) r').attr path.first)
    (hread : ∀ c ∈ q.leaves, c.path = none → getter.read r c.key = getter.read r' c.key)
    (calls : Callbacks m) :
    q.eval calls (.of getter r) = q.eval calls (.of getter r') ∧
      q.score calls (.of getter r) = q.score calls (.of getter r') := by
  have hattr : ∀ c ∈ q.leaves,
      Subject.attr (.of getter r) c.key c.path = Subject.attr (.of getter r') c.key c.path :=
    fun c hc => c.attr_eq_of_visible (hpath c hc) (hread c hc)
  -- the record as a whole is for `$cb` alone
  have hrecord : ∀ c ∈ q.leaves, c.op = .callback →
      (Subject.of getter r).record = (Subject.of getter r').record :=
    fun c hc hop => absurd hop (hcallback c hc)
  constructor
  · exact keptByEval_eq.eval_query_of_attrs (fun _ => rfl) hattr hrecord
  · unfold score
    cases hnodes : q.scored? with
    | error e => rfl
    | ok nodes =>
      have htally : tally calls (.of getter r) nodes = tally calls (.of getter r') nodes :=
        keptByEval_eq.tally_of_attrs (fun _ => rfl) hattr hrecord hnodes
      show ExceptT.adapt _ (Tally.score <$> tally calls (.of getter r) nodes) = _
      rw [htally]

/-- A path, a list and an attribute that cannot be read, in two records that differ in another
attribute. -/
theorem Query.eval_of_visible_elsewhere :
    let name : Condition := .ofKey "user.name" .present (.value (.bool true))
    let items : Condition := .ofKey "items" .elementMatch
      (.query ⟨[.ofNodes .and [.condition (.ofKey "price" .present (.value (.bool false)))]]⟩)
    let closed : Condition := .ofKey "closed" .present (.value (.bool false))
    let q : Query := ⟨[.ofNodes .and [.condition name, .condition items, .condition closed]]⟩
    let record : Bool → Record Id := fun secret => .ofAttributes fun key =>
      if key = "secret" then some (.bool secret) else some (.array 1 fun _ => .null)
    let calls : Callbacks Id := fun _ _ _ => .error "none"
    let getter : Getter Id (Record Id) :=
      .function fun r key => if key = "closed" then .error "unreadable" else .ok (r.attr key)
    (record true).attr "secret" ≠ (record false).attr "secret" ∧
      (q.eval calls (.of getter (record true))).run = .error (.getter "closed" "unreadable") ∧
      q.eval calls (.of getter (record true)) = q.eval calls (.of getter (record false)) ∧
      q.score calls (.of getter (record true)) = q.score calls (.of getter (record false)) := by
  intro name items closed q record calls getter
  have hleaves : ∀ P : Condition → Prop, P name → P items → P closed → ∀ c ∈ q.leaves, P c := by
    intro P hname hitems hclosed
    show ∀ c ∈ [name, items, closed], P c
    rw [List.forall_mem_cons, List.forall_mem_cons, List.forall_mem_singleton]
    exact ⟨hname, hitems, hclosed⟩
  refine ⟨nofun, rfl, Query.eval_of_visible (hleaves _ nofun nofun nofun) ?_ ?_ calls⟩
  · refine hleaves _ (fun path h => ?_) nofun nofun
    cases h
    rfl
  · exact hleaves _ nofun (fun _ => rfl) (fun _ => rfl)

end RecordQuery
