import RecordQuery.Proofs.Compile.Grammar
import RecordQuery.Proofs.Compile.Meaning

/-!
# Documents and their pairs

A document asks that each of its pairs passes, whether it is a whole query or a member of a list
(`Query.forall_groups_iff`). The two readings part in what they take under a combinator: a whole
query wants lists under `$and`, `$or` and `$nor`, and it takes `$boost` in the document under `$not`
for an attribute. A member without pairs adds nothing to `$or`, although the query that it states
passes every record.
-/

namespace RecordQuery

/-! ## Pairs -/

/-- The pair compiles to a node with the property. -/
def CompilesTo (p : Node → Prop) (pair : String × Value) : Prop :=
  ∃ node, compilePair pair.1 pair.2 = .ok node ∧ p node

theorem compilesTo_iff {p : Node → Prop} {pair : String × Value} {node : Node}
    (h : compilePair pair.1 pair.2 = .ok node) : CompilesTo p pair ↔ p node := by
  constructor
  · rintro ⟨node', hnode', hp⟩
    obtain rfl : node = node' := Except.ok.inj (h.symm.trans hnode')
    exact hp
  · exact fun hp => ⟨node, h, hp⟩

/-- The pairs of a document; other values have none. -/
def Value.pairs (v : Value) : List (String × Value) :=
  (v.document?.map Fields.entries).getD []

theorem Fields.isEmpty_eq_false_iff {α : Type} {d : Fields α} :
    d.isEmpty = false ↔ ∃ pair, pair ∈ d.entries := by
  rw [← List.isEmpty_eq_false_iff_exists_mem, isEmpty, List.isEmpty_eq_false_iff,
    List.isEmpty_eq_false_iff, entries, ne_eq, ne_eq, List.ofFn_eq_nil_iff,
    List.length_eq_zero_iff]

@[simp]
theorem Value.pairs_ofDocument (d : Document) : (Value.ofDocument d).pairs = d.entries :=
  rfl

theorem Fields.forall_entries_iff {α : Type} {d : Fields α} {p : String × α → Prop} :
    (∀ pair ∈ d.entries, p pair) ↔ ∀ i, p (d.keys.get i, d.value i) :=
  List.forall_mem_ofFn_iff

theorem Fields.forall_keys_iff {α : Type} {d : Fields α} {p : String → Prop} :
    (∀ key ∈ d.keys, p key) ↔ ∀ pair ∈ d.entries, p pair.1 := by
  rw [forall_entries_iff, List.forall_mem_iff_get]

theorem Fields.get?_eq_of_entries {α : Type} {d d' : Fields α} {key : String}
    (h : ∀ v, (key, v) ∈ d.entries ↔ (key, v) ∈ d'.entries) : d.get? key = d'.get? key := by
  refine Option.ext fun v => ?_
  rw [← mem_entries_iff, ← mem_entries_iff, h]

theorem Fields.eq_of_entries {α : Type} {d d' : Fields α} (h : d.entries = d'.entries) :
    d = d' := by
  have hkeys : ∀ d : Fields α, d.entries.map Prod.fst = d.keys := fun d => by
    rw [entries, List.map_ofFn]
    exact List.ofFn_get d.keys
  exact eq_of_get? (by rw [← hkeys d, ← hkeys d', h]) fun key =>
    get?_eq_of_entries fun v => by rw [h]

/-- What is done for the positions of some keys is done for their pairs. -/
theorem Fields.mapM_filter_entries {α β ε : Type} (d : Fields α) (keep : String → Bool)
    (f : String × α → Except ε β) :
    ((List.finRange d.keys.length).filter fun i => keep (d.keys.get i)).mapM
        (fun i => f (d.keys.get i, d.value i)) =
      (d.entries.filter fun pair => keep pair.1).mapM f := by
  rw [entries, List.ofFn_eq_map, List.filter_map, List.mapM_map]
  rfl

theorem Fields.mapM_entries {α β ε : Type} (d : Fields α) (f : String × α → Except ε β) :
    (List.finRange d.keys.length).mapM (fun i => f (d.keys.get i, d.value i)) =
      d.entries.mapM f := by
  rw [entries, List.ofFn_eq_map, List.mapM_map]
  rfl

/-! ## Members of lists -/

section Members

variable {p : Node → Prop} {kind : Combinator} {v : Value} {vs : List Value} {nodes : List Node}

/-- The nodes of a member are those of its pairs. -/
theorem exists_of_compileMember (h : compileMember v = .ok nodes) :
    ∃ tests, List.Forall₂ (fun pair node => compilePair pair.1 pair.2 = .ok node) v.pairs tests ∧
      Node.arrange tests = nodes := by
  cases v with
  | object keys nodup value =>
    obtain ⟨tests, htests, rfl⟩ := map_eq_ok_iff.1 h
    have hpairs : (Value.object keys nodup value).pairs =
        (List.finRange keys.length).map fun i => (keys.get i, value i) := List.ofFn_eq_map
    rw [hpairs]
    exact ⟨tests, List.forall₂_map_left_iff.2 (mapM_eq_ok_iff.1 htests), rfl⟩
  | _ => cases h

theorem joinsMember_iff_of_compileMember (kind : Combinator) (h : compileMember v = .ok nodes) :
    kind.JoinsMember (· ∈ nodes) p ↔ kind.JoinsMember (· ∈ v.pairs) (CompilesTo p) := by
  obtain ⟨tests, htests, rfl⟩ := exists_of_compileMember h
  simp only [Node.mem_arrange]
  exact kind.joinsMember_iff_of_forall₂ htests fun _ _ _ hnode => (compilesTo_iff hnode).symm

theorem compilePair_ofList_eq_ok_iff {node : Node} :
    compilePair kind.name (.ofList vs) = .ok node ↔
      ∃ members, List.Forall₂ (fun v nodes => compileMember v = .ok nodes) vs members ∧
        .ofTests kind (members.flatMap kind.membership) = node := by
  rw [Value.ofList, compilePair_list_of_join (Combinator.ofName?_name kind),
    mapM_finRange_get compileMember]
  simp only [mapM_eq_ok_iff]

end Members

/-! ## Combinators and what stands under them -/

/-- The value is not a document with a `$boost`. -/
def Value.IsUnweighted (v : Value) : Prop :=
  ∀ d, v = .ofDocument d → boostKey ∉ d.keys

theorem Value.isUnweighted_of_isArray {v : Value} (h : v.isArray = true) : v.IsUnweighted := by
  rintro d rfl
  cases h

/-- Without `$boost` a combinator compiles to the same nodes wherever it stands. -/
theorem compilePair_of_isUnweighted {kind : Combinator} {v : Value} {node : Node}
    (hv : v.IsUnweighted) :
    compilePair kind.name v = .ok node ↔
      ∃ nodes, compileMembers kind v = .ok nodes ∧ .ofTests kind nodes = node := by
  have hkey := Combinator.ofName?_name kind
  cases v with
  | array size item =>
    simp only [compilePair_list_of_join hkey, compileMembers, map_eq_ok_iff]
    constructor
    · rintro ⟨members, hmembers, rfl⟩
      exact ⟨_, ⟨members, hmembers, rfl⟩, rfl⟩
    · rintro ⟨_, ⟨members, hmembers, rfl⟩, rfl⟩
      exact ⟨members, hmembers, rfl⟩
  | object keys nodup value =>
    let d : Document := ⟨keys, nodup, value⟩
    have hkeys : boostKey ∉ d.keys := hv d rfl
    have hplaces : d.places = List.finRange d.keys.length := by
      refine List.filter_eq_self.2 fun i _ => decide_eq_true ?_
      exact ne_of_mem_of_not_mem (List.get_mem d.keys i) hkeys
    rw [show Value.object keys nodup value = .ofDocument d from rfl, compilePair_unweighted hkeys,
      compileUnder_of_join hkey, hplaces]
    rfl
  | _ => simp [compilePair, hkey, compileMembers]

/-! ## Whole documents -/

/-- An `$and` group has the property exactly if all of its nodes have it. -/
def IsConjunctive (p : Node → Prop) : Prop :=
  ∀ nodes, p (.group (.ofNodes .and nodes)) ↔ ∀ node ∈ nodes, p node

/-- What the document itself has under `$not` has no `$boost`. -/
def Document.HasUnweightedNot (d : Document) : Prop :=
  ∀ v, d.get? Combinator.not.name = some v → v.IsUnweighted

/-- The document itself has nothing but lists under the combinators other than `$not`. -/
def Document.HasLists (d : Document) : Prop :=
  ∀ kind : Combinator, kind ≠ .not → ∀ v, d.get? kind.name = some v → v.isArray = true

theorem Document.hasLists_iff {d : Document} :
    d.HasLists ↔ ∀ kind : Combinator, kind.lacksArray d = false := by
  simp only [Combinator.lacksArray_eq_false_iff, HasLists]
  refine forall_congr' fun kind => ?_
  rw [← forall_value_iff (p := fun v => v.isArray = true)]
  constructor
  · exact fun h i hi hkind => h hkind i hi
  · exact fun h hkind i hi => h i hi hkind

/-- What a key of a whole query compiles to, with what stands under it: all that stands under a
combinator is among its members. -/
def compilePart (pair : String × Value) : Except CompileError Node :=
  match Combinator.ofName? pair.1 with
  | some kind => Node.ofTests kind <$> compileMembers kind pair.2
  | none => compilePair pair.1 pair.2

@[simp]
theorem compilePart_of_join (kind : Combinator) (v : Value) :
    compilePart (kind.name, v) = Node.ofTests kind <$> compileMembers kind v := by
  simp [compilePart]

theorem compilePart_of_attribute {key : String} (hkey : Combinator.ofName? key = none) (v : Value) :
    compilePart (key, v) = compilePair key v := by
  rw [compilePart, hkey]

section Groups

variable {p : Node → Prop} (hp : IsConjunctive p) {d : Document}
include hp

theorem IsConjunctive.ofTests_iff {tests : List Node} :
    p (.ofTests .and tests) ↔ ∀ node ∈ tests, p node := by
  rw [Node.ofTests, hp]
  simp only [Node.mem_arrange]

theorem IsConjunctive.membership_iff (kind : Combinator) (tests : List Node) :
    (∀ node ∈ kind.membership tests, p node) ↔ ∀ node ∈ tests, p node := by
  unfold Combinator.membership
  split
  · rw [List.forall_mem_singleton, hp]
  · rfl

variable {kind : Combinator}

theorem Document.listed_iff {members : List Node} (h : d.compileListed kind = .ok members)
    (hpresent : kind = .and ∨ kind.name ∈ d.keys) :
    p (.ofTests kind members) ↔ ∀ i, d.keys.get i = kind.name →
      ∃ node, compilePart (kind.name, d.value i) = .ok node ∧ p node := by
  rw [forall_value_iff
    (p := fun v => ∃ node, compilePart (kind.name, v) = .ok node ∧ p node)]
  unfold compileListed at h
  cases hget : d.get? kind.name with
  | some v =>
    have hmembers : compileMembers kind v = .ok members := by rwa [hget] at h
    simp only [Option.some.injEq, forall_eq', compilePart_of_join, hmembers, map_eq_ok_iff,
      Except.ok.injEq, exists_eq_left']
  | none =>
    -- `$and` alone has a group without being written
    obtain rfl : kind = .and := hpresent.resolve_right (Fields.get?_eq_none_iff.1 hget)
    rw [hget] at h
    obtain rfl := Except.ok.inj h
    simp [hp.ofTests_iff]

theorem Document.group_iff {group : Group} (h : d.compileGroup kind = .ok group)
    (hkind : kind ∈ d.kinds) :
    p (.group group) ↔
      (∀ i, d.keys.get i = kind.name →
        ∃ node, compilePart (kind.name, d.value i) = .ok node ∧ p node) ∧
      (kind = .and → ∀ i, namesAttribute (d.keys.get i) = true →
        CompilesTo p (d.keys.get i, d.value i)) := by
  obtain ⟨members, hmembers, h⟩ := bind_eq_ok_iff.1 h
  obtain ⟨further, hfurther, h⟩ := bind_eq_ok_iff.1 h
  obtain rfl := Except.ok.inj h
  unfold compileFurther at hfurther
  by_cases hand : kind = .and
  · subst hand
    rw [if_pos rfl] at hfurther
    have hattributes : (∀ node ∈ further, p node) ↔
        ∀ i ∈ d.attributes, CompilesTo p (d.keys.get i, d.value i) :=
      forall_mem_iff_of_forall₂ (mapM_eq_ok_iff.1 hfurther) fun i node _ hnode =>
        (compilesTo_iff hnode).symm
    simp only [mem_attributes] at hattributes
    rw [hp, ← listed_iff hp hmembers (.inl rfl), hp.ofTests_iff, ← hattributes]
    simp only [Node.mem_arrange, List.mem_append, or_imp, forall_and, true_implies]
  · rw [if_neg hand] at hfurther
    obtain rfl := Except.ok.inj hfurther
    rw [← listed_iff hp hmembers ((mem_kinds.1 hkind).imp id And.left).symm]
    have hmembers : members ++ Node.arrange [] = members := List.append_nil members
    simp only [hmembers, hand, false_implies, and_true]
    rfl

/-- What a whole query says, it says of each of its parts. -/
theorem Query.forall_groups_iff_parts {q : Query} (h : compileQuery (.ofDocument d) = .ok q) :
    (∀ group ∈ q.groups, p (.group group)) ↔
      ∀ pair ∈ d.entries, ∃ node, compilePart pair = .ok node ∧ p node := by
  obtain ⟨-, groups, hgroups, rfl⟩ := compileQuery_eq_ok_iff.1 h
  rw [Fields.forall_entries_iff]
  refine (forall_mem_iff_of_forall₂ (mapM_eq_ok_iff.1 hgroups) fun kind group hkind hgroup =>
    Document.group_iff hp hgroup hkind).trans (Document.forall_kinds_iff.trans ?_)
  refine forall_congr' fun i => ?_
  cases hkey : Combinator.ofName? (d.keys.get i) with
  | some kind => rw [← Combinator.ofName?_eq_some_iff.1 hkey]
  | none => simp only [compilePart_of_attribute hkey, CompilesTo]

end Groups

theorem Document.hasLists_iff_entries {d : Document} :
    d.HasLists ↔ ∀ pair ∈ d.entries, ∀ kind, Combinator.ofName? pair.1 = some kind →
      kind ≠ .not → pair.2.isArray = true := by
  constructor
  · rintro h ⟨key, v⟩ hpair kind hkey hkind
    have hname := Combinator.ofName?_eq_some_iff.1 hkey
    exact h kind hkind v (hname ▸ Fields.mem_entries_iff.1 hpair)
  · intro h kind hkind v hv
    exact h _ (Fields.mem_entries_iff.2 hv) kind (Combinator.ofName?_name kind) hkind

/-- A document is a query if its parts compile and it has lists where a whole query needs them. -/
theorem Document.isWellFormed_iff_parts {d : Document} :
    d.IsWellFormed ↔
      d.HasLists ∧ ∀ pair ∈ d.entries, ∃ node, compilePart pair = .ok node := by
  rw [IsWellFormed, Value.ofDocument, Value.IsQuery, hasLists_iff_entries]
  simp only [Fields.forall_entries_iff, ← forall_and]
  refine forall_congr' fun i => ?_
  cases hkey : Combinator.ofName? (d.keys.get i) with
  | none =>
    rw [compilePart_of_attribute hkey, (d.value i).accepted.pair]
    simp
  | some kind =>
    rw [← Combinator.ofName?_eq_some_iff.1 hkey, compilePart_of_join, exists_map_eq_ok_iff,
      (d.value i).accepted.members]
    cases kind <;> simp

/-- Where no `$boost` is lost, a part is what the pair compiles to anywhere. -/
theorem Document.compilePart_iff {d : Document} (hnot : d.HasUnweightedNot) (hlists : d.HasLists)
    {pair : String × Value} (hpair : pair ∈ d.entries) {node : Node} :
    compilePart pair = .ok node ↔ compilePair pair.1 pair.2 = .ok node := by
  obtain ⟨key, v⟩ := pair
  have hget : d.get? key = some v := Fields.mem_entries_iff.1 hpair
  cases hkey : Combinator.ofName? key with
  | none => rw [compilePart_of_attribute hkey]
  | some kind =>
    obtain rfl := Combinator.ofName?_eq_some_iff.1 hkey
    have hv : v.IsUnweighted := by
      by_cases hkind : kind = .not
      · subst hkind
        exact hnot v hget
      · exact Value.isUnweighted_of_isArray (hlists kind hkind v hget)
    rw [compilePart_of_join, map_eq_ok_iff, compilePair_of_isUnweighted hv]

/-- What a whole query says, it says of each of its pairs. -/
theorem Query.forall_groups_iff {p : Node → Prop} (hp : IsConjunctive p) {d : Document}
    (hnot : d.HasUnweightedNot) {q : Query} (h : compileQuery (.ofDocument d) = .ok q) :
    (∀ group ∈ q.groups, p (.group group)) ↔ ∀ pair ∈ d.entries, CompilesTo p pair := by
  have hlists : d.HasLists := Document.hasLists_iff.2 (compileQuery_eq_ok_iff.1 h).1
  rw [forall_groups_iff_parts hp h]
  refine forall₂_congr fun pair hpair => exists_congr fun node => and_congr_left' ?_
  exact Document.compilePart_iff hnot hlists hpair

/-! ## Verdicts and failures -/

variable {calls : Callbacks Id} {s : Subject Id}

variable (calls s) in
/-- The pair compiles to a node that passes. -/
def PairHolds : String × Value → Prop :=
  CompilesTo fun node => node.verdict calls s = true

variable (calls s) in
/-- The pair compiles to a node of which no call fails. -/
def PairNeverFails : String × Value → Prop :=
  CompilesTo fun node => node.NeverFails calls s

theorem isConjunctive_verdict : IsConjunctive fun node => node.verdict calls s = true := by
  intro nodes
  simp only [Node.verdict, Group.verdict_iff]
  rfl

theorem isConjunctive_neverFails : IsConjunctive fun node => node.NeverFails calls s := by
  intro nodes
  simp only [Node.NeverFails, Group.neverFails_iff]
  rfl

section List

variable {kind : Combinator} {vs : List Value} {node : Node}
  (h : compilePair kind.name (.ofList vs) = .ok node)
include h

theorem pairHolds_list_iff :
    PairHolds calls s (kind.name, .ofList vs) ↔
      kind.JoinsList (· ∈ vs) fun v => kind.JoinsMember (· ∈ v.pairs) (PairHolds calls s) := by
  obtain ⟨members, hmembers, rfl⟩ := compilePair_ofList_eq_ok_iff.1 h
  rw [PairHolds, compilesTo_iff h, Node.verdict_ofTests_iff, Combinator.joins_membership_iff]
  exact kind.joinsList_iff_of_forall₂ hmembers fun v tests _ htests =>
    joinsMember_iff_of_compileMember kind htests

theorem pairNeverFails_list_iff :
    PairNeverFails calls s (kind.name, .ofList vs) ↔
      ∀ v ∈ vs, ∀ pair ∈ v.pairs, PairNeverFails calls s pair := by
  obtain ⟨members, hmembers, rfl⟩ := compilePair_ofList_eq_ok_iff.1 h
  rw [PairNeverFails, compilesTo_iff h, Node.ofTests, Node.NeverFails, Group.neverFails_iff]
  simp only [Group.ofNodes, Node.mem_arrange, List.forall_mem_flatMap]
  exact forall_mem_iff_of_forall₂ hmembers fun v tests _ htests =>
    (isConjunctive_neverFails.membership_iff kind tests).trans
      (joinsMember_iff_of_compileMember .and htests)

end List

section Query

variable {d : Document} {q : Query} (hnot : d.HasUnweightedNot)
  (h : compileQuery (.ofDocument d) = .ok q)
include hnot h

theorem Query.verdict_iff_pairs :
    q.verdict calls s = true ↔ ∀ pair ∈ d.entries, PairHolds calls s pair := by
  rw [Query.verdict_eq_all, List.all_eq_true]
  exact forall_groups_iff isConjunctive_verdict hnot h

theorem Query.neverFails_iff_pairs :
    q.NeverFails calls s ↔ ∀ pair ∈ d.entries, PairNeverFails calls s pair := by
  rw [Query.neverFails_iff]
  exact forall_groups_iff isConjunctive_neverFails hnot h

theorem Query.exists_compilePair {pair : String × Value} (hpair : pair ∈ d.entries) :
    ∃ node, compilePair pair.1 pair.2 = .ok node := by
  have hany : IsConjunctive fun _ => True := fun _ => by simp
  obtain ⟨node, hnode, -⟩ := (forall_groups_iff hany hnot h).1 (fun _ _ => trivial) pair hpair
  exact ⟨node, hnode⟩

end Query

/-- In a document of lists there is nothing that could have a `$boost`. -/
theorem Document.hasUnweightedNot_of_lists {d : Document}
    (h : ∀ pair ∈ d.entries, pair.2.isArray = true) : d.HasUnweightedNot :=
  fun _ hv => Value.isUnweighted_of_isArray (h _ (Fields.mem_entries_iff.2 hv))

/-- The document that joins some members and does nothing else. -/
def Document.joining (kind : Combinator) (members : List Value) : Document :=
  .singleton kind.name (.ofList members)

theorem Query.iff_of_joining {kind : Combinator} {members : List Value} {q : Query}
    (h : compileQuery (.ofDocument (.joining kind members)) = .ok q) :
    (q.verdict calls s = true ↔ kind.JoinsList (· ∈ members) fun v =>
      kind.JoinsMember (· ∈ v.pairs) (PairHolds calls s)) ∧
    (q.NeverFails calls s ↔ ∀ v ∈ members, ∀ pair ∈ v.pairs, PairNeverFails calls s pair) := by
  have hentries : (Document.joining kind members).entries = [(kind.name, .ofList members)] := rfl
  have hnot : (Document.joining kind members).HasUnweightedNot := by
    refine Document.hasUnweightedNot_of_lists ?_
    rw [hentries, List.forall_mem_singleton]
    rfl
  obtain ⟨node, hnode⟩ := Query.exists_compilePair hnot h (hentries ▸ List.mem_singleton_self _)
  rw [Query.verdict_iff_pairs hnot h, Query.neverFails_iff_pairs hnot h, hentries,
    List.forall_mem_singleton, List.forall_mem_singleton]
  exact ⟨pairHolds_list_iff hnode, pairNeverFails_list_iff hnode⟩

/-! ## A document under `$and` -/

/-- A document is a query if it could be a member of a list and has lists where a whole query needs
them. -/
theorem Document.isWellFormed_iff {d : Document} (hnot : d.HasUnweightedNot) :
    d.IsWellFormed ↔ d.HasLists ∧ (Value.ofDocument d).IsMember := by
  rw [isWellFormed_iff_parts, Value.ofDocument, Value.IsMember]
  refine and_congr_right fun hlists => ?_
  have hparts : ∀ pair ∈ d.entries,
      (∃ node, compilePart pair = .ok node) ↔ pair.2.IsClause pair.1 := fun pair hpair => by
    rw [← pair.2.accepted.pair, exists_congr fun node => compilePart_iff hnot hlists hpair]
  rw [forall₂_congr hparts, Fields.forall_entries_iff]

theorem Document.isWellFormed_joining_iff {d : Document} :
    (Document.joining .and [.ofDocument d]).IsWellFormed ↔ (Value.ofDocument d).IsMember := by
  rw [IsWellFormed, Value.ofDocument, Value.IsQuery]
  show (∀ _ : Fin 1, _) ↔ _
  rw [Fin.forall_fin_one]
  show (Value.ofList [.ofDocument d]).isArray = true ∧ (Value.ofList [.ofDocument d]).AreMembers ↔ _
  rw [Value.ofList, Value.AreMembers]
  show true = true ∧ (∀ i : Fin 1, ([Value.ofDocument d].get i).IsMember) ↔ _
  simp

/-- A document without `$boost` under its `$not` compiles exactly if it compiles as the only member
of `$and` and has lists under its own `$and`, `$or` and `$nor`. The two give the same answers. -/
theorem Document.agrees_joining_and {d : Document} (hnot : d.HasUnweightedNot) :
    ((∃ q, (Query.compile (m := Id) d).run = .ok q) ↔
      d.HasLists ∧ ∃ q, (Query.compile (m := Id) (.joining .and [.ofDocument d])).run = .ok q) ∧
    ∀ q q', (Query.compile (m := Id) d).run = .ok q →
      (Query.compile (m := Id) (.joining .and [.ofDocument d])).run = .ok q' →
      ∀ {ρ : Type} [Queryable Id ρ] (calls : Callbacks Id) (getter : Getter Id ρ) (r : ρ),
        (∀ b b', (q.eval calls (.of getter r)).run = .ok b →
          (q'.eval calls (.of getter r)).run = .ok b' → b = b') ∧
        (q.NeverFails calls (.of getter r) ↔ q'.NeverFails calls (.of getter r)) ∧
        (q.NeverFails calls (.of getter r) → ∃ b, (q.eval calls (.of getter r)).run = .ok b ∧
          (q'.eval calls (.of getter r)).run = .ok b) := by
  constructor
  · rw [Query.exists_compile_iff, Query.exists_compile_iff, isWellFormed_iff hnot,
      isWellFormed_joining_iff]
  · intro q q' hq hq' ρ _ calls getter r
    have hsame : q.verdict calls (.of getter r) = q'.verdict calls (.of getter r) := by
      rw [Bool.eq_iff_iff, Query.verdict_iff_pairs hnot (Query.compile_eq_ok_iff.1 hq),
        (Query.iff_of_joining (Query.compile_eq_ok_iff.1 hq')).1]
      simp [Combinator.JoinsList, Combinator.JoinsMember]
    have hfails : q.NeverFails calls (.of getter r) ↔ q'.NeverFails calls (.of getter r) := by
      rw [Query.neverFails_iff_pairs hnot (Query.compile_eq_ok_iff.1 hq),
        (Query.iff_of_joining (Query.compile_eq_ok_iff.1 hq')).2]
      simp
    refine ⟨fun b b' hb hb' => ?_, hfails, fun h => ?_⟩
    · rw [← q.verdict_eq_of_eval _ hb, ← q'.verdict_eq_of_eval _ hb', hsame]
    · exact ⟨_, Query.eval_of_neverFails h, hsame ▸ Query.eval_of_neverFails (hfails.1 h)⟩

theorem Document.agrees_joining_and_negation :
    let d : Document := .ofList [("b", .null), ("$not", .ofDocument (.singleton "a" .null))]
    let test (key : String) : Node := .condition (.ofKey key .equal (.value .null))
    let q : Query := ⟨[.ofNodes .and [test "b"], .ofNodes .not [test "a"]]⟩
    let q' : Query := ⟨[.ofNodes .and [test "b", .ofTests .not [test "a"]]]⟩
    let calls : Callbacks Id := fun _ _ _ => .error "none"
    let r : Record Id := .ofAttributes fun key => if key = "a" then some (.bool true) else some .null
    (Query.compile (m := Id) d).run = .ok q ∧
      (Query.compile (m := Id) (.joining .and [.ofDocument d])).run = .ok q' ∧
      (q.eval calls (.of .property r)).run = .ok true ∧
      (q'.eval calls (.of .property r)).run = .ok true := by
  have hsame : ∀ {d : Document} {q q' : Query} {calls : Callbacks Id} {r : Record Id},
      d.HasUnweightedNot → (Query.compile (m := Id) d).run = .ok q →
      (Query.compile (m := Id) (.joining .and [.ofDocument d])).run = .ok q' →
      q.NeverFails calls (.of .property r) → (q.eval calls (.of .property r)).run = .ok true →
      (Query.compile (m := Id) d).run = .ok q ∧
        (Query.compile (m := Id) (.joining .and [.ofDocument d])).run = .ok q' ∧
        (q.eval calls (.of .property r)).run = .ok true ∧
        (q'.eval calls (.of .property r)).run = .ok true := by
    intro d q q' calls r hnot hq hq' hfails htrue
    obtain ⟨b, hb, hb'⟩ :=
      ((Document.agrees_joining_and hnot).2 q q' hq hq' calls .property r).2.2 hfails
    rw [← Except.ok.inj (htrue.symm.trans hb)] at hb'
    exact ⟨hq, hq', htrue, hb'⟩
  refine hsame ?_ (Query.compile_eq_ok_iff.2 rfl) (Query.compile_eq_ok_iff.2 rfl) ?_ rfl
  · intro v hv inner hinner
    have hv : some (.ofDocument (.singleton "a" .null)) = some v := hv
    rw [hinner] at hv
    injection hv with hv
    injection hv with hkeys
    rw [← hkeys]
    decide
  · exact ⟨⟨⟨_, rfl, trivial⟩, trivial⟩, ⟨⟨_, rfl, trivial⟩, trivial⟩, trivial⟩

/-- A whole query does not take a document under `$or`, and `$boost` in the document under its
`$not` is an attribute to it. -/
theorem Document.disagrees_joining_and :
    let d : Document := .singleton "$or" (.ofDocument (.singleton "a" .null))
    let weight : Value := .number (.real .zero)
    let weighted : Document :=
      .singleton "$not" (.ofDocument (.ofList [("$boost", weight), ("a", .null)]))
    let test (key : String) (v : Value) : Node := .condition (.ofKey key .equal (.value v))
    let q : Query := ⟨[.ofNodes .not [test "$boost" weight, test "a" .null]]⟩
    let q' : Query := ⟨[.ofNodes .and [(Node.ofTests .not [test "a" .null]).withBoost .zero]]⟩
    let calls : Callbacks Id := fun _ _ _ => .error "none"
    let r : Record Id := .ofAttributes fun key =>
      if key = "a" then some (.bool true) else some (.number (.real .zero (by decide)))
    ((¬∃ q, (Query.compile (m := Id) d).run = .ok q) ∧
      ∃ q, (Query.compile (m := Id) (.joining .and [.ofDocument d])).run = .ok q) ∧
    (Query.compile (m := Id) weighted).run = .ok q ∧
      (Query.compile (m := Id) (.joining .and [.ofDocument weighted])).run = .ok q' ∧
      (q.eval calls (.of .property r)).run = .ok false ∧
      (q'.eval calls (.of .property r)).run = .ok true := by
  refine ⟨⟨?_, _, Query.compile_eq_ok_iff.2 rfl⟩, Query.compile_eq_ok_iff.2 rfl,
    Query.compile_eq_ok_iff.2 rfl, rfl, rfl⟩
  rintro ⟨q, hq⟩
  cases Query.compile_eq_ok_iff.1 hq

/-! ## Documents under `$or` -/

/-- `$or` passes a record if some member that has pairs does, as a query by itself. -/
theorem Query.eval_joining_or {ds : List Document} {q : Query}
    (hnot : ∀ d ∈ ds, d.HasUnweightedNot)
    (hmembers : ∀ d ∈ ds, ∃ member, (Query.compile (m := Id) d).run = .ok member)
    (h : (Query.compile (m := Id) (.joining .or (ds.map .ofDocument))).run = .ok q)
    {ρ : Type} [Queryable Id ρ] (calls : Callbacks Id) (getter : Getter Id ρ) (r : ρ)
    (hq : q.NeverFails calls (.of getter r)) :
    (∀ d ∈ ds, ∀ member, (Query.compile (m := Id) d).run = .ok member →
      ∃ b, (member.eval calls (.of getter r)).run = .ok b) ∧
    ∃ b, (q.eval calls (.of getter r)).run = .ok b ∧
      (b = true ↔ ∃ d ∈ ds, d.isEmpty = false ∧ ∃ member,
        (Query.compile (m := Id) d).run = .ok member ∧
          (member.eval calls (.of getter r)).run = .ok true) := by
  obtain ⟨hverdict, hfails⟩ : (q.verdict calls (.of getter r) = true ↔ _) ∧
      (q.NeverFails calls (.of getter r) ↔ _) := Query.iff_of_joining (Query.compile_eq_ok_iff.1 h)
  have hmember : ∀ d ∈ ds, ∀ member, (Query.compile (m := Id) d).run = .ok member →
      (member.eval calls (.of getter r)).run = .ok (member.verdict calls (.of getter r)) := by
    intro d hd member hmember
    refine Query.eval_of_neverFails ?_
    rw [Query.neverFails_iff_pairs (hnot d hd) (Query.compile_eq_ok_iff.1 hmember)]
    exact hfails.1 hq _ (List.mem_map_of_mem hd)
  refine ⟨fun d hd member h => ⟨_, hmember d hd member h⟩, _, Query.eval_of_neverFails hq, ?_⟩
  rw [hverdict]
  show (∃ v, v ∈ ds.map Value.ofDocument ∧ (∃ pair, pair ∈ v.pairs) ∧ _) ↔ _
  simp only [List.mem_map, exists_exists_and_eq_and, Value.pairs_ofDocument]
  refine exists_congr fun d => and_congr_right fun hd => and_congr ?_ ?_
  · exact Fields.isEmpty_eq_false_iff.symm
  · obtain ⟨member, hcompile⟩ := hmembers d hd
    rw [← Query.verdict_iff_pairs (hnot d hd) (Query.compile_eq_ok_iff.1 hcompile)]
    constructor
    · intro hb
      exact ⟨member, hcompile, hb ▸ hmember d hd member hcompile⟩
    · rintro ⟨member', hcompile', heval⟩
      obtain rfl : member = member' := Except.ok.inj (hcompile.symm.trans hcompile')
      exact member.verdict_eq_of_eval _ heval

theorem Query.eval_joining_or_second :
    let d : Document := .singleton "a" .null
    let test : Node := .condition (.ofKey "a" .equal (.value .null))
    let q : Query := ⟨[.ofNodes .or [test]]⟩
    let calls : Callbacks Id := fun _ _ _ => .error "none"
    let r : Record Id := .ofAttributes fun _ => some .null
    (Query.compile (m := Id) (.joining .or ([.empty, d].map .ofDocument))).run = .ok q ∧
      (q.eval calls (.of .property r)).run = .ok true ∧
      ∃ d' ∈ [.empty, d], d'.isEmpty = false ∧ ∃ member,
        (Query.compile (m := Id) d').run = .ok member ∧
          (member.eval calls (.of .property r)).run = .ok true := by
  have hpasses : ∀ {ds : List Document} {q : Query} {calls : Callbacks Id} {r : Record Id},
      (∀ d ∈ ds, d.HasUnweightedNot ∧ ∃ member, (Query.compile (m := Id) d).run = .ok member) →
      (Query.compile (m := Id) (.joining .or (ds.map .ofDocument))).run = .ok q →
      q.NeverFails calls (.of .property r) → (q.eval calls (.of .property r)).run = .ok true →
      (Query.compile (m := Id) (.joining .or (ds.map .ofDocument))).run = .ok q ∧
        (q.eval calls (.of .property r)).run = .ok true ∧
        ∃ d ∈ ds, d.isEmpty = false ∧ ∃ member, (Query.compile (m := Id) d).run = .ok member ∧
          (member.eval calls (.of .property r)).run = .ok true := by
    intro ds q calls r hmembers hq hfails htrue
    obtain ⟨-, b, hb, hiff⟩ := Query.eval_joining_or (fun d hd => (hmembers d hd).1)
      (fun d hd => (hmembers d hd).2) hq calls .property r hfails
    exact ⟨hq, htrue, hiff.1 (Except.ok.inj (hb.symm.trans htrue))⟩
  refine hpasses ?_ (Query.compile_eq_ok_iff.2 rfl) ⟨⟨⟨_, rfl, trivial⟩, trivial⟩, trivial⟩ rfl
  simp only [List.forall_mem_cons]
  exact ⟨⟨nofun, _, Query.compile_eq_ok_iff.2 rfl⟩, ⟨nofun, _, Query.compile_eq_ok_iff.2 rfl⟩, nofun⟩

/-- The empty document passes every record, but it adds nothing to `$or`. -/
theorem Query.eval_joining_or_empty :
    let calls : Callbacks Id := fun _ _ _ => .error "none"
    let r : Record Id := .ofAttributes fun _ => none
    ∃ member q, (Query.compile (m := Id) .empty).run = .ok member ∧
      (Query.compile (m := Id) (.joining .or [.ofDocument .empty])).run = .ok q ∧
      (member.eval calls (.of .property r)).run = .ok true ∧
      (q.eval calls (.of .property r)).run = .ok false :=
  ⟨_, _, Query.compile_eq_ok_iff.2 rfl, Query.compile_eq_ok_iff.2 rfl, rfl, rfl⟩

end RecordQuery
