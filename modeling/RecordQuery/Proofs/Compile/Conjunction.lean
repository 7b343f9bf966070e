import Mathlib.Data.List.Perm.Basic
import RecordQuery.Proofs.Compile.Members

/-!
# Documents of one `$and` group

A document without combinators other than `$and` compiles to one group. Its nodes are those of the
pairs that stand directly in the document and in its members, one for each pair
(`Document.IsConjunction.compileQuery_iff`). The order in which keys and members are written is of
no account to the nodes, but for their order (`Document.Reordered.conjuncts_perm`).
-/

namespace RecordQuery

/-! ## Pairs that a document joins -/

namespace Document

/-- What stands in the list under `$and`. -/
def listed (d : Document) : List Value :=
  (d.get? Combinator.and.name).toList.flatMap fun v => v.items?.getD []

/-- The pairs of the document itself that ask something of an attribute. -/
def attributePairs (d : Document) : List (String × Value) :=
  d.entries.filter fun pair => namesAttribute pair.1

/-- The pairs that a document joins: those of its members and its own. -/
def conjuncts (d : Document) : List (String × Value) :=
  d.listed.flatMap Value.pairs ++ d.attributePairs

/-- The document asks something and has no combinator but `$and`, which joins a list of
documents. -/
structure IsConjunction (d : Document) : Prop where
  nonempty : d.keys ≠ []
  combinators : ∀ kind : Combinator, kind.name ∈ d.keys → kind = .and
  list : ∀ v, d.get? Combinator.and.name = some v → v.isArray = true
  members : ∀ v ∈ d.listed, ∃ m : Document, v = .ofDocument m

end Document

section Attributes

variable {d : Document} (h : ∀ key ∈ d.keys, namesAttribute key = true)
include h

theorem Document.name_notMem_of_attributes (kind : Combinator) : kind.name ∉ d.keys := by
  intro hkind
  have hattribute := h _ hkind
  simp at hattribute

theorem Document.listed_of_attributes : d.listed = [] := by
  rw [listed, Fields.get?_eq_none_iff.2 (name_notMem_of_attributes h .and)]
  rfl

theorem Document.conjuncts_of_attributes : d.conjuncts = d.entries := by
  rw [conjuncts, listed_of_attributes h, attributePairs]
  exact List.filter_eq_self.2 (Fields.forall_entries_iff.2 fun i => h _ (List.get_mem d.keys i))

theorem Document.isConjunction_of_attributes (hne : d.keys ≠ []) : d.IsConjunction where
  nonempty := hne
  combinators kind hkind := absurd hkind (name_notMem_of_attributes h kind)
  list v hv := by
    rw [Fields.get?_eq_none_iff.2 (name_notMem_of_attributes h .and)] at hv
    cases hv
  members := by
    rw [listed_of_attributes h]
    nofun

end Attributes

/-! ## Nodes of the pairs -/

/-- The nodes of some pairs, one for each. -/
def CompilesAll : List (String × Value) → List Node → Prop :=
  List.Forall₂ fun pair node => compilePair pair.1 pair.2 = .ok node

theorem mapM_entries_eq_ok_iff {d : Document} {tests : List Node} :
    (List.finRange d.keys.length).mapM (fun i => compilePair (d.keys.get i) (d.value i)) =
      .ok tests ↔ CompilesAll d.entries tests := by
  rw [d.mapM_entries fun pair => compilePair pair.1 pair.2, mapM_eq_ok_iff, CompilesAll]

theorem compileMember_ofDocument_iff {d : Document} {nodes : List Node} :
    compileMember (.ofDocument d) = .ok nodes ↔
      ∃ tests, CompilesAll d.entries tests ∧ Node.arrange tests = nodes := by
  simp only [Value.ofDocument, compileMember, map_eq_ok_iff, ← mapM_entries_eq_ok_iff]

theorem mapM_attributes_eq_ok_iff {d : Document} {tests : List Node} :
    d.attributes.mapM (fun i => compilePair (d.keys.get i) (d.value i)) = .ok tests ↔
      CompilesAll d.attributePairs tests := by
  rw [Document.attributes, d.mapM_filter_entries namesAttribute fun pair =>
    compilePair pair.1 pair.2, mapM_eq_ok_iff, CompilesAll, Document.attributePairs]

theorem compileMember_eq_ok_iff {v : Value} {nodes : List Node} :
    compileMember v = .ok nodes ↔
      (∃ m : Document, v = .ofDocument m) ∧
        ∃ tests, CompilesAll v.pairs tests ∧ Node.arrange tests = nodes := by
  cases v with
  | object keys nodup value =>
    let m : Document := ⟨keys, nodup, value⟩
    exact (compileMember_ofDocument_iff (d := m)).trans (and_iff_right ⟨m, rfl⟩).symm
  | _ =>
    refine iff_of_false nofun ?_
    rintro ⟨⟨m, hm⟩, -⟩
    cases hm

theorem forall₂_compileMember_iff {vs : List Value} {members : List (List Node)} :
    List.Forall₂ (fun v nodes => compileMember v = .ok nodes) vs members ↔
      (∀ v ∈ vs, ∃ m : Document, v = .ofDocument m) ∧ ∃ testss,
        List.Forall₂ (fun (v : Value) tests => CompilesAll v.pairs tests) vs testss ∧
          testss.map Node.arrange = members := by
  simp only [compileMember_eq_ok_iff, List.forall₂_and_left, forall₂_exists_map_iff]

/-- Members that are in order already need not be told apart. -/
theorem Node.arrange_members (testss : List (List Node)) (further : List Node) :
    arrange ((testss.map arrange).flatten ++ arrange further) =
      arrange (testss.flatten ++ further) :=
  arrangeBy_congr fun k hk => by
    simp only [List.filter_append, List.filter_flatten, List.map_map, Function.comp_def, arrange,
      filter_arrangeBy precedence _ hk]

/-! ## Whole documents -/

namespace Document

variable {d : Document}

theorem kinds_eq_and_iff :
    d.kinds = [.and] ↔
      d.keys ≠ [] ∧ ∀ kind : Combinator, kind.name ∈ d.keys → kind = .and := by
  constructor
  · intro h
    have hand : Combinator.and ∈ d.kinds := h ▸ List.mem_singleton_self _
    refine ⟨?_, fun kind hkind => ?_⟩
    · rcases mem_kinds.1 hand with hkey | ⟨-, i, -⟩
      · exact List.ne_nil_of_mem hkey
      · exact List.ne_nil_of_length_pos (Nat.zero_lt_of_lt i.isLt)
    · exact List.mem_singleton.1 (h ▸ mem_kinds.2 (.inl hkind))
  · rintro ⟨hne, hcombinators⟩
    have hkinds : ∀ kind, kind ∈ d.kinds ↔ kind = .and := by
      refine fun kind => ⟨fun h => (mem_kinds.1 h).elim (hcombinators kind) And.left, ?_⟩
      rintro rfl
      -- the first key is `$and` or names an attribute
      let i : Fin d.keys.length := ⟨0, List.length_pos_iff.2 hne⟩
      cases hkey : Combinator.ofName? (d.keys.get i) with
      | none => exact mem_kinds.2 (.inr ⟨rfl, i, namesAttribute_iff.2 hkey⟩)
      | some kind =>
        have hmem : kind.name ∈ d.keys :=
          Combinator.ofName?_eq_some_iff.1 hkey ▸ List.get_mem d.keys i
        exact mem_kinds.2 (.inl (hcombinators kind hmem ▸ hmem))
    have hfilter : d.kinds = Combinator.all.filter (· = .and) := by
      refine List.filter_congr fun kind hkind => ?_
      rw [Bool.eq_iff_iff, decide_eq_true_iff]
      exact (and_iff_right hkind).symm.trans (List.mem_filter.symm.trans (hkinds kind))
    rw [hfilter]
    decide

theorem listed_eq {v : Value} {vs : List Value} (hget : d.get? Combinator.and.name = some v)
    (hv : v.items? = some vs) : d.listed = vs := by
  rw [listed, hget, Option.toList_some, List.flatMap_singleton, hv, Option.getD_some]

theorem compileListed_and_iff {nodes : List Node}
    (hlist : ∀ v, d.get? Combinator.and.name = some v → v.isArray = true) :
    d.compileListed .and = .ok nodes ↔
      (∀ v ∈ d.listed, ∃ m : Document, v = .ofDocument m) ∧ ∃ testss,
        List.Forall₂ (fun (v : Value) tests => CompilesAll v.pairs tests) d.listed testss ∧
          (testss.map Node.arrange).flatten = nodes := by
  have hmembership : ∀ members : List (List Node),
      members.flatMap Combinator.and.membership = members.flatten := fun members => by
    rw [← List.flatMap_id]
    rfl
  cases hget : d.get? Combinator.and.name with
  | none =>
    rw [compileListed, listed, hget]
    simp [eq_comm]
  | some v =>
    cases v with
    | array size item =>
      have hlisted : d.listed = List.ofFn item := listed_eq hget rfl
      have hitems : ∀ {members},
          (List.finRange size).mapM (fun i => compileMember (item i)) = .ok members ↔
            List.Forall₂ (fun v nodes => compileMember v = .ok nodes) d.listed members := by
        intro members
        rw [mapM_eq_ok_iff, hlisted, List.ofFn_eq_map, List.forall₂_map_left_iff]
      rw [compileListed, hget]
      simp only [compileMembers, map_eq_ok_iff, hitems, forall₂_compileMember_iff, hmembership]
      constructor
      · rintro ⟨_, ⟨hmembers, testss, htestss, rfl⟩, rfl⟩
        exact ⟨hmembers, testss, htestss, rfl⟩
      · rintro ⟨hmembers, testss, htestss, rfl⟩
        exact ⟨_, ⟨hmembers, testss, htestss, rfl⟩, rfl⟩
    | _ => cases hlist _ hget

theorem kind_of_compileGroup {kind : Combinator} {group : Group}
    (h : d.compileGroup kind = .ok group) : group.kind = kind := by
  obtain ⟨_, -, h⟩ := bind_eq_ok_iff.1 h
  obtain ⟨_, -, h⟩ := bind_eq_ok_iff.1 h
  obtain rfl := Except.ok.inj h
  rfl

/-- The `$and` group has one node for each pair. -/
theorem compileGroup_and_iff {group : Group}
    (hlist : ∀ v, d.get? Combinator.and.name = some v → v.isArray = true) :
    d.compileGroup .and = .ok group ↔
      (∀ v ∈ d.listed, ∃ m : Document, v = .ofDocument m) ∧
      ∃ tests, CompilesAll d.conjuncts tests ∧ .ofNodes .and (Node.arrange tests) = group := by
  have hfurther : ∀ {further}, d.compileFurther .and = .ok further ↔
      CompilesAll d.attributePairs further := mapM_attributes_eq_ok_iff
  simp only [compileGroup, bind_eq_ok_iff, compileListed_and_iff hlist, hfurther, pure, Except.pure,
    Except.ok.injEq]
  constructor
  · rintro ⟨_, ⟨hmembers, testss, htestss, rfl⟩, further, hfurther, rfl⟩
    have hlisted := forall₂_flatMap_left_iff.2 ⟨testss, htestss, rfl⟩
    refine ⟨hmembers, _, forall₂_append_left_iff.2 ⟨_, further, hlisted, hfurther, rfl⟩, ?_⟩
    rw [Node.arrange_members]
  · rintro ⟨hmembers, _, htests, rfl⟩
    obtain ⟨_, further, hlisted, hfurther, rfl⟩ := forall₂_append_left_iff.1 htests
    obtain ⟨testss, htestss, rfl⟩ := forall₂_flatMap_left_iff.1 hlisted
    exact ⟨_, ⟨hmembers, testss, htestss, rfl⟩, further, hfurther, by rw [Node.arrange_members]⟩

end Document

theorem Document.IsConjunction.compileQuery_iff {d : Document} (hd : d.IsConjunction) {q : Query} :
    compileQuery (.ofDocument d) = .ok q ↔
      ∃ tests, CompilesAll d.conjuncts tests ∧ ⟨[.ofNodes .and (Node.arrange tests)]⟩ = q := by
  have hlists : ∀ kind : Combinator, kind.lacksArray d = false := by
    refine Document.hasLists_iff.1 fun kind _ v hv => hd.list v ?_
    have hkey : kind.name ∈ d.keys := by
      by_contra hkey
      rw [Fields.get?_eq_none_iff.2 hkey] at hv
      cases hv
    rw [← hd.combinators kind hkey, hv]
  rw [compileQuery_eq_ok_iff, and_iff_right hlists,
    Document.kinds_eq_and_iff.2 ⟨hd.nonempty, hd.combinators⟩]
  simp only [mapM_eq_ok_iff, List.forall₂_cons_left_iff, List.forall₂_nil_left_iff,
    Document.compileGroup_and_iff hd.list, and_iff_right hd.members]
  constructor
  · rintro ⟨_, ⟨_, _, ⟨tests, htests, rfl⟩, rfl, rfl⟩, rfl⟩
    exact ⟨tests, htests, rfl⟩
  · rintro ⟨tests, htests, rfl⟩
    exact ⟨_, ⟨_, _, ⟨tests, htests, rfl⟩, rfl, rfl⟩, rfl⟩

/-- A document that compiles to one `$and` group has no other combinator. -/
theorem Document.isConjunction_of_compileQuery {d : Document} {group : Group}
    (h : compileQuery (.ofDocument d) = .ok ⟨[group]⟩) (hand : group.kind = .and) :
    d.IsConjunction := by
  obtain ⟨hlists, groups, hgroups, hq⟩ := compileQuery_eq_ok_iff.1 h
  obtain rfl : groups = [group] := congrArg Query.groups hq
  obtain ⟨kind, kinds, hgroup, hnil, hkinds⟩ :=
    List.forall₂_cons_right_iff.1 (mapM_eq_ok_iff.1 hgroups)
  obtain rfl := List.forall₂_nil_right_iff.1 hnil
  obtain rfl : kind = .and := (kind_of_compileGroup hgroup).symm.trans hand
  obtain ⟨hnonempty, hcombinators⟩ := kinds_eq_and_iff.1 hkinds
  have hlist := hasLists_iff.2 hlists .and (by decide)
  exact ⟨hnonempty, hcombinators, hlist, ((compileGroup_and_iff hlist).1 hgroup).1⟩

/-! ## The order of keys and members -/

/-- The document with another list under `$and`. -/
def Document.withMembers (d : Document) (vs : List Value) : Document :=
  d.insert Combinator.and.name (.ofList vs)

/-- A permutation of the keys of a document, of the members of its `$and` or of the keys of one of
these members. -/
inductive Document.Permutes : Document → Document → Prop
  | keys {d d' : Document} : d.entries.Perm d'.entries → Permutes d d'
  | members {d : Document} {vs vs' : List Value} :
      d.get? Combinator.and.name = some (.ofList vs) → vs.Perm vs' →
        Permutes d (d.withMembers vs')
  | member {d : Document} {before after : List Value} {m m' : Document} :
      d.get? Combinator.and.name = some (.ofList (before ++ .ofDocument m :: after)) →
        m.entries.Perm m'.entries →
          Permutes d (d.withMembers (before ++ .ofDocument m' :: after))

/-- The documents are the same up to the order of their keys, of the members of `$and` and of the
keys of these members. -/
def Document.Reordered : Document → Document → Prop :=
  Relation.ReflTransGen Document.Permutes

theorem Fields.mem_keys_iff {α : Type} {d : Fields α} {key : String} :
    key ∈ d.keys ↔ ∃ v, d.get? key = some v := by
  rw [← not_iff_not, ← get?_eq_none_iff, Option.eq_none_iff_forall_ne_some]
  simp

theorem Fields.get?_eq_of_perm {α : Type} {d d' : Fields α} (h : d.entries.Perm d'.entries)
    (key : String) : d.get? key = d'.get? key :=
  get?_eq_of_entries fun _ => h.mem_iff

namespace Document

variable {d d' : Document}

theorem listed_eq_of_perm (h : d.entries.Perm d'.entries) : d.listed = d'.listed := by
  rw [listed, listed, Fields.get?_eq_of_perm h]

theorem IsConjunction.of_perm (hd : d.IsConjunction) (h : d.entries.Perm d'.entries) :
    d'.IsConjunction where
  nonempty := by
    have hlength := h.length_eq
    rw [Fields.entries, Fields.entries, List.length_ofFn, List.length_ofFn] at hlength
    rw [← List.length_pos_iff, ← hlength]
    exact List.length_pos_iff.2 hd.nonempty
  combinators kind hkind := by
    rw [Fields.mem_keys_iff, ← Fields.get?_eq_of_perm h, ← Fields.mem_keys_iff] at hkind
    exact hd.combinators kind hkind
  list v hv := hd.list v (by rwa [Fields.get?_eq_of_perm h])
  members := by
    rw [← listed_eq_of_perm h]
    exact hd.members

section WithMembers

variable {vs vs' : List Value}

theorem listed_of_get? (hget : d.get? Combinator.and.name = some (.ofList vs)) : d.listed = vs :=
  listed_eq hget (by simp)

@[simp]
theorem get?_withMembers (d : Document) (vs : List Value) :
    (d.withMembers vs).get? Combinator.and.name = some (.ofList vs) :=
  Fields.get?_insert_self d _ _

@[simp]
theorem listed_withMembers (d : Document) (vs : List Value) : (d.withMembers vs).listed = vs :=
  listed_of_get? (by simp)

variable (hkey : Combinator.and.name ∈ d.keys)
include hkey

/-- What `$and` joins is no attribute. -/
theorem attributePairs_withMembers (vs : List Value) :
    (d.withMembers vs).attributePairs = d.attributePairs := by
  rw [attributePairs, attributePairs, withMembers, Fields.insert, dif_pos hkey, Fields.entries,
    Fields.entries, List.ofFn_eq_map, List.ofFn_eq_map, List.filter_map, List.filter_map]
  refine List.map_congr_left fun i hi => ?_
  have hattribute : namesAttribute (d.keys.get i) = true := (List.mem_filter.1 hi).2
  have hne : d.keys.get i ≠ Combinator.and.name := by
    intro heq
    rw [heq] at hattribute
    exact absurd hattribute (by decide)
  exact congrArg (Prod.mk _) (if_neg hne)

theorem IsConjunction.withMembers (hd : d.IsConjunction)
    (hvs : ∀ v ∈ vs, ∃ m : Document, v = .ofDocument m) : (d.withMembers vs).IsConjunction := by
  have hkeys : (d.withMembers vs).keys = d.keys := by
    rw [Document.withMembers, Fields.keys_insert, if_pos hkey]
  refine ⟨hkeys ▸ hd.nonempty, hkeys ▸ hd.combinators, fun v hv => ?_, ?_⟩
  · obtain rfl : .ofList vs = v := by simpa using hv
    rfl
  · simpa using hvs

end WithMembers

/-- One permutation keeps the pairs. -/
theorem Permutes.conjuncts_perm (h : d.Permutes d') (hd : d.IsConjunction) :
    d'.IsConjunction ∧ d.conjuncts.Perm d'.conjuncts := by
  cases h with
  | keys hperm =>
    refine ⟨hd.of_perm hperm, ?_⟩
    rw [conjuncts, conjuncts, listed_eq_of_perm hperm]
    exact (hperm.filter _).append_left _
  | members hget hperm =>
    have hkey := Fields.mem_keys_iff.2 ⟨_, hget⟩
    have hvs := hd.members
    rw [listed_of_get? hget] at hvs
    refine ⟨hd.withMembers hkey fun v hv => hvs v (hperm.mem_iff.2 hv), ?_⟩
    rw [conjuncts, conjuncts, listed_of_get? hget, listed_withMembers,
      attributePairs_withMembers hkey]
    exact (hperm.flatMap_right _).append_right _
  | member hget hperm =>
    have hkey := Fields.mem_keys_iff.2 ⟨_, hget⟩
    have hvs := hd.members
    rw [listed_of_get? hget, List.forall_mem_append, List.forall_mem_cons] at hvs
    refine ⟨hd.withMembers hkey (List.forall_mem_append.2
      ⟨hvs.1, List.forall_mem_cons.2 ⟨⟨_, rfl⟩, hvs.2.2⟩⟩), ?_⟩
    rw [conjuncts, conjuncts, listed_of_get? hget, listed_withMembers,
      attributePairs_withMembers hkey]
    simp only [List.flatMap_append, List.flatMap_cons, Value.pairs_ofDocument]
    exact ((hperm.append_right _).append_left _).append_right _

/-- However keys and members are reordered, the pairs are the same. -/
theorem Reordered.conjuncts_perm (h : d.Reordered d') (hd : d.IsConjunction) :
    d'.IsConjunction ∧ d.conjuncts.Perm d'.conjuncts := by
  induction h with
  | refl => exact ⟨hd, .refl _⟩
  | tail _ hstep ih =>
    obtain ⟨hconjunction, hperm⟩ := hstep.conjuncts_perm ih.1
    exact ⟨hconjunction, ih.2.trans hperm⟩

end Document

/-! ## Nodes of reordered documents -/

theorem Node.perm_arrange (nodes : List Node) : (arrange nodes).Perm nodes :=
  perm_arrangeBy fun node _ => Nat.lt_succ_of_le node.precedence_le

section Nodes

variable {d : Document} {nodes : List Node} {boost : Binary64}
  (h : compileQuery (.ofDocument d) = .ok ⟨[⟨.and, nodes, boost⟩]⟩)
include h

/-- One node stands for each pair. -/
theorem exists_tests_of_compileQuery :
    d.IsConjunction ∧ ∃ tests, CompilesAll d.conjuncts tests ∧ nodes.Perm tests := by
  have hd := Document.isConjunction_of_compileQuery h rfl
  obtain ⟨tests, htests, hq⟩ := hd.compileQuery_iff.1 h
  injection hq with hq
  obtain rfl : Node.arrange tests = nodes := congrArg Group.nodes (List.head_eq_of_cons_eq hq)
  exact ⟨hd, tests, htests, Node.perm_arrange tests⟩

theorem length_of_compileQuery : nodes.length = d.conjuncts.length := by
  obtain ⟨-, tests, htests, hnodes⟩ := exists_tests_of_compileQuery h
  rw [hnodes.length_eq, htests.length_eq]

theorem exists_compileQuery_of_reordered {d' : Document} (hreordered : d.Reordered d') :
    ∃ nodes', compileQuery (.ofDocument d') = .ok ⟨[.ofNodes .and nodes']⟩ ∧
      nodes.Perm nodes' := by
  obtain ⟨hd, tests, htests, hnodes⟩ := exists_tests_of_compileQuery h
  obtain ⟨hd', hperm⟩ := hreordered.conjuncts_perm hd
  -- the tests of the pairs are permuted as the pairs are
  obtain ⟨tests', htests', hperm'⟩ := List.perm_comp_forall₂ hperm.symm htests
  refine ⟨Node.arrange tests', hd'.compileQuery_iff.2 ⟨tests', htests', rfl⟩, ?_⟩
  exact hnodes.trans (hperm'.symm.trans (Node.perm_arrange tests').symm)

end Nodes

end RecordQuery
