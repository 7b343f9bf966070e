import RecordQuery.Proofs.Compile.Attribute

/-!
# The order of tests

The tests of a group stand in the order of one stable sort by precedence, however often parts of
them have been sorted on the way (`Query.groups_of_listed`). The members of a list are sorted one by
one before they are joined, and what they are joined to is sorted again. A stable sort keeps the
order within each precedence, so it does not see what has been sorted before
(`Node.arrange_membership`).
-/

namespace RecordQuery

/-! ## Stable sorting -/

section Stable

variable {α : Type} {key : α → Nat} {bound : Nat} {items : List α}

/-- Where items are in order, those of a key follow all that are below it. -/
theorem filter_lt_append_filter_eq (h : items.Pairwise (key · ≤ key ·)) (n : Nat) :
    items.filter (key · < n) ++ items.filter (key · == n) = items.filter (key · < n + 1) := by
  induction items with
  | nil => rfl
  | cons x items ih =>
    rw [List.pairwise_cons] at h
    rw [List.filter_cons, List.filter_cons, List.filter_cons]
    simp only [decide_eq_true_eq, beq_iff_eq]
    by_cases hlt : key x < n
    · have hsucc : key x < n + 1 := by omega
      have hne : key x ≠ n := by omega
      rw [if_pos hlt, if_neg hne, if_pos hsucc, List.cons_append, ih h.2]
    · -- nothing after `x` is below it, so the first part is empty
      have hnone : items.filter (key · < n) = [] := by
        simp only [List.filter_eq_nil_iff, decide_eq_true_eq]
        intro y hy
        have hle := h.1 y hy
        omega
      have heq : items.filter (key · == n) = items.filter (key · < n + 1) := by
        rw [← ih h.2, hnone, List.nil_append]
      rw [if_neg hlt, hnone, List.nil_append, heq]
      by_cases hn : key x = n
      · have hsucc : key x < n + 1 := by omega
        rw [if_pos hn, if_pos hsucc]
      · have hsucc : ¬key x < n + 1 := by omega
        rw [if_neg hn, if_neg hsucc]

theorem arrangeBy_of_pairwise (h : items.Pairwise (key · ≤ key ·)) (n : Nat) :
    arrangeBy key n items = items.filter (key · < n) := by
  induction n with
  | zero => simp [arrangeBy]
  | succ n ih => rw [arrangeBy_succ, ih, filter_lt_append_filter_eq h]

/-- Whether an item may stand before another. -/
def precedes (key : α → Nat) (x y : α) : Bool :=
  key x ≤ key y

theorem precedes_trans (key : α → Nat) (x y z : α) (hxy : precedes key x y = true)
    (hyz : precedes key y z = true) : precedes key x z = true := by
  unfold precedes at *
  simp only [decide_eq_true_eq] at *
  omega

theorem precedes_total (key : α → Nat) (x y : α) :
    (precedes key x y || precedes key y x) = true := by
  unfold precedes
  simp only [Bool.or_eq_true, decide_eq_true_eq]
  omega

/-- The stable sort by a key. -/
def sortBy (key : α → Nat) (items : List α) : List α :=
  items.mergeSort (precedes key)

theorem sortBy_perm (key : α → Nat) (items : List α) : (sortBy key items).Perm items :=
  List.mergeSort_perm _ _

theorem pairwise_sortBy (key : α → Nat) (items : List α) :
    (sortBy key items).Pairwise (key · ≤ key ·) := by
  have hsorted := List.pairwise_mergeSort (precedes_trans key) (precedes_total key) items
  unfold precedes at hsorted
  simp only [decide_eq_true_eq] at hsorted
  exact hsorted

@[simp]
theorem filter_sortBy (key : α → Nat) (items : List α) (k : Nat) :
    (sortBy key items).filter (key · == k) = items.filter (key · == k) := by
  -- items of one key are in order as they stand, so a stable sort leaves them so
  have hsame : (items.filter (key · == k)).Pairwise fun x y => precedes key x y = true := by
    refine List.pairwise_filter.2 (List.pairwise_of_forall fun x y hx hy => ?_)
    rw [beq_iff_eq] at hx hy
    rw [precedes, decide_eq_true_eq, hx, hy]
  have hkept : (items.filter (key · == k)).Sublist (sortBy key items) :=
    List.sublist_mergeSort (precedes_trans key) (precedes_total key) hsame List.filter_sublist
  -- nothing else has this key in the sorted list, since sorting permutes
  have hsublist := hkept.filter (key · == k)
  rw [List.filter_filter] at hsublist
  simp only [Bool.and_self] at hsublist
  exact (hsublist.eq_of_length ((sortBy_perm key items).filter _).length_eq.symm).symm

/-- The arrangement by a small key is the stable sort by this key. -/
theorem arrangeBy_eq_sortBy (h : ∀ x ∈ items, key x < bound) :
    arrangeBy key bound items = sortBy key items := by
  have hbelow : ∀ x ∈ sortBy key items, decide (key x < bound) = true := fun x hx =>
    decide_eq_true (h x ((sortBy_perm key items).mem_iff.1 hx))
  calc arrangeBy key bound items
      = arrangeBy key bound (sortBy key items) :=
        arrangeBy_congr fun k _ => (filter_sortBy key items k).symm
    _ = (sortBy key items).filter (key · < bound) :=
        arrangeBy_of_pairwise (pairwise_sortBy key items) bound
    _ = sortBy key items := List.filter_eq_self.2 hbelow

end Stable

theorem Node.arrange_eq_sortBy (nodes : List Node) : arrange nodes = sortBy precedence nodes :=
  arrangeBy_eq_sortBy fun node _ => Nat.lt_succ_of_le node.precedence_le

/-! ## What members add to a group -/

/-- What the tests of some members add to a group, the tests of each member in the order in which
they are written. Under `$or` several tests of one member are a group of their own. -/
def Combinator.joined (kind : Combinator) (members : List (List Node)) : List Node :=
  if kind = .or then
    members.flatMap fun tests =>
      if 2 ≤ tests.length then [.group (.ofNodes .and (sortBy Node.precedence tests))] else tests
  else members.flatten

/-- The tests of each precedence come in the same order from members that have been sorted. -/
theorem Combinator.filter_joined (kind : Combinator) (testss : List (List Node)) {k : Nat}
    (hk : k < lastPrecedence + 1) :
    ((testss.map Node.arrange).flatMap kind.membership).filter (Node.precedence · == k) =
      (kind.joined testss).filter (Node.precedence · == k) := by
  have hsorted : ∀ tests : List Node, (Node.arrange tests).filter (Node.precedence · == k) =
      tests.filter (Node.precedence · == k) := fun tests => filter_arrangeBy _ tests hk
  rw [List.flatMap_map, joined]
  by_cases hor : kind = .or
  · rw [if_pos hor, List.filter_flatMap, List.filter_flatMap]
    congr 1
    funext tests
    rw [membership, (Node.perm_arrange tests).length_eq]
    by_cases hgroup : 2 ≤ tests.length
    · rw [if_pos ⟨hor, hgroup⟩, if_pos hgroup, Node.arrange_eq_sortBy]
    · rw [if_neg fun h => hgroup h.2, if_neg hgroup, hsorted]
  · rw [if_neg hor, List.filter_flatMap, List.filter_flatten, List.flatMap_def]
    congr 2
    funext tests
    rw [membership, if_neg fun h => hor h.1, hsorted]

/-- Members are sorted before they are joined, which comes to sorting them once they are. -/
theorem Node.arrange_membership (kind : Combinator) (testss : List (List Node))
    (further : List Node) :
    arrange ((testss.map arrange).flatMap kind.membership ++ arrange further) =
      sortBy precedence (kind.joined testss ++ further) := by
  rw [← arrange_eq_sortBy]
  refine arrangeBy_congr fun k hk => ?_
  rw [List.filter_append, List.filter_append, kind.filter_joined testss hk, arrange,
    filter_arrangeBy _ further hk]

/-! ## Groups of listed members -/

/-- Pairs compile to one list of nodes at most. -/
theorem rightUnique_compilesAll : Relator.RightUnique CompilesAll :=
  Relator.RightUnique.forall₂ fun _ _ _ h h' => Except.ok.inj (h.symm.trans h')

/-- The pairs of the members that the group of a document joins, if its combinator lists these
documents. The attributes beside the combinators are one last member of `$and`. -/
def Document.memberPairs (d : Document) (kind : Combinator) (ds : List Document) :
    List (List (String × Value)) :=
  ds.map Fields.entries ++ if kind = .and then [d.attributePairs] else []

theorem compileMembers_ofList_iff {kind : Combinator} {ds : List Document} {nodes : List Node} :
    compileMembers kind (.ofList (ds.map .ofDocument)) = .ok nodes ↔
      ∃ testss, List.Forall₂ CompilesAll (ds.map Fields.entries) testss ∧
        (testss.map Node.arrange).flatMap kind.membership = nodes := by
  rw [Value.ofList, compileMembers, mapM_finRange_get compileMember]
  simp only [map_eq_ok_iff, mapM_eq_ok_iff, List.forall₂_map_left_iff,
    compileMember_ofDocument_iff, forall₂_exists_map_iff]
  constructor
  · rintro ⟨_, ⟨testss, htestss, rfl⟩, rfl⟩
    exact ⟨testss, htestss, rfl⟩
  · rintro ⟨testss, htestss, rfl⟩
    exact ⟨_, ⟨testss, htestss, rfl⟩, rfl⟩

namespace Document

variable {d : Document} {kind : Combinator} {ds : List Document}
  (hget : d.get? kind.name = some (.ofList (ds.map .ofDocument)))
include hget

theorem compileGroup_of_documents {group : Group} (h : d.compileGroup kind = .ok group) :
    ∃ testss, List.Forall₂ CompilesAll (d.memberPairs kind ds) testss ∧
      group = .ofNodes kind (sortBy Node.precedence (kind.joined testss)) := by
  obtain ⟨members, hmembers, h⟩ := bind_eq_ok_iff.1 h
  obtain ⟨further, hfurther, h⟩ := bind_eq_ok_iff.1 h
  obtain rfl := Except.ok.inj h
  rw [compileListed, hget] at hmembers
  obtain ⟨testss, htestss, rfl⟩ := compileMembers_ofList_iff.1 hmembers
  rw [Node.arrange_membership]
  unfold compileFurther at hfurther
  by_cases hand : kind = .and
  · rw [if_pos hand] at hfurther
    have hattributes := mapM_attributes_eq_ok_iff.1 hfurther
    -- under `$and` the attributes are one more member, and it is sorted on its own too
    refine ⟨testss ++ [further], ?_, ?_⟩
    · rw [memberPairs, if_pos hand]
      exact List.rel_append htestss (.cons hattributes .nil)
    · have hor : kind ≠ .or := by rw [hand]; decide
      rw [Combinator.joined, Combinator.joined, if_neg hor, if_neg hor, List.flatten_concat]
  · rw [if_neg hand] at hfurther
    obtain rfl := Except.ok.inj hfurther
    refine ⟨testss, ?_, by rw [List.append_nil]⟩
    rwa [memberPairs, if_neg hand, List.append_nil]

theorem mem_kinds_of_documents : kind ∈ d.kinds :=
  mem_kinds.2 (.inl (Fields.mem_keys_iff.2 ⟨_, hget⟩))

end Document

/-- Keys that all stand for one group leave no other kind. -/
theorem Document.eq_of_mem_kinds {d : Document} {kind other : Combinator}
    (hkeys : ∀ key ∈ d.keys, key = kind.name ∨ kind = .and ∧ namesAttribute key = true)
    (h : other ∈ d.kinds) : other = kind := by
  cases mem_kinds.1 h with
  | inl hmem =>
    cases hkeys _ hmem with
    | inl hname => exact Combinator.name_inj.1 hname
    | inr hattribute => simp at hattribute
  | inr hattribute =>
    obtain ⟨rfl, i, hi⟩ := hattribute
    cases hkeys _ (List.get_mem d.keys i) with
    | inl hname =>
      rw [hname] at hi
      simp at hi
    | inr hand => exact hand.1.symm

/-- A kind has one place among the kinds of a document. -/
theorem Document.filter_kinds {d : Document} {kind : Combinator} (h : kind ∈ d.kinds) :
    d.kinds.filter (· = kind) = [kind] := by
  have hall : d.kinds.filter (· = kind) = Combinator.all.filter (· = kind) := by
    rw [kinds, List.filter_filter]
    refine List.filter_congr fun other _ => ?_
    by_cases hother : other = kind
    · subst hother
      rw [(List.mem_filter.1 h).2, Bool.and_true]
    · rw [decide_eq_false hother, Bool.false_and]
  rw [hall]
  cases kind <;> rfl

/-- The group of a combinator that lists documents holds the nodes of their pairs, document by
document and pair by pair, in the order of one stable sort by precedence. Under `$and` the
attributes beside the combinators follow as one more member. Under `$or` the pairs of a member that
has several stand together in an `$and` group, sorted by themselves. If the keys of the document are
all for this group, it is the only one. -/
theorem Query.groups_of_listed {d : Document} {kind : Combinator} {ds : List Document}
    (hget : d.get? kind.name = some (.ofList (ds.map .ofDocument))) {q : Query}
    (h : (Query.compile (m := Id) d).run = .ok q) :
    ∃ testss, List.Forall₂ CompilesAll (d.memberPairs kind ds) testss ∧
      q.groups.filter (·.kind = kind) =
        [.ofNodes kind (sortBy Node.precedence (kind.joined testss))] ∧
      ((∀ key ∈ d.keys, key = kind.name ∨ kind = .and ∧ namesAttribute key = true) →
        q.groups = [.ofNodes kind (sortBy Node.precedence (kind.joined testss))]) := by
  obtain ⟨-, groups, hgroups, rfl⟩ := compileQuery_eq_ok_iff.1 (Query.compile_eq_ok_iff.1 h)
  have hcompiled := mapM_eq_ok_iff.1 hgroups
  have hkind := Document.mem_kinds_of_documents hget
  -- the groups stand for the kinds one by one, so one of them is of this kind
  have hfilter : List.Forall₂ (fun kind group => d.compileGroup kind = .ok group)
      (d.kinds.filter (· = kind)) (groups.filter (·.kind = kind)) := by
    refine List.rel_filter ?_ hcompiled
    intro other group hgroup
    show decide (other = kind) = true ↔ decide (group.kind = kind) = true
    rw [Document.kind_of_compileGroup hgroup]
  rw [Document.filter_kinds hkind, List.forall₂_cons_left_iff] at hfilter
  obtain ⟨group, rest, hgroup, hrest, hfilter⟩ := hfilter
  obtain rfl := List.forall₂_nil_left_iff.1 hrest
  obtain ⟨testss, htestss, rfl⟩ := Document.compileGroup_of_documents hget hgroup
  refine ⟨testss, htestss, hfilter, fun hkeys => ?_⟩
  have hall : ∀ group ∈ groups, decide (group.kind = kind) = true := by
    intro group hgroup
    obtain ⟨other, hother, hcompile⟩ := exists_of_forall₂_right hcompiled hgroup
    rw [decide_eq_true_eq, Document.kind_of_compileGroup hcompile]
    exact Document.eq_of_mem_kinds hkeys hother
  rw [← hfilter]
  exact (List.filter_eq_self.2 hall).symm

section Instances

/-- Two documents, the first of which has its tests in the wrong order. -/
def Document.disordered : List Document :=
  [.ofList [("b", .ofList []), ("a", .null)], .testing "c" .present (.bool true)]

/-- The disordered documents joined, with an attribute beside them. -/
def Document.joiningDisordered : Document :=
  .ofList [("d", .null), (Combinator.and.name, .ofList (disordered.map .ofDocument))]

/-- Each document is in order by itself once it is sorted, and joined they are sorted again: what is
present comes first, then the two that are `null` as they stand in the document. -/
theorem Query.groups_of_listed_disordered :
    let empty : Node := .condition (.ofKey "b" .deepEqual (.value (.ofList [])))
    let null (key : String) : Node := .condition (.ofKey key .equal (.value .null))
    let present : Node := .condition (.ofKey "c" .present (.value (.bool true)))
    ∃ q, (Query.compile (m := Id) .joiningDisordered).run = .ok q ∧
      q.groups.filter (·.kind = .and) =
        [.ofNodes .and (sortBy Node.precedence [empty, null "a", present, null "d"])] ∧
      q.groups = [.ofNodes .and [present, null "a", null "d", empty]] := by
  have hcompile : (Query.compile (m := Id) .joiningDisordered).run = .ok ⟨[.ofNodes .and
      [.condition (.ofKey "c" .present (.value (.bool true))),
       .condition (.ofKey "a" .equal (.value .null)),
       .condition (.ofKey "d" .equal (.value .null)),
       .condition (.ofKey "b" .deepEqual (.value (.ofList [])))]]⟩ := rfl
  have htests : List.Forall₂ CompilesAll
      (Document.joiningDisordered.memberPairs .and Document.disordered)
      [[.condition (.ofKey "b" .deepEqual (.value (.ofList []))),
        .condition (.ofKey "a" .equal (.value .null))],
       [.condition (.ofKey "c" .present (.value (.bool true)))],
       [.condition (.ofKey "d" .equal (.value .null))]] :=
    .cons (List.Forall₂.cons rfl (.cons rfl .nil))
      (.cons (List.Forall₂.cons rfl .nil) (.cons (List.Forall₂.cons rfl .nil) .nil))
  intro empty null present
  have hget : Document.joiningDisordered.get? Combinator.and.name =
      some (.ofList (Document.disordered.map .ofDocument)) := rfl
  obtain ⟨testss, htestss, hgroups, -⟩ := groups_of_listed hget hcompile
  obtain rfl := rightUnique_compilesAll.forall₂ htestss htests
  exact ⟨_, hcompile, hgroups, rfl⟩

end Instances

end RecordQuery
