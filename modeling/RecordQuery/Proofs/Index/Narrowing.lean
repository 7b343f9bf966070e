import Mathlib.Data.List.Sort
import RecordQuery.Proofs.Compile.WellFormed
import RecordQuery.Proofs.Index.Positions

/-!
# Narrowed queries

An `$equal` condition is answered from indexes if the first index of its key can look its value up
(`Node.IsAnswered`). The nodes of the `$and` group that leads a query fall into those that are
answered and those that are left (`SplitsInto`), and the answers have some positions in common
(`IsCommon`). A compiled query is narrowed to exactly these: it keeps the nodes that are left, and
all its other groups, and its candidates are the positions in common (`Query.NarrowsTo`).
-/

namespace RecordQuery

/-! ## Positions in common -/

/-- The positions of some of `n` records, each once and in ascending order. -/
structure IsPositions (n : Nat) (positions : List Nat) : Prop where
  ascends : positions.Pairwise (· < ·)
  bounded : ∀ i ∈ positions, i < n

/-- The positions that stand in all the lists, each once and in ascending order. -/
structure IsCommon (n : Nat) (lists : List (List Nat)) (positions : List Nat) : Prop
    extends IsPositions n positions where
  mem_iff : ∀ i, i ∈ positions ↔ ∀ list ∈ lists, i ∈ list

section Common

variable {n : Nat} {as bs positions : List Nat} {lists : List (List Nat)}

theorem isPositions_positionsFrom {α : Type} (keep : α → Bool) (xs : List α) :
    IsPositions xs.length (positionsFrom 0 keep xs) where
  ascends := pairwise_positionsFrom
  bounded i hi := by
    obtain ⟨x, hx, -⟩ := mem_positionsFrom_zero.1 hi
    exact (List.getElem?_eq_some_iff.1 hx).1

theorem pairwise_intersect (ha : as.Pairwise (· < ·)) (bs : List Nat) :
    (intersect as bs).Pairwise (· < ·) :=
  ha.sublist (intersect_sublist as bs)

theorem IsPositions.intersect (ha : IsPositions n as) (bs : List Nat) :
    IsPositions n (intersect as bs) where
  ascends := pairwise_intersect ha.ascends bs
  bounded i hi := ha.bounded i ((intersect_sublist as bs).subset hi)

/-- A first list is cut down by the others one after the other. -/
theorem isCommon_foldl_intersect (ha : IsPositions n as)
    (hlists : ∀ list ∈ lists, IsPositions n list) :
    IsCommon n (as :: lists) (lists.foldl intersect as) := by
  induction lists generalizing as with
  | nil => exact ⟨ha, by simp⟩
  | cons bs lists ih =>
    rw [List.forall_mem_cons] at hlists
    -- what is in common so far ascends again, as an intersection asks of its lists
    obtain ⟨hpositions, hmem⟩ := ih (ha.intersect bs) hlists.2
    refine ⟨hpositions, fun i => ?_⟩
    rw [List.foldl_cons, hmem i, List.forall_mem_cons, List.forall_mem_cons, List.forall_mem_cons,
      mem_intersect ha.ascends hlists.1.ascends, and_assoc]

/-- There is only one such list. -/
theorem IsCommon.eq {positions' : List Nat} (h : IsCommon n lists positions)
    (h' : IsCommon n lists positions') : positions = positions' :=
  h.ascends.eq_of_mem_iff h'.ascends fun i => (h.mem_iff i).trans (h'.mem_iff i).symm

end Common

/-! ## Answered conditions -/

/-- The first of the indexes of the key finds the value at these positions. What an index holds was
read as the key calls for, so a condition with a path answers only to a dotted key. -/
inductive Node.IsAnswered (indexes : List EqualityIndex) : Node → List Nat → Prop
  | intro {key : String} {path : Option Path} {v : Value} {boost : Binary64}
      {before after : List EqualityIndex} {index : EqualityIndex} {positions : List Nat}
      (hpath : path = none ∨ isDotted key = true)
      (hindexes : indexes = before ++ index :: after)
      (hbefore : ∀ other ∈ before, other.key ≠ key) (hkey : index.key = key)
      (hlookup : index.lookup? v = some positions) :
      IsAnswered indexes (.condition ⟨key, path, .equal, .value v, boost⟩) positions

/-- Nodes in order, some with their answers and the others left without. -/
inductive SplitsInto (indexes : List EqualityIndex) :
    List Node → List (List Nat) → List Node → Prop
  | nil : SplitsInto indexes [] [] []
  | answered {node : Node} {positions : List Nat} {nodes left : List Node}
      {answers : List (List Nat)} (hnode : node.IsAnswered indexes positions)
      (hnodes : SplitsInto indexes nodes answers left) :
      SplitsInto indexes (node :: nodes) (positions :: answers) left
  | left {node : Node} {nodes left : List Node} {answers : List (List Nat)}
      (hnode : ∀ positions, ¬node.IsAnswered indexes positions)
      (hnodes : SplitsInto indexes nodes answers left) :
      SplitsInto indexes (node :: nodes) answers (node :: left)

section Answers

variable {indexes : List EqualityIndex} {node : Node} {positions : List Nat}

theorem EqualityIndex.answer?_eq_some_iff :
    answer? indexes node = some positions ↔ node.IsAnswered indexes positions := by
  constructor
  · intro h
    unfold answer? at h
    split at h
    · rename_i key path v boost
      split at h
      · cases h
      · rename_i hdirect
        have hpath : path = none ∨ isDotted key = true := by
          cases path <;> simp_all
        obtain ⟨index, hfind, hlookup⟩ := Option.bind_eq_some_iff.1 h
        obtain ⟨hkey, before, after, hindexes, hbefore⟩ := List.find?_eq_some_iff_append.1 hfind
        exact .intro hpath hindexes (by simpa using hbefore) (by simpa using hkey) hlookup
    · cases h
  · intro h
    cases h with
    | @intro key path v boost before after index positions hpath hindexes hbefore hkey hlookup =>
      have hdirect : ¬(path.isSome && !isDotted key) = true := by
        rcases hpath with rfl | hdotted
        · simp
        · simp [hdotted]
      have hfind : indexes.find? (·.key == key) = some index :=
        List.find?_eq_some_iff_append.2
          ⟨by simpa using hkey, before, after, hindexes, by simpa using hbefore⟩
      rw [answer?, if_neg hdirect, hfind]
      exact hlookup

theorem EqualityIndex.answer?_eq_none_iff :
    answer? indexes node = none ↔ ∀ positions, ¬node.IsAnswered indexes positions := by
  simp only [Option.eq_none_iff_forall_ne_some, ne_eq, answer?_eq_some_iff]

/-- There is one way to split a list of nodes. -/
theorem splitsInto_iff {nodes left : List Node} {answers : List (List Nat)} :
    SplitsInto indexes nodes answers left ↔
      nodes.filterMap (EqualityIndex.answer? indexes) = answers ∧
        nodes.filter (fun node => (EqualityIndex.answer? indexes node).isNone) = left := by
  constructor
  · intro h
    induction h with
    | nil => exact ⟨rfl, rfl⟩
    | answered hnode _ ih =>
      have hanswer := EqualityIndex.answer?_eq_some_iff.2 hnode
      simp [hanswer, ih]
    | left hnode _ ih =>
      have hanswer := EqualityIndex.answer?_eq_none_iff.2 hnode
      simp [hanswer, ih]
  · rintro ⟨rfl, rfl⟩
    induction nodes with
    | nil => exact .nil
    | cons node nodes ih =>
      cases hanswer : EqualityIndex.answer? indexes node with
      | none =>
        simp only [List.filterMap_cons, List.filter_cons, hanswer, Option.isNone_none, if_true]
        exact .left (EqualityIndex.answer?_eq_none_iff.1 hanswer) ih
      | some positions =>
        simp only [List.filterMap_cons, List.filter_cons, hanswer, Option.isNone_some,
          Bool.false_eq_true, if_false]
        exact .answered (EqualityIndex.answer?_eq_some_iff.1 hanswer) ih

end Answers

/-! ## Queries -/

/-- The query with the nodes of its first group, `$and`, that are left, all other groups kept, and
the positions that the answers, at least one, have in common. -/
inductive Query.NarrowsTo (indexes : List EqualityIndex) (n : Nat) : Query → Narrowed → Prop
  | intro {before after : List Group} {nodes left : List Node} {boost : Binary64}
      {answers : List (List Nat)} {candidates : List Nat}
      (hbefore : ∀ group ∈ before, group.kind ≠ .and)
      (hnodes : SplitsInto indexes nodes answers left) (hanswers : answers ≠ [])
      (hcandidates : IsCommon n answers candidates) :
      NarrowsTo indexes n ⟨before ++ ⟨.and, nodes, boost⟩ :: after⟩
        ⟨answers.length, candidates, ⟨before ++ ⟨.and, left, boost⟩ :: after⟩⟩

section Narrow

variable {ρ : Type} [Queryable Id ρ] {indexes : List EqualityIndex} {n : Nat}

/-- Whatever is looked up in an index are positions of the records that it was built over. -/
theorem EqualityIndex.isPositions_of_build {key : String} {records : List ρ} {getter : Getter Id ρ}
    {index : EqualityIndex} (h : (build (m := Id) key records getter).run = .ok index) {v : Value}
    {positions : List Nat} (hlookup : index.lookup? v = some positions) :
    IsPositions records.length positions := by
  obtain ⟨attrs, hattrs, h⟩ := run_bind_eq_ok_iff.1 h
  obtain rfl : ofAttributes key attrs = index := Except.ok.inj h
  have hlength : records.length = attrs.length := (run_mapM_eq_ok_iff.1 hattrs).length_eq
  rw [lookup?_ofAttributes] at hlookup
  obtain ⟨k, -, rfl⟩ := Option.map_eq_some_iff.1 hlookup
  rw [hlength]
  exact isPositions_positionsFrom _ attrs

theorem SplitsInto.isPositions
    (hindexes : ∀ index ∈ indexes, ∀ v positions, index.lookup? v = some positions →
      IsPositions n positions)
    {nodes left : List Node} {answers : List (List Nat)}
    (h : SplitsInto indexes nodes answers left) :
    ∀ positions ∈ answers, IsPositions n positions := by
  induction h with
  | nil => exact nofun
  | answered hnode _ ih =>
    refine List.forall_mem_cons.2 ⟨?_, ih⟩
    obtain ⟨-, hmem, -, -, hlookup⟩ := hnode
    exact hindexes _ (hmem ▸ by simp) _ _ hlookup
  | left _ _ ih => exact ih

/-- Only a query that an `$and` group leads is narrowed: the answers for its nodes are intersected
one after the other. -/
theorem Query.narrow?_eq_some_iff {q : Query} {narrowed : Narrowed} :
    q.narrow? indexes = some narrowed ↔ ∃ nodes boost after answer answers left,
      q = ⟨⟨.and, nodes, boost⟩ :: after⟩ ∧ SplitsInto indexes nodes (answer :: answers) left ∧
      narrowed = ⟨answers.length + 1, answers.foldl intersect answer,
        ⟨⟨.and, left, boost⟩ :: after⟩⟩ := by
  constructor
  · intro h
    obtain ⟨groups⟩ := q
    unfold narrow? at h
    split at h
    · rename_i nodes boost after hgroups
      obtain rfl : groups = _ := hgroups
      split at h
      · cases h
      · rename_i answer answers hanswers
        exact ⟨nodes, boost, after, answer, answers, _, rfl, splitsInto_iff.2 ⟨hanswers, rfl⟩,
          (Option.some.inj h).symm⟩
    · cases h
  · rintro ⟨nodes, boost, after, answer, answers, left, rfl, hnodes, rfl⟩
    obtain ⟨hanswers, hleft⟩ := splitsInto_iff.1 hnodes
    simp only [narrow?, hanswers, hleft]

/-- The `$and` group stands in front of all other groups. -/
theorem Query.IsRegular.eq_nil_of_and {before after : List Group} {nodes : List Node}
    {boost : Binary64} (h : Query.IsRegular ⟨before ++ ⟨.and, nodes, boost⟩ :: after⟩)
    (hbefore : ∀ group ∈ before, group.kind ≠ .and) : before = [] := by
  cases before with
  | nil => rfl
  | cons group before =>
    have hgroup : group.kind ≠ .and := hbefore group List.mem_cons_self
    have hkinds : (group.kind :: (before ++ ⟨.and, nodes, boost⟩ :: after).map
        fun group => group.kind).Sublist [.and, .not, .or, .nor] := h
    rcases List.sublist_cons_iff.1 hkinds with hlater | ⟨kinds, hcons, -⟩
    · -- the `$and` group would be one of the later kinds
      have hand : Combinator.and ∈ [.not, .or, .nor] := hlater.subset (by simp)
      simp at hand
    · exact absurd (List.cons.inj hcons).1 hgroup

theorem Query.narrow?_eq_some_iff_narrowsTo
    (hindexes : ∀ index ∈ indexes, ∀ v positions, index.lookup? v = some positions →
      IsPositions n positions)
    {q : Query} (hq : q.IsRegular) {narrowed : Narrowed} :
    q.narrow? indexes = some narrowed ↔ q.NarrowsTo indexes n narrowed := by
  have hcommon : ∀ {nodes answer answers left}, SplitsInto indexes nodes (answer :: answers) left →
      IsCommon n (answer :: answers) (answers.foldl intersect answer) := by
    intro nodes answer answers left hnodes
    obtain ⟨hanswer, hanswers⟩ := List.forall_mem_cons.1 (hnodes.isPositions hindexes)
    exact isCommon_foldl_intersect hanswer hanswers
  rw [narrow?_eq_some_iff]
  constructor
  · rintro ⟨nodes, boost, after, answer, answers, left, rfl, hnodes, rfl⟩
    exact @NarrowsTo.intro _ _ [] _ _ _ _ _ _ nofun hnodes (List.cons_ne_nil _ _) (hcommon hnodes)
  · intro h
    cases h with
    | @intro before after nodes left boost answers candidates hbefore hnodes hanswers hcandidates =>
      -- in a compiled query nothing stands before the `$and` group
      obtain rfl : before = [] := hq.eq_nil_of_and hbefore
      cases answers with
      | nil => exact absurd rfl hanswers
      | cons answer answers =>
        obtain rfl := hcandidates.eq (hcommon hnodes)
        exact ⟨nodes, boost, after, answer, answers, left, rfl, hnodes, rfl⟩

end Narrow

variable {ρ : Type} [Queryable Id ρ]

/-- Lists of ascending positions are intersected exactly. So indexes that were built over the same
records narrow a compiled query to the positions that all their answers have in common, with the
query that they leave, and do nothing if they have no answer for its `$and` group. -/
theorem Query.narrow?_iff_narrowsTo :
    (∀ as bs : List Nat, as.Pairwise (· < ·) → bs.Pairwise (· < ·) →
      (intersect as bs).Pairwise (· < ·) ∧ ∀ i, i ∈ intersect as bs ↔ i ∈ as ∧ i ∈ bs) ∧
    ∀ (d : Document) (q : Query), (Query.compile (m := Id) d).run = .ok q →
      ∀ (records : List ρ) (indexes : List EqualityIndex),
        (∀ index ∈ indexes, ∃ key getter,
          (EqualityIndex.build (m := Id) key records getter).run = .ok index) →
        ∀ narrowed, q.narrow? indexes = some narrowed ↔
          q.NarrowsTo indexes records.length narrowed := by
  constructor
  · intro as bs ha hb
    exact ⟨pairwise_intersect ha bs, fun i => mem_intersect ha hb⟩
  · intro d q hq records indexes hindexes narrowed
    have hregular : q.IsRegular :=
      ((Query.everywhere_iff q).1 ((keptByCompiler_isRegular.kept (.ofDocument d)).query q
        (Query.compile_eq_ok_iff.1 hq))).1
    refine Query.narrow?_eq_some_iff_narrowsTo (fun index hindex v positions hlookup => ?_) hregular
    obtain ⟨key, getter, hbuild⟩ := hindexes index hindex
    exact EqualityIndex.isPositions_of_build hbuild hlookup

/-- A text and an element of a list are looked up, and `$gt` and the `$not` group are left. -/
theorem Query.narrow?_iff_narrowsTo_pair :
    let record (status : String) (tags : List Json) : Record Id :=
      .ofAttributes fun key => some (if key = "status" then .string status else .ofList tags)
    let records := [record "active" [.string "a", .string "b"], record "closed" [.string "b"],
      record "active" [.string "a", .string "a"]]
    let positive : Document := .singleton "$gt" (.number (.signed 0))
    let stale : Document := .singleton "status" (.string "stale")
    let d : Document := .ofList [("$not", .ofDocument stale), ("status", .string "active"),
      ("tags", .string "b"), ("n", .ofDocument positive)]
    let equal (key s : String) : Node := .condition (.ofKey key .equal (.value (.string s)))
    let order : Node := .condition (.ofKey "n" .greater (.value (.number (.signed 0))))
    let negation : Group := .ofNodes .not [equal "status" "stale"]
    let q : Query := ⟨[.ofNodes .and [order, equal "status" "active", equal "tags" "b"], negation]⟩
    (∀ i, i ∈ intersect [0, 2] [0, 1] ↔ i = 0) ∧ ∃ status tags,
      (EqualityIndex.build (m := Id) "status" records .property).run = .ok status ∧
      (EqualityIndex.build (m := Id) "tags" records .property).run = .ok tags ∧
      (Query.compile (m := Id) d).run = .ok q ∧
      q.narrow? [status, tags] = some ⟨2, [0], ⟨[.ofNodes .and [order], negation]⟩⟩ := by
  let status : EqualityIndex := .ofAttributes "status"
    [some (.string "active"), some (.string "closed"), some (.string "active")]
  let tags : EqualityIndex := .ofAttributes "tags"
    [some (.ofList [.string "a", .string "b"]), some (.ofList [.string "b"]),
      some (.ofList [.string "a", .string "a"])]
  have hnarrow : ∀ {d : Document} {q : Query} {records : List (Record Id)} {narrowed : Narrowed},
      (EqualityIndex.build (m := Id) "status" records .property).run = .ok status →
      (EqualityIndex.build (m := Id) "tags" records .property).run = .ok tags →
      (Query.compile (m := Id) d).run = .ok q →
      q.NarrowsTo [status, tags] records.length narrowed →
        q.narrow? [status, tags] = some narrowed := by
    intro d q records narrowed hstatus htags hq hnarrows
    refine (Query.narrow?_iff_narrowsTo.2 d q hq records [status, tags] ?_ narrowed).2 hnarrows
    exact List.forall_mem_cons.2 ⟨⟨_, _, hstatus⟩, List.forall_mem_singleton.2 ⟨_, _, htags⟩⟩
  have hactive : status.lookup? (.string "active") = some [0, 2] := by
    rw [EqualityIndex.lookup?_ofAttributes]
    decide +kernel
  have hb : tags.lookup? (.string "b") = some [0, 1] := by
    rw [EqualityIndex.lookup?_ofAttributes]
    decide +kernel
  have hboth : ∀ i, i ∈ intersect [0, 2] [0, 1] ↔ i ∈ [0, 2] ∧ i ∈ [0, 1] :=
    ((@Query.narrow?_iff_narrowsTo (Record Id) _).1 _ _ (by decide) (by decide)).2
  have hcommon : IsCommon 3 [[0, 2], [0, 1]] [0] := ⟨⟨by decide, by decide⟩, fun i => by grind⟩
  refine ⟨fun i => (hboth i).trans (by grind), status, tags, ?hstatus, ?htags, ?hq,
    hnarrow ?hstatus ?htags ?hq ?_⟩
  case hstatus => exact rfl
  case htags => exact rfl
  case hq => exact Query.compile_eq_ok_iff.2 rfl
  refine @Query.NarrowsTo.intro _ _ [] _ _ _ _ _ _ nofun ?_ (List.cons_ne_nil _ _) hcommon
  refine .left nofun (.answered ?_ (.answered ?_ .nil))
  · exact @Node.IsAnswered.intro _ _ _ _ _ [] _ _ _ (.inl rfl) rfl nofun rfl hactive
  · exact @Node.IsAnswered.intro _ _ _ _ _ [status] _ _ _ (.inl rfl) rfl (by decide) rfl hb

end RecordQuery
