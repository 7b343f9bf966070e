import RecordQuery.Proofs.Query.Equivalence

/-!
# `$not` and `$nor` of lists

`$not` and `$nor` say the same of a list. `Document.Renamed` gives the one name for the other in any
places where a list stands under it, whether it joins documents or the clauses of an attribute, at
any depth and under `$elemMatch`. The names are tested in another order and stand in other groups,
but a renamed document is a query if the other is, and their queries agree.
-/

namespace RecordQuery

/-! ## Renamed documents -/

mutual

/-- What stands under an attribute. -/
inductive ClauseRenamed : Value → Value → Prop
  | same (v : Value) : ClauseRenamed v v
  | operators {d d' : Document} : List.Forall₂ VerbRenamed d.entries d'.entries →
      ClauseRenamed (.ofDocument d) (.ofDocument d')

/-- A name in a clause and what stands under it. -/
inductive VerbRenamed : String × Value → String × Value → Prop
  | same (pair : String × Value) : VerbRenamed pair pair
  | list {kind kind' : Combinator} {vs vs' : List Value} : kind.MayBecome kind' →
      List.Forall₂ ClauseRenamed vs vs' →
        VerbRenamed (kind.name, .ofList vs) (kind'.name, .ofList vs')
  | clause {kind : Combinator} {v v' : Value} : ClauseRenamed v v' →
      VerbRenamed (kind.name, v) (kind.name, v')
  | computed {v v' : Value} : ClauseRenamed v v' →
      VerbRenamed (Operator.computed.name, v) (Operator.computed.name, v')
  | elementMatch {v v' : Value} : MemberRenamed v v' →
      VerbRenamed (Operator.elementMatch.name, v) (Operator.elementMatch.name, v')

/-- What stands in a list under a combinator, and a whole query. -/
inductive MemberRenamed : Value → Value → Prop
  | same (v : Value) : MemberRenamed v v
  | pairs {d d' : Document} : List.Forall₂ PairRenamed d.entries d'.entries →
      MemberRenamed (.ofDocument d) (.ofDocument d')

/-- A key of a query, or of a part of it, and what stands under the key. -/
inductive PairRenamed : String × Value → String × Value → Prop
  | same (pair : String × Value) : PairRenamed pair pair
  | clause {key : String} {v v' : Value} : Combinator.ofName? key = none →
      ClauseRenamed v v' → PairRenamed (key, v) (key, v')
  | list {kind kind' : Combinator} {vs vs' : List Value} : kind.MayBecome kind' →
      List.Forall₂ MemberRenamed vs vs' →
        PairRenamed (kind.name, .ofList vs) (kind'.name, .ofList vs')
  | member {kind : Combinator} {v v' : Value} : MemberRenamed v v' →
      PairRenamed (kind.name, v) (kind.name, v')

end

/-- The documents are the same but for `$not` and `$nor` over lists. No key may come to stand twice
in a document, so there is no `$nor` beside a `$not` that is renamed. -/
def Document.Renamed (d d' : Document) : Prop :=
  List.Forall₂ PairRenamed d.entries d'.entries

/-! ## Keys of renamed documents -/

section Names

variable {p : String → Prop} (hp : p Combinator.not.name ↔ p Combinator.nor.name)
include hp

theorem Combinator.MayBecome.name_iff {kind kind' : Combinator} (h : kind.MayBecome kind') :
    p kind.name ↔ p kind'.name := by
  rcases h with rfl | ⟨rfl, rfl⟩
  · rfl
  · exact hp

theorem VerbRenamed.name_iff {pair pair' : String × Value} (h : VerbRenamed pair pair') :
    p pair.1 ↔ p pair'.1 := by
  cases h with
  | list hkind => exact hkind.name_iff hp
  | same | clause | computed | elementMatch => rfl

theorem PairRenamed.name_iff {pair pair' : String × Value} (h : PairRenamed pair pair') :
    p pair.1 ↔ p pair'.1 := by
  cases h with
  | list hkind => exact hkind.name_iff hp
  | same | clause | member => rfl

end Names

/-- The name of something that has clauses or queries under it. -/
def Nests (name : String) : Prop :=
  (∃ kind : Combinator, kind.name = name) ∨ Operator.computed.name = name ∨
    Operator.elementMatch.name = name

section Nests

variable {name : String}

theorem Nests.isReserved_and_ne (h : Nests name) :
    isReserved name = true ∧ name ≠ boostKey ∧ name ≠ optionsKey := by
  rcases h with ⟨kind, rfl⟩ | rfl | rfl
  · cases kind <;> decide
  · decide
  · decide

theorem VerbRenamed.eq_or {pair pair' : String × Value} (h : VerbRenamed pair pair') :
    pair = pair' ∨ Nests pair.1 ∧ Nests pair'.1 := by
  cases h with
  | same => exact .inl rfl
  | list | clause => exact .inr ⟨.inl ⟨_, rfl⟩, .inl ⟨_, rfl⟩⟩
  | computed => exact .inr ⟨.inr (.inl rfl), .inr (.inl rfl)⟩
  | elementMatch => exact .inr ⟨.inr (.inr rfl), .inr (.inr rfl)⟩

end Nests

section Verbs

variable {d d' : Document} (h : List.Forall₂ VerbRenamed d.entries d'.entries)
include h

theorem forall_keys_iff_of_verbs (p : String → Prop)
    (hp : p Combinator.not.name ↔ p Combinator.nor.name) :
    (∀ key ∈ d.keys, p key) ↔ ∀ key ∈ d'.keys, p key := by
  rw [Fields.forall_keys_iff, Fields.forall_keys_iff]
  exact (forall_mem_iff_of_forall₂ h fun _ _ _ hverb => (hverb.name_iff hp).symm).symm

theorem exists_keys_iff_of_verbs (p : String → Prop)
    (hp : p Combinator.not.name ↔ p Combinator.nor.name) :
    (∃ key ∈ d.keys, p key) ↔ ∃ key ∈ d'.keys, p key := by
  simpa using not_congr (forall_keys_iff_of_verbs h (fun key => ¬p key) (not_congr hp))

theorem mem_keys_iff_of_verbs {key : String}
    (hkey : Combinator.not.name = key ↔ Combinator.nor.name = key) :
    key ∈ d.keys ↔ key ∈ d'.keys := by
  simpa using exists_keys_iff_of_verbs h (· = key) hkey

theorem isLiteral_iff_of_verbs : d.IsLiteral ↔ d'.IsLiteral :=
  forall_keys_iff_of_verbs h _ (by decide)

theorem isOperators_iff_of_verbs : d.IsOperators ↔ d'.IsOperators := by
  have hreserved : (∀ key ∈ d.keys, key ≠ boostKey → isReserved key = true) ↔
      ∀ key ∈ d'.keys, key ≠ boostKey → isReserved key = true :=
    forall_keys_iff_of_verbs h _ (by decide)
  have hnonempty : (∃ key ∈ d.keys, key ≠ boostKey ∧ key ≠ optionsKey) ↔
      ∃ key ∈ d'.keys, key ≠ boostKey ∧ key ≠ optionsKey :=
    exists_keys_iff_of_verbs h _ (by decide)
  have hoptions : optionsKey ∈ d.keys ↔ optionsKey ∈ d'.keys :=
    mem_keys_iff_of_verbs h (by decide)
  have hregex : Operator.regex.name ∈ d.keys ↔ Operator.regex.name ∈ d'.keys :=
    mem_keys_iff_of_verbs h (by decide)
  have hregexp : Operator.regexp.name ∈ d.keys ↔ Operator.regexp.name ∈ d'.keys :=
    mem_keys_iff_of_verbs h (by decide)
  constructor
  · intro hd
    refine ⟨hreserved.1 hd.reserved, hnonempty.1 hd.nonempty, fun hkey => ?_⟩
    exact (hd.options (hoptions.2 hkey)).imp hregex.1 hregexp.1
  · intro hd
    refine ⟨hreserved.2 hd.reserved, hnonempty.2 hd.nonempty, fun hkey => ?_⟩
    exact (hd.options (hoptions.1 hkey)).imp hregex.2 hregexp.2

/-- Other keys keep what stands under them. -/
theorem get?_eq_of_verbs {key : String} (hkey : ¬Nests key) : d.get? key = d'.get? key := by
  refine Fields.get?_eq_of_entries fun v => ?_
  have hpair : ∀ pair pair', VerbRenamed pair pair' → (pair' = (key, v) ↔ pair = (key, v)) := by
    intro pair pair' hverb
    rcases hverb.eq_or with rfl | ⟨hnests, hnests'⟩
    · rfl
    · refine iff_of_false ?_ ?_
      · rintro rfl
        exact hkey hnests'
      · rintro rfl
        exact hkey hnests
  simpa using (exists_mem_iff_of_forall₂ h fun pair pair' _ => hpair pair pair').symm

theorem boost?_eq_of_verbs : d.boost? = d'.boost? := by
  have hboost : d.get? boostKey = d'.get? boostKey :=
    get?_eq_of_verbs h fun hnests => hnests.isReserved_and_ne.2.1 rfl
  rw [Document.boost?, Document.boost?, hboost]

/-- In a literal there is nothing to rename. -/
theorem eq_of_isLiteral (hliteral : d.IsLiteral) : d = d' := by
  have hpairs : ∀ pair ∈ d.entries, pair.1 ≠ boostKey → isReserved pair.1 = false :=
    Fields.forall_keys_iff.1 hliteral
  refine Fields.eq_of_entries (List.forall₂_eq_eq_eq ▸ ?_)
  refine ((List.forall₂_and_left _ _).2 ⟨hpairs, h⟩).imp ?_
  rintro pair pair' ⟨hunreserved, hverb⟩
  rcases hverb.eq_or with heq | ⟨hnests, -⟩
  · exact heq
  · obtain ⟨hreserved, hboost, -⟩ := hnests.isReserved_and_ne
    have := hunreserved hboost
    rw [hreserved] at this
    cases this

end Verbs

theorem PairRenamed.clause_of {pair pair' : String × Value} (h : PairRenamed pair pair')
    (hkey : Combinator.ofName? pair'.1 = none) :
    pair.1 = pair'.1 ∧ ClauseRenamed pair.2 pair'.2 := by
  cases h with
  | same => exact ⟨rfl, .same _⟩
  | clause _ hclause => exact ⟨rfl, hclause⟩
  | list | member => simp at hkey

section Pairs

variable {d d' : Document} (h : d.Renamed d')
include h

theorem Document.Renamed.get? {key : String} (hkey : Combinator.ofName? key = none) :
    Option.Rel ClauseRenamed (d.get? key) (d'.get? key) := by
  cases hd : d.get? key with
  | some v =>
    obtain ⟨⟨key', v'⟩, hpair', hpair⟩ := exists_of_forall₂_left h (Fields.mem_entries_iff.2 hd)
    have hkey' : Combinator.ofName? key' = none :=
      (hpair.name_iff (p := fun name => Combinator.ofName? name = none) (by decide)).1 hkey
    obtain ⟨rfl, hclause⟩ := hpair.clause_of hkey'
    rw [Fields.mem_entries_iff.1 hpair']
    exact .some hclause
  | none =>
    cases hd' : d'.get? key with
    | none => exact .none
    | some v' =>
      obtain ⟨⟨key', v⟩, hpair, hrenamed⟩ :=
        exists_of_forall₂_right h (Fields.mem_entries_iff.2 hd')
      obtain ⟨rfl, -⟩ := hrenamed.clause_of hkey
      rw [Fields.mem_entries_iff.1 hpair] at hd
      cases hd

/-- `$boost` has a number under it, in which there is nothing to rename. -/
theorem Document.Renamed.boost? : Alike Eq d.boost? d'.boost? := by
  have hrel : Option.Rel ClauseRenamed (d.get? boostKey) (d'.get? boostKey) :=
    Document.Renamed.get? h (by decide)
  rw [Document.boost?, Document.boost?]
  generalize d.get? boostKey = v, d'.get? boostKey = v' at hrel
  cases hrel with
  | none => exact .ok rfl
  | some hclause =>
    cases hclause with
    | same => exact .refl (fun _ => rfl) _
    | operators => exact .error

theorem Document.Renamed.hasLists_iff : d.HasLists ↔ d'.HasLists := by
  rw [Document.hasLists_iff_entries, Document.hasLists_iff_entries]
  refine (forall_mem_iff_of_forall₂ h fun pair pair' _ hpair => ?_).symm
  cases hpair with
  | same => rfl
  | clause hkey => simp [hkey]
  | list => simp [Value.ofList, Value.isArray]
  | member hmember =>
    cases hmember with
    | same => rfl
    | pairs => rfl

end Pairs

/-! ## What the compiler makes of the parts -/

/-- Whatever is renamed under the value, the compiler makes the same of it, up to the names. -/
structure Value.Follows (v : Value) : Prop where
  pair {key : String} {pair : String × Value} : PairRenamed (key, v) pair →
    Alike Node.Similar (compilePair key v) (compilePair pair.1 pair.2)
  part {key : String} {pair : String × Value} : PairRenamed (key, v) pair →
    Alike Node.Similar (compilePart (key, v)) (compilePart pair)
  verb {name : String} {pair : String × Value} : VerbRenamed (name, v) pair →
    ∀ {key : String} (options : Option Value), Combinator.ofName? key = none →
      Alike Node.Similar (compileVerb key name options v) (compileVerb key pair.1 options pair.2)
  member {v' : Value} : MemberRenamed v v' →
    Alike NodesAgree (compileMember v) (compileMember v')

/-- The same is done for the pairs of both documents whose keys pass. -/
theorem Alike.mapM_filter {α β ε : Type} {d d' : Document} {S : α → β → Prop}
    {R : String × Value → String × Value → Prop} (h : List.Forall₂ R d.entries d'.entries)
    (keep : String → Bool) (f : String × Value → Except ε α) (g : String × Value → Except ε β)
    (hkeep : ∀ pair pair', R pair pair' → (keep pair.1 ↔ keep pair'.1))
    (hfg : ∀ pair pair', R pair pair' → Alike S (f pair) (g pair')) :
    Alike (List.Forall₂ S)
      (((List.finRange d.keys.length).filter fun i => keep (d.keys.get i)).mapM
        fun i => f (d.keys.get i, d.value i))
      (((List.finRange d'.keys.length).filter fun i => keep (d'.keys.get i)).mapM
        fun i => g (d'.keys.get i, d'.value i)) := by
  rw [Fields.mapM_filter_entries, Fields.mapM_filter_entries]
  exact .mapM ((List.rel_filter hkeep h).imp hfg)

section Document

variable {d d' : Document} (ih : ∀ pair ∈ d.entries, pair.2.Follows)
include ih

section Clause

variable (h : List.Forall₂ VerbRenamed d.entries d'.entries) {key : String}
  (hkey : Combinator.ofName? key = none)
include h hkey

/-- A `$not` and a `$nor` of one clause have their nodes in the same place. -/
theorem alike_verbs : Alike (List.Forall₂ Node.Similar)
    (d.verbs.mapM fun i => compileVerb key (d.keys.get i) (d.get? optionsKey) (d.value i))
    (d'.verbs.mapM fun i => compileVerb key (d'.keys.get i) (d'.get? optionsKey) (d'.value i)) := by
  have hoptions : d.get? optionsKey = d'.get? optionsKey :=
    get?_eq_of_verbs h fun hnests => hnests.isReserved_and_ne.2.2 rfl
  have hverbs : ∀ d : Document, d.verbs = (List.finRange d.keys.length).filter fun i =>
      d.keys.get i ≠ optionsKey ∧ d.keys.get i ≠ boostKey := by
    intro d
    rw [Document.verbs, Document.places, List.filter_filter]
    simp only [Bool.decide_and]
  rw [hverbs, hverbs, ← hoptions]
  let keep (name : String) : Bool := name ≠ optionsKey ∧ name ≠ boostKey
  let compile (pair : String × Value) : Except CompileError Node :=
    compileVerb key pair.1 (d.get? optionsKey) pair.2
  refine .mapM_filter ((List.forall₂_and_left _ _).2 ⟨ih, h⟩) keep compile compile ?_ ?_
  · rintro pair pair' ⟨-, hverb⟩
    exact hverb.name_iff (p := fun name => keep name = true) (by decide)
  · rintro pair pair' ⟨hfollows, hverb⟩
    exact hfollows.verb hverb _ hkey

theorem alike_compileUnder_attribute :
    Alike Node.Similar (d.compileUnder key) (d'.compileUnder key) := by
  by_cases hliteral : d.IsLiteral
  · obtain rfl := eq_of_isLiteral h hliteral
    exact .refl .refl _
  · have hliteral' : ¬d'.IsLiteral := mt (isLiteral_iff_of_verbs h).2 hliteral
    by_cases hoperators : d.IsOperators
    · have hoperators' : d'.IsOperators := (isOperators_iff_of_verbs h).1 hoperators
      refine ((alike_verbs ih h hkey).map fun _ _ => Node.Similar.ofClause).congr ?_ ?_
      · intro node
        simp only [compileUnder_of_attribute hkey, hliteral, hoperators, false_and, false_or,
          true_and, map_eq_ok_iff]
      · intro node
        simp only [compileUnder_of_attribute hkey, hliteral', hoperators', false_and, false_or,
          true_and, map_eq_ok_iff]
    · -- what is neither a literal nor operators is refused by either name
      have hoperators' : ¬d'.IsOperators := mt (isOperators_iff_of_verbs h).2 hoperators
      refine .of_ne_ok (fun node => ?_) fun node => ?_
      · simp only [ne_eq, compileUnder_of_attribute hkey, hliteral, hoperators, false_and, or_self,
          not_false_eq_true]
      · simp only [ne_eq, compileUnder_of_attribute hkey, hliteral', hoperators', false_and,
          or_self, not_false_eq_true]

theorem alike_clause :
    Alike Node.Similar (compilePair key (.ofDocument d)) (compilePair key (.ofDocument d')) := by
  rw [compilePair_ofDocument, compilePair_ofDocument, boost?_eq_of_verbs h]
  refine (Alike.refl (R := Eq) (fun _ => rfl) d'.boost?).bind ?_
  rintro boost _ rfl
  exact (alike_compileUnder_attribute ih h hkey).bind fun _ _ hsimilar =>
    .ok (hsimilar.withBoost boost)

end Clause

section Pairs

variable (h : d.Renamed d')
include h

theorem alike_pairs (keep : String → Bool)
    (hkeep : keep Combinator.not.name ↔ keep Combinator.nor.name) :
    Alike (List.Forall₂ Node.Similar)
      (((List.finRange d.keys.length).filter fun i => keep (d.keys.get i)).mapM
        fun i => compilePair (d.keys.get i) (d.value i))
      (((List.finRange d'.keys.length).filter fun i => keep (d'.keys.get i)).mapM
        fun i => compilePair (d'.keys.get i) (d'.value i)) := by
  let compile (pair : String × Value) : Except CompileError Node := compilePair pair.1 pair.2
  refine .mapM_filter ((List.forall₂_and_left _ _).2 ⟨ih, h⟩) keep compile compile ?_ ?_
  · rintro pair pair' ⟨-, hpair⟩
    exact hpair.name_iff (p := fun name => keep name = true) hkeep
  · rintro pair pair' ⟨hfollows, hpair⟩
    exact hfollows.pair hpair

theorem alike_members (kind kind' : Combinator) :
    Alike (List.Forall₂ Node.Similar) (compileMembers kind (.ofDocument d))
      (compileMembers kind' (.ofDocument d')) := by
  have hall := alike_pairs ih h (fun _ => true) Iff.rfl
  rwa [List.filter_true, List.filter_true] at hall

theorem alike_member :
    Alike NodesAgree (compileMember (.ofDocument d)) (compileMember (.ofDocument d')) := by
  have hpairs := alike_members ih h .and .and
  exact hpairs.map fun _ _ hnodes => (NodesAgree.of_similar hnodes).arrange

/-- The documents under a combinator have the same `$boost`, or an invalid one. -/
theorem alike_joined (kind : Combinator) :
    Alike Node.Similar (compilePair kind.name (.ofDocument d))
      (compilePair kind.name (.ofDocument d')) := by
  have hunder : Alike Node.Similar (d.compileUnder kind.name) (d'.compileUnder kind.name) := by
    simp only [Document.compileUnder, Combinator.ofName?_name]
    refine (alike_pairs ih h (fun name => name ≠ boostKey) (by decide)).map ?_
    exact fun _ _ hnodes => (NodesAgree.of_similar hnodes).ofTests (.inl rfl)
  rw [compilePair_ofDocument, compilePair_ofDocument]
  refine (Document.Renamed.boost? h).bind ?_
  rintro boost _ rfl
  exact hunder.bind fun _ _ hsimilar => .ok (hsimilar.withBoost boost)

theorem forall_parts_iff {p : Node → Prop}
    (hp : ∀ node node', node.Agrees node' → (p node ↔ p node')) :
    (∀ pair ∈ d.entries, ∃ node, compilePart pair = .ok node ∧ p node) ↔
      ∀ pair ∈ d'.entries, ∃ node, compilePart pair = .ok node ∧ p node := by
  refine (forall_mem_iff_of_forall₂ h fun pair pair' hpair hrenamed => ?_).symm
  exact (((ih pair hpair).part hrenamed).exists_iff fun node node' hsimilar =>
    hp node node' hsimilar.agrees).symm

/-- The groups come in another order and are other groups, but they are made of the same parts. -/
theorem alike_query :
    Alike Query.Agrees (compileQuery (.ofDocument d)) (compileQuery (.ofDocument d')) := by
  rw [Alike.iff_related, (Value.accepted _).query, (Value.accepted _).query]
  constructor
  · show d.IsWellFormed ↔ d'.IsWellFormed
    have hparts := forall_parts_iff ih h (p := fun _ => True) fun _ _ _ => Iff.rfl
    simp only [and_true] at hparts
    rw [Document.isWellFormed_iff_parts, Document.isWellFormed_iff_parts,
      Document.Renamed.hasLists_iff h, hparts]
  · intro q q' hq hq' calls s
    constructor
    · rw [Bool.eq_iff_iff, Query.verdict_eq_all, Query.verdict_eq_all, List.all_eq_true,
        List.all_eq_true]
      refine (Query.forall_groups_iff_parts isConjunctive_verdict hq).trans
        ((forall_parts_iff ih h fun node node' hagrees => ?_).trans
          (Query.forall_groups_iff_parts isConjunctive_verdict hq').symm)
      rw [(hagrees calls s).1]
    · rw [Query.neverFails_iff, Query.neverFails_iff]
      refine (Query.forall_groups_iff_parts isConjunctive_neverFails hq).trans
        ((forall_parts_iff ih h fun node node' hagrees => ?_).trans
          (Query.forall_groups_iff_parts isConjunctive_neverFails hq').symm)
      exact (hagrees calls s).2

end Pairs

end Document

section List

variable {vs vs' : List Value} (ih : ∀ w ∈ vs, w.Follows)
include ih

theorem alike_compileClauses (h : List.Forall₂ ClauseRenamed vs vs') {key : String}
    (hkey : Combinator.ofName? key = none) :
    Alike (List.Forall₂ Node.Similar) (compileClauses key (.ofList vs))
      (compileClauses key (.ofList vs')) := by
  rw [Value.ofList, Value.ofList, compileClauses, compileClauses,
    mapM_finRange_get (compilePair key), mapM_finRange_get (compilePair key)]
  refine .mapM (((List.forall₂_and_left _ _).2 ⟨ih, h⟩).imp ?_)
  rintro w w' ⟨hfollows, hclause⟩
  exact hfollows.pair (.clause hkey hclause)

theorem alike_compileMembers (h : List.Forall₂ MemberRenamed vs vs') {kind kind' : Combinator}
    (hkind : kind.MayBecome kind') :
    Alike NodesAgree (compileMembers kind (.ofList vs)) (compileMembers kind' (.ofList vs')) := by
  rw [Value.ofList, Value.ofList, compileMembers, compileMembers, mapM_finRange_get compileMember,
    mapM_finRange_get compileMember]
  have hmembers : Alike (List.Forall₂ NodesAgree) (vs.mapM compileMember)
      (vs'.mapM compileMember) := by
    refine .mapM (((List.forall₂_and_left _ _).2 ⟨ih, h⟩).imp ?_)
    rintro w w' ⟨hfollows, hmember⟩
    exact hfollows.member hmember
  exact hmembers.map fun _ _ hmembers => NodesAgree.flatMap_membership hkind hmembers

end List

/-! ## From parts to whole documents -/

/-- What is in the value follows. -/
structure Value.PartsFollow (v : Value) : Prop where
  list (vs : List Value) : v = .ofList vs → ∀ w ∈ vs, w.Follows
  document (d : Document) : v = .ofDocument d → ∀ pair ∈ d.entries, pair.2.Follows

namespace Value.PartsFollow

variable {v : Value} (ih : v.PartsFollow) {key : String} {pair' : String × Value}
include ih

theorem part (h : PairRenamed (key, v) pair') :
    Alike Node.Similar (compilePart (key, v)) (compilePart pair') := by
  cases h with
  | same => exact .refl .refl _
  | clause hkey h =>
    rw [compilePart_of_attribute hkey, compilePart_of_attribute hkey]
    cases h with
    | same => exact .refl .refl _
    | operators h => exact alike_clause (ih.document _ rfl) h hkey
  | list hkind h =>
    rw [compilePart_of_join, compilePart_of_join]
    exact (alike_compileMembers (ih.list _ rfl) h hkind).map fun _ _ hnodes =>
      hnodes.ofTests hkind
  | @member kind _ _ h =>
    rw [compilePart_of_join, compilePart_of_join]
    cases h with
    | same => exact .refl .refl _
    | pairs h =>
      exact (alike_members (ih.document _ rfl) h kind kind).map fun _ _ hnodes =>
        (NodesAgree.of_similar hnodes).ofTests (.inl rfl)

theorem pair (h : PairRenamed (key, v) pair') :
    Alike Node.Similar (compilePair key v) (compilePair pair'.1 pair'.2) := by
  cases h with
  | same => exact .refl .refl _
  | clause hkey h =>
    rw [← compilePart_of_attribute hkey, ← compilePart_of_attribute hkey]
    exact part ih (.clause hkey h)
  | list hkind h =>
    -- a list has no `$boost`, and without one a pair is the same part anywhere
    have hpart : ∀ (kind : Combinator) (vs : List Value) (node : Node),
        compilePair kind.name (.ofList vs) = .ok node ↔
          compilePart (kind.name, .ofList vs) = .ok node := by
      intro kind vs node
      rw [compilePair_of_isUnweighted (Value.isUnweighted_of_isArray rfl), compilePart_of_join,
        map_eq_ok_iff]
    exact (part ih (.list hkind h)).congr (hpart _ _) (hpart _ _)
  | member h =>
    cases h with
    | same => exact .refl .refl _
    | pairs h => exact alike_joined (ih.document _ rfl) h _

theorem verb {name : String} (h : VerbRenamed (name, v) pair') (options : Option Value)
    (hkey : Combinator.ofName? key = none) :
    Alike Node.Similar (compileVerb key name options v)
      (compileVerb key pair'.1 options pair'.2) := by
  cases h with
  | same => exact .refl .refl _
  | @list kind kind' vs vs' hkind h =>
    rw [compileVerb_join, compileVerb_join]
    show Alike _ (Node.ofTests kind <$> compileClauses key (.ofList vs))
      (Node.ofTests kind' <$> compileClauses key (.ofList vs'))
    exact (alike_compileClauses (ih.list _ rfl) h hkey).map fun _ _ hnodes =>
      (NodesAgree.of_similar hnodes).ofTests hkind
  | @clause kind _ _ h =>
    cases h with
    | same => exact .refl .refl _
    | @operators d d' h =>
      rw [compileVerb_join, compileVerb_join]
      show Alike _ ((Node.ofTests kind [·]) <$> compilePair key (.ofDocument d))
        ((Node.ofTests kind [·]) <$> compilePair key (.ofDocument d'))
      exact (alike_clause (ih.document _ rfl) h hkey).map fun _ _ hnode =>
        (NodesAgree.of_similar (.cons hnode .nil)).ofTests (.inl rfl)
  | computed h =>
    cases h with
    | same => exact .refl .refl _
    | @operators d d' h =>
      rw [compileVerb_test, compileVerb_test]
      show Alike _ ((·.readDirectly key) <$> compilePair key (.ofDocument d))
        ((·.readDirectly key) <$> compilePair key (.ofDocument d'))
      exact (alike_clause (ih.document _ rfl) h hkey).map fun _ _ hnode => hnode.readDirectly key
  | elementMatch h =>
    cases h with
    | same => exact .refl .refl _
    | @pairs d d' h =>
      rw [compileVerb_test, compileVerb_test]
      let elements (q : Query) : Node := .condition (.ofKey key .elementMatch (.query q))
      show Alike _ (elements <$> compileQuery (.ofDocument d))
        (elements <$> compileQuery (.ofDocument d'))
      exact (alike_query (ih.document _ rfl) h).map fun _ _ hagrees => .elementMatch hagrees

theorem member {v' : Value} (h : MemberRenamed v v') :
    Alike NodesAgree (compileMember v) (compileMember v') := by
  cases h with
  | same => exact .refl .refl _
  | pairs h => exact alike_member (ih.document _ rfl) h

theorem follows : v.Follows where
  pair := pair ih
  part := part ih
  verb h _ options hkey := verb ih h options hkey
  member := member ih

end Value.PartsFollow

/-- By induction on the value, whatever is renamed under it. -/
theorem Value.follows (v : Value) : v.Follows := by
  induction v with
  | array size item ih =>
    refine PartsFollow.follows ⟨fun vs hv w hw => ?_, nofun⟩
    obtain ⟨i, rfl⟩ := List.get_of_mem hw
    cases hv
    exact ih i
  | object keys nodup value ih =>
    refine PartsFollow.follows ⟨nofun, fun d hd pair hpair => ?_⟩
    obtain ⟨keys', nodup', value'⟩ := d
    cases hd
    obtain ⟨i, rfl⟩ := List.mem_ofFn.1 hpair
    exact ih i
  | _ => exact PartsFollow.follows ⟨nofun, nofun⟩

/-- A renamed document is a query if the other is, and their queries agree. -/
theorem Document.Renamed.alike {d d' : Document} (h : d.Renamed d') :
    Alike Query.Agrees (compileQuery (.ofDocument d)) (compileQuery (.ofDocument d')) :=
  alike_query (fun pair _ => pair.2.follows) h

/-! ## `$not` and `$nor` of one document -/

section Negation

variable {d : Document} {kind : Combinator} {v : Value}

theorem compileQuery_of_kind (hlists : d.combinators.find? (·.lacksArray d) = none)
    (hkinds : d.kinds = [kind]) :
    compileQuery (.ofDocument d) = (fun group => ⟨[group]⟩) <$> d.compileGroup kind := by
  rw [compileQuery_ofDocument, hlists, hkinds, List.mapM_cons]
  cases d.compileGroup kind <;> rfl

theorem compileGroup_of_listed (hkind : kind ≠ .and) (hget : d.get? kind.name = some v) :
    d.compileGroup kind =
      (fun nodes => .ofNodes kind (Node.arrange nodes)) <$> compileMembers kind v := by
  have hlisted : d.compileListed kind = compileMembers kind v := by
    rw [Document.compileListed, hget]
  rw [Document.compileGroup, hlisted, Document.compileFurther, if_neg hkind]
  cases compileMembers kind v with
  | error e => rfl
  | ok nodes =>
    show Except.ok (Group.ofNodes kind (Node.arrange (nodes ++ []))) = _
    rw [List.append_nil]
    rfl

/-- The document under `$not` is compiled as a member of a list. -/
theorem compileQuery_not (d : Document) :
    compileQuery (.ofDocument (.singleton Combinator.not.name (.ofDocument d))) =
      (fun nodes => ⟨[.ofNodes .not nodes]⟩) <$> compileMember (.ofDocument d) := by
  rw [compileQuery_of_kind rfl (show _ = [Combinator.not] from rfl),
    compileGroup_of_listed (by decide) (Fields.get?_singleton _ _), Value.ofDocument,
    compileMembers, compileMember]
  simp only [Functor.map_map]

theorem compileQuery_nor (d : Document) :
    compileQuery (.ofDocument (.joining .nor [.ofDocument d])) =
      (fun nodes => ⟨[.ofNodes .nor nodes]⟩) <$> compileMember (.ofDocument d) := by
  have hmembers : compileMembers .nor (.ofList [.ofDocument d]) =
      compileMember (.ofDocument d) := by
    rw [Value.ofList, compileMembers, mapM_finRange_get compileMember, List.mapM_cons]
    cases compileMember (.ofDocument d) with
    | error e => rfl
    | ok nodes =>
      show Except.ok (nodes ++ []) = _
      rw [List.append_nil]
  -- the nodes of a member are in order already
  have harrange : ∀ nodes, Node.arrange (Node.arrange nodes) = Node.arrange nodes := fun nodes =>
    arrangeBy_arrangeBy Node.precedence _ nodes
  rw [Document.joining, compileQuery_of_kind rfl (show _ = [Combinator.nor] from rfl),
    compileGroup_of_listed (by decide) (Fields.get?_singleton _ _), hmembers, Value.ofDocument,
    compileMember]
  simp only [Functor.map_map, harrange]

end Negation

/-- `$not` of a document and `$nor` of a list of it compile to groups of the same nodes, or are
refused with the same error, and the nodes give the same results under both. Wherever `$not` and
`$nor` over lists are renamed, a document is a query if it was one, and the two give the same
answers. -/
theorem Query.eval_of_renamed :
    (∀ d : Document, ∃ result : Except QueryError (List Node),
      (Query.compile (m := Id) (.singleton Combinator.not.name (.ofDocument d))).run =
        result.map (fun nodes => ⟨[.ofNodes .not nodes]⟩) ∧
      (Query.compile (m := Id) (.joining .nor [.ofDocument d])).run =
        result.map fun nodes => ⟨[.ofNodes .nor nodes]⟩) ∧
    (∀ {m : Type → Type} [Monad m] (calls : Callbacks m) (s : Subject m) (nodes : List Node),
      Query.eval calls s ⟨[.ofNodes .not nodes]⟩ = Query.eval calls s ⟨[.ofNodes .nor nodes]⟩) ∧
    ∀ {d d' : Document}, d.Renamed d' →
      ((∃ q, (Query.compile (m := Id) d).run = .ok q) ↔
        ∃ q, (Query.compile (m := Id) d').run = .ok q) ∧
      ∀ q q', (Query.compile (m := Id) d).run = .ok q → (Query.compile (m := Id) d').run = .ok q' →
        ∀ {ρ : Type} [Queryable Id ρ] (calls : Callbacks Id) (getter : Getter Id ρ) (r : ρ),
          (∀ b b', (q.eval calls (.of getter r)).run = .ok b →
            (q'.eval calls (.of getter r)).run = .ok b' → b = b') ∧
          (q.NeverFails calls (.of getter r) ↔ q'.NeverFails calls (.of getter r)) ∧
          (q.NeverFails calls (.of getter r) → ∃ b, (q.eval calls (.of getter r)).run = .ok b ∧
            (q'.eval calls (.of getter r)).run = .ok b) := by
  refine ⟨fun d => ?_, fun _ _ _ => rfl, fun h => ?_⟩
  · refine ⟨(compileMember (.ofDocument d)).mapError .compile, ?_, ?_⟩
    · rw [Query.run_compile, compileQuery_not]
      cases compileMember (.ofDocument d) <;> rfl
    · rw [Query.run_compile, compileQuery_nor]
      cases compileMember (.ofDocument d) <;> rfl
  · simp only [Query.compile_eq_ok_iff]
    obtain ⟨hsucceeds, hagrees⟩ := Alike.iff_related.1 (Document.Renamed.alike h)
    exact ⟨hsucceeds, fun q q' hq hq' ρ _ calls getter r =>
      (hagrees q q' hq hq').eval calls (.of getter r)⟩

theorem Query.eval_of_renamed_nested :
    let direct (negation : String) : Document :=
      .singleton "$computed" (.ofDocument (.singleton negation (.ofList [.null])))
    let shorthand (negation : String) : Document :=
      .ofList [("$exists", .bool true), (negation, .ofList [.ofDocument (direct negation)])]
    let elements (negation : String) : Document :=
      .singleton negation (.ofList [.ofDocument (.singleton "x" (.bool true))])
    let d (negation : String) : Document :=
      .ofList
        [(negation, .ofList [.ofDocument (.singleton "a" (.ofDocument (shorthand negation)))]),
         ("items", .ofDocument (.singleton "$elemMatch" (.ofDocument (elements negation))))]
    let calls : Callbacks Id := fun _ _ _ => .error "none"
    let r : Record Id := .ofAttributes fun key =>
      if key = "items" then some (.array 1 fun _ => .null) else some (.bool true)
    (d "$not").Renamed (d "$nor") ∧
      ∃ q q', (Query.compile (m := Id) (d "$not")).run = .ok q ∧
        (Query.compile (m := Id) (d "$nor")).run = .ok q' ∧
        (q.eval calls (.of .property r)).run = .ok true ∧
        (q'.eval calls (.of .property r)).run = .ok true := by
  have hanswers : ∀ {d d' : Document} {q : Query} {calls : Callbacks Id} {r : Record Id},
      d.Renamed d' → (Query.compile (m := Id) d).run = .ok q →
      q.NeverFails calls (.of .property r) → (q.eval calls (.of .property r)).run = .ok true →
      d.Renamed d' ∧ ∃ q q', (Query.compile (m := Id) d).run = .ok q ∧
        (Query.compile (m := Id) d').run = .ok q' ∧
        (q.eval calls (.of .property r)).run = .ok true ∧
        (q'.eval calls (.of .property r)).run = .ok true := by
    intro d d' q calls r hrenamed hq hfails htrue
    obtain ⟨hsucceeds, hanswers⟩ := Query.eval_of_renamed.2.2 hrenamed
    obtain ⟨q', hq'⟩ := hsucceeds.1 ⟨q, hq⟩
    obtain ⟨b, hb, hb'⟩ := (hanswers q q' hq hq' calls .property r).2.2 hfails
    rw [← Except.ok.inj (htrue.symm.trans hb)] at hb'
    exact ⟨hrenamed, q, q', hq, hq', htrue, hb'⟩
  have hnot : Combinator.not.MayBecome .nor := .inr ⟨rfl, rfl⟩
  have hdirect : ClauseRenamed
      (.ofDocument (.singleton "$computed" (.ofDocument (.singleton "$not" (.ofList [.null])))))
      (.ofDocument (.singleton "$computed" (.ofDocument (.singleton "$nor" (.ofList [.null]))))) :=
    .operators (.cons (.computed (.operators
      (.cons (.list hnot (.cons (.same _) .nil)) .nil))) .nil)
  refine hanswers (.cons (.list hnot (.cons (.pairs (.cons ?_ .nil)) .nil)) (.cons ?_ .nil))
    (Query.compile_eq_ok_iff.2 rfl) ⟨⟨?_, trivial⟩, ⟨?_, trivial⟩, trivial⟩ ?_
  · exact .clause (by decide)
      (.operators (.cons (.same _) (.cons (.list hnot (.cons hdirect .nil)) .nil)))
  · exact .clause (by decide) (.operators (.cons (.elementMatch (.pairs
      (.cons (.list hnot (.cons (.same _) .nil)) .nil))) .nil))
  · exact ⟨_, rfl, fun item _ => ⟨⟨⟨_, rfl, trivial⟩, trivial⟩, trivial⟩⟩
  · exact ⟨⟨_, rfl, trivial⟩, ⟨⟨⟨_, rfl, trivial⟩, trivial⟩, trivial⟩, trivial⟩
  · rfl

end RecordQuery
