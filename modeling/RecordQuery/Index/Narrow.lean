import RecordQuery.Index.Basic
import RecordQuery.Query.Basic

/-!
# Narrowing a query by indexes

Indexes answer the `$equal` conditions of an `$and` group that stands first in a query. What remains
is a list of candidates, the positions that all answers have in common, and the query without the
conditions that were answered.
-/

namespace RecordQuery

/-- The positions that two ascending lists have in common. -/
def intersect : List Nat → List Nat → List Nat
  | a :: as, b :: bs =>
    if a < b then intersect as (b :: bs)
    else if b < a then intersect (a :: as) bs
    else a :: intersect as bs
  | _, _ => []
termination_by as bs => as.length + bs.length

theorem intersect_sublist (as bs : List Nat) : (intersect as bs).Sublist as := by
  fun_induction intersect as bs with
  | case1 a as b bs h ih => exact ih.cons a
  | case2 a as b bs _ h ih => exact ih
  | case3 a as b bs h h' ih => exact ih.cons_cons a
  | case4 => simp

theorem mem_intersect {as bs : List Nat} (ha : as.Pairwise (· < ·)) (hb : bs.Pairwise (· < ·))
    {n : Nat} : n ∈ intersect as bs ↔ n ∈ as ∧ n ∈ bs := by
  fun_induction intersect as bs with
  | case1 a as b bs h ih =>
    have hlt := (List.pairwise_cons.1 hb).1
    rw [ih (List.pairwise_cons.1 ha).2 hb]
    -- what `b` leads is all greater than `a`
    grind
  | case2 a as b bs _ h ih =>
    have hlt := (List.pairwise_cons.1 ha).1
    rw [ih ha (List.pairwise_cons.1 hb).2]
    grind
  | case3 a as b bs h h' ih =>
    obtain rfl : a = b := by omega
    have hlt := (List.pairwise_cons.1 ha).1
    have hlt' := (List.pairwise_cons.1 hb).1
    rw [List.mem_cons, ih (List.pairwise_cons.1 ha).2 (List.pairwise_cons.1 hb).2]
    grind
  | case4 as bs h =>
    match as, bs with
    | [], _ | _, [] => simp
    | a :: as, b :: bs => exact (h a as b bs rfl rfl).elim

/-- The positions that an index gives for a condition. A path that the key does not call for reads
the record itself and not what the index holds. -/
def EqualityIndex.answer? (indexes : List EqualityIndex) : Node → Option (List Nat)
  | .condition ⟨key, path, .equal, .value v, _⟩ =>
    if path.isSome && !isDotted key then none
    else (indexes.find? (·.key == key)).bind (·.lookup? v)
  | _ => none

/-- What is left of a query when indexes have answered a part of it. -/
structure Narrowed where
  answered : Nat
  candidates : List Nat
  rest : Query

namespace Query

/-- Answers what can be answered from indexes; `none` if nothing can. -/
def narrow? (q : Query) (indexes : List EqualityIndex) : Option Narrowed :=
  match q.groups with
  | ⟨.and, nodes, boost⟩ :: groups =>
    match nodes.filterMap (EqualityIndex.answer? indexes) with
    | [] => none
    | answer :: answers =>
      -- the `$and` group stays even if no node of it is left
      let left := nodes.filter fun node => (EqualityIndex.answer? indexes node).isNone
      some ⟨answers.length + 1, answers.foldl intersect answer, ⟨⟨.and, left, boost⟩ :: groups⟩⟩
  | _ => none

end Query

end RecordQuery
