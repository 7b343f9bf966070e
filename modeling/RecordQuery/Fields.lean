/-!
# Fields: distinct keys in order, each with a value

The objects of records and query documents are `Fields`: a duplicate-free list of keys, in the
order in which they were first inserted, and a value for each position of that list. Looking a key
up, inserting and erasing are stated on it; `entries` is the list of key and value pairs.
-/

namespace RecordQuery

/-- Distinct keys in insertion order with a value for each. -/
structure Fields (α : Type) where
  keys : List String
  nodup : keys.Nodup
  value : Fin keys.length → α

namespace Fields

variable {α β : Type}

def empty : Fields α :=
  ⟨[], .nil, fun i => i.elim0⟩

instance : Inhabited (Fields α) := ⟨empty⟩

def size (d : Fields α) : Nat :=
  d.keys.length

def isEmpty (d : Fields α) : Bool :=
  d.keys.isEmpty

def contains (d : Fields α) (key : String) : Bool :=
  d.keys.contains key

/-- The value under `key`, if the key is present. -/
def get? (d : Fields α) (key : String) : Option α :=
  (d.keys.finIdxOf? key).map d.value

/-- The value under a key that is known to be present. -/
def get (d : Fields α) (key : String) (h : key ∈ d.keys) : α :=
  d.value ⟨d.keys.idxOf key, List.idxOf_lt_length_of_mem h⟩

/-- Key and value pairs in order. -/
def entries (d : Fields α) : List (String × α) :=
  List.ofFn fun i => (d.keys.get i, d.value i)

/-- Puts `value` under `key`. A key that is present keeps its place; a new one goes last. -/
def insert (d : Fields α) (key : String) (value : α) : Fields α :=
  if h : key ∈ d.keys then
    { d with value := fun i => if d.keys.get i = key then value else d.value i }
  else
    { keys := d.keys ++ [key]
      nodup := List.nodup_append.2 ⟨d.nodup, by simp, by
        intro a ha b hb hab
        simp only [List.mem_singleton] at hb
        exact h (hb ▸ hab ▸ ha)⟩
      value := fun i => if hi : i < d.keys.length then d.value ⟨i, hi⟩ else value }

/-- The fields whose key passes, in the same order. -/
def restrict (d : Fields α) (keep : String → Bool) : Fields α :=
  { keys := d.keys.filter keep
    nodup := d.nodup.filter keep
    value := fun i => d.get _ ((List.mem_filter.1 (List.getElem_mem i.isLt)).1) }

/-- Removes `key`; the other fields keep their order. -/
def erase (d : Fields α) (key : String) : Fields α :=
  d.restrict (· != key)

/-- The fields of a list of pairs: of equal keys the last value counts, in the place of the
first. -/
def ofList (entries : List (String × α)) : Fields α :=
  entries.foldl (fun d (key, value) => d.insert key value) empty

def singleton (key : String) (value : α) : Fields α :=
  ⟨[key], by simp, fun _ => value⟩

/-- Applies `f` to every value. -/
def map (f : α → β) (d : Fields α) : Fields β :=
  ⟨d.keys, d.nodup, fun i => f (d.value i)⟩

/-! ## Looking keys up -/

theorem finIdxOf?_eq_some_iff {keys : List String} (nodup : keys.Nodup) {key : String}
    {i : Fin keys.length} : keys.finIdxOf? key = some i ↔ keys.get i = key := by
  rw [List.finIdxOf?_eq_some_iff]
  refine ⟨And.left, fun h => ⟨h, fun j hj hk => ?_⟩⟩
  exact absurd (Fin.ext ((List.getElem_inj nodup).1 (hk.trans h.symm))) (Fin.ne_of_lt hj)

theorem get?_eq_some_iff {d : Fields α} {key : String} {v : α} :
    d.get? key = some v ↔ ∃ i, d.keys.get i = key ∧ d.value i = v := by
  simp only [get?, Option.map_eq_some_iff, finIdxOf?_eq_some_iff d.nodup]

theorem get?_eq_none_iff {d : Fields α} {key : String} : d.get? key = none ↔ key ∉ d.keys := by
  simp [get?]

theorem get?_keys (d : Fields α) (i : Fin d.keys.length) :
    d.get? (d.keys.get i) = some (d.value i) :=
  get?_eq_some_iff.2 ⟨i, rfl, rfl⟩

theorem get?_eq_get (d : Fields α) {key : String} (h : key ∈ d.keys) :
    d.get? key = some (d.get key h) :=
  get?_eq_some_iff.2 ⟨⟨d.keys.idxOf key, List.idxOf_lt_length_of_mem h⟩, by simp, rfl⟩

@[simp]
theorem mem_entries_iff {d : Fields α} {key : String} {v : α} :
    (key, v) ∈ d.entries ↔ d.get? key = some v := by
  simp only [entries, List.mem_ofFn, Prod.mk.injEq, get?_eq_some_iff]

@[simp]
theorem get?_singleton (key : String) (v : α) :
    (singleton key v).get? key = some v :=
  get?_eq_some_iff.2 ⟨⟨0, Nat.one_pos⟩, rfl, rfl⟩

theorem keys_insert (d : Fields α) (key : String) (v : α) :
    (d.insert key v).keys = if key ∈ d.keys then d.keys else d.keys ++ [key] := by
  unfold insert; split <;> rfl

@[simp]
theorem get?_insert_self (d : Fields α) (key : String) (v : α) :
    (d.insert key v).get? key = some v := by
  by_cases h : key ∈ d.keys
  · rw [insert, dif_pos h, get?_eq_some_iff]
    exact ⟨⟨d.keys.idxOf key, List.idxOf_lt_length_of_mem h⟩, by simp, by simp⟩
  · rw [insert, dif_neg h, get?_eq_some_iff]
    exact ⟨⟨d.keys.length, by simp⟩, by simp, by simp⟩

theorem get?_insert_of_ne (d : Fields α) {key other : String} (v : α) (h : other ≠ key) :
    (d.insert key v).get? other = d.get? other := by
  cases hd : d.get? other with
  | none =>
    rw [get?_eq_none_iff] at hd ⊢
    rw [keys_insert]
    split <;> simp [hd, h]
  | some w =>
    obtain ⟨i, rfl, rfl⟩ := get?_eq_some_iff.1 hd
    by_cases hk : key ∈ d.keys
    · rw [insert, dif_pos hk, get?_eq_some_iff]
      exact ⟨i, rfl, if_neg h⟩
    · rw [insert, dif_neg hk, get?_eq_some_iff]
      exact ⟨⟨i, Nat.lt_of_lt_of_le i.isLt (by simp)⟩, by simp, by simp⟩

@[simp]
theorem get?_restrict (d : Fields α) (keep : String → Bool) (key : String) :
    (d.restrict keep).get? key = if keep key then d.get? key else none := by
  by_cases h : key ∈ (d.restrict keep).keys
  · obtain ⟨hk, hkeep⟩ := List.mem_filter.1 h
    rw [if_pos hkeep, get?_eq_get _ h, get?_eq_get _ hk]
    simp only [get, restrict]
    simp
  · rw [get?_eq_none_iff.2 h]
    split
    · rename_i hkeep
      refine (get?_eq_none_iff.2 fun hk => h ?_).symm
      exact List.mem_filter.2 ⟨hk, hkeep⟩
    · rfl

@[simp]
theorem get?_erase (d : Fields α) (key other : String) :
    (d.erase key).get? other = if other = key then none else d.get? other := by
  rw [erase, get?_restrict]
  by_cases h : other = key <;> simp [h]

theorem eq_of_get? {d d' : Fields α} (hkeys : d.keys = d'.keys)
    (h : ∀ key, d.get? key = d'.get? key) : d = d' := by
  obtain ⟨keys, nodup, value⟩ := d
  obtain ⟨keys', nodup', value'⟩ := d'
  obtain rfl : keys = keys' := hkeys
  have hvalue : value = value' := by
    funext i
    have hi := h (keys.get i)
    rw [get?_keys ⟨keys, nodup, value⟩ i, get?_keys ⟨keys, nodup', value'⟩ i] at hi
    exact Option.some.inj hi
  rw [hvalue]

theorem erase_of_notMem {d : Fields α} {key : String} (h : key ∉ d.keys) : d.erase key = d := by
  apply eq_of_get?
  · show d.keys.filter (· != key) = d.keys
    rw [List.filter_eq_self]
    intro other hother
    exact bne_iff_ne.2 fun hne => h (hne ▸ hother)
  · intro other
    rw [get?_erase]
    by_cases hother : other = key
    · rw [if_pos hother, hother, get?_eq_none_iff.2 h]
    · rw [if_neg hother]

end Fields

end RecordQuery
