import RecordQuery.Path

/-!
# Following paths

The path of two texts with a dot between them leads where the second leads from where the first
leads (`Path.resolve_joined`). A record is read as every value on the way is: a list, wherever it
is met, gives the list of what its elements give, with `null` for those that give nothing.
-/

namespace RecordQuery

namespace Json

/-! ## One segment -/

@[simp]
theorem lookup_nil (json : Json) : json.lookup [] = some json := by
  cases json <;> rfl

/-- An attribute is where a path of one segment leads. -/
theorem attr_eq_lookup (json : Json) (key : String) : json.attr key = json.lookup [key] := by
  induction json with
  | array size item ih =>
    rw [attr, lookup]
    simp only [ih]
  | object keys nodup value _ =>
    rw [attr, lookup]
    cases keys.finIdxOf? key with
    | none => rfl
    | some i => exact (lookup_nil (value i)).symm
  | _ => rfl

/-! ## Segment after segment -/

/-- What gives nothing is `null` in a list, and `null` gives nothing. -/
theorem getD_lookup_cons (given : Option Json) (segment : String) (rest : List String) :
    ((given.getD null).lookup (segment :: rest)).getD null =
      (given.bind (·.lookup (segment :: rest))).getD null := by
  cases given with
  | none => rfl
  | some json => rfl

/-- The segments of two paths lead from where those of the first lead. -/
theorem lookup_append (json : Json) (first second : List String) :
    json.lookup (first ++ second) = (json.lookup first).bind (·.lookup second) := by
  induction json generalizing first with
  | array size item ih =>
    cases first with
    | nil => simp
    | cons segment rest =>
      cases second with
      | nil => simp
      | cons head tail =>
        -- all segments are spread over the list at once, or the first ones before the second
        rw [List.cons_append, lookup, lookup, Option.bind_some, lookup]
        simp only [getD_lookup_cons, ← ih, List.cons_append]
  | object keys nodup value ih =>
    cases first with
    | nil => simp
    | cons segment rest =>
      rw [List.cons_append, lookup, lookup]
      cases keys.finIdxOf? segment with
      | none => rfl
      | some i => exact ih i rest
  | _ =>
    cases first with
    | nil => simp
    | cons segment rest => rfl

end Json

/-! ## Paths in records -/

namespace Path

/-- Following a path in a value is following all of its segments. -/
theorem resolve_json (p : Path) (json : Json) :
    p.resolve (json.attr ·) = json.lookup p.segments := by
  show (json.attr p.first).bind (·.lookup p.rest) = json.lookup ([p.first] ++ p.rest)
  rw [Json.attr_eq_lookup, Json.lookup_append]

/-- Whatever the record, beyond its attribute a path is followed as one in a value. -/
theorem resolve_ofText_append (attr : String → Option Json) (p q : String) :
    (ofText (p ++ "." ++ q)).resolve attr =
      ((ofText p).resolve attr).bind fun json => (ofText q).resolve (json.attr ·) := by
  have hsegments := segments_ofText_append p q
  have hfirst : (ofText (p ++ "." ++ q)).first = (ofText p).first := List.cons.inj hsegments |>.1
  have hrest : (ofText (p ++ "." ++ q)).rest = (ofText p).rest ++ (ofText q).segments :=
    List.cons.inj hsegments |>.2
  simp only [resolve_json]
  rw [resolve, resolve, hfirst, hrest, Option.bind_assoc]
  simp only [Json.lookup_append]

/-- A list as a record has its elements as records. -/
theorem resolve_array (p : Path) {size : Nat} (item : Fin size → Json) :
    p.resolve ((Json.array size item).attr ·) =
      some (.array size fun i => (p.resolve ((item i).attr ·)).getD .null) := by
  simp only [resolve_json]
  rfl

/-- Two paths in a row lead where the second leads from where the first leads. Values are read as
records are, so a list is spread over its elements wherever it is met: under an attribute of any
record as at the record itself. -/
theorem resolve_joined (r : Json) (p q : String) :
    (ofText (p ++ "." ++ q)).resolve (r.attr ·) =
        ((ofText p).resolve (r.attr ·)).bind (fun json => (ofText q).resolve (json.attr ·)) ∧
      (∀ (attr : String → Option Json) (key : String),
        (⟨key, (ofText p).segments⟩ : Path).resolve attr =
          (attr key).bind fun json => (ofText p).resolve (json.attr ·)) ∧
      ∀ {size : Nat} (item : Fin size → Json),
        (ofText p).resolve ((Json.array size item).attr ·) =
          some (.array size fun i => ((ofText p).resolve ((item i).attr ·)).getD .null) := by
  refine ⟨resolve_ofText_append _ p q, fun attr key => ?_, resolve_array _⟩
  simp only [resolve_json]
  rfl

end Path

end RecordQuery
