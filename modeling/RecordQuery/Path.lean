import RecordQuery.Json.Basic

/-!
# Dotted paths

A `Path` is what a key such as `items.price` stands for. Its first segment is an attribute of the
record and the others lead on from there, through objects by name and through lists element by
element.
-/

namespace RecordQuery

/-- Whether a key is a path. -/
def isDotted (key : String) : Bool :=
  key.toList.contains '.'

/-- The parts of a text between its dots, of which there is at least one. -/
structure Path where
  first : String
  rest : List String
deriving DecidableEq, Repr, Inhabited

namespace Path

def ofText (text : String) : Path :=
  let parts := text.toList.splitOn '.'
  ⟨.ofList (parts.head (List.splitOn_ne_nil _ _)), parts.tail.map .ofList⟩

def segments (p : Path) : List String :=
  p.first :: p.rest

def text (p : Path) : String :=
  ".".intercalate p.segments

theorem segments_ofText (text : String) :
    (ofText text).segments = (text.toList.splitOn '.').map .ofList := by
  simp only [segments, ofText]
  rw [← List.map_cons, List.cons_head_tail]

/-- The segments of two texts with a dot between them are those of the one and of the other. -/
theorem segments_ofText_append (a b : String) :
    (ofText (a ++ "." ++ b)).segments = (ofText a).segments ++ (ofText b).segments := by
  simp [segments_ofText, List.splitOn_append_cons_self]

/-- The path of a key that is one. -/
def ofKey? (key : String) : Option Path :=
  if isDotted key then some (.ofText key) else none

/-- What the path leads to in a record that has these attributes. -/
def resolve (p : Path) (attr : String → Option Json) : Option Json :=
  (attr p.first).bind (·.lookup p.rest)

end Path

end RecordQuery
