import RecordQuery.Pattern.Tables.Class

/-!
# Character classes of patterns

A class is a term over ranges and set operations and is tested character by character. `folded`
closes a class under simple case folding: it holds every character that differs from a member in
case alone. A `PropertyTable` lists classes with their names.
-/

namespace RecordQuery.Pattern

open Text

/-- A set of characters. -/
inductive CharClass where
  | empty
  | range (low high : Nat)
  | table (ranges : RangeTable)
  | union (a b : CharClass)
  | intersection (a b : CharClass)
  | difference (a b : CharClass)
  | symmetricDifference (a b : CharClass)
  | complement (a : CharClass)
  /-- With every character that simple case folding identifies with a member. -/
  | folded (a : CharClass)
  /-- With the other case of every ASCII letter that is a member. -/
  | foldedAscii (a : CharClass)

/-- The characters that simple case folding identifies with `c`, itself included. -/
def foldOrbit (c : Char) : List Char :=
  let least := mapCase foldRuns c.toNat
  (least :: foldRuns.filterMap (·.preimage? least)).map Char.ofNat

/-- An ASCII letter and its other case; any other character alone. -/
def asciiOrbit (c : Char) : List Char :=
  if c.isAlpha then [c.toLower, c.toUpper] else [c]

namespace CharClass

/-- Whether a character is a member. -/
def contains : CharClass → Char → Bool
  | .empty, _ => false
  | .range low high, c => low ≤ c.toNat && c.toNat ≤ high
  | .table ranges, c => ranges.contains c
  | .union a b, c => a.contains c || b.contains c
  | .intersection a b, c => a.contains c && b.contains c
  | .difference a b, c => a.contains c && !b.contains c
  | .symmetricDifference a b, c => a.contains c != b.contains c
  | .complement a, c => !a.contains c
  | .folded a, c => (foldOrbit c).any a.contains
  | .foldedAscii a, c => (asciiOrbit c).any a.contains

/-- The class of one character. -/
def single (c : Char) : CharClass :=
  .range c.toNat c.toNat

def unions (classes : List CharClass) : CharClass :=
  classes.foldr .union .empty

/-- About how many bytes the branches take that tell the members of the class from other
characters. -/
def branchSize : CharClass → Nat
  | .empty => 0
  | .range _ high => if high < 128 then 8 else 63
  | .table ranges => 63 * ranges.length
  | .union a b | .intersection a b | .difference a b | .symmetricDifference a b =>
    a.branchSize + b.branchSize
  | .complement a => a.branchSize + 936
  | .folded a | .foldedAscii a => a.branchSize + 8

/-- About how many bytes a step over one member of the class takes. A step over a single character
needs no branches. -/
def size (cls : CharClass) : Nat :=
  match cls with
  | .range low high =>
    if low = high then 32 * (Char.ofNat low).utf8Size else 64 + cls.branchSize
  | _ => 64 + cls.branchSize

end CharClass

/-! ## Classes by name -/

/-- The form in which names are compared: without regard to case, spaces, hyphens and underscores,
and without a leading `is`. -/
def normalizeName (name : String) : String :=
  let chars := name.toList
  let hasIs := match chars with
    | a :: b :: _ => a.toLower = 'i' && b.toLower = 's'
    | _ => false
  let kept := (if hasIs then chars.drop 2 else chars).filter fun c =>
    c.toNat < 0x80 && c != ' ' && c != '_' && c != '-'
  let plain := String.ofList (kept.map Char.toLower)
  if hasIs && plain = "c" then "isc" else plain

/-- Classes with the names of each, in the form in which they are compared. -/
abbrev PropertyTable := List (List String × CharClass)

/-- The class with the given name. -/
def PropertyTable.find (table : PropertyTable) (name : String) : Option CharClass :=
  (table.find? fun (names, _) => names.contains name).map (·.2)

end RecordQuery.Pattern
